import ScriptureMarkup.Command.Run
import ScriptureMarkup.Proofs.Counts.Tally

namespace ScriptureMarkup

namespace Usx.Statistics

/-- What merged statistics tell of one count is its sum, as far as 32 bits hold it. -/
theorem toNat_sum {field : Statistics → UInt32} (none : field zero = 0)
    (added : ∀ counts more, field (counts.merge more) = field counts + field more) (all : List Statistics) :
    (field (sum all)).toNat = (all.map fun counts => (field counts).toNat).sum % 2 ^ 32 := by
  induction all with
  | nil => exact congrArg UInt32.toNat none
  | cons counts all ih =>
    change (field (counts.merge (sum all))).toNat = _
    rw [added, UInt32.toNat_add, ih, List.map_cons, List.sum_cons, Nat.add_mod_mod]

end Usx.Statistics

/-! The texts of the reports, written out from their first character to their last. -/

namespace Command

open Usx (RenderResult Statistics)

/-- Tags behind backslashes, with commas between them. -/
def tagsText : List String → String
  | [] => ""
  | [tag] => "\\" ++ tag
  | tag :: next :: tags => "\\" ++ tag ++ ", " ++ tagsText (next :: tags)

theorem tagList_eq (tags : List String) : tagList tags = tagsText tags := by
  induction tags with
  | nil => rfl
  | cons tag tags ih =>
    cases tags with
    | nil => exact String.intercalate_singleton
    | cons next tags =>
      rw [tagsText, ← ih]
      exact String.intercalate_cons_cons

/-- The line that tells where a document has been kept, and how long it is in bytes. -/
def keptText (path content : String) : String :=
  "  ├─ " ++ path ++ " (" ++ toString content.utf8ByteSize ++ " bytes)\n"

theorem line_kept (path content : String) : line ("  ├─ " ++ path ++ sizeNote content) = keptText path content := by
  simp only [line, sizeNote, keptText, String.append_assoc]
  rfl

/-- Why a document could not be rendered. Other failures do not come from rendering. -/
def reasonText : Failure → String
  | .malformedBook malformed =>
    "Malformed book identifier: " ++ Text.quoted malformed.identifier ++
      " (expected a 3-letter code, a separator and a label)"
  | failure => failure.message

theorem message_eq (failure : Failure) : failure.message = reasonText failure := by
  cases failure <;> rfl

/-- The line that tells what could not be rendered. -/
def failedText (input : String) (failure : Failure) : String :=
  "  Failed " ++ input ++ ": " ++ reasonText failure ++ "\n"

theorem line_failed (input : String) (failure : Failure) :
    line ("  Failed " ++ input ++ ": " ++ failure.message) = failedText input failure := by
  rw [message_eq]
  rfl

/-- The line that warns of tags without a rendering, where there are any. -/
def warningText (input : String) : List String → String
  | [] => ""
  | tags => "Warning " ++ input ++ ": no USX rendering for " ++ tagsText tags ++ "\n"

theorem warning_eq (input : String) (result : RenderResult) :
    warning input result = warningText input result.unrenderable := by
  rw [warning, RenderResult.isComplete]
  cases result.unrenderable with
  | nil => rfl
  | cons tag tags =>
    rw [tagList_eq]
    rfl

/-- The last line of a batch in which some documents could not be rendered. -/
def failuresText (failed total : Nat) : String :=
  "Error: " ++ toString failed ++ " of " ++ toString total ++ " documents failed to render\n"

theorem line_unrendered (failed total : Nat) :
    line ("Error: " ++ (Complaint.unrendered failed total).message) = failuresText failed total := by
  simp only [line, Complaint.message, failuresText, String.append_assoc]
  rfl

theorem line_ruler : line ruler = "────────────────────────────────────────\n" := by decide

/-- The totals over several documents, each told by a counter of 32 bits. -/
def totalsText (all : List Statistics) : String :=
  let total (field : Statistics → UInt32) : String :=
    toString ((all.map fun counts => (field counts).toNat).sum % 2 ^ 32)
  "Render Statistics\n" ++
  "────────────────────────────────────────\n" ++
  "Books: " ++ total (·.books) ++ "\n" ++
  "Chapters: " ++ total (·.chapters) ++ "\n" ++
  "Verses: " ++ total (·.verses) ++ "\n" ++
  "Paragraphs: " ++ total (·.paragraphs) ++ "\n" ++
  "Notes: " ++ total (·.notes) ++ "\n" ++
  "Tables: " ++ total (·.tables) ++ "\n" ++
  "Words: " ++ total (·.words) ++ "\n" ++
  "Skipped markers: " ++ total (·.unrenderable) ++ "\n"

theorem statisticsReport_sum (all : List Statistics) : statisticsReport (.sum all) = totalsText all := by
  have title : line "Render Statistics" = "Render Statistics\n" := rfl
  have books := @Statistics.toNat_sum (·.books) rfl (fun _ _ => rfl) all
  have chapters := @Statistics.toNat_sum (·.chapters) rfl (fun _ _ => rfl) all
  have verses := @Statistics.toNat_sum (·.verses) rfl (fun _ _ => rfl) all
  have paragraphs := @Statistics.toNat_sum (·.paragraphs) rfl (fun _ _ => rfl) all
  have notes := @Statistics.toNat_sum (·.notes) rfl (fun _ _ => rfl) all
  have tables := @Statistics.toNat_sum (·.tables) rfl (fun _ _ => rfl) all
  have words := @Statistics.toNat_sum (·.words) rfl (fun _ _ => rfl) all
  have unrenderable := @Statistics.toNat_sum (·.unrenderable) rfl (fun _ _ => rfl) all
  simp only [statisticsReport, List.map_cons, List.map_nil, String.join_cons, String.join_nil, String.append_empty,
    title, line_ruler]
  rw [books, chapters, verses, paragraphs, notes, tables, words, unrenderable]
  dsimp only [totalsText, line]
  -- literals next to each other stay apart, so that both sides fall into the same pieces
  simp only [String.append_assoc, -String.reduceAppend]

namespace Summary

/-- The last line of a summary, where there are tags without a rendering. -/
def tagsLine : List String → String
  | [] => ""
  | tags => "Unrenderable: " ++ tagsText tags ++ "\n"

theorem line_tags (tags : List String) :
    String.join ((if tags.isEmpty then [] else ["Unrenderable: " ++ tagList tags]).map line) = tagsLine tags := by
  rw [tagList_eq]
  cases tags with
  | nil => rfl
  | cons tag tags => exact String.join_cons.trans String.append_empty

/-- A summary line by line. -/
def lines (summary : Summary) : String :=
  "Document Information\n" ++
  "────────────────────────────────────────\n" ++
  "File: " ++ summary.file ++ "\n" ++
  "Book: " ++ summary.book.getD "(none)" ++ "\n" ++
  "Encoding: " ++ summary.encoding.getD "(not declared)" ++ "\n" ++
  "Chapters: " ++ toString summary.chapters ++ "\n" ++
  "Verses: " ++ toString summary.verses ++ "\n" ++
  "Words: " ++ toString summary.words ++ "\n" ++
  tagsLine summary.unrenderable

theorem text_eq_lines (summary : Summary) : summary.text = summary.lines := by
  have title : line "Document Information" = "Document Information\n" := by decide
  unfold text
  simp only [List.map_append, String.join_append, List.map_cons, List.map_nil, String.join_cons, String.join_nil,
    line_tags, title, line_ruler]
  dsimp only [line, lines]
  simp only [String.append_assoc, String.empty_append, -String.reduceAppend]

/-- A text in an object. -/
def quoted (text : String) : String := String.ofList (Json.writtenString text)

/-- Texts in an object, each on a line of its own. -/
def quotedAll : List String → String
  | [] => "[]"
  | texts => "[\n    " ++ ",\n    ".intercalate (texts.map quoted) ++ "\n  ]"

/-- A summary as an object. -/
def object (summary : Summary) : String :=
  "\x7b" ++
  "\n  \"book\": " ++ summary.book.elim "null" quoted ++ "," ++
  "\n  \"chapters\": " ++ toString summary.chapters ++ "," ++
  "\n  \"encoding\": " ++ summary.encoding.elim "null" quoted ++ "," ++
  "\n  \"file\": " ++ quoted summary.file ++ "," ++
  "\n  \"unrenderable_tags\": " ++ quotedAll summary.unrenderable ++ "," ++
  "\n  \"verses\": " ++ toString summary.verses ++ "," ++
  "\n  \"words\": " ++ toString summary.words ++
  "\n\x7d\n"

open Json (Value)

theorem ofList_comma (rest : List Char) : String.ofList (',' :: rest) = "," ++ String.ofList rest := by
  rw [← List.singleton_append, String.ofList_append]

theorem indentedItems_strings (text : String) (texts : List String) :
    String.ofList (Value.indentedItems 2 ((text :: texts).map Value.string)) =
      "\n    " ++ ",\n    ".intercalate ((text :: texts).map quoted) := by
  have first (text : String) :
      String.ofList (Value.newLine 2 ++ (Value.string text).indented 2) = "\n    " ++ quoted text :=
    String.ofList_append
  have comma : "," ++ "\n    " = ",\n    " := by decide
  induction texts generalizing text with
  | nil => exact (first text).trans (congrArg ("\n    " ++ ·) String.intercalate_singleton.symm)
  | cons next texts ih =>
    have more : ",\n    ".intercalate ((text :: next :: texts).map quoted) =
        quoted text ++ (",\n    " ++ ",\n    ".intercalate ((next :: texts).map quoted)) :=
      String.intercalate_cons_cons.trans String.append_assoc
    change String.ofList (Value.newLine 2 ++ (Value.string text).indented 2 ++
      ',' :: Value.indentedItems 2 ((next :: texts).map Value.string)) = _
    rw [String.ofList_append, first, ofList_comma, ih, more, ← comma, String.append_assoc, String.append_assoc]

theorem indented_strings (texts : List String) :
    String.ofList ((Value.array (texts.map Value.string)).indented 1) = quotedAll texts := by
  cases texts with
  | nil => rfl
  | cons text texts =>
    have opened : String.ofList ['['] ++ "\n    " = "[\n    " := by decide
    have closed : String.ofList (Value.newLine 1) ++ String.ofList [']'] = "\n  ]" := by decide
    change String.ofList
      (['['] ++ Value.indentedItems 2 ((text :: texts).map Value.string) ++ Value.newLine 1 ++ [']']) = _
    rw [String.ofList_append, String.ofList_append, String.ofList_append, indentedItems_strings, String.append_assoc,
      closed, ← String.append_assoc, opened]
    rfl

theorem indented_optional (depth : Nat) (text : Option String) :
    String.ofList ((text.elim Value.null Value.string).indented depth) = text.elim "null" quoted := by
  cases text <;> rfl

/-- What stands before the value of a field. -/
def fieldName (key : String) : String := String.ofList (Value.newLine 1 ++ Json.writtenString key ++ [':', ' '])

theorem indentedFields_singleton (key : String) (value : Value) :
    String.ofList (Value.indentedFields 1 [(key, value)]) = fieldName key ++ String.ofList (value.indented 1) :=
  String.ofList_append

theorem indentedFields_cons (key : String) (value : Value) (next : String × Value) (fields : List (String × Value)) :
    String.ofList (Value.indentedFields 1 ((key, value) :: next :: fields)) =
      fieldName key ++ String.ofList (value.indented 1) ++ "," ++
        String.ofList (Value.indentedFields 1 (next :: fields)) := by
  change String.ofList (Value.newLine 1 ++ Json.writtenString key ++ [':', ' '] ++ value.indented 1 ++
    ',' :: Value.indentedFields 1 (next :: fields)) = _
  rw [String.ofList_append, String.ofList_append, ofList_comma, ← String.append_assoc]
  rfl

theorem line_indentedText (field : String × Value) (fields : List (String × Value)) :
    line (Value.object (field :: fields)).indentedText =
      "\x7b" ++ String.ofList (Value.indentedFields 1 (field :: fields)) ++ "\n\x7d\n" := by
  change String.ofList (['\x7b'] ++ Value.indentedFields 1 (field :: fields) ++ ['\n'] ++ ['\x7d']) ++ "\n" = _
  have closed : String.ofList ['\n'] ++ (String.ofList ['\x7d'] ++ "\n") = "\n\x7d\n" := by decide
  rw [String.ofList_append, String.ofList_append, String.ofList_append, String.append_assoc, String.append_assoc,
    closed]

theorem line_toValue_eq_object (summary : Summary) : line summary.toValue.indentedText = summary.object := by
  have book : fieldName "book" = "\n  \"book\": " := by decide
  have chapters : fieldName "chapters" = "\n  \"chapters\": " := by decide
  have encoding : fieldName "encoding" = "\n  \"encoding\": " := by decide
  have file : fieldName "file" = "\n  \"file\": " := by decide
  have tags : fieldName "unrenderable_tags" = "\n  \"unrenderable_tags\": " := by decide
  have verses : fieldName "verses" = "\n  \"verses\": " := by decide
  have words : fieldName "words" = "\n  \"words\": " := by decide
  have number (n : Nat) : String.ofList ((Value.integer n).indented 1) = toString n := String.ofList_toList
  have string (text : String) : String.ofList ((Value.string text).indented 1) = quoted text := rfl
  unfold object
  rw [toValue, line_indentedText]
  simp only [indentedFields_cons, indentedFields_singleton, indented_optional, indented_strings, number, string, book,
    chapters, encoding, file, tags, verses, words, String.append_assoc, -String.reduceAppend]

end Summary

end Command

end ScriptureMarkup
