import ScriptureMarkup.Proofs.Markup.Pieces
import ScriptureMarkup.Proofs.Xml.Declaration

namespace ScriptureMarkup

open Xml (Content Token)

namespace Xml.Tag

/-- Whether a tag is the end of a milestone, which has an id and nothing else. -/
def isEnd (element : String) : Xml.Tag → Bool
  | .empty name [(key, _)] => name = element && key = "eid"
  | _ => false

/-- A tag of version 3.0 as version 2.5 has it: no milestone has an id, no word an attribute
behind its style, and the root element names the other version. -/
def downgraded : Xml.Tag → Xml.Tag
  | .opening name attributes =>
    if name = "usx" then
      .opening name (attributes.map fun entry => if entry.1 = "version" then ("version", "2.5") else entry)
    else if name = "char" ∧ attributes.head? = some ("style", "w") then .opening name (attributes.take 1)
    else .opening name attributes
  | .empty name attributes =>
    if name = "chapter" ∨ name = "verse" then .empty name (attributes.filter fun entry => entry.1 ≠ "sid")
    else .empty name attributes
  | .closing name => .closing name

def WithoutIds (tag : Xml.Tag) : Prop := "sid" ∉ tag.names ∧ "eid" ∉ tag.names

end Xml.Tag

namespace Usx

def withoutLineBreak (text : String) : String :=
  if text.toList.head? = some '\n' then String.ofList text.toList.tail else text

/-- What becomes of a tag and the data behind it. The end of a chapter goes with its line break. -/
def downgradedPart (part : Xml.Tag × String) : List Token :=
  if part.1.isEnd "verse" then [.data part.2]
  else if part.1.isEnd "chapter" then [.data (withoutLineBreak part.2)]
  else [.tag part.1.downgraded, .data part.2]

def downgradedContent (content : Content) : Content :=
  .ofTokens (.data content.lead :: content.parts.flatMap downgradedPart)

/-- The text of a document in version 3.0, rewritten for version 2.5. -/
def downgraded (text : List Char) : Option (List Char) :=
  (Xml.scan (Xml.body text)).map fun content => (Xml.splitDeclaration text).1 ++ (downgradedContent content).text

theorem withoutLineBreak_append (text : String) : withoutLineBreak ("\n" ++ text) = text := by
  simp [withoutLineBreak]

theorem downgradedContent_data (text : String) (content : Content) :
    downgradedContent ⟨text ++ content.lead, content.parts⟩ =
      ⟨text ++ (downgradedContent content).lead, (downgradedContent content).parts⟩ := by
  simp [downgradedContent, Content.ofTokens, String.append_assoc]

theorem downgradedContent_tag {tag : Xml.Tag} (noVerse : tag.isEnd "verse" = false)
    (noChapter : tag.isEnd "chapter" = false) (content : Content) :
    downgradedContent ⟨"", (tag, content.lead) :: content.parts⟩ =
      ⟨"", (tag.downgraded, (downgradedContent content).lead) :: (downgradedContent content).parts⟩ := by
  simp [downgradedContent, downgradedPart, Content.ofTokens, noVerse, noChapter]

theorem downgradedContent_verseEnd {tag : Xml.Tag} (ends : tag.isEnd "verse" = true) (content : Content) :
    downgradedContent ⟨"", (tag, content.lead) :: content.parts⟩ = downgradedContent content := by
  simp [downgradedContent, downgradedPart, Content.ofTokens, ends]

theorem downgradedContent_chapterEnd {tag : Xml.Tag} (noVerse : tag.isEnd "verse" = false)
    (ends : tag.isEnd "chapter" = true) (data : String) (parts : List (Xml.Tag × String)) :
    downgradedContent ⟨"", (tag, data) :: parts⟩ = downgradedContent ⟨withoutLineBreak data, parts⟩ := by
  simp [downgradedContent, downgradedPart, Content.ofTokens, noVerse, ends]

theorem content_data (text : String) (tokens : List Token) :
    (Content.ofTokens (Piece.token (.characters text) :: tokens)).escaped =
      ⟨escapedText text ++ (Content.ofTokens tokens).escaped.lead, (Content.ofTokens tokens).escaped.parts⟩ := by
  simp [Piece.token, Content.ofTokens, Content.escaped, Xml.escapedText_append]

theorem content_tag {piece : Piece} {label : Xml.Tag} (written : piece.writtenTag? = some label)
    (tokens : List Token) :
    (Content.ofTokens (piece.token :: tokens)).escaped =
      ⟨"", (label, (Content.ofTokens tokens).escaped.lead) :: (Content.ofTokens tokens).escaped.parts⟩ := by
  have nothing : escapedText "" = "" := rfl
  cases piece <;> cases written <;> simp [Piece.token, Content.ofTokens, Content.escaped, nothing]

/-- Two lists of pieces of which the second is the first rewritten, piece by piece. -/
inductive Reduces : List Piece → List Piece → Prop
  | nil : Reduces [] []
  | data (text : String) {left right : List Piece} :
      Reduces left right → Reduces (.characters text :: left) (.characters text :: right)
  | tag {piece other : Piece} {label : Xml.Tag} {left right : List Piece} : piece.writtenTag? = some label →
      label.isEnd "verse" = false → label.isEnd "chapter" = false → other.writtenTag? = some label.downgraded →
      label.downgraded.WithoutIds → Reduces left right → Reduces (piece :: left) (other :: right)
  | verseEnd (id : String) {left right : List Piece} :
      Reduces left right → Reduces (.emptyTag "verse" none [("eid", id)] :: left) right
  | chapterEnd (id : String) {left right : List Piece} :
      Reduces left right → Reduces (.emptyTag "chapter" none [("eid", id)] :: .lineBreak :: left) right

namespace Reduces

variable {left right : List Piece}

theorem append {left' right' : List Piece} (first : Reduces left right) (second : Reduces left' right') :
    Reduces (left ++ left') (right ++ right') := by
  induction first with
  | nil => exact second
  | data text _ ih => exact .data text ih
  | tag written noVerse noChapter rewritten clean _ ih => exact .tag written noVerse noChapter rewritten clean ih
  | verseEnd id _ ih => exact .verseEnd id ih
  | chapterEnd id _ ih => exact .chapterEnd id ih

theorem withoutIds (reduces : Reduces left right) : ∀ tag ∈ right.filterMap Piece.writtenTag?, tag.WithoutIds := by
  induction reduces with
  | nil => simp
  | data text _ ih => exact ih
  | tag written noVerse noChapter rewritten clean _ ih =>
    rw [List.filterMap_cons, rewritten]
    exact List.forall_mem_cons.mpr ⟨clean, ih⟩
  | verseEnd id _ ih => exact ih
  | chapterEnd id _ ih => exact ih

/-- Reading the first pieces and rewriting what was read gives the second pieces, as they are read. -/
theorem downgradedContent_eq (reduces : Reduces left right) :
    downgradedContent (Content.ofTokens (left.map Piece.token)).escaped =
      (Content.ofTokens (right.map Piece.token)).escaped := by
  induction reduces with
  | nil => rfl
  | data text _ ih => rw [List.map_cons, List.map_cons, content_data, content_data, downgradedContent_data, ih]
  | tag written noVerse noChapter rewritten _ _ ih =>
    rw [List.map_cons, List.map_cons, content_tag written, content_tag rewritten,
      downgradedContent_tag noVerse noChapter, ih]
  | verseEnd id _ ih =>
    have written : (Piece.emptyTag "verse" none [("eid", id)]).writtenTag? =
        some (.empty "verse" [("eid", escapedAttribute id)]) := rfl
    rw [List.map_cons, content_tag written, downgradedContent_verseEnd rfl, ih]
  | chapterEnd id _ ih =>
    have written : (Piece.emptyTag "chapter" none [("eid", id)]).writtenTag? =
        some (.empty "chapter" [("eid", escapedAttribute id)]) := rfl
    have lineBreak : escapedText "\n" = "\n" := rfl
    rw [List.map_cons, List.map_cons, content_tag written, downgradedContent_chapterEnd rfl rfl,
      Piece.lineBreak, content_data, lineBreak, withoutLineBreak_append, ih]

end Reduces

end Usx

end ScriptureMarkup
