import ScriptureMarkup.Rendering

namespace ScriptureMarkup.Command

/-- Why a command does not succeed. -/
inductive Complaint
  | document (failure : Failure)
  | file (fault : FileFault)
  | unrendered (failed total : Nat)

def Complaint.message : Complaint → String
  | .document failure => failure.message
  | .file fault => fault.message
  | .unrendered failed total => toString failed ++ " of " ++ toString total ++ " documents failed to render"

/-- A line of a report. -/
def line (text : String) : String := text ++ "\n"

def ruler : String := String.ofList (List.replicate 40 '─')

/-- Tags as a reader of the source text knows them. -/
def tagList (tags : List String) : String := ", ".intercalate (tags.map fun tag => "\\" ++ tag)

def statisticsReport (counts : Usx.Statistics) : String :=
  String.join ([
    "Render Statistics", ruler,
    "Books: " ++ toString counts.books.toNat,
    "Chapters: " ++ toString counts.chapters.toNat,
    "Verses: " ++ toString counts.verses.toNat,
    "Paragraphs: " ++ toString counts.paragraphs.toNat,
    "Notes: " ++ toString counts.notes.toNat,
    "Tables: " ++ toString counts.tables.toNat,
    "Words: " ++ toString counts.words.toNat,
    "Skipped markers: " ++ toString counts.unrenderable.toNat].map line)

/-- A warning about tags that could not be rendered, if there are any. -/
def warning (input : String) (result : Usx.RenderResult) : String :=
  if result.isComplete then ""
  else line ("Warning " ++ input ++ ": no USX rendering for " ++ tagList result.unrenderable)

/-- A size as it stands behind the name of a file. -/
def sizeNote (content : String) : String := " (" ++ toString content.utf8ByteSize ++ " bytes)"

/-- What there is to know about a document. Chapters and verses are counted in the whole
tree, words only where they are rendered. -/
structure Summary where
  file : String
  book : Option String
  encoding : Option String
  chapters : Nat
  verses : Nat
  words : Nat
  unrenderable : List String

namespace Summary

def of (file : String) (document : Document) (result : Usx.RenderResult) : Summary where
  file := file
  book := document.bookIdentifier.map fun identifier => String.ofList (identifier.toList.take 3)
  encoding := document.encoding
  chapters := document.countMarkers fun kind => kind matches .chapter _
  verses := document.countMarkers fun kind => kind matches .verse _
  words := result.statistics.elim 0 fun counts => counts.words.toNat
  unrenderable := result.unrenderable

open Json (Value) in
/-- A summary as an object, its keys in ascending order. -/
def toValue (summary : Summary) : Value :=
  let optional (text : Option String) : Value := text.elim .null Value.string
  .object
    [("book", optional summary.book), ("chapters", .integer summary.chapters),
      ("encoding", optional summary.encoding), ("file", .string summary.file),
      ("unrenderable_tags", .array (summary.unrenderable.map Value.string)),
      ("verses", .integer summary.verses), ("words", .integer summary.words)]

def text (summary : Summary) : String :=
  let tags := if summary.unrenderable.isEmpty then [] else ["Unrenderable: " ++ tagList summary.unrenderable]
  String.join (([
    "Document Information", ruler,
    "File: " ++ summary.file,
    "Book: " ++ summary.book.getD "(none)",
    "Encoding: " ++ summary.encoding.getD "(not declared)",
    "Chapters: " ++ toString summary.chapters,
    "Verses: " ++ toString summary.verses,
    "Words: " ++ toString summary.words] ++ tags).map line)

end Summary

/-- The name and version of the program. -/
def programName : String := "usx 0.3.1"

def versionReport : String :=
  String.join ([programName, "USFM marker tree to USX renderer", "", "Schemas: USX 2.5, USX 3.0", "License: MIT"].map line)

def usage : String :=
  String.join ([
    "Render parsed USFM marker trees to USX",
    "",
    "Usage: usx render FILE [-o FILE] [-p] [--schema 2.5|3.0] [--stats]",
    "       usx batch FILES... -o DIR [--schema 2.5|3.0] [--stats]",
    "       usx info FILE [--json]",
    "       usx version",
    "       usx help"].map line)

end ScriptureMarkup.Command
