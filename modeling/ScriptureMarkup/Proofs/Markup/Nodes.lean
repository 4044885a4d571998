import ScriptureMarkup.Proofs.Markup.Body

namespace ScriptureMarkup

open Xml (Node)
open Usx (Dialect Position Options)

def Xml.Node.lineBreak : Node := .data "\n"

def Xml.Node.paragraph (style : String) (children : List Node) : List Node :=
  [.element "para" [("style", style)] children, .lineBreak]

/-! What a tag dictates: its elements, of which the style is the name of the tag, around or before the
nodes of its children. -/

def TextTag.nodes (text : String) (children : List Node) (tag : TextTag) : List Node :=
  match tag with
  | .ide | .usfm | .h | .sp => Node.paragraph tag.name [.data text]
  | .toc1 | .toc2 | .toc3 | .d => Node.paragraph tag.name [.data text] ++ children
  | .f | .x => [.element "note" [("style", tag.name), ("caller", text)] children]
  | .fk | .fr | .xo => [.element "char" [("style", tag.name)] (.data text :: children)]
  | .cl | .cp | .qa | .rem => []

def HeadingTag.nodes (weight : UInt8) (text : String) (children : List Node) (tag : HeadingTag) : List Node :=
  let title := Node.paragraph (tag.name ++ toString weight.toNat) [.data text]
  match tag with
  | .imt => title
  | .mt | .ms | .s => title ++ children

def LevelTag.nodes (level : UInt8) (children : List Node) (tag : LevelTag) : List Node :=
  let style := tag.name ++ toString level.toNat
  match tag with
  | .pi | .q | .qm | .li => Node.paragraph style children
  | .tc | .th => [.element "cell" [("style", style), ("align", "start")] children]
  | .tcr | .thr => [.element "cell" [("style", style), ("align", "end")] children]
  | .is => []

def BareTag.nodes (children : List Node) (tag : BareTag) : List Node :=
  match tag with
  | .p | .qc | .qr | .r => Node.paragraph tag.name children
  | .b => Node.paragraph tag.name []
  | .bd | .bdit | .em | .it | .nd | .no | .sc | .add | .tl | .pn | .qs | .fq | .fqa | .ft | .fp | .xt =>
    [.element "char" [("style", tag.name)] (.data "" :: children)]
  | .table => [.element "table" [] (.lineBreak :: children), .lineBreak]
  | .tr => [.element "row" [("style", tag.name)] children, .lineBreak]
  | _ => []

namespace Usx.Position

/-- The end of the verse that is open, in the dialect that has ends. -/
def verseEnd (dialect : Dialect) (position : Position) : List Node :=
  match dialect, position.openVerse with
  | .usx3_0, some id => [.empty "verse" [("eid", id)]]
  | _, _ => []

def chapterEnd (dialect : Dialect) (position : Position) : List Node :=
  match dialect, position.openChapter with
  | .usx3_0, some id => [.empty "chapter" [("eid", id)], .lineBreak]
  | _, _ => []

/-- The ends of all that is open. A verse ends before the chapter that it lies in. -/
def ends (dialect : Dialect) (position : Position) : List Node :=
  position.verseEnd dialect ++ position.chapterEnd dialect

/-- The id of a place: its numbers, behind the code of the book that it lies in. -/
def placeId (position : Position) (numbers : String) : String :=
  match position.book with
  | none => numbers
  | some code => if code = "" then numbers else code ++ " " ++ numbers

def chapterId (position : Position) (number : UInt32) : String := position.placeId (toString number.toNat)

def verseId (position : Position) (number : String) : String :=
  position.placeId (toString position.chapter.toNat ++ ":" ++ number)

end Usx.Position

namespace Usx

/-- What the start of a chapter or a verse says: its number, and in the dialect with ends also its id. -/
def startEntries (dialect : Dialect) (style number id : String) : List (String × String) :=
  match dialect with
  | .usx2_5 => [("style", style), ("number", number)]
  | .usx3_0 => [("style", style), ("number", number), ("sid", id)]

/-- What the name of an attribute of a word may begin with. -/
def startsWordName (c : Char) : Bool := Unicode.isAlphabetic c || c = '_'

def continuesWordName (c : Char) : Bool :=
  Unicode.isAlphabetic c || Unicode.isNumeric c || c = '_' || c = '-' || c = '.'

/-- The attributes that a word is given, in the dialect that has any: those that are not named like the
style, and whose names are made up of letters, numbers and a few signs. -/
def givenAttributes (dialect : Dialect) (attributes : Attributes) : List (String × String) :=
  match dialect with
  | .usx2_5 => []
  | .usx3_0 => attributes.entries.filter fun (name, _) =>
      name ≠ "" ∧ name ≠ "style" ∧ name.toList.head?.all startsWordName ∧ name.toList.tail.all continuesWordName

end Usx

namespace Kind

/-- Whether the children of a marker are rendered as well. -/
def descends : Kind → Bool
  | .chapter _ | .verse _ | .word .. => true
  | .text _ | .book _ | .unknown _ => false
  | .field tag _ => tag ∈ [.toc1, .toc2, .toc3, .d, .f, .x, .fk, .fr, .xo]
  | .heading tag .. => tag ∈ [.mt, .ms, .s]
  | .leveled tag _ => tag ∈ [.pi, .q, .qm, .li, .tc, .tcr, .th, .thr]
  | .bare tag =>
    tag ∈ [.p, .qc, .qr, .r, .bd, .bdit, .em, .it, .nd, .no, .sc, .add, .tl, .pn, .qs, .fq, .fqa, .ft, .fp, .xt,
      .table, .tr]

def bookCode (identifier : String) : String := String.ofList (identifier.toList.take 3)

def bookLabel (identifier : String) : String := String.ofList (identifier.toList.drop 4)

/-- Where a marker leads. A book ends the chapter before it, and a chapter or a book the verse; in the
dialect without ends nothing is ever open. -/
def arrive (dialect : Dialect) (position : Position) : Kind → Position
  | .book identifier => { position with book := some (bookCode identifier), openChapter := none, openVerse := none }
  | .chapter number =>
    let opened := match dialect with
      | .usx2_5 => none
      | .usx3_0 => some (position.chapterId number)
    { position with chapter := number, openChapter := opened, openVerse := none }
  | .verse number =>
    let opened := match dialect with
      | .usx2_5 => none
      | .usx3_0 => some (position.verseId number)
    { position with verse := number, openVerse := opened }
  | _ => position

/-- The nodes for a marker that is entered at a position, around those of its children. Texts
and values are those of the marker, whatever characters they hold. -/
def nodes (dialect : Dialect) (position : Position) (children : List Node) : Kind → List Node
  | .text content => [.data content]
  | .book identifier =>
    position.ends dialect ++
      [.element "book" [("style", "id"), ("code", bookCode identifier)] [.data (bookLabel identifier)], .lineBreak]
  | .chapter number =>
    position.ends dialect ++
      .empty "chapter" (Usx.startEntries dialect "c" (toString number.toNat) (position.chapterId number)) ::
        .lineBreak :: children
  | .verse number =>
    position.verseEnd dialect ++
      .empty "verse" (Usx.startEntries dialect "v" number (position.verseId number)) :: children
  | .word term attributes =>
    [.element "char" (("style", "w") :: Usx.givenAttributes dialect attributes) (.data term :: children)]
  | .field tag content => tag.nodes content children
  | .heading tag weight content => tag.nodes weight content children
  | .leveled tag level => tag.nodes level children
  | .bare tag => tag.nodes children
  | .unknown _ => []

end Kind

namespace Marker

mutual

/-- The nodes for a marker with all that is rendered below it, and where the last of it leads. -/
def nodes (dialect : Dialect) : Marker → Position → List Node × Position
  | ⟨kind, contents⟩, position =>
    let arrived := kind.arrive dialect position
    let inner := if kind.descends then nodesAll dialect contents arrived else ([], arrived)
    (kind.nodes dialect position inner.1, inner.2)

def nodesAll (dialect : Dialect) : List Marker → Position → List Node × Position
  | [], position => ([], position)
  | marker :: markers, position =>
    let first := marker.nodes dialect position
    let later := nodesAll dialect markers first.2
    (first.1 ++ later.1, later.2)

end

end Marker

/-- The tree that a document dictates: its own nodes and the ends of what is then open, within
the root element unless only a part is wanted. -/
def Document.nodes (options : Options) (document : Document) : List Node :=
  let walked := Marker.nodesAll options.dialect document.contents ⟨none, 1, "1", none, none⟩
  let inner := walked.1 ++ walked.2.ends options.dialect
  let version := match options.dialect with
    | .usx2_5 => "2.5"
    | .usx3_0 => "3.0"
  if options.partialOutput then inner
  else [.lineBreak, .element "usx" [("version", version)] (.lineBreak :: inner), .lineBreak]

end ScriptureMarkup
