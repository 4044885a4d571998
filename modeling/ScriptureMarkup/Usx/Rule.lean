import ScriptureMarkup.Usx.Position
import ScriptureMarkup.Usx.Shape

namespace ScriptureMarkup.Usx

/-- A text that ought to name a book but is too short for a code and what separates it from
the label. -/
structure MalformedBook where
  identifier : String
  deriving DecidableEq

/-- The code of a book, which is three characters long, and its label, which begins after
one more character. -/
def splitBookIdentifier (identifier : String) : Except MalformedBook (String × String) :=
  match identifier.toList with
  | a :: b :: c :: _ :: label => .ok (String.ofList [a, b, c], String.ofList label)
  | _ => .error ⟨identifier⟩

/-- What becomes of the children of a marker once its own markup has been written: they are
left out, they follow and are closed by some more markup, or they are skipped together
with a marker that has no form. -/
inductive Visit
  | leaf
  | children (close : List Piece)
  | unrenderable
  deriving DecidableEq

/-- The outcome of entering a marker. -/
structure Step where
  position : Position
  output : Output
  visit : Visit
  deriving DecidableEq

def Alignment.name : Alignment → String
  | .start => "start"
  | .finish => "end"

/-- What is written on entering a marker of a given form, and what becomes of its children. -/
def Shape.enter (shape : Shape) (style text : String) : List Piece × Visit :=
  match shape with
  | .closedParagraph => (wholeParagraph, .leaf)
  | .heading => (wholeParagraph, .children [])
  | .paragraph => ([.startTag "para" (some style) []], .children [.endTag "para", .lineBreak])
  | .blankParagraph => ([.startTag "para" (some style) [], .endTag "para", .lineBreak], .leaf)
  | .span => ([.startTag "char" (some style) [], .characters text], .children [.endTag "char"])
  | .note => ([.startTag "note" (some style) [("caller", text)]], .children [.endTag "note"])
  | .table => ([.startTag "table" none [], .lineBreak], .children [.endTag "table", .lineBreak])
  | .row => ([.startTag "row" (some style) []], .children [.endTag "row", .lineBreak])
  | .cell alignment =>
    ([.startTag "cell" (some style) [("align", alignment.name)]], .children [.endTag "cell"])
  | .silent => ([], .leaf)
  | .unrendered => ([], .unrenderable)
where
  wholeParagraph : List Piece :=
    [.startTag "para" (some style) [], .characters text, .endTag "para", .lineBreak]

/-- The style of a tag with a level. -/
def leveledStyle (tag : String) (level : UInt8) : String := tag ++ toString level.toNat

/-- A step that leaves the position as it is. -/
def Step.still (position : Position) (entered : List Piece × Visit) : Step :=
  ⟨position, ⟨entered.1, []⟩, entered.2⟩

/-- Enters a marker: writes the markup that comes before its children and moves the position. -/
def enter (dialect : Dialect) (kind : Kind) (position : Position) : Except MalformedBook Step :=
  match kind with
  | .text content => .ok (.still position ([.characters content], .leaf))
  | .book identifier =>
    match splitBookIdentifier identifier with
    | .error malformed => .error malformed
    | .ok (code, label) =>
      let (position, closed) := position.enterBook dialect code
      let book := [.startTag "book" (some kind.identifier) [("code", code)], .characters label, .endTag "book", .lineBreak]
      .ok ⟨position, closed ++ ⟨book, []⟩, .leaf⟩
  | .chapter number =>
    let (position, closed, id) := position.enterChapter dialect number
    .ok ⟨position, closed ++ ⟨dialect.chapterStart kind.identifier number id, []⟩, .children []⟩
  | .verse number =>
    let (position, closed, id) := position.enterVerse dialect number
    .ok ⟨position, closed ++ ⟨dialect.verseStart kind.identifier number id, []⟩, .children []⟩
  | .word term attributes =>
    let span := [.startTag "char" (some kind.identifier) (dialect.wordAttributes attributes), .characters term]
    let dropped := (dialect.droppedAttributes attributes).map .droppingAttribute
    .ok ⟨position, ⟨span, dropped⟩, .children [.endTag "char"]⟩
  | .field tag content => .ok (.still position (tag.shape.enter tag.identifier content))
  | .heading tag weight content => .ok (.still position (tag.shape.enter (leveledStyle tag.identifier weight) content))
  | .leveled tag level => .ok (.still position (tag.shape.enter (leveledStyle tag.identifier level) ""))
  | .bare tag => .ok (.still position (tag.shape.enter tag.identifier ""))
  | .unknown _ => .ok (.still position ([], .unrenderable))

end ScriptureMarkup.Usx
