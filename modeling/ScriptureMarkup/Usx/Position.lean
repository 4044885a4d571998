import ScriptureMarkup.Usx.Journal

namespace ScriptureMarkup.Usx

/-- Where in the scripture a document stands, and the ids of the milestones that are open.
Before any book there is no code; before any chapter or verse its number is one. -/
structure Position where
  book : Option String
  chapter : UInt32
  verse : String
  openChapter : Option String
  openVerse : Option String
  deriving DecidableEq

namespace Position

def start : Position := ⟨none, 1, "1", none, none⟩

/-- The id of a place in the current book. An empty code counts as none. -/
def reference (position : Position) (location : String) : String :=
  match position.book with
  | some code => if code.isEmpty then location else code ++ " " ++ location
  | none => location

/-- The end of one milestone. It is noted even where the dialect writes nothing for it. -/
def milestoneEnd (dialect : Dialect) (element : String) : Option String → Output
  | none => .nothing
  | some id => ⟨(dialect.milestoneEnd element id).getD [], [.closing element id]⟩

def closeVerse (dialect : Dialect) (position : Position) : Position × Output :=
  ({ position with openVerse := none }, milestoneEnd dialect "verse" position.openVerse)

/-- Closes what is open, the verse before the chapter. -/
def closeAll (dialect : Dialect) (position : Position) : Position × Output :=
  let (position, verse) := position.closeVerse dialect
  ({ position with openChapter := none }, verse ++ milestoneEnd dialect "chapter" position.openChapter)

def enterBook (dialect : Dialect) (code : String) (position : Position) : Position × Output :=
  let (position, closed) := position.closeAll dialect
  ({ position with book := some code }, closed)

/-- Goes to a chapter; gives its id as well. The milestone stays open if it has an end. -/
def enterChapter (dialect : Dialect) (number : UInt32) (position : Position) : Position × Output × String :=
  let (position, closed) := position.closeAll dialect
  let id := position.reference (toString number.toNat)
  let opened := if dialect.pairsMilestones then some id else position.openChapter
  ({ position with chapter := number, openChapter := opened }, closed, id)

/-- Goes to a verse; gives its id as well. The chapter it lies in stays open. -/
def enterVerse (dialect : Dialect) (number : String) (position : Position) : Position × Output × String :=
  let (position, closed) := position.closeVerse dialect
  let id := position.reference (toString position.chapter.toNat ++ ":" ++ number)
  let opened := if dialect.pairsMilestones then some id else position.openVerse
  ({ position with verse := number, openVerse := opened }, closed, id)

end Position

end ScriptureMarkup.Usx
