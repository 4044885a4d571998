import ScriptureMarkup.Usx.Rule

namespace ScriptureMarkup

/-- The form of a marker that is told by its tag alone, with its style and its text. -/
def Kind.form? : Kind → Option (Usx.Shape × String × String)
  | .field tag content => some (tag.shape, tag.identifier, content)
  | .heading tag weight content => some (tag.shape, Usx.leveledStyle tag.identifier weight, content)
  | .leveled tag level => some (tag.shape, Usx.leveledStyle tag.identifier level, "")
  | .bare tag => some (tag.shape, tag.identifier, "")
  | .book _ | .chapter _ | .verse _ | .text _ | .word .. | .unknown _ => none

namespace Usx

/-- The markup of a book, behind the ends of what was open before it. -/
def bookPieces (code label : String) : List Piece :=
  [.startTag "book" (some "id") [("code", code)], .characters label, .endTag "book", .lineBreak]

/-- All that entering a marker at a position can come to. -/
inductive Entered (dialect : Dialect) (position : Position) : Kind → Step → Prop
  | text (content : String) :
      Entered dialect position (.text content) (.still position ([.characters content], .leaf))
  | book {identifier code label : String} : splitBookIdentifier identifier = .ok (code, label) →
      Entered dialect position (.book identifier)
        ⟨(position.enterBook dialect code).1, (position.closeAll dialect).2 ++ ⟨bookPieces code label, []⟩, .leaf⟩
  | chapter (number : UInt32) : Entered dialect position (.chapter number)
      ⟨(position.enterChapter dialect number).1, (position.closeAll dialect).2 ++
        ⟨dialect.chapterStart "c" number (position.enterChapter dialect number).2.2, []⟩, .children []⟩
  | verse (number : String) : Entered dialect position (.verse number)
      ⟨(position.enterVerse dialect number).1, (position.closeVerse dialect).2 ++
        ⟨dialect.verseStart "v" number (position.enterVerse dialect number).2.2, []⟩, .children []⟩
  | word (term : String) (attributes : Attributes) : Entered dialect position (.word term attributes)
      ⟨position, ⟨[.startTag "char" (some "w") (dialect.wordAttributes attributes), .characters term],
        (dialect.droppedAttributes attributes).map .droppingAttribute⟩, .children [.endTag "char"]⟩
  | form {kind : Kind} {shape : Shape} {style text : String} : kind.form? = some (shape, style, text) →
      Entered dialect position kind (.still position (shape.enter style text))
  | unknown (identifier : String) :
      Entered dialect position (.unknown identifier) (.still position ([], .unrenderable))

theorem entered_of_enter {dialect : Dialect} {kind : Kind} {position : Position} {step : Step}
    (stepped : enter dialect kind position = .ok step) : Entered dialect position kind step := by
  cases kind with
  | text content =>
    cases stepped
    exact .text content
  | book identifier =>
    simp only [enter] at stepped
    split at stepped
    · cases stepped
    · rename_i code label split
      cases stepped
      exact .book split
  | chapter number =>
    cases stepped
    exact .chapter number
  | verse number =>
    cases stepped
    exact .verse number
  | word term attributes =>
    cases stepped
    exact .word term attributes
  | field | heading | leveled | bare =>
    cases stepped
    exact .form rfl
  | unknown identifier =>
    cases stepped
    exact .unknown identifier

end Usx

end ScriptureMarkup
