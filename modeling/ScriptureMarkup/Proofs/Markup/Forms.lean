import ScriptureMarkup.Proofs.Markup.Nodes

/-!
What a document dictates is told tag by tag, and by rules of its own for ids and attributes. These go with the
forms, the ids and the attributes by which a document is rendered.
-/

namespace ScriptureMarkup

open Xml (Node)
open Usx (Shape Dialect Position Options leveledStyle)

/-- The nodes that a form stands for, with a style, a text and the nodes of the children in their places. -/
def Usx.Shape.nodes (shape : Shape) (style text : String) (children : List Node) : List Node :=
  match shape with
  | .closedParagraph => Node.paragraph style [.data text]
  | .heading => Node.paragraph style [.data text] ++ children
  | .paragraph => Node.paragraph style children
  | .blankParagraph => Node.paragraph style []
  | .span => [.element "char" [("style", style)] (.data text :: children)]
  | .note => [.element "note" [("style", style), ("caller", text)] children]
  | .table => [.element "table" [] (.lineBreak :: children), .lineBreak]
  | .row => [.element "row" [("style", style)] children, .lineBreak]
  | .cell alignment => [.element "cell" [("style", style), ("align", alignment.name)] children]
  | .silent | .unrendered => []

def Usx.Shape.descends : Shape → Bool
  | .heading | .paragraph | .span | .note | .table | .row | .cell _ => true
  | .closedParagraph | .blankParagraph | .silent | .unrendered => false

namespace Kind

section

variable (dialect : Dialect) (position : Position) (children : List Node)

theorem nodes_field (tag : TextTag) (text : String) : (Kind.field tag text).nodes dialect position children =
    tag.shape.nodes tag.identifier text children := by
  cases tag <;> rfl

theorem nodes_heading (tag : HeadingTag) (weight : UInt8) (text : String) :
    (Kind.heading tag weight text).nodes dialect position children =
      tag.shape.nodes (leveledStyle tag.identifier weight) text children := by
  cases tag <;> rfl

theorem nodes_leveled (tag : LevelTag) (level : UInt8) : (Kind.leveled tag level).nodes dialect position children =
    tag.shape.nodes (leveledStyle tag.identifier level) "" children := by
  cases tag <;> rfl

theorem nodes_bare (tag : BareTag) : (Kind.bare tag).nodes dialect position children =
    tag.shape.nodes tag.identifier "" children := by
  cases tag <;> rfl

end

variable {kind : Kind} {shape : Shape} {style text : String}

/-- Tag by tag, the nodes are those of the form that the tag has. -/
theorem nodes_form (formed : kind.form? = some (shape, style, text)) (dialect : Dialect) (position : Position)
    (children : List Node) : kind.nodes dialect position children = shape.nodes style text children := by
  cases kind with
  | field =>
    cases formed
    exact nodes_field ..
  | heading =>
    cases formed
    exact nodes_heading ..
  | leveled =>
    cases formed
    exact nodes_leveled ..
  | bare =>
    cases formed
    exact nodes_bare ..
  | book | chapter | verse | text | word | unknown => cases formed

theorem descends_form (formed : kind.form? = some (shape, style, text)) : kind.descends = shape.descends := by
  cases kind with
  | field tag | heading tag | leveled tag | bare tag =>
    cases formed
    cases tag <;> rfl
  | book | chapter | verse | text | word | unknown => cases formed

theorem arrive_form (formed : kind.form? = some (shape, style, text)) (dialect : Dialect) (position : Position) :
    kind.arrive dialect position = position := by
  cases kind with
  | field | heading | leveled | bare => rfl
  | book | chapter | verse | text | word | unknown => cases formed

end Kind

theorem Usx.Position.placeId_eq (position : Position) (numbers : String) :
    position.placeId numbers = position.reference numbers := by
  unfold placeId reference
  cases position.book with
  | none => rfl
  | some code =>
    dsimp only
    simp only [String.isEmpty_iff]

theorem Usx.startEntries_eq (dialect : Dialect) (style number id : String) :
    startEntries dialect style number id = ("style", style) :: ("number", number) :: dialect.startId id := by
  cases dialect <;> rfl

theorem Usx.isWordAttributeName_iff {name : String} :
    isWordAttributeName name = true ↔ name ≠ "" ∧ name ≠ "style" ∧
      (∀ c ∈ name.toList.head?, startsWordName c = true) ∧ ∀ c ∈ name.toList.tail, continuesWordName c = true := by
  rw [isWordAttributeName, Ne, Ne, ← String.toList_eq_nil_iff]
  cases name.toList with
  | nil => simp
  | cons first others => simp [startsWordName, continuesWordName, and_comm]

theorem Usx.givenAttributes_eq (dialect : Dialect) (attributes : Attributes) :
    givenAttributes dialect attributes = dialect.wordAttributes attributes := by
  cases dialect with
  | usx2_5 => rfl
  | usx3_0 =>
    refine List.filter_congr fun entry _ => ?_
    rw [Bool.eq_iff_iff, decide_eq_true_iff, isWordAttributeName_iff, Option.all_eq_true, List.all_eq_true]
    rfl

namespace Kind

variable (dialect : Dialect) (position : Position) (children : List Node)

theorem arrive_chapter (number : UInt32) :
    (Kind.chapter number).arrive dialect position = (position.enterChapter dialect number).1 := by
  have id : position.chapterId number = (position.enterChapter dialect number).2.2 := position.placeId_eq _
  cases dialect with
  | usx2_5 => rfl
  | usx3_0 =>
    simp only [arrive, id]
    rfl

theorem arrive_verse (number : String) :
    (Kind.verse number).arrive dialect position = (position.enterVerse dialect number).1 := by
  have id : position.verseId number = (position.enterVerse dialect number).2.2 := position.placeId_eq _
  cases dialect with
  | usx2_5 => rfl
  | usx3_0 =>
    simp only [arrive, id]
    rfl

theorem nodes_chapter (number : UInt32) : (Kind.chapter number).nodes dialect position children =
    position.ends dialect ++
      .empty "chapter" (("style", "c") :: ("number", toString number.toNat) ::
        dialect.startId (position.enterChapter dialect number).2.2) :: .lineBreak :: children := by
  have id : position.chapterId number = (position.enterChapter dialect number).2.2 := position.placeId_eq _
  rw [nodes, Usx.startEntries_eq, id]

theorem nodes_verse (number : String) : (Kind.verse number).nodes dialect position children =
    position.verseEnd dialect ++
      .empty "verse" (("style", "v") :: ("number", number) ::
        dialect.startId (position.enterVerse dialect number).2.2) :: children := by
  have id : position.verseId number = (position.enterVerse dialect number).2.2 := position.placeId_eq _
  rw [nodes, Usx.startEntries_eq, id]

theorem nodes_word (term : String) (attributes : Attributes) :
    (Kind.word term attributes).nodes dialect position children =
      [.element "char" (("style", "w") :: dialect.wordAttributes attributes) (.data term :: children)] := by
  rw [nodes, Usx.givenAttributes_eq]

end Kind

theorem Document.nodes_eq (options : Options) (document : Document) :
    document.nodes options =
      let walked := Marker.nodesAll options.dialect document.contents .start
      let inner := walked.1 ++ walked.2.ends options.dialect
      if options.partialOutput then inner
      else
        [.lineBreak, .element "usx" [("version", options.dialect.version)] (.lineBreak :: inner), .lineBreak] := by
  obtain ⟨partialOutput, dialect, collectStatistics⟩ := options
  cases dialect <;> rfl

end ScriptureMarkup
