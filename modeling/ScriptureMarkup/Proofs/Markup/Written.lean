import ScriptureMarkup.Proofs.Markup.Forms

namespace ScriptureMarkup.Usx

open Xml (Node)
open Xml.Node (tokensAll)

/-- A step that writes given nodes: its pieces stand before the children, and what closes it
behind them. -/
structure Step.Writes (step : Step) (nodes : List Node → List Node) (descends : Bool) : Prop where
  around : ∀ close, step.visit = .children close → descends = true ∧ ∀ inner,
    tokensAll (nodes inner) = step.output.pieces.map Piece.token ++ tokensAll inner ++ close.map Piece.token
  alone : (∀ close, step.visit ≠ .children close) → descends = false ∧
    tokensAll (nodes []) = step.output.pieces.map Piece.token

theorem Shape.writes_enter (shape : Shape) (style text : String) (position : Position) :
    (Step.still position (shape.enter style text)).Writes (shape.nodes style text) shape.descends := by
  constructor <;> cases shape <;>
    simp [Step.still, Shape.enter, Shape.enter.wholeParagraph, Shape.nodes, Shape.descends, Node.paragraph,
      tokensAll, Node.tokens, Piece.token, styleEntry, Piece.lineBreak, Node.lineBreak]

theorem tokensAll_verseEnd (dialect : Dialect) (position : Position) :
    tokensAll (position.verseEnd dialect) = (position.closeVerse dialect).2.pieces.map Piece.token := by
  obtain ⟨book, chapter, verse, openChapter, openVerse⟩ := position
  cases dialect <;> cases openVerse <;> rfl

theorem tokensAll_ends (dialect : Dialect) (position : Position) :
    tokensAll (position.ends dialect) = (position.closeAll dialect).2.pieces.map Piece.token := by
  have chapter : tokensAll (position.chapterEnd dialect) =
      (Position.milestoneEnd dialect "chapter" position.openChapter).pieces.map Piece.token := by
    obtain ⟨book, chapter, verse, openChapter, openVerse⟩ := position
    cases dialect <;> cases openChapter <;> rfl
  rw [Position.ends, Node.tokensAll_append, tokensAll_verseEnd, chapter, ← List.map_append]
  rfl

/-- A book that is not malformed is told apart into its first three characters and all that
follows the fourth. -/
theorem splitBookIdentifier_ok {identifier code label : String}
    (split : splitBookIdentifier identifier = .ok (code, label)) :
    code = Kind.bookCode identifier ∧ label = Kind.bookLabel identifier := by
  unfold splitBookIdentifier at split
  split at split
  · rename_i characters
    cases split
    simp [Kind.bookCode, Kind.bookLabel, characters]
  · cases split

/-- A step that closes what was open, writes its own pieces, and lets the children follow. -/
theorem Step.writes_followed {position : Position} {closed : Output} {pieces : List Piece} {before : List Node}
    (own : List Node) (ends : tokensAll before = closed.pieces.map Piece.token)
    (places : tokensAll own = pieces.map Piece.token) :
    Step.Writes ⟨position, closed ++ ⟨pieces, []⟩, .children []⟩ (fun inner => before ++ (own ++ inner)) true where
  around close visited := by
    cases visited
    refine ⟨rfl, fun inner => ?_⟩
    rw [Node.tokensAll_append, Node.tokensAll_append, ends, places, List.map_nil, List.append_nil,
      ← List.append_assoc, ← List.map_append]
    rfl
  alone never := (never [] rfl).elim

/-- Entering a marker leads to where it is said to lead, and writes the nodes for it. -/
theorem writes_enter {dialect : Dialect} {kind : Kind} {position : Position} {step : Step}
    (stepped : enter dialect kind position = .ok step) :
    step.position = kind.arrive dialect position ∧
      step.Writes (fun children => kind.nodes dialect position children) kind.descends := by
  cases entered_of_enter stepped with
  | text | unknown => exact ⟨rfl, by simp [Step.still], fun _ => ⟨rfl, rfl⟩⟩
  | book split =>
    obtain ⟨rfl, rfl⟩ := splitBookIdentifier_ok split
    refine ⟨rfl, by simp, fun _ => ⟨rfl, ?_⟩⟩
    simp only [Kind.nodes]
    rw [Node.tokensAll_append, tokensAll_ends]
    change _ = List.map Piece.token ((position.closeAll dialect).2.pieces ++ _)
    rw [List.map_append]
    rfl
  | chapter number =>
    refine ⟨(Kind.arrive_chapter dialect position number).symm, ?_⟩
    simp only [Kind.nodes_chapter]
    exact Step.writes_followed [_, _] (tokensAll_ends dialect position) rfl
  | verse number =>
    refine ⟨(Kind.arrive_verse dialect position number).symm, ?_⟩
    simp only [Kind.nodes_verse]
    exact Step.writes_followed [_] (tokensAll_verseEnd dialect position) rfl
  | word term attributes =>
    refine ⟨rfl, ?_, fun never => (never _ rfl).elim⟩
    rintro close ⟨rfl⟩
    refine ⟨rfl, fun inner => ?_⟩
    simp [Kind.nodes_word, tokensAll, Node.tokens, Piece.token, styleEntry]
  | @form _ shape style text formed =>
    simp only [Kind.nodes_form formed, Kind.descends_form formed, Kind.arrive_form formed]
    exact ⟨rfl, shape.writes_enter style text position⟩

mutual

theorem visit_writes {dialect : Dialect} (marker : Marker) {before after : Progress}
    (ran : visit dialect marker before = .ok after) :
    after.position = (marker.nodes dialect before.position).2 ∧
      after.markup.toList.map Piece.token =
        before.markup.toList.map Piece.token ++ tokensAll (marker.nodes dialect before.position).1 := by
  obtain ⟨kind, contents⟩ := marker
  rw [visit] at ran
  cases entered : before.enter dialect ⟨kind, contents⟩ with
  | error stopped =>
    rw [entered] at ran
    cases ran
  | ok result =>
    obtain ⟨opened, next⟩ := result
    rw [entered] at ran
    obtain ⟨step, stepped, position, markup, closes⟩ := Progress.enter_ok entered
    obtain ⟨arrived, writes⟩ := writes_enter stepped
    have reached : opened.position = kind.arrive dialect before.position := position.trans arrived
    have put : opened.markup.toList.map Piece.token =
        before.markup.toList.map Piece.token ++ step.output.pieces.map Piece.token := by
      rw [markup, Array.toList_appendList, List.map_append]
    cases next with
    | none =>
      cases ran
      obtain ⟨leaf, alone⟩ := writes.alone fun close visited => by simpa using (closes close).mpr visited
      simp only [Marker.nodes, leaf, Bool.false_eq_true, if_false]
      exact ⟨reached, by rw [put, alone]⟩
    | some close =>
      obtain ⟨descends, around⟩ := writes.around close ((closes close).mp rfl)
      cases inside : visitAll dialect contents opened with
      | error stopped =>
        simp [inside] at ran
      | ok inner =>
        simp only [inside] at ran
        cases ran
        obtain ⟨ended, written⟩ := visitAll_writes contents inside
        rw [reached] at ended written
        simp only [Marker.nodes, descends, if_true]
        refine ⟨ended, ?_⟩
        rw [Progress.put, Array.toList_appendList, List.map_append, written, put, around]
        simp only [List.append_assoc]

theorem visitAll_writes {dialect : Dialect} (markers : List Marker) {before after : Progress}
    (ran : visitAll dialect markers before = .ok after) :
    after.position = (Marker.nodesAll dialect markers before.position).2 ∧
      after.markup.toList.map Piece.token =
        before.markup.toList.map Piece.token ++ tokensAll (Marker.nodesAll dialect markers before.position).1 := by
  match markers with
  | [] =>
    cases ran
    simp [Marker.nodesAll, tokensAll]
  | marker :: markers =>
    rw [visitAll] at ran
    cases first : visit dialect marker before with
    | error stopped =>
      rw [first] at ran
      cases ran
    | ok visited =>
      rw [first] at ran
      obtain ⟨reached, written⟩ := visit_writes marker first
      obtain ⟨ended, more⟩ := visitAll_writes markers ran
      rw [reached] at ended more
      refine ⟨ended, ?_⟩
      rw [more, written, Marker.nodesAll, Node.tokensAll_append, List.append_assoc]

end

end ScriptureMarkup.Usx
