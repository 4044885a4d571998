import ScriptureMarkup.Proofs.Walk.Reached

namespace ScriptureMarkup.Usx

/-- Two states of a walk that differ at most in what has been noted. -/
structure Progress.Agrees (left right : Progress) : Prop where
  position : left.position = right.position
  markup : left.markup = right.markup
  unrenderable : left.unrenderable = right.unrenderable
  statistics : left.statistics = right.statistics

namespace Progress.Agrees

variable {left right : Progress}

theorem put (agrees : left.Agrees right) (pieces : List Piece) : (left.put pieces).Agrees (right.put pieces) :=
  ⟨agrees.position, congrArg (fun markup : Array Piece => markup ++ pieces) agrees.markup, agrees.unrenderable,
    agrees.statistics⟩

theorem pieces (agrees : left.Agrees right) (dialect : Dialect) : left.pieces dialect = right.pieces dialect := by
  rw [pieces_eq, pieces_eq, agrees.markup, agrees.position]

/-- What a marker does is told by its kind; its children are counted only where that is noted. -/
theorem enter (agrees : left.Agrees right) (dialect : Dialect) (kind : Kind) (contents others : List Marker) :
    Alike (fun a b => a.1.Agrees b.1 ∧ a.2 = b.2) (left.enter dialect ⟨kind, contents⟩)
      (right.enter dialect ⟨kind, others⟩) := by
  obtain ⟨position, markup, unrenderable, statistics⟩ := agrees
  unfold Progress.enter
  rw [position]
  cases Usx.enter dialect kind right.position with
  | error malformed => exact .error rfl
  | ok step =>
    have moved : left.markup ++ step.output.pieces = right.markup ++ step.output.pieces := by rw [markup]
    cases visited : step.visit with
    | leaf | children close =>
      simp only [visited]
      exact .ok ⟨⟨rfl, moved, unrenderable, congrArg (Statistics.record kind) statistics⟩, rfl⟩
    | unrenderable =>
      simp only [visited]
      exact .ok ⟨⟨rfl, moved, congrArg (addUnseen · kind.identifier) unrenderable,
        congrArg Statistics.recordUnrenderable statistics⟩, rfl⟩

end Progress.Agrees

theorem Alike.outcomes {α β : Type} {related : α → β → Prop} {first : Except Stopped α} {second : Except Stopped β}
    (alike : Alike related first second) :
    (∃ stopped stopped', first = .error stopped ∧ second = .error stopped' ∧
        stopped.malformed = stopped'.malformed) ∨
      ∃ left right, first = .ok left ∧ second = .ok right ∧ related left right := by
  cases alike with
  | error same => exact .inl ⟨_, _, rfl, rfl, same⟩
  | ok both => exact .inr ⟨_, _, rfl, rfl, both⟩

theorem visitAll_append (dialect : Dialect) (front back : List Marker) (progress : Progress) :
    visitAll dialect (front ++ back) progress =
      match visitAll dialect front progress with
      | .error stopped => .error stopped
      | .ok visited => visitAll dialect back visited := by
  induction front generalizing progress with
  | nil => rw [List.nil_append, visitAll]
  | cons marker front ih =>
    rw [List.cons_append, visitAll, visitAll]
    cases visit dialect marker progress with
    | error stopped => rfl
    | ok visited => exact ih visited

/-- Two forests that may stand in each other's place: from states that agree a walk through one of
them and a walk through the other lead to states that agree, or fail at the same book. -/
def Interchangeable (dialect : Dialect) (markers others : List Marker) : Prop :=
  ∀ ⦃left right : Progress⦄, left.Agrees right →
    Alike Progress.Agrees (visitAll dialect markers left) (visitAll dialect others right)

namespace Interchangeable

variable {dialect : Dialect}

theorem refl (markers : List Marker) : Interchangeable dialect markers markers := by
  have simulates : Simulates dialect dialect Progress.Agrees :=
    ⟨fun marker _ _ agrees => agrees.enter dialect marker.kind marker.contents marker.contents,
      fun _ agrees => agrees.put _⟩
  exact fun _ _ agrees => simulates.visitAll markers agrees

theorem append {front others back more : List Marker} (first : Interchangeable dialect front others)
    (second : Interchangeable dialect back more) : Interchangeable dialect (front ++ back) (others ++ more) := by
  intro left right agrees
  rw [visitAll_append, visitAll_append]
  rcases (first agrees).outcomes with ⟨_, _, atLeft, atRight, same⟩ | ⟨_, _, atLeft, atRight, visited⟩
  · rw [atLeft, atRight]
    exact .error same
  · rw [atLeft, atRight]
    exact second visited

/-- Below a marker that is descended into, forests keep their places; below any other there may be
anything. -/
theorem below (kind : Kind) {contents others : List Marker}
    (inside : kind.descends = true → Interchangeable dialect contents others) :
    Interchangeable dialect [⟨kind, contents⟩] [⟨kind, others⟩] := by
  intro left right agrees
  simp only [visitAll, visit]
  rcases (agrees.enter dialect kind contents others).outcomes with
    ⟨_, _, atLeft, atRight, same⟩ | ⟨⟨opened, next⟩, ⟨opened', _⟩, atLeft, atRight, kept, rfl⟩
  · rw [atLeft, atRight]
    exact .error same
  have descends : next.isSome = kind.descends := Progress.next_isSome atLeft
  rw [atLeft, atRight]
  cases next with
  | none => exact .ok kept
  | some close =>
    dsimp only
    rcases (inside descends.symm kept).outcomes with ⟨_, _, inLeft, inRight, same⟩ | ⟨_, _, inLeft, inRight, inner⟩
    · rw [inLeft, inRight]
      exact .error same
    · rw [inLeft, inRight]
      exact .ok (inner.put close)

end Interchangeable

/-- What a body becomes: it stays as it is, or it is put into an envelope. -/
def Options.enclose (options : Options) (encoding : Option String) (body : String) : String :=
  if options.partialOutput then body else envelope options.dialect encoding body

/-- Documents whose forests may stand in each other's place are rendered alike, but for the encoding
that they declare. -/
theorem Interchangeable.render {options : Options} {document other : Document}
    (interchangeable : Interchangeable options.dialect document.contents other.contents) :
    (∃ malformed, (Usx.render options document).2 = .error malformed ∧
        (Usx.render options other).2 = .error malformed) ∨
      ∃ body unrenderable statistics,
        (Usx.render options document).2 =
          .ok ⟨options.enclose document.encoding body, unrenderable, statistics⟩ ∧
        (Usx.render options other).2 = .ok ⟨options.enclose other.encoding body, unrenderable, statistics⟩ := by
  have start : (Progress.start #[openingRecord options document]).Agrees
      (.start #[openingRecord options other]) := ⟨rfl, rfl, rfl, rfl⟩
  rw [render_outcome, render_outcome]
  rcases (interchangeable start).outcomes with
    ⟨stopped, _, failed, failedToo, same⟩ | ⟨progress, _, ran, ranToo, agrees⟩
  · rw [failed, failedToo]
    exact .inl ⟨stopped.malformed, rfl, congrArg Except.error same.symm⟩
  · have pieces := agrees.pieces options.dialect
    rw [ran, ranToo]
    refine .inr ⟨markupText (progress.pieces options.dialect), progress.unrenderable,
      if options.collectStatistics then some progress.statistics else none, rfl, ?_⟩
    simp only [Options.result, Options.enclose, pieces, agrees.unrenderable, agrees.statistics]

end ScriptureMarkup.Usx
