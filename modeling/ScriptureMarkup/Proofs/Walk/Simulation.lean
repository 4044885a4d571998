import ScriptureMarkup.Proofs.Walk.Recursion

namespace ScriptureMarkup.Usx

/-- Two outcomes of which both are results in a given relation, or both fail at the same book. -/
inductive Alike {α β : Type} (related : α → β → Prop) : Except Stopped α → Except Stopped β → Prop
  | error {left right : Stopped} : left.malformed = right.malformed → Alike related (.error left) (.error right)
  | ok {left : α} {right : β} : related left right → Alike related (.ok left) (.ok right)

/-- Two renderings side by side, in which entering a marker and closing it keep a relation
between what has been brought about. -/
structure Simulates (dialect other : Dialect) (related : Progress → Progress → Prop) : Prop where
  enter : ∀ (marker : Marker) {left right : Progress}, related left right →
    Alike (fun a b => related a.1 b.1 ∧ a.2 = b.2) (left.enter dialect marker) (right.enter other marker)
  close : ∀ {marker : Marker} {before opened left right : Progress} {pieces : List Piece},
    before.enter dialect marker = .ok (opened, some pieces) → related left right →
      related (left.put pieces) (right.put pieces)

namespace Simulates

variable {dialect other : Dialect} {related : Progress → Progress → Prop}

mutual

/-- The relation goes down into the children of a marker and comes back up with what closes it. -/
theorem visit (simulates : Simulates dialect other related) (marker : Marker) {left right : Progress}
    (start : related left right) :
    Alike related (Usx.visit dialect marker left) (Usx.visit other marker right) := by
  obtain ⟨kind, contents⟩ := marker
  have entered := simulates.enter ⟨kind, contents⟩ start
  rw [Usx.visit, Usx.visit]
  generalize atLeft : left.enter dialect ⟨kind, contents⟩ = outcome at entered ⊢
  generalize right.enter other ⟨kind, contents⟩ = outcome' at entered ⊢
  cases entered with
  | error same => exact .error same
  | @ok opened opened' both =>
    obtain ⟨moved, next⟩ := opened
    obtain ⟨moved', next'⟩ := opened'
    obtain ⟨kept, same⟩ := both
    cases same
    cases next with
    | none => exact .ok kept
    | some pieces =>
      have inside := simulates.visitAll contents kept
      dsimp only
      generalize Usx.visitAll dialect contents moved = outcome at inside ⊢
      generalize Usx.visitAll other contents moved' = outcome' at inside ⊢
      cases inside with
      | error same => exact .error same
      | ok inner => exact .ok (simulates.close atLeft inner)

theorem visitAll (simulates : Simulates dialect other related) (markers : List Marker) {left right : Progress}
    (start : related left right) :
    Alike related (Usx.visitAll dialect markers left) (Usx.visitAll other markers right) := by
  match markers with
  | [] => exact .ok start
  | marker :: markers =>
    have first := simulates.visit marker start
    rw [Usx.visitAll, Usx.visitAll]
    generalize Usx.visit dialect marker left = outcome at first ⊢
    generalize Usx.visit other marker right = outcome' at first ⊢
    cases first with
    | error same => exact .error same
    | ok visited => exact simulates.visitAll markers visited

end

end Simulates

/-- A property of the progress that entering a marker and closing it keep. -/
structure Kept (dialect : Dialect) (holds : Progress → Prop) : Prop where
  enter : ∀ {marker : Marker} {before opened : Progress} {next : Option (List Piece)},
    before.enter dialect marker = .ok (opened, next) → holds before → holds opened
  close : ∀ {marker : Marker} {before opened inner : Progress} {pieces : List Piece},
    before.enter dialect marker = .ok (opened, some pieces) → holds inner → holds (inner.put pieces)

namespace Kept

variable {dialect : Dialect} {holds : Progress → Prop}

/-- What is kept is a relation between a rendering and itself. -/
theorem simulates (kept : Kept dialect holds) :
    Simulates dialect dialect fun left right => left = right ∧ holds left where
  enter marker left right start := by
    obtain ⟨rfl, before⟩ := start
    cases entered : left.enter dialect marker with
    | error stopped => exact .error rfl
    | ok opened => exact .ok ⟨⟨rfl, kept.enter entered before⟩, rfl⟩
  close entered start := by
    obtain ⟨rfl, inner⟩ := start
    exact ⟨rfl, kept.close entered inner⟩

theorem visitAll (kept : Kept dialect holds) {markers : List Marker} {before after : Progress}
    (ran : Usx.visitAll dialect markers before = .ok after) (start : holds before) : holds after := by
  have alike := kept.simulates.visitAll markers ⟨rfl, start⟩
  rw [ran] at alike
  cases alike with
  | ok both => exact both.2

end Kept

/-- What a marker that can be entered adds: the position moves, the pieces are put behind the
markup, and what closes the marker is the one thing that its children see of it. -/
theorem Progress.enter_ok {dialect : Dialect} {marker : Marker} {before opened : Progress}
    {next : Option (List Piece)} (entered : before.enter dialect marker = .ok (opened, next)) :
    ∃ step, Usx.enter dialect marker.kind before.position = .ok step ∧
      opened.position = step.position ∧ opened.markup = before.markup ++ step.output.pieces ∧
      ∀ pieces, next = some pieces ↔ step.visit = .children pieces := by
  unfold Progress.enter at entered
  split at entered
  · cases entered
  · rename_i step stepped
    refine ⟨step, stepped, ?_⟩
    split at entered
    · rename_i visited
      cases entered
      exact ⟨rfl, rfl, by simp [visited]⟩
    · rename_i visited
      cases entered
      exact ⟨rfl, rfl, by simp [visited]⟩
    · rename_i visited
      cases entered
      exact ⟨rfl, rfl, by simp [visited]⟩

end ScriptureMarkup.Usx
