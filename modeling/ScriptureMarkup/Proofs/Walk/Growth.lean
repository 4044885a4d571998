import ScriptureMarkup.Proofs.Walk.Reached

namespace ScriptureMarkup.Usx

/-- A relation between markers and the pieces that are put out for them, in the order in which a walk enters
the one and puts out the other. What closes a marker is put out for no marker of its own. -/
structure Grows (dialect : Dialect) (holds : List Marker → List Piece → Prop) : Prop where
  nil : holds [] []
  append : ∀ {markers others : List Marker} {pieces more : List Piece},
    holds markers pieces → holds others more → holds (markers ++ others) (pieces ++ more)
  own : ∀ {marker : Marker} {position : Position} {step : Step},
    Usx.enter dialect marker.kind position = .ok step → holds [marker] step.output.pieces
  close : ∀ {kind : Kind} {position : Position} {step : Step} {pieces : List Piece},
    Usx.enter dialect kind position = .ok step → step.visit = .children pieces → holds [] pieces

namespace Grows

variable {dialect : Dialect} {holds : List Marker → List Piece → Prop}

mutual

theorem visit (grows : Grows dialect holds) (marker : Marker) {before after : Progress}
    (ran : Usx.visit dialect marker before = .ok after) :
    ∃ added, after.markup.toList = before.markup.toList ++ added ∧ holds marker.reached added := by
  obtain ⟨kind, contents⟩ := marker
  rw [Usx.visit] at ran
  cases entered : before.enter dialect ⟨kind, contents⟩ with
  | error stopped =>
    rw [entered] at ran
    cases ran
  | ok outcome =>
    obtain ⟨opened, next⟩ := outcome
    rw [entered] at ran
    obtain ⟨step, stepped, _, markup, closes⟩ := Progress.enter_ok entered
    have descends : next.isSome = kind.descends := Progress.next_isSome entered
    have own : holds [⟨kind, contents⟩] step.output.pieces := grows.own stepped
    have put : opened.markup.toList = before.markup.toList ++ step.output.pieces := by
      rw [markup, Array.toList_appendList]
    rw [Marker.reached, ← descends]
    cases next with
    | none =>
      cases ran
      exact ⟨step.output.pieces, put, own⟩
    | some close =>
      cases inside : Usx.visitAll dialect contents opened with
      | error stopped => simp [inside] at ran
      | ok inner =>
        simp only [inside] at ran
        cases ran
        obtain ⟨added, grown, below⟩ := grows.visitAll contents inside
        refine ⟨step.output.pieces ++ (added ++ close), ?_, ?_⟩
        · rw [Progress.put, Array.toList_appendList, grown, put, List.append_assoc, List.append_assoc]
        · have closed := grows.append below (grows.close stepped ((closes close).mp rfl))
          rw [List.append_nil] at closed
          exact grows.append own closed

/-- What a walk puts out is related to the markers that it reaches. -/
theorem visitAll (grows : Grows dialect holds) (markers : List Marker) {before after : Progress}
    (ran : Usx.visitAll dialect markers before = .ok after) :
    ∃ added, after.markup.toList = before.markup.toList ++ added ∧ holds (Marker.reachedAll markers) added := by
  match markers with
  | [] =>
    cases ran
    exact ⟨[], (List.append_nil _).symm, grows.nil⟩
  | marker :: markers =>
    rw [Usx.visitAll] at ran
    cases first : Usx.visit dialect marker before with
    | error stopped =>
      rw [first] at ran
      cases ran
    | ok visited =>
      rw [first] at ran
      obtain ⟨added, grown, here⟩ := grows.visit marker first
      obtain ⟨more, longer, later⟩ := grows.visitAll markers ran
      refine ⟨added ++ more, ?_, grows.append here later⟩
      rw [longer, grown, List.append_assoc]

end

end Grows

end ScriptureMarkup.Usx
