import ScriptureMarkup.Proofs.Walk.Reached

namespace ScriptureMarkup

namespace Marker

/-- The markers up to the first at which a walk fails, that one included. -/
def tried : List Marker → List Marker
  | [] => []
  | marker :: markers => marker :: if marker.kind.isNameable then tried markers else []

theorem tried_append {front back : List Marker} (nameable : ∀ marker ∈ front, marker.kind.isNameable = true) :
    tried (front ++ back) = front ++ tried back := by
  induction front with
  | nil => rfl
  | cons marker front ih =>
    obtain ⟨here, later⟩ := List.forall_mem_cons.mp nameable
    rw [List.cons_append, tried, if_pos here, ih later, List.cons_append]

end Marker

namespace Usx

open Marker (tried tried_append)

/-- The marker that a turn of the loop enters, if it enters one. -/
def entering : List Frame → List Marker
  | .enter marker :: _ => [marker]
  | _ => []

/-- The markers that the loop enters in a number of turns, one after the other. -/
def trail (dialect : Dialect) : Nat → List Frame → Progress → List Marker
  | 0, _, _ => []
  | n + 1, frames, progress =>
    entering frames ++
      match turn dialect frames progress with
      | .error _ => []
      | .ok (later, moved) => trail dialect n later moved

/-- The markers that are reached from what is still to be done. -/
def reachedFrom : List Frame → List Marker
  | [] => []
  | .close _ :: frames => reachedFrom frames
  | .enter marker :: frames => marker.reached ++ reachedFrom frames

theorem reachedFrom_enterAll (markers : List Marker) (frames : List Frame) :
    reachedFrom (enterAll markers frames) = Marker.reachedAll markers ++ reachedFrom frames := by
  induction markers with
  | nil => rfl
  | cons marker markers ih =>
    rw [Marker.reachedAll, List.append_assoc, ← ih]
    rfl

theorem reachedFrom_turn {dialect : Dialect} {frames later : List Frame} {progress moved : Progress}
    (ran : turn dialect frames progress = .ok (later, moved)) :
    reachedFrom frames = entering frames ++ reachedFrom later := by
  match frames with
  | [] =>
    cases ran
    rfl
  | .close pieces :: frames =>
    cases ran
    rfl
  | .enter marker :: frames =>
    simp only [turn] at ran
    split at ran
    · cases ran
    · rename_i opened entered
      cases ran
      have leaf : false = marker.kind.descends := Progress.next_isSome entered
      rw [reachedFrom, marker.reached_eq, ← leaf]
      rfl
    · rename_i opened close entered
      cases ran
      have descends : true = marker.kind.descends := Progress.next_isSome entered
      rw [reachedFrom, marker.reached_eq, ← descends, reachedFrom_enterAll]
      rfl

theorem Progress.enter_nameable {dialect : Dialect} {marker : Marker} {before opened : Progress}
    {next : Option (List Piece)} (entered : before.enter dialect marker = .ok (opened, next)) :
    marker.kind.isNameable = true :=
  Progress.pass_ok_iff.mp ⟨opened.withoutMarkup, by rw [pass, entered]; rfl⟩

theorem Progress.enter_unnameable {dialect : Dialect} {marker : Marker} {before : Progress} {stopped : Stopped}
    (failed : before.enter dialect marker = .error stopped) : marker.kind.isNameable = false := by
  rw [← Bool.not_eq_true, ← Progress.pass_ok_iff, pass, failed]
  rintro ⟨after, ⟨⟩⟩

theorem nameable_of_turn {dialect : Dialect} {frames later : List Frame} {progress moved : Progress}
    (ran : turn dialect frames progress = .ok (later, moved)) :
    ∀ marker ∈ entering frames, marker.kind.isNameable = true := by
  match frames with
  | [] | .close _ :: _ => exact List.forall_mem_nil _
  | .enter marker :: frames =>
    rw [entering, List.forall_mem_singleton]
    simp only [turn] at ran
    split at ran
    · cases ran
    · rename_i opened entered
      exact Progress.enter_nameable entered
    · rename_i opened close entered
      exact Progress.enter_nameable entered

/-- A turn that fails is the last one: nothing is tried behind the marker that it enters. -/
theorem tried_of_turn_error {dialect : Dialect} {frames : List Frame} {progress : Progress} {stopped : Stopped}
    (failed : turn dialect frames progress = .error stopped) : tried (reachedFrom frames) = entering frames := by
  match frames with
  | [] | .close _ :: _ => cases failed
  | .enter marker :: frames =>
    have unnamed : marker.kind.isNameable = false := by
      simp only [turn] at failed
      split at failed
      · rename_i told entered
        exact Progress.enter_unnameable entered
      · cases failed
      · cases failed
    rw [reachedFrom, marker.reached_eq, List.cons_append, tried, unnamed]
    rfl

/-- However it ends, the loop has entered what is reached up to the first marker at which it fails. -/
theorem trail_eq_tried (dialect : Dialect) {n : Nat} {frames : List Frame} (progress : Progress)
    (bound : weight frames ≤ n) : trail dialect n frames progress = tried (reachedFrom frames) := by
  induction n generalizing frames progress with
  | zero =>
    match frames with
    | [] => rfl
    | .close _ :: _ => simp [weight, Frame.weight] at bound
    | .enter marker :: _ => simp [weight, Frame.weight, marker.count_eq] at bound
  | succ n ih =>
    rw [trail]
    cases turned : turn dialect frames progress with
    | error stopped => rw [tried_of_turn_error turned, List.append_nil]
    | ok state =>
      obtain ⟨later, moved⟩ := state
      rw [reachedFrom_turn turned, tried_append (nameable_of_turn turned)]
      dsimp only
      rw [ih moved (weight_turn dialect turned bound)]

theorem trail_enterAll (dialect : Dialect) {n : Nat} {markers : List Marker} (progress : Progress)
    (bound : 2 * Marker.countAll markers ≤ n) :
    trail dialect n (enterAll markers []) progress = tried (Marker.reachedAll markers) := by
  have weighed : weight (enterAll markers []) ≤ n := by
    simpa [weight_enterAll, weight] using bound
  rw [trail_eq_tried dialect progress weighed, reachedFrom_enterAll, reachedFrom, List.append_nil]

/-- A walk that does not fail enters all that is reached from what it has to do, in the order of
the text. -/
theorem trail_eq_reachedAll {dialect : Dialect} {n : Nat} {markers : List Marker} {before after : Progress}
    (ran : visitAll dialect markers before = .ok after) (bound : 2 * Marker.countAll markers ≤ n) :
    trail dialect n (enterAll markers []) before = Marker.reachedAll markers := by
  have nameable := visitAll_ok_iff.mp ⟨after, ran⟩
  rw [trail_enterAll dialect before bound, ← List.append_nil (Marker.reachedAll markers), tried_append nameable]
  rfl

end Usx

end ScriptureMarkup
