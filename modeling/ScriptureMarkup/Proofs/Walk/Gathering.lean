import ScriptureMarkup.Proofs.Books.Chapters

namespace ScriptureMarkup.Marker

open Usx (Dialect Position)

variable {α β : Type} {dialect : Dialect}

/-- What markers bring that are entered one after the other, each by the position at which it stands. -/
def gather (dialect : Dialect) (brings : Position → Marker → List α) (position : Position) : List Marker → List α
  | [] => []
  | marker :: markers => brings position marker ++ gather dialect brings (marker.kind.arrive dialect position) markers

theorem gather_append (brings : Position → Marker → List α) (position : Position) (front back : List Marker) :
    gather dialect brings position (front ++ back) =
      gather dialect brings position front ++ gather dialect brings (arriveAll dialect position front) back := by
  induction front generalizing position with
  | nil => rfl
  | cons marker front ih =>
    rw [List.cons_append, gather, gather, ih, List.append_assoc]
    rfl

/-- What does not depend on where a marker stands is brought by each marker for itself. -/
theorem gather_eq_flatMap (brings : Marker → List α) (position : Position) (markers : List Marker) :
    gather dialect (fun _ => brings) position markers = markers.flatMap brings := by
  induction markers generalizing position with
  | nil => rfl
  | cons marker markers ih => rw [gather, List.flatMap_cons, ih]

section AtMostOne

variable {brings : Position → Marker → Option α} {counts : Marker → Bool}
  (one : ∀ position marker, (brings position marker).isSome = counts marker)

include one

theorem length_gather (position : Position) (markers : List Marker) :
    (gather dialect (fun position marker => (brings position marker).toList) position markers).length =
      markers.countP counts := by
  induction markers generalizing position with
  | nil => rfl
  | cons marker markers ih =>
    have here := one position marker
    rw [gather, List.length_append, ih, List.countP_cons, ← here]
    cases brings position marker <;> simp [Nat.add_comm]

/-- Where each marker brings one thing or nothing, a marker that brings one finds it behind as many
as the markers before it have brought. -/
theorem getElem?_gather {position : Position} {before after : List Marker} {marker : Marker}
    (brought : counts marker = true) :
    (gather dialect (fun position marker => (brings position marker).toList) position
        (before ++ marker :: after))[before.countP counts]? =
      brings (arriveAll dialect position before) marker := by
  obtain ⟨thing, here⟩ := Option.isSome_iff_exists.mp ((one (arriveAll dialect position before) marker).trans brought)
  have behind : (gather dialect (fun position marker => (brings position marker).toList) position before).length =
      before.countP counts := length_gather one position before
  rw [gather_append, List.getElem?_append_right (Nat.le_of_eq behind), behind, Nat.sub_self, gather, here]
  rfl

end AtMostOne

end ScriptureMarkup.Marker
