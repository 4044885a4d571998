import ScriptureMarkup.Marker.Kind

namespace ScriptureMarkup

/-- One node of a marked-up text with the nodes nested in it, in the order of the text. -/
structure Marker where
  kind : Kind
  contents : List Marker

namespace Marker

def identifier (marker : Marker) : String := marker.kind.identifier

/-- A marker without children. -/
def leaf (kind : Kind) : Marker := ⟨kind, []⟩

def text (text : String) : Marker := leaf (.text text)

/-- Adds a marker behind the last child of the one that `path` leads to, counting from zero;
the empty path leads to the forest itself. -/
def pushAt (child : Marker) : List Nat → List Marker → List Marker
  | [], markers => markers ++ [child]
  | i :: path, markers =>
    markers.modify i fun marker => ⟨marker.kind, pushAt child path marker.contents⟩

mutual

/-- The number of markers in a tree, its root included. -/
def count : Marker → Nat
  | ⟨_, contents⟩ => countAll contents + 1

def countAll : List Marker → Nat
  | [] => 0
  | marker :: markers => marker.count + countAll markers

end

theorem countAll_append (front back : List Marker) :
    countAll (front ++ back) = countAll front + countAll back := by
  induction front with
  | nil => simp [countAll]
  | cons marker front ih => simp [countAll, ih, Nat.add_assoc]

theorem count_eq (marker : Marker) : marker.count = countAll marker.contents + 1 := by
  cases marker
  rw [count]

/-- The markers of a forest in the order of the text: each one comes before its children,
and they come before its siblings. Of a marker taken from the front only its children are
put back, so the depth of a tree costs nothing. -/
def descendants : List Marker → List Marker
  | [] => []
  | marker :: pending => marker :: descendants (marker.contents ++ pending)
  termination_by pending => countAll pending
  decreasing_by simp only [countAll_append, countAll, count_eq]; omega

mutual

/-- Whether two trees are the same, node by node. -/
def same : Marker → Marker → Bool
  | ⟨kind, contents⟩, ⟨kind', contents'⟩ => kind = kind' && sameAll contents contents'

def sameAll : List Marker → List Marker → Bool
  | [], [] => true
  | marker :: markers, marker' :: markers' => marker.same marker' && sameAll markers markers'
  | _, _ => false

end

mutual

theorem same_iff (a b : Marker) : a.same b = true ↔ a = b := by
  obtain ⟨kind, contents⟩ := a
  obtain ⟨kind', contents'⟩ := b
  simp [same, sameAll_iff contents contents']

theorem sameAll_iff (as bs : List Marker) : sameAll as bs = true ↔ as = bs := by
  match as, bs with
  | [], [] => simp [sameAll]
  | a :: as, b :: bs => simp [sameAll, same_iff a b, sameAll_iff as bs]
  | [], _ :: _ => simp [sameAll]
  | _ :: _, [] => simp [sameAll]

end

instance : DecidableEq Marker := fun a b => decidable_of_iff _ (same_iff a b)

end Marker

end ScriptureMarkup
