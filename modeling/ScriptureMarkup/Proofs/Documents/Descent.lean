import ScriptureMarkup.Proofs.Documents.Paths

namespace ScriptureMarkup

open Marker (atAll? countAll descendants preorderAll)

theorem Marker.length_descendants (markers : List Marker) : (descendants markers).length = countAll markers := by
  induction markers using descendants.induct with
  | case1 => rw [descendants, countAll, List.length_nil]
  | case2 marker pending ih =>
    rw [descendants, List.length_cons, ih, countAll_append, countAll, marker.count_eq]
    omega

/-- A descent through a forest that goes on marker by marker: what has still to be visited lies on a
stack, the next marker on top, which is the end. -/
structure Descent where
  stack : Array Marker

namespace Descent

def ofRoots (roots : List Marker) : Descent := ⟨roots.reverse.toArray⟩

/-- Takes the marker on top, if there is one, and puts its children in its place, the first one on top. -/
def next (descent : Descent) : Option Marker × Descent :=
  match descent.stack.back? with
  | none => (none, descent)
  | some marker => (some marker, ⟨descent.stack.pop ++ marker.contents.reverse⟩)

/-- What is answered if one asks for the next marker so many times. -/
def answers : Nat → Descent → List (Option Marker)
  | 0, _ => []
  | n + 1, descent => descent.next.1 :: answers n descent.next.2

/-- What has still to be visited, from the top of the stack. -/
def pending (descent : Descent) : List Marker := descent.stack.toList.reverse

theorem pending_ofRoots (roots : List Marker) : (ofRoots roots).pending = roots := by
  simp [pending, ofRoots]

theorem next_of_done {descent : Descent} (done : descent.pending = []) : descent.next = (none, descent) := by
  have empty : descent.stack.back? = none := by simpa [pending] using done
  rw [next, empty]

theorem next_of_pending {descent : Descent} {marker : Marker} {later : List Marker}
    (waits : descent.pending = marker :: later) :
    descent.next.1 = some marker ∧ descent.next.2.pending = marker.contents ++ later := by
  have stack : descent.stack.toList = later.reverse ++ [marker] := by
    rw [← List.reverse_cons, ← waits, pending, List.reverse_reverse]
  have top : descent.stack.back? = some marker := by
    rw [← Array.getLast?_toList, stack, List.getLast?_concat]
  rw [next, top]
  refine ⟨rfl, ?_⟩
  simp [pending, stack]

/-- Asked again and again, a descent gives the markers in the order in which recursion over the pending
ones gives them, and then nothing more. -/
theorem answers_eq (n : Nat) (descent : Descent) :
    answers n descent = ((descendants descent.pending).take n).map some ++
      List.replicate (n - countAll descent.pending) none := by
  induction n generalizing descent with
  | zero => simp [answers]
  | succ n ih =>
    rw [answers]
    cases waits : descent.pending with
    | nil =>
      have exhausted := ih descent
      rw [waits] at exhausted
      rw [next_of_done waits, exhausted]
      simp [descendants, countAll, List.replicate_succ]
    | cons marker later =>
      obtain ⟨found, behind⟩ := next_of_pending waits
      rw [found, ih, behind, descendants, List.take_succ_cons, Marker.countAll_append, countAll, marker.count_eq]
      have fewer : n + 1 - (countAll marker.contents + 1 + countAll later) =
          n - (countAll marker.contents + countAll later) := by omega
      rw [fewer]
      rfl

end Descent

/-- What the first of some markers of one form says, where the form tells a kind by a text; nothing if none
of the markers has this form. -/
def FirstOf (form : String → Kind) (markers : List Marker) : Option String → Prop
  | some text => ∃ before marker after, markers = before ++ marker :: after ∧ marker.kind = form text ∧
      ∀ earlier ∈ before, ∀ other, earlier.kind ≠ form other
  | none => ∀ marker ∈ markers, ∀ text, marker.kind ≠ form text

theorem findSome?_eq_iff_firstOf {form : String → Kind} {told : Marker → Option String}
    (tells : ∀ marker text, told marker = some text ↔ marker.kind = form text) (markers : List Marker)
    (outcome : Option String) : markers.findSome? told = outcome ↔ FirstOf form markers outcome := by
  have silent (marker : Marker) : told marker = none ↔ ∀ text, marker.kind ≠ form text := by
    simp only [Option.eq_none_iff_forall_ne_some, ne_eq, tells]
  cases outcome with
  | none => simp only [List.findSome?_eq_none_iff, silent, FirstOf]
  | some text => simp only [List.findSome?_eq_some_iff, silent, tells, FirstOf]

namespace Document

theorem encoding_eq_iff (document : Document) (outcome : Option String) :
    document.encoding = outcome ↔ FirstOf (.field .ide) document.descendants outcome := by
  refine findSome?_eq_iff_firstOf (fun marker text => ?_) _ _
  obtain ⟨kind, contents⟩ := marker
  cases kind with
  | field tag content => cases tag <;> simp
  | _ => simp

theorem bookIdentifier_eq_iff (document : Document) (outcome : Option String) :
    document.bookIdentifier = outcome ↔ FirstOf .book document.descendants outcome := by
  refine findSome?_eq_iff_firstOf (fun marker text => ?_) _ _
  obtain ⟨kind, contents⟩ := marker
  cases kind <;> simp

theorem countMarkers_append (first second : Document) (chosen : Kind → Bool) :
    countMarkers ⟨first.contents ++ second.contents⟩ chosen =
      first.countMarkers chosen + second.countMarkers chosen := by
  simp only [countMarkers, Document.descendants, Marker.descendants_append, List.countP_append]

/-- A descent through a document gives its markers one by one, each of them once, and then nothing more:
as many as there are, and in the order of their paths, so that each comes before all that is below it and
behind all that is below an earlier sibling. It is the order of recursion over the tree, in which the first
encoding and the first book are looked up; how often a kind comes does not depend on the order, and adds up
where documents are put together. -/
theorem descent_visits_in_preorder (document : Document) :
    (∀ n, (Descent.ofRoots document.contents).answers n =
        (document.descendants.take n).map some ++ List.replicate (n - countAll document.contents) none) ∧
      document.descendants = preorderAll document.contents ∧
      document.descendants.length = countAll document.contents ∧
      (∃ paths : List (List Nat), paths.Pairwise (· < ·) ∧
        (∀ path, path ∈ paths ↔ (atAll? document.contents path).isSome = true) ∧
        paths.map (atAll? document.contents) = document.descendants.map some) ∧
      (∀ outcome, document.encoding = outcome ↔ FirstOf (.field .ide) document.descendants outcome) ∧
      (∀ outcome, document.bookIdentifier = outcome ↔ FirstOf .book document.descendants outcome) ∧
      ∀ (other : Document) chosen, countMarkers ⟨document.contents ++ other.contents⟩ chosen =
        document.countMarkers chosen + other.countMarkers chosen := by
  have preorder : document.descendants = preorderAll document.contents :=
    Marker.descendants_eq_preorderAll document.contents
  refine ⟨fun n => ?_, preorder, ?_, ⟨Marker.pathsAll document.contents, Marker.pathsAll_ascend _,
    fun path => Marker.mem_pathsAll_iff, ?_⟩, document.encoding_eq_iff, document.bookIdentifier_eq_iff,
    document.countMarkers_append⟩
  · have run := Descent.answers_eq n (.ofRoots document.contents)
    rwa [Descent.pending_ofRoots] at run
  · exact Marker.length_descendants document.contents
  · rw [Marker.map_atAll?_pathsAll, preorder]

end Document

end ScriptureMarkup
