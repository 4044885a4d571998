import ScriptureMarkup.Proofs.Walk.Reached

namespace ScriptureMarkup

open Usx (Dialect Position)
open Marker (nodesAll reachedAll)

def Kind.chapter? : Kind → Option UInt32
  | .chapter number => some number
  | _ => none

def Kind.isChapter (kind : Kind) : Bool := kind.chapter?.isSome

def Kind.isVerse : Kind → Bool
  | .verse _ => true
  | _ => false

/-- No verse comes before the first chapter. -/
def Anchored (markers : List Marker) : Prop :=
  ∀ marker ∈ markers.takeWhile (fun marker => !marker.kind.isChapter), marker.kind.isVerse = false

theorem anchored_nil : Anchored [] := by
  simp [Anchored]

theorem anchored_cons {marker : Marker} {markers : List Marker} :
    Anchored (marker :: markers) ↔
      marker.kind.isChapter = true ∨ marker.kind.isVerse = false ∧ Anchored markers := by
  unfold Anchored
  cases chapter : marker.kind.isChapter <;> simp [chapter]

theorem anchored_append {front back : List Marker} :
    Anchored (front ++ back) ↔
      Anchored front ∧ ((∃ marker ∈ front, marker.kind.isChapter = true) ∨ Anchored back) := by
  induction front with
  | nil => simp [anchored_nil]
  | cons marker front ih =>
    rw [List.cons_append, anchored_cons, anchored_cons, ih, List.exists_mem_cons_iff]
    cases marker.kind.isChapter <;> simp [and_assoc]

/-- The number of the chapter that was entered last when some markers follow one. -/
def lastChapter (start : UInt32) (markers : List Marker) : UInt32 :=
  (markers.filterMap fun marker => marker.kind.chapter?).getLast?.getD start

theorem lastChapter_nil (start : UInt32) : lastChapter start [] = start := rfl

theorem lastChapter_cons (start : UInt32) (marker : Marker) (markers : List Marker) :
    lastChapter start (marker :: markers) = lastChapter (marker.kind.chapter?.getD start) markers := by
  unfold lastChapter
  cases chapter : marker.kind.chapter? with
  | none => simp [chapter]
  | some number => simp [chapter, List.getLast?_cons]

theorem lastChapter_of_exists {markers : List Marker} (some : ∃ marker ∈ markers, marker.kind.isChapter = true)
    (start other : UInt32) : lastChapter start markers = lastChapter other markers := by
  induction markers generalizing start other with
  | nil => simp at some
  | cons marker markers ih =>
    rw [lastChapter_cons, lastChapter_cons]
    cases chapter : marker.kind.chapter? with
    | some number => rfl
    | none =>
      refine ih ?_ _ _
      simpa [Kind.isChapter, chapter] using some

theorem Kind.chapter_arrive (dialect : Dialect) (position : Position) (kind : Kind) :
    (kind.arrive dialect position).chapter = kind.chapter?.getD position.chapter := by
  cases kind <;> rfl

namespace Marker

/-- Where markers lead that are entered one after the other. -/
def arriveAll (dialect : Dialect) (position : Position) (markers : List Marker) : Position :=
  markers.foldl (fun position marker => marker.kind.arrive dialect position) position

theorem arriveAll_append (dialect : Dialect) (position : Position) (front back : List Marker) :
    arriveAll dialect position (front ++ back) = arriveAll dialect (arriveAll dialect position front) back :=
  List.foldl_append

theorem chapter_arriveAll (dialect : Dialect) (position : Position) (markers : List Marker) :
    (arriveAll dialect position markers).chapter = lastChapter position.chapter markers := by
  induction markers generalizing position with
  | nil => rfl
  | cons marker markers ih =>
    rw [lastChapter_cons, ← Kind.chapter_arrive dialect position, ← ih]
    rfl

mutual

theorem nodes_position (dialect : Dialect) (marker : Marker) (position : Position) :
    (marker.nodes dialect position).2 = arriveAll dialect position marker.reached := by
  obtain ⟨kind, contents⟩ := marker
  rw [reached]
  simp only [nodes]
  cases kind.descends with
  | false => rfl
  | true => exact nodesAll_position dialect contents (kind.arrive dialect position)

/-- A forest leads where the markers that are reached in it lead one by one. -/
theorem nodesAll_position (dialect : Dialect) (markers : List Marker) (position : Position) :
    (nodesAll dialect markers position).2 = arriveAll dialect position (reachedAll markers) := by
  match markers with
  | [] => rfl
  | marker :: markers =>
    rw [reachedAll, arriveAll_append, ← nodes_position dialect marker position]
    exact nodesAll_position dialect markers _

end

theorem nodesAll_append (dialect : Dialect) (front back : List Marker) (position : Position) :
    nodesAll dialect (front ++ back) position =
      ((nodesAll dialect front position).1 ++ (nodesAll dialect back (nodesAll dialect front position).2).1,
        (nodesAll dialect back (nodesAll dialect front position).2).2) := by
  induction front generalizing position with
  | nil => rfl
  | cons marker front ih => simp only [List.cons_append, nodesAll, ih, List.append_assoc]

end Marker

end ScriptureMarkup
