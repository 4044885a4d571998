import ScriptureMarkup.Proofs.Books.Chapters

namespace ScriptureMarkup

open Xml (Node)
open Usx (Dialect Position)
open Marker (nodesAll reachedAll)

/-- Two positions in one book at which the same milestones are open. -/
structure Usx.Position.Near (position other : Position) : Prop where
  book : position.book = other.book
  openChapter : position.openChapter = other.openChapter
  openVerse : position.openVerse = other.openVerse

namespace Usx.Position.Near

variable {position other : Position}

theorem verseEnd (near : Near position other) (dialect : Dialect) :
    position.verseEnd dialect = other.verseEnd dialect := by
  simp only [Position.verseEnd, near.openVerse]

theorem ends (near : Near position other) (dialect : Dialect) : position.ends dialect = other.ends dialect := by
  simp only [Position.ends, near.verseEnd dialect, Position.chapterEnd, near.openChapter]

theorem chapterId (near : Near position other) (number : UInt32) :
    position.chapterId number = other.chapterId number := by
  simp only [Position.chapterId, Position.placeId, near.book]

theorem verseId (near : Near position other) (same : position.chapter = other.chapter) (number : String) :
    position.verseId number = other.verseId number := by
  simp only [Position.verseId, Position.placeId, near.book, same]

/-- Only a verse depends on the chapter that was entered last. -/
theorem nodes (near : Near position other) (dialect : Dialect) {kind : Kind} (children : List Node)
    (settled : position.chapter = other.chapter ∨ kind.isVerse = false) :
    kind.nodes dialect position children = kind.nodes dialect other children := by
  cases kind with
  | book identifier => simp only [Kind.nodes, near.ends dialect]
  | chapter number =>
    simp only [Kind.nodes, near.ends dialect, near.chapterId number]
  | verse number =>
    have chapter : position.chapter = other.chapter := settled.resolve_right (by simp [Kind.isVerse])
    simp only [Kind.nodes, near.verseEnd dialect, near.verseId chapter number]
  | text | word | field | heading | leveled | bare | unknown => rfl

theorem arrive (near : Near position other) (dialect : Dialect) {kind : Kind}
    (settled : position.chapter = other.chapter ∨ kind.isVerse = false) :
    Near (kind.arrive dialect position) (kind.arrive dialect other) := by
  cases kind with
  | book identifier => exact ⟨rfl, rfl, rfl⟩
  | chapter number =>
    refine ⟨near.book, ?_, rfl⟩
    cases dialect with
    | usx2_5 => rfl
    | usx3_0 => exact congrArg some (near.chapterId number)
  | verse number =>
    have chapter : position.chapter = other.chapter := settled.resolve_right (by simp [Kind.isVerse])
    refine ⟨near.book, near.openChapter, ?_⟩
    cases dialect with
    | usx2_5 => rfl
    | usx3_0 => exact congrArg some (near.verseId chapter number)
  | text | word | field | heading | leveled | bare | unknown => exact near

end Usx.Position.Near

/-- What is left to ask of markers when those before them have been entered. -/
theorem settled_append {start other : UInt32} {front back : List Marker}
    (settled : start = other ∨ Anchored (front ++ back)) :
    (start = other ∨ Anchored front) ∧ (lastChapter start front = lastChapter other front ∨ Anchored back) := by
  rcases settled with rfl | anchored
  · exact ⟨.inl rfl, .inl rfl⟩
  · obtain ⟨first, second⟩ := anchored_append.mp anchored
    exact ⟨.inr first, second.imp_left fun chapter => lastChapter_of_exists chapter start other⟩

namespace Marker

mutual

theorem nodes_of_near (dialect : Dialect) (marker : Marker) {position other : Position} (near : position.Near other)
    (settled : position.chapter = other.chapter ∨ Anchored marker.reached) :
    (marker.nodes dialect position).1 = (marker.nodes dialect other).1 ∧
      (marker.nodes dialect position).2.Near (marker.nodes dialect other).2 := by
  obtain ⟨kind, contents⟩ := marker
  rw [reached, ← List.singleton_append] at settled
  obtain ⟨here, below⟩ := settled_append settled
  have own : position.chapter = other.chapter ∨ kind.isVerse = false := by
    refine here.imp_right fun anchored => ?_
    rcases anchored_cons.mp anchored with chapter | ⟨noVerse, _⟩
    · cases kind <;> first | rfl | cases chapter
    · exact noVerse
  have arrived := near.arrive dialect own
  simp only [nodes]
  cases descends : kind.descends with
  | false => exact ⟨near.nodes dialect [] own, arrived⟩
  | true =>
    simp only [lastChapter_cons, lastChapter_nil, ← Kind.chapter_arrive dialect, descends, if_true] at below ⊢
    obtain ⟨same, ended⟩ := nodesAll_of_near dialect contents arrived below
    rw [same]
    exact ⟨near.nodes dialect _ own, ended⟩

/-- The chapter that was entered last makes no difference to markers whose verses come after a
chapter of their own. -/
theorem nodesAll_of_near (dialect : Dialect) (markers : List Marker) {position other : Position}
    (near : position.Near other) (settled : position.chapter = other.chapter ∨ Anchored (reachedAll markers)) :
    (nodesAll dialect markers position).1 = (nodesAll dialect markers other).1 ∧
      (nodesAll dialect markers position).2.Near (nodesAll dialect markers other).2 := by
  match markers with
  | [] => exact ⟨rfl, near⟩
  | marker :: markers =>
    rw [reachedAll] at settled
    obtain ⟨front, back⟩ := settled_append settled
    rw [← chapter_arriveAll dialect, ← chapter_arriveAll dialect, ← nodes_position, ← nodes_position] at back
    obtain ⟨first, between⟩ := nodes_of_near dialect marker near front
    obtain ⟨later, ended⟩ := nodesAll_of_near dialect markers between back
    simp only [nodesAll, first, later]
    exact ⟨trivial, ended⟩

end

end Marker

end ScriptureMarkup
