import ScriptureMarkup.Proofs.Markup.Picked

namespace ScriptureMarkup

open Xml (Node)
open Xml.Node (picked)
open Usx (Dialect Options Position RenderResult)
open Marker (arriveAll gather reachedAll)

/-- Whether a tag is the start of a chapter or a verse, which is any tag of theirs that ends no id. -/
def Xml.Tag.begins : Xml.Tag → Bool
  | .opening name attributes | .empty name attributes =>
    (name = "chapter" || name = "verse") && (attributes.lookup "eid").isNone
  | .closing _ => false

def Kind.isMilestone (kind : Kind) : Bool := kind.isChapter || kind.isVerse

def Kind.book? : Kind → Option String
  | .book identifier => some identifier
  | _ => none

/-- The text that names the book which was entered last among some markers. -/
def lastBook (markers : List Marker) : Option String :=
  (markers.filterMap fun marker => marker.kind.book?).getLast?

/-- What the ids of places begin with when some markers have been entered: the first three characters
of the last book, and a space. -/
def bookPrefix (before : List Marker) : String :=
  match lastBook before with
  | none => ""
  | some identifier => String.ofList (identifier.toList.take 3) ++ " "

theorem lastBook_cons (marker : Marker) (markers : List Marker) :
    lastBook (marker :: markers) = (lastBook markers).or marker.kind.book? := by
  unfold lastBook
  cases book : marker.kind.book? with
  | none => simp [book]
  | some identifier =>
    cases last : (markers.filterMap fun marker => marker.kind.book?).getLast? <;>
      simp [book, List.getLast?_cons, last]

theorem lastBook_mem {markers : List Marker} {identifier : String} (last : lastBook markers = some identifier) :
    ∃ marker ∈ markers, marker.kind = .book identifier := by
  obtain ⟨marker, member, found⟩ := List.mem_filterMap.mp (List.mem_of_getLast? last)
  refine ⟨marker, member, ?_⟩
  obtain ⟨kind, contents⟩ := marker
  cases kind <;> cases found
  rfl

theorem Kind.book_arrive (dialect : Dialect) (position : Position) (kind : Kind) :
    (kind.arrive dialect position).book = (kind.book?.map bookCode).or position.book := by
  cases kind <;> rfl

theorem Marker.book_arriveAll (dialect : Dialect) (position : Position) (markers : List Marker) :
    (arriveAll dialect position markers).book = ((lastBook markers).map Kind.bookCode).or position.book := by
  induction markers generalizing position with
  | nil => rfl
  | cons marker markers ih =>
    have later := ih (marker.kind.arrive dialect position)
    rw [Kind.book_arrive] at later
    rw [lastBook_cons]
    refine later.trans ?_
    cases lastBook markers <;> cases marker.kind.book? <;> rfl

theorem Kind.bookCode_ne_empty {identifier : String} (nameable : (Kind.book identifier).isNameable = true) :
    bookCode identifier ≠ "" := by
  have long : 4 ≤ identifier.toList.length := by simpa [isNameable, String.length_toList] using nameable
  have length : (bookCode identifier).length = 3 := by
    rw [bookCode, String.length_ofList, List.length_take]
    omega
  intro empty
  simp [empty] at length

/-- The ids of places begin with what the markers before them tell. -/
theorem placeId_arriveAll {before : List Marker}
    (nameable : ∀ marker ∈ before, marker.kind.isNameable = true) (dialect : Dialect) (numbers : String) :
    (arriveAll dialect .start before).placeId numbers = bookPrefix before ++ numbers := by
  have book := Marker.book_arriveAll dialect .start before
  unfold Position.placeId bookPrefix
  cases last : lastBook before with
  | none =>
    rw [last] at book
    rw [book]
    exact (String.empty_append).symm
  | some identifier =>
    obtain ⟨marker, member, named⟩ := lastBook_mem last
    have code := Kind.bookCode_ne_empty (named ▸ nameable marker member)
    rw [last] at book
    rw [book]
    exact if_neg code

namespace Kind

end Kind

namespace Usx

end Usx

end ScriptureMarkup
