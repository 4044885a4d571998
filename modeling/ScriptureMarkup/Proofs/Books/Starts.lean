import ScriptureMarkup.Proofs.Markup.Picked

namespace ScriptureMarkup

open Xml (Node Tag Token)
open Xml.Node (picked tokensAll)
open Usx (Dialect Position)
open Marker (arriveAll gather reachedAll)

/-- The id that the start of a chapter or a verse brings. -/
def Xml.Tag.start? (tag : Tag) : Option String :=
  if tag.name = "chapter" ∨ tag.name = "verse" then tag.attributes.lookup "sid" else none

/-- The ids of the chapters and verses that start in a forest, from left to right. -/
def Xml.Node.starts (nodes : List Node) : List String :=
  ((tokensAll nodes).filterMap Token.tag?).filterMap Tag.start?

theorem Xml.Node.starts_append (front back : List Node) : starts (front ++ back) = starts front ++ starts back :=
  picked_append front back

theorem Xml.picksMilestones_start : Xml.PicksMilestones Tag.start? where
  noEnd name := by simp [Tag.start?, Tag.attributes]
  others tag other := by
    simp only [List.mem_cons, List.not_mem_nil, or_false, not_or] at other
    simp [Tag.start?, other]

theorem Xml.Tag.start?_finish (element id : String) : start? (.empty element [("eid", id)]) = none := by
  simp [start?, attributes]

theorem Text.decimal_inj {n m : Nat} (same : toString n = toString m) : n = m := by
  rw [Nat.toString_eq_ofList_toDigits, Nat.toString_eq_ofList_toDigits] at same
  have digits := congrArg (fun text => Nat.ofDigitChars 10 text.toList 0) same
  simpa only [String.toList_ofList, Nat.ofDigitChars_ten_toDigits] using digits

theorem Usx.Position.placeId_inj {position : Position} {first second : String}
    (same : position.placeId first = position.placeId second) : first = second := by
  unfold placeId at same
  split at same
  · exact same
  · split_ifs at same
    · exact same
    · exact (String.append_right_inj _).mp same

/-- In one book the id of a verse tells its chapter. -/
theorem Usx.Position.chapter_of_verseId {position other : Position} {number : String}
    (book : position.book = other.book) (same : position.verseId number = other.verseId number) :
    position.chapter = other.chapter := by
  have ids : position.placeId (toString position.chapter.toNat ++ ":" ++ number) =
      position.placeId (toString other.chapter.toNat ++ ":" ++ number) := by
    simpa only [verseId, placeId, book] using same
  have numbers := placeId_inj ids
  rw [String.append_left_inj, String.append_left_inj] at numbers
  exact UInt32.toNat_inj.mp (Text.decimal_inj numbers)

namespace Kind

/-- The id that a marker starts with, if it is a chapter or a verse. -/
def start? (position : Position) : Kind → Option String
  | .chapter number => some (position.chapterId number)
  | .verse number => some (position.verseId number)
  | _ => none

theorem starts_nodes (position : Position) (kind : Kind) :
    picked Tag.start? (kind.nodes .usx3_0 position []) = (kind.start? position).toList := by
  obtain ⟨verse, ends⟩ := position.picked_ends Xml.Tag.start?_finish .usx3_0
  cases kind with
  | field | heading | leveled | bare => exact Xml.picksMilestones_start.nodes_formed rfl ..
  | text | word | book | chapter | verse | unknown =>
    simp [nodes, start?, Node.lineBreak, Node.picked_element Xml.picksMilestones_start.noEnd, ends, verse, Tag.start?,
      Xml.Tag.name, Tag.attributes, List.lookup_cons, Usx.startEntries]

end Kind

namespace Marker

/-- The ids that markers start which are entered one after the other. -/
def starts (position : Position) : List Marker → List String
  | [] => []
  | marker :: markers => (marker.kind.start? position).toList ++ starts (marker.kind.arrive .usx3_0 position) markers

theorem starts_eq_gather (position : Position) (markers : List Marker) :
    starts position markers =
      gather .usx3_0 (fun position marker => (marker.kind.start? position).toList) position markers := by
  induction markers generalizing position with
  | nil => rfl
  | cons marker markers ih => rw [starts, gather, ih]

theorem starts_append (position : Position) (front back : List Marker) :
    starts position (front ++ back) = starts position front ++ starts (arriveAll .usx3_0 position front) back := by
  simp only [starts_eq_gather, gather_append]

/-- Where a verse comes before the first chapter, its id tells which chapter was entered last. -/
theorem starts_ne {markers : List Marker} (loose : ¬Anchored markers) {position other : Position}
    (book : position.book = other.book) (chapter : position.chapter ≠ other.chapter) :
    starts position markers ≠ starts other markers := by
  induction markers generalizing position other with
  | nil => exact absurd anchored_nil loose
  | cons marker markers ih =>
    obtain ⟨kind, contents⟩ := marker
    rw [anchored_cons, not_or, not_and_or] at loose
    obtain ⟨noChapter, verses⟩ := loose
    cases kind with
    | chapter number => exact absurd rfl noChapter
    | verse number =>
      intro same
      obtain ⟨ids, _⟩ := List.cons.inj same
      exact chapter (Position.chapter_of_verseId book ids)
    | book identifier =>
      exact ih (verses.resolve_left (by simp [Kind.isVerse])) rfl chapter
    | text | word | field | heading | leveled | bare | unknown =>
      exact ih (verses.resolve_left (by simp [Kind.isVerse])) book chapter

end Marker

theorem Document.starts_nodes (partialOutput collectStatistics : Bool) (document : Document) :
    Node.starts (document.nodes ⟨partialOutput, .usx3_0, collectStatistics⟩) =
      Marker.starts .start (reachedAll document.contents) := by
  change picked _ _ = _
  rw [document.picked_nodes Xml.picksMilestones_start.noEnd Xml.picksMilestones_start.root,
    (Position.picked_ends Xml.Tag.start?_finish _ _).2, List.append_nil, Marker.starts_eq_gather]
  simp only [Kind.starts_nodes]

end ScriptureMarkup
