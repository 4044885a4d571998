import ScriptureMarkup.Proofs.Books.Offsets
import ScriptureMarkup.Proofs.Books.Starts
import ScriptureMarkup.Proofs.Milestones.Places

namespace ScriptureMarkup

open Usx (splitBookIdentifier)
open Marker (arriveAll reachedAll)

namespace Text

/-- The digits at the front of a text are those of the number that it begins with, if no digit follows. -/
theorem takeWhile_isDigit_decimal (n : Nat) {rest : List Char} (ends : ∀ c ∈ rest.head?, c.isDigit = false) :
    ((toString n).toList ++ rest).takeWhile Char.isDigit = (toString n).toList := by
  have digits : ∀ c ∈ (toString n).toList, c.isDigit = true := by
    rw [Nat.toString_eq_ofList_toDigits, String.toList_ofList]
    exact fun c member => Nat.isDigit_of_mem_toDigits (by decide) (by decide) member
  rw [List.takeWhile_append_of_pos digits]
  cases rest with
  | nil => rw [List.takeWhile_nil, List.append_nil]
  | cons c rest => simp [ends c rfl]

theorem decimal_append_inj {n m : Nat} {rest other : List Char} (ends : ∀ c ∈ rest.head?, c.isDigit = false)
    (otherEnds : ∀ c ∈ other.head?, c.isDigit = false)
    (same : (toString n).toList ++ rest = (toString m).toList ++ other) : n = m ∧ rest = other := by
  have numbers : (toString n).toList = (toString m).toList := by
    rw [← takeWhile_isDigit_decimal n ends, same, takeWhile_isDigit_decimal m otherEnds]
  refine ⟨decimal_inj (String.toList_inj.mp numbers), ?_⟩
  rwa [numbers, List.append_cancel_left_eq] at same

end Text

/-- What the id of a chapter or a verse below a book is made of. -/
structure Reference where
  code : String
  chapter : UInt32
  verse : Option String
  deriving DecidableEq

namespace Reference

/-- What follows the number of the chapter. -/
def verseText (reference : Reference) : String :=
  match reference.verse with
  | none => ""
  | some number => ":" ++ number

def id (reference : Reference) : String :=
  reference.code ++ " " ++ toString reference.chapter.toNat ++ reference.verseText

/-- No digit follows the number of the chapter, since what follows is a colon if anything. -/
theorem verseText_ends (reference : Reference) : ∀ c ∈ reference.verseText.toList.head?, c.isDigit = false := by
  unfold verseText
  cases reference.verse with
  | none => simp
  | some number =>
    simp only [String.toList_append]
    rintro c ⟨⟩
    rfl

theorem verse_eq_of_verseText {reference other : Reference} (same : reference.verseText = other.verseText) :
    reference.verse = other.verse := by
  unfold verseText at same
  have colon (number : String) : ":" ++ number ≠ "" := by simp
  cases verse : reference.verse with
  | none =>
    cases otherVerse : other.verse with
    | none => rfl
    | some number => exact absurd (by simpa only [verse, otherVerse] using same.symm) (colon number)
  | some number =>
    cases otherVerse : other.verse with
    | none => exact absurd (by simpa only [verse, otherVerse] using same) (colon number)
    | some otherNumber =>
      simp only [verse, otherVerse] at same
      rw [(String.append_right_inj _).mp same]

/-- An id of a code of three characters can be taken apart in one way only: the code ends at the third
character, and the number of the chapter where its digits end. -/
theorem eq_of_id {reference other : Reference} (three : reference.code.length = 3) (otherThree : other.code.length = 3)
    (same : reference.id = other.id) : reference = other := by
  have characters := congrArg String.toList same
  simp only [id, String.toList_append, List.append_assoc] at characters
  have lengths : reference.code.toList.length = other.code.toList.length := by
    rw [String.length_toList, String.length_toList, three, otherThree]
  obtain ⟨code, rest⟩ := List.append_inj characters lengths
  obtain ⟨chapter, verse⟩ :=
    Text.decimal_append_inj reference.verseText_ends other.verseText_ends (List.append_cancel_left rest)
  have codes : reference.code = other.code := String.toList_inj.mp code
  have chapters : reference.chapter = other.chapter := UInt32.toNat_inj.mp chapter
  have verses : reference.verse = other.verse := verse_eq_of_verseText (String.toList_inj.mp verse)
  cases reference
  cases other
  cases codes
  cases chapters
  cases verses
  rfl

end Reference

namespace Kind

def verse? : Kind → Option String
  | .verse number => some number
  | _ => none

theorem isVerse_eq (kind : Kind) : kind.isVerse = kind.verse?.isSome := by cases kind <;> rfl

/-- A milestone is a chapter or a verse, and not both. -/
theorem isChapter_of_isMilestone {kind : Kind} (milestone : kind.isMilestone = true) :
    kind.isChapter = !kind.isVerse := by
  cases kind <;> first | rfl | cases milestone

theorem isSome_start? (position : Usx.Position) (kind : Kind) : (kind.start? position).isSome = kind.isMilestone := by
  cases kind <;> rfl

end Kind

/-- The place that an id names below a book: the chapter is that of the marker itself or the last one
before it. -/
def Marker.referenceBehind (before : List Marker) (identifier : String) (marker : Marker) : Reference :=
  ⟨Kind.bookCode identifier, lastChapter 1 (before ++ [marker]), marker.kind.verse?⟩

theorem lastChapter_append_singleton (start : UInt32) (before : List Marker) (marker : Marker) :
    lastChapter start (before ++ [marker]) = marker.kind.chapter?.getD (lastChapter start before) := by
  unfold lastChapter
  cases chapter : marker.kind.chapter? <;> simp [List.filterMap_append, chapter]

theorem bookPrefix_of_lastBook {before : List Marker} {identifier : String} (book : lastBook before = some identifier) :
    bookPrefix before = Kind.bookCode identifier ++ " " := by
  rw [bookPrefix, book]
  rfl

/-- The id that a chapter or a verse starts with below a book. -/
theorem Marker.start?_arriveAll {before : List Marker} {identifier : String} {marker : Marker}
    (nameable : ∀ marker ∈ before, marker.kind.isNameable = true) (book : lastBook before = some identifier)
    (milestone : marker.kind.isMilestone = true) :
    marker.kind.start? (arriveAll .usx3_0 .start before) = some (marker.referenceBehind before identifier).id := by
  have chapter : (arriveAll .usx3_0 .start before).chapter = lastChapter 1 before :=
    Marker.chapter_arriveAll .usx3_0 .start before
  have placed (numbers : String) : (arriveAll .usx3_0 .start before).placeId numbers =
      Kind.bookCode identifier ++ " " ++ numbers := by
    rw [placeId_arriveAll nameable, bookPrefix_of_lastBook book]
  obtain ⟨kind, contents⟩ := marker
  rw [referenceBehind, lastChapter_append_singleton]
  cases kind with
  | chapter number =>
    refine congrArg some ((placed (toString number.toNat)).trans ?_)
    exact String.append_empty.symm
  | verse number =>
    refine congrArg some ((placed _).trans ?_)
    rw [chapter, Reference.id, ← String.append_assoc, ← String.append_assoc, String.append_assoc]
    rfl
  | _ => cases milestone

namespace Usx

/-- The start of a chapter or a verse in what is rendered under USX 3.0, with the marker that it stands for
and the text that names the book: the walk has entered them in this order, and the start comes behind those
of the chapters and verses that were entered before. -/
structure WrittenStart where
  partialOutput : Bool
  collectStatistics : Bool
  document : Document
  result : RenderResult
  rendered : (render ⟨partialOutput, .usx3_0, collectStatistics⟩ document).2 = .ok result
  before : List Marker
  marker : Marker
  after : List Marker
  entered : trail .usx3_0 (2 * Marker.countAll document.contents) (enterAll document.contents [])
    (.start #[openingRecord ⟨partialOutput, .usx3_0, collectStatistics⟩ document]) = before ++ marker :: after
  milestone : marker.kind.isMilestone = true
  identifier : String
  book : lastBook before = some identifier
  content : Xml.Content
  meant : Xml.Content
  scanned : Xml.scan (Xml.body result.content.toList) = some content
  decoded : content.decode = some meant
  id : String
  named : (meant.tags.filterMap Xml.Tag.start?)[before.countP (·.kind.isMilestone)]? = some id

/-- The ids in a rendering are those that the markers bring which are reached. -/
theorem render_reads_as_starts {partialOutput collectStatistics : Bool} {document : Document} {result : RenderResult}
    (rendered : (render ⟨partialOutput, .usx3_0, collectStatistics⟩ document).2 = .ok result) :
    ∃ content meant, Xml.scan (Xml.body result.content.toList) = some content ∧ content.decode = some meant ∧
      meant.tags.filterMap Xml.Tag.start? = Marker.starts .start (reachedAll document.contents) ∧
      trail .usx3_0 (2 * Marker.countAll document.contents) (enterAll document.contents [])
        (.start #[openingRecord ⟨partialOutput, .usx3_0, collectStatistics⟩ document]) =
          reachedAll document.contents := by
  obtain ⟨content, scanned, decoded, entered⟩ := render_reads_as_nodes rendered
  refine ⟨content, _, scanned, decoded, ?_, entered _ (Nat.le_refl _)⟩
  rw [Xml.Content.tags_ofTokens]
  exact document.starts_nodes partialOutput collectStatistics

/-- The id with the number of a chapter or a verse is the one that the marker brings. -/
theorem getElem?_starts {before after : List Marker} {marker : Marker} (milestone : marker.kind.isMilestone = true) :
    (Marker.starts .start (before ++ marker :: after))[before.countP (·.kind.isMilestone)]? =
      marker.kind.start? (arriveAll .usx3_0 .start before) := by
  have one (position : Position) (marker : Marker) :
      (marker.kind.start? position).isSome = marker.kind.isMilestone := marker.kind.isSome_start? position
  rw [Marker.starts_eq_gather]
  exact Marker.getElem?_gather one milestone

namespace WrittenStart

/-- The place that the marker of a start stands at. -/
def reference (start : WrittenStart) : Reference := start.marker.referenceBehind start.before start.identifier

theorem nameable_before (start : WrittenStart) : ∀ marker ∈ start.before, marker.kind.isNameable = true := by
  have nameable := render_ok_iff_nameable.mp ⟨start.result, start.rendered⟩
  obtain ⟨_, _, _, _, _, entered⟩ := render_reads_as_starts start.rendered
  rw [← entered, start.entered] at nameable
  exact fun marker member => nameable marker (List.mem_append_left _ member)

theorem id_eq (start : WrittenStart) : start.id = start.reference.id := by
  obtain ⟨content, meant, scanned, decoded, starts, entered⟩ := render_reads_as_starts start.rendered
  cases start.scanned.symm.trans scanned
  cases start.decoded.symm.trans decoded
  have named := start.named
  rw [starts, ← entered, start.entered, getElem?_starts start.milestone,
    Marker.start?_arriveAll start.nameable_before start.book start.milestone] at named
  exact (Option.some.inj named).symm

/-- The book of a start has a code, of three characters. -/
theorem splitBookIdentifier_eq (start : WrittenStart) :
    start.reference.code.length = 3 ∧
      ∃ label, splitBookIdentifier start.identifier = .ok (start.reference.code, label) := by
  obtain ⟨marker, member, named⟩ := lastBook_mem start.book
  have nameable := start.nameable_before marker member
  rw [named, Kind.isNameable, decide_eq_true_iff] at nameable
  obtain ⟨⟨code, label⟩, split⟩ := splitBookIdentifier_ok_iff.mpr nameable
  obtain ⟨rfl, _⟩ := splitBookIdentifier_ok split
  exact ⟨(splitBookIdentifier_eq_ok_iff.mp split).1, label, split⟩

/-- Every chapter and every verse that is reached below a book has a start. -/
theorem exists_of_reached (partialOutput collectStatistics : Bool) (document : Document) {before after : List Marker}
    {marker : Marker} {identifier : String}
    (nameable : ∀ marker ∈ reachedAll document.contents, marker.kind.isNameable = true)
    (reached : reachedAll document.contents = before ++ marker :: after)
    (milestone : marker.kind.isMilestone = true) (book : lastBook before = some identifier) :
    ∃ start : WrittenStart, start.partialOutput = partialOutput ∧ start.collectStatistics = collectStatistics ∧
      start.document = document ∧ start.before = before ∧ start.marker = marker ∧ start.identifier = identifier := by
  obtain ⟨result, rendered⟩ : ∃ result, (render ⟨partialOutput, .usx3_0, collectStatistics⟩ document).2 = .ok result :=
    render_ok_iff_nameable.mpr nameable
  obtain ⟨content, meant, scanned, decoded, starts, entered⟩ := render_reads_as_starts rendered
  have named : (meant.tags.filterMap Xml.Tag.start?)[before.countP (·.kind.isMilestone)]? =
      some (marker.referenceBehind before identifier).id := by
    rw [starts, reached, getElem?_starts milestone]
    rw [reached] at nameable
    exact Marker.start?_arriveAll (fun marker member => nameable marker (List.mem_append_left _ member)) book milestone
  exact ⟨⟨partialOutput, collectStatistics, document, result, rendered, before, marker, after, entered.trans reached,
    milestone, identifier, book, content, meant, scanned, decoded, _, named⟩, rfl, rfl, rfl, rfl, rfl, rfl⟩

end WrittenStart

/-- Below books an id tells its place, in all documents alike: a chapter or a verse, the code of the book, the
chapter, and the verse as it was written, whatever characters the code and the verse hold. -/
theorem ids_are_unambiguous (first second : WrittenStart) (same : first.id = second.id) :
    first.marker.kind.isChapter = second.marker.kind.isChapter ∧
      first.marker.kind.isVerse = second.marker.kind.isVerse ∧
      (∃ code label otherLabel, splitBookIdentifier first.identifier = .ok (code, label) ∧
        splitBookIdentifier second.identifier = .ok (code, otherLabel)) ∧
      lastChapter 1 (first.before ++ [first.marker]) = lastChapter 1 (second.before ++ [second.marker]) ∧
      first.marker.kind.verse? = second.marker.kind.verse? := by
  obtain ⟨three, label, split⟩ := first.splitBookIdentifier_eq
  obtain ⟨otherThree, otherLabel, otherSplit⟩ := second.splitBookIdentifier_eq
  rw [first.id_eq, second.id_eq] at same
  have references : first.reference = second.reference := Reference.eq_of_id three otherThree same
  have verses : first.marker.kind.verse? = second.marker.kind.verse? := congrArg Reference.verse references
  have isVerse : first.marker.kind.isVerse = second.marker.kind.isVerse := by
    rw [Kind.isVerse_eq, Kind.isVerse_eq, verses]
  refine ⟨?_, isVerse, ⟨_, label, otherLabel, split, references ▸ otherSplit⟩, congrArg Reference.chapter references,
    verses⟩
  rw [Kind.isChapter_of_isMilestone first.milestone, Kind.isChapter_of_isMilestone second.milestone, isVerse]

/-- A code with a space and a colon in it and a verse that looks like a place, in two documents. The second
goes to the chapter before it comes to the book. -/
theorem ids_are_unambiguous_of_spaces_and_colons :
    ∃ first second : WrittenStart,
      first.document = ⟨[⟨.book "1 :-One", []⟩, ⟨.chapter 7, [⟨.verse "2:3 4", []⟩]⟩]⟩ ∧
      second.document = ⟨[⟨.bare .table, [⟨.chapter 7, []⟩]⟩, ⟨.book "1 : Other", [⟨.verse "1", []⟩]⟩,
        ⟨.bare .p, [⟨.verse "2:3 4", []⟩]⟩]⟩ ∧
      first.id = second.id ∧ first.marker.kind.verse? = second.marker.kind.verse? := by
  have reached : reachedAll [⟨.book "1 :-One", []⟩, ⟨.chapter 7, [⟨.verse "2:3 4", []⟩]⟩] =
      [⟨.book "1 :-One", []⟩, ⟨.chapter 7, [⟨.verse "2:3 4", []⟩]⟩] ++ ⟨.verse "2:3 4", []⟩ :: [] := rfl
  have otherReached : reachedAll [⟨.bare .table, [⟨.chapter 7, []⟩]⟩, ⟨.book "1 : Other", [⟨.verse "1", []⟩]⟩,
      ⟨.bare .p, [⟨.verse "2:3 4", []⟩]⟩] =
        [⟨.bare .table, [⟨.chapter 7, []⟩]⟩, ⟨.chapter 7, []⟩, ⟨.book "1 : Other", [⟨.verse "1", []⟩]⟩,
          ⟨.bare .p, [⟨.verse "2:3 4", []⟩]⟩] ++ ⟨.verse "2:3 4", []⟩ :: [] := rfl
  obtain ⟨first, _, _, document, before, marker, identifier⟩ :=
    WrittenStart.exists_of_reached false true ⟨_⟩ (by decide) reached rfl rfl
  obtain ⟨second, _, _, otherDocument, otherBefore, otherMarker, otherIdentifier⟩ :=
    WrittenStart.exists_of_reached true false ⟨_⟩ (by decide) otherReached rfl rfl
  have same : first.id = second.id := by
    rw [first.id_eq, second.id_eq, WrittenStart.reference, WrittenStart.reference, before, marker, identifier,
      otherBefore, otherMarker, otherIdentifier]
    rfl
  exact ⟨first, second, document, otherDocument, same, (ids_are_unambiguous first second same).2.2.2.2⟩

end Usx

end ScriptureMarkup
