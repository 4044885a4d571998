import ScriptureMarkup.Proofs.Markup.Body
import ScriptureMarkup.Proofs.Milestones.Slots

namespace ScriptureMarkup.Usx

open Xml (Slots)

/-- A piece that is no tag of a book, a chapter or a verse. -/
def Piece.Other : Piece → Prop
  | .startTag element _ _ | .emptyTag element _ _ | .endTag element => element ∉ ["book", "chapter", "verse"]
  | .characters _ => True

theorem read_others {pieces : List Piece} (others : ∀ piece ∈ pieces, piece.Other) (slots : Slots) :
    slots.read (pieces.filterMap Piece.writtenTag?) = some slots := by
  refine Slots.read_others (fun tag member => ?_) slots
  obtain ⟨piece, inside, written⟩ := List.mem_filterMap.mp member
  have other := others piece inside
  cases piece <;> cases written <;> exact other

theorem read_both {slots between later : Slots} {front back : List Piece}
    (first : slots.read (front.filterMap Piece.writtenTag?) = some between)
    (second : between.read (back.filterMap Piece.writtenTag?) = some later) :
    slots.read ((front ++ back).filterMap Piece.writtenTag?) = some later := by
  rw [List.filterMap_append, Slots.read_append first]
  exact second

/-- What is open at a position, as it is written. -/
def Position.slots (position : Position) : Slots :=
  ⟨position.openChapter.map escapedAttribute, position.openVerse.map escapedAttribute⟩

theorem Shape.other_enter (shape : Shape) (style text : String) (position : Position) :
    (Step.still position (shape.enter style text)).Every Piece.Other := by
  cases shape <;>
    simp [Step.Every, Step.still, Shape.enter, Shape.enter.wholeParagraph, Piece.Other, Piece.lineBreak]

theorem read_closeVerse (position : Position) :
    position.slots.read ((position.closeVerse .usx3_0).2.pieces.filterMap Piece.writtenTag?) =
      some (position.closeVerse .usx3_0).1.slots := by
  obtain ⟨book, chapter, verse, openChapter, openVerse⟩ := position
  cases openVerse with
  | none => rfl
  | some id =>
    change Slots.read ⟨_, some _⟩ [.empty "verse" [("eid", escapedAttribute id)]] = _
    simp [Slots.read, Slots.advance, Xml.Tag.name, Xml.Tag.milestone?, Xml.Tag.attributes, Position.closeVerse,
      Position.slots]

theorem read_closeChapter {position : Position} (noVerse : position.openVerse = none) :
    position.slots.read
        ((Position.milestoneEnd .usx3_0 "chapter" position.openChapter).pieces.filterMap Piece.writtenTag?) =
      some .empty := by
  obtain ⟨book, chapter, verse, openChapter, openVerse⟩ := position
  cases noVerse
  cases openChapter with
  | none => rfl
  | some id =>
    change Slots.read ⟨some _, none⟩ [.empty "chapter" [("eid", escapedAttribute id)]] = _
    simp [Slots.read, Slots.advance, Xml.Tag.name, Xml.Tag.milestone?, Xml.Tag.attributes]

theorem read_closeAll (position : Position) :
    position.slots.read ((position.closeAll .usx3_0).2.pieces.filterMap Piece.writtenTag?) = some .empty :=
  read_both (read_closeVerse position) (read_closeChapter rfl)

/-- Entering a marker closes what it has to close and opens what it leaves open. -/
theorem read_enter {kind : Kind} {position : Position} {step : Step}
    (stepped : enter .usx3_0 kind position = .ok step) :
    position.slots.read (step.output.pieces.filterMap Piece.writtenTag?) = some step.position.slots ∧
      ∀ close, step.visit = .children close → ∀ piece ∈ close, piece.Other := by
  cases entered_of_enter stepped with
  | text | unknown => exact ⟨rfl, by simp [Step.still]⟩
  | book => exact ⟨read_both (read_closeAll position) rfl, by simp⟩
  | chapter number => exact ⟨read_both (read_closeAll position) rfl, by simp⟩
  | verse number => exact ⟨read_both (read_closeVerse position) rfl, by simp⟩
  | word term attributes =>
    have others : ∀ piece ∈ [.startTag "char" (some "w") (Dialect.wordAttributes .usx3_0 attributes), .characters term],
        Piece.Other piece := by simp [Piece.Other]
    exact ⟨read_others others position.slots, by simp [Piece.Other]⟩
  | @form _ shape style text =>
    obtain ⟨before, behind⟩ := shape.other_enter style text position
    exact ⟨read_others before position.slots, behind⟩

/-- Reading all that has been written so far leads to what is open. -/
def Progress.Tracked (progress : Progress) : Prop :=
  Slots.read .empty (progress.markup.toList.filterMap Piece.writtenTag?) = some progress.position.slots

theorem kept_tracked : Kept .usx3_0 Progress.Tracked where
  enter entered before := by
    obtain ⟨step, stepped, position, markup, _⟩ := Progress.enter_ok entered
    rw [Progress.Tracked, markup, Array.toList_appendList, position]
    exact read_both before (read_enter stepped).1
  close entered inner := by
    obtain ⟨step, stepped, _, _, closes⟩ := Progress.enter_ok entered
    have others := (read_enter stepped).2 _ ((closes _).mp rfl)
    rw [Progress.Tracked, Progress.put, Array.toList_appendList]
    exact read_both inner (read_others others _)

theorem read_wrap (options : Options) {pieces : List Piece}
    (accepted : Slots.read .empty (pieces.filterMap Piece.writtenTag?) = some .empty) :
    Slots.read .empty ((options.wrap pieces).filterMap Piece.writtenTag?) = some .empty := by
  unfold Options.wrap
  split
  · exact accepted
  · have opens : ∀ piece ∈ [.lineBreak, .startTag "usx" none [("version", options.dialect.version)], .lineBreak],
        Piece.Other piece := by simp [Piece.Other, Piece.lineBreak]
    have closes : ∀ piece ∈ [.endTag "usx", .lineBreak], Piece.Other piece := by simp [Piece.Other, Piece.lineBreak]
    have whole := read_both (read_others opens .empty) (read_both accepted (read_others closes .empty))
    exact whole

/-- Every chapter and every verse that is opened ends once, before the next of its kind begins,
however the markers are nested and whatever they are called. -/
theorem milestones_pair {partialOutput collectStatistics : Bool} {document : Document} {result : RenderResult}
    (rendered : (render ⟨partialOutput, .usx3_0, collectStatistics⟩ document).2 = .ok result) :
    ∃ content, Xml.scan (Xml.body result.content.toList) = some content ∧
      Slots.read .empty content.tags = some .empty ∧
      ∀ element ∈ ["chapter", "verse"], ∃ ids : List String,
        (content.tags.filter fun tag => tag.name = element).map Xml.Tag.milestone? =
          ids.flatMap fun id => [some (.start id), some (.finish id)] := by
  obtain ⟨progress, ran, rfl⟩ := render_ok_iff.mp rendered
  obtain ⟨_, scanned⟩ := scan_body ran
  have walked := kept_tracked.visitAll ran rfl
  have accepted : Slots.read .empty ((progress.pieces .usx3_0).filterMap Piece.writtenTag?) = some .empty := by
    rw [Progress.pieces_eq]
    exact read_both walked (read_closeAll progress.position)
  have whole := read_wrap ⟨partialOutput, .usx3_0, collectStatistics⟩ accepted
  rw [← tags_written] at whole
  refine ⟨_, scanned, whole, fun element known => ?_⟩
  simpa [Slots.of, Slots.empty] using Slots.alternate known whole

/-- A verse before any chapter, and a chapter that comes twice, once in a table in the other. -/
theorem milestones_pair_of_repeated_chapter :
    ∃ result, (render ⟨true, .usx3_0, false⟩
        ⟨[⟨.verse "1", []⟩, ⟨.chapter 1, [⟨.verse "1", []⟩, ⟨.bare .table, [⟨.chapter 1, []⟩]⟩]⟩]⟩).2 = .ok result ∧
      ∃ content, Xml.scan (Xml.body result.content.toList) = some content ∧
        Slots.read .empty content.tags = some .empty := by
  obtain ⟨result, rendered⟩ : ∃ result, (render ⟨true, .usx3_0, false⟩
      ⟨[⟨.verse "1", []⟩, ⟨.chapter 1, [⟨.verse "1", []⟩, ⟨.bare .table, [⟨.chapter 1, []⟩]⟩]⟩]⟩).2 = .ok result := by
    refine render_succeeds fun journal => ?_
    simp only [visitAll, visit, Progress.enter, enter]
    exact ⟨_, rfl⟩
  obtain ⟨content, scanned, accepted, _⟩ := milestones_pair rendered
  exact ⟨result, rendered, content, scanned, accepted⟩

end ScriptureMarkup.Usx
