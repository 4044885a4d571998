import ScriptureMarkup.Proofs.Journal.Milestones
import ScriptureMarkup.Proofs.Milestones.Calls

namespace ScriptureMarkup

open Xml (Content Tag)

/-- The milestones that a text ends, from left to right and each with its id. No other tag may stand in the
text. -/
def Xml.endings? (text : String) : Option (List (String × String)) :=
  ((Xml.scan text.toList).bind Content.decode).bind fun content => content.tags.mapM Tag.ending?

namespace Usx

def endingsOf? (pieces : List Piece) : Option (List (String × String)) :=
  ((pieces.map Piece.token).filterMap Xml.Token.tag?).mapM Tag.ending?

theorem endingsOf?_append {front back : List Piece} {first second : List (String × String)}
    (ofFront : endingsOf? front = some first) (ofBack : endingsOf? back = some second) :
    endingsOf? (front ++ back) = some (first ++ second) := by
  unfold endingsOf? at *
  rw [List.map_append, List.filterMap_append, List.mapM_append, ofFront, ofBack]
  rfl

theorem endings?_markupText {pieces : List Piece} (sound : ∀ piece ∈ pieces, piece.Sound) :
    Xml.endings? (markupText pieces) = endingsOf? pieces := by
  rw [Xml.endings?, scan_markupText sound, Option.bind_some, Content.decode_escaped, Option.bind_some,
    Content.tags_ofTokens]
  rfl

def Reply.text (reply : Reply) : String := markupText reply.output.pieces

namespace Call

/-- The id that a call ends of an element. -/
def ending? (element : Element) (call : Call) (position : Position) : Option String :=
  if call.dialect.pairsMilestones && call.request.closes element then position.slot element else none

/-- What a call ends, the verse before the chapter. -/
def endings (call : Call) (position : Position) : List (String × String) :=
  ((call.ending? .verse position).map fun id => ("verse", id)).toList ++
    ((call.ending? .chapter position).map fun id => ("chapter", id)).toList

/-- What a call writes is what closes the verse and, if it closes the chapter, what closes that as well. -/
theorem output_serve (call : Call) (position : Position) :
    (call.serve position).2.output =
      if call.request.closes .chapter then (position.closeAll call.dialect).2
      else (position.closeVerse call.dialect).2 := by
  obtain ⟨dialect, request⟩ := call
  cases request <;> rfl

theorem sound_serve (call : Call) (position : Position) :
    ∀ piece ∈ (call.serve position).2.output.pieces, piece.Sound := by
  rw [output_serve]
  split
  · exact sound_closeAll call.dialect position
  · exact sound_closeVerse call.dialect position

theorem endingsOf?_milestoneEnd (dialect : Dialect) (element : Element) (id : Option String) :
    endingsOf? (Position.milestoneEnd dialect element.name id).pieces =
      some ((if dialect.pairsMilestones then id else none).map fun id => (element.name, id)).toList := by
  cases dialect <;> cases element <;> cases id <;> rfl

theorem endingsOf?_serve (call : Call) (position : Position) :
    endingsOf? (call.serve position).2.output.pieces = some (call.endings position) := by
  have verse : endingsOf? (position.closeVerse call.dialect).2.pieces =
      some ((call.ending? .verse position).map fun id => ("verse", id)).toList := by
    refine (endingsOf?_milestoneEnd call.dialect .verse position.openVerse).trans ?_
    rw [ending?, Request.closes_verse, Bool.and_true]
    rfl
  rw [output_serve]
  cases closing : call.request.closes .chapter with
  | false => simp [endings, verse, ending?, closing]
  | true =>
    refine (endingsOf?_append verse (endingsOf?_milestoneEnd call.dialect .chapter position.openChapter)).trans ?_
    rw [endings, ending?, ending?, closing, Bool.and_true]
    rfl

/-- A call writes no more than the end of a verse and, behind it, the end of a chapter. -/
theorem endings?_serve (call : Call) (position : Position) :
    Xml.endings? (call.serve position).2.text = some (call.endings position) := by
  rw [Reply.text, endings?_markupText (call.sound_serve position), endingsOf?_serve]

theorem mem_endings_iff {call : Call} {position : Position} {element : Element} {id : String} :
    (element.name, id) ∈ call.endings position ↔
      call.dialect = .usx3_0 ∧ call.request.closes element = true ∧ position.slot element = some id := by
  obtain ⟨dialect, request⟩ := call
  have pairs : dialect.pairsMilestones = true ↔ dialect = .usx3_0 := by cases dialect <;> decide
  cases element <;>
    simp [endings, ending?, Element.name, Request.closes_verse, pairs, and_assoc]

/-- Where all has been closed there is nothing to close. -/
theorem output_of_closed {before call : Call} (closed : before.request = .closeAll ∨ ∃ code, before.request = .book code)
    (idle : call.request = .closeAll) (position : Position) :
    (call.serve (before.serve position).1).2.output = .nothing := by
  have nothing (element : Element) : (before.serve position).1.slot element = none := by
    rw [slot_serve]
    rcases closed with all | ⟨code, book⟩
    · cases element <;> simp [opens, all, Request.enters, Request.closes]
    · cases element <;> simp [opens, book, Request.enters, Request.closes]
  have verse : (before.serve position).1.openVerse = none := nothing .verse
  have chapter : (before.serve position).1.openChapter = none := nothing .chapter
  rw [output_serve, idle]
  simp only [Request.closes, if_true, Position.closeAll, Position.closeVerse, verse, chapter]
  rfl

end Call

theorem sound_replies {position : Position} {calls : List Call} {reply : Reply} (member : reply ∈ replies position calls) :
    ∀ piece ∈ reply.output.pieces, piece.Sound := by
  obtain ⟨call, there, rfl⟩ := exists_serve_of_mem_replies member
  exact call.sound_serve there

theorem endingsOf?_replies (position : Position) (calls : List Call) :
    endingsOf? ((replies position calls).flatMap fun reply => reply.output.pieces) =
      some ((replies position calls).flatMap fun reply => (Xml.endings? reply.text).getD []) := by
  induction calls generalizing position with
  | nil => rfl
  | cons call calls ih =>
    rw [replies, List.flatMap_cons, List.flatMap_cons, call.endings?_serve]
    exact endingsOf?_append (call.endingsOf?_serve position) (ih _)

/-- What calls write one after the other reads as what each of them writes for itself. -/
theorem endings?_join (position : Position) (calls : List Call) :
    Xml.endings? (String.join ((replies position calls).map Reply.text)) =
      some ((replies position calls).flatMap fun reply => (Xml.endings? reply.text).getD []) := by
  have joined : String.join ((replies position calls).map Reply.text) =
      markupText ((replies position calls).flatMap fun reply => reply.output.pieces) := by
    rw [← String.toList_inj, markupText, String.toList_join, String.toList_join, List.map_flatMap, List.flatMap_assoc,
      List.flatMap_map]
    exact List.flatMap_congr fun reply _ => String.toList_join
  have sound : ∀ piece ∈ (replies position calls).flatMap fun reply => reply.output.pieces, piece.Sound := by
    intro piece member
    obtain ⟨reply, replied, inside⟩ := List.mem_flatMap.mp member
    exact sound_replies replied piece inside
  rw [joined, endings?_markupText sound, endingsOf?_replies]

section History

variable {calls : List Call} {element : Element} {id : String} {k : Nat}

/-- Of some calls on a new position, the one with a given number writes the end of a milestone. -/
def Ends (calls : List Call) (element : Element) (k : Nat) (id : String) : Prop :=
  ∃ reply written, (replies .start calls)[k]? = some reply ∧ Xml.endings? reply.text = some written ∧
    (element.name, id) ∈ written

/-- A milestone ends where the first call that closes it is one in the dialect with ends. -/
theorem ends_iff : Ends calls element k id ↔
    ∃ i, Opens calls element i id ∧ ClosesFirst calls element i k ∧
      ∃ call, calls[k]? = some call ∧ call.dialect = .usx3_0 := by
  constructor
  · rintro ⟨reply, written, replied, read, member⟩
    rw [getElem?_replies, Option.map_eq_some_iff] at replied
    obtain ⟨call, made, rfl⟩ := replied
    rw [Call.endings?_serve] at read
    cases read
    obtain ⟨later, closes, slot⟩ := Call.mem_endings_iff.mp member
    have bound : k ≤ calls.length := Nat.le_of_lt (List.getElem?_eq_some_iff.mp made).1
    obtain ⟨i, before, opens, untouched⟩ := (slot_serveAll_iff bound).mp slot
    exact ⟨i, opens, ⟨before, untouched, call, made, closes⟩, call, made, later⟩
  · rintro ⟨i, opens, ⟨before, untouched, call, made, closes⟩, same, found, later⟩
    cases made.symm.trans found
    have bound : k ≤ calls.length := Nat.le_of_lt (List.getElem?_eq_some_iff.mp made).1
    have slot := (slot_serveAll_iff bound).mpr ⟨i, before, opens, untouched⟩
    have replied : (replies .start calls)[k]? = some (call.serve (serveAll .start (calls.take k))).2 := by
      rw [getElem?_replies, made, Option.map_some]
    exact ⟨_, _, replied, Call.endings?_serve call _, Call.mem_endings_iff.mpr ⟨later, closes, slot⟩⟩

end History

/-- However a new position is used, call by call in either dialect, all that is written are ends of milestones.
A call writes at most the end of a verse and then that of a chapter. The end of an id is written exactly
where an earlier call in 3.0 has gone to a chapter or a verse and given back this id, and the first
call to close it is in 3.0 as well. So each id that is given back ends at most once, before the next chapter or
verse is gone to; if it is closed in 2.5 it ends nowhere, since an end with the same id belongs to a later call
that gave it back again. What closes all behind a book, or behind what has closed all, writes nothing. -/
theorem milestones_pair_under_any_calls (calls : List Call) :
    Xml.endings? (String.join ((replies .start calls).map Reply.text)) =
        some ((replies .start calls).flatMap fun reply => (Xml.endings? reply.text).getD []) ∧
      (∀ reply ∈ replies .start calls, ∃ verse chapter : Option String, Xml.endings? reply.text =
        some ((verse.map fun id => ("verse", id)).toList ++ (chapter.map fun id => ("chapter", id)).toList)) ∧
      (∀ element k id, Ends calls element k id ↔
        ∃ i, Opens calls element i id ∧ ClosesFirst calls element i k ∧
          ∃ call, calls[k]? = some call ∧ call.dialect = .usx3_0) ∧
      (∀ element i k id, Opens calls element i id → ClosesFirst calls element i k →
        (∀ other, ClosesFirst calls element i other → other = k) ∧
        (∀ other otherId, Opens calls element other otherId → ClosesFirst calls element other k → other = i) ∧
        ∀ j call, i < j → j < k → calls[j]? = some call → call.request.enters element = false) ∧
      (∀ element i k id call, Opens calls element i id → ClosesFirst calls element i k → calls[k]? = some call →
        call.dialect = .usx2_5 → ∀ later, i < later → Ends calls element later id →
          ∃ other, i < other ∧ other < later ∧ Opens calls element other id) ∧
      ∀ k before call reply, calls[k]? = some before → calls[k + 1]? = some call →
        before.request = .closeAll ∨ (∃ code, before.request = .book code) → call.request = .closeAll →
          (replies .start calls)[k + 1]? = some reply → reply.output = .nothing ∧ reply.text = "" := by
  refine ⟨endings?_join .start calls, fun reply member => ?form, fun element k id => ends_iff,
    fun element i k id opens first => ?once, fun element i k id call opens first made earlier later behind ends => ?never,
    fun k before call reply made next closed idle replied => ?idle⟩
  case form =>
    obtain ⟨call, there, rfl⟩ := exists_serve_of_mem_replies member
    exact ⟨_, _, call.endings?_serve there⟩
  case once =>
    refine ⟨fun other => first.unique, fun other otherId otherOpens otherFirst => ?_, fun j call => first.enters_between⟩
    exact first.opening_unique otherFirst opens otherOpens
  case never =>
    obtain ⟨other, otherOpens, otherFirst, closing, found, paired⟩ := ends_iff.mp ends
    refine ⟨other, ?_, otherFirst.behind, otherOpens⟩
    rcases Nat.lt_trichotomy other i with before | rfl | between
    · exact absurd opens (otherFirst.not_opens_between before behind)
    · -- the same call would be closed twice, by calls in two dialects
      cases first.unique otherFirst
      cases made.symm.trans found
      rw [paired] at earlier
      cases earlier
    · exact between
  case idle =>
    rw [getElem?_replies, next, Option.map_some, Option.some.injEq, serveAll_take_succ made] at replied
    have nothing := Call.output_of_closed closed idle (serveAll .start (calls.take k))
    rw [replied] at nothing
    refine ⟨nothing, ?_⟩
    rw [Reply.text, nothing]
    rfl

/-- A verse that is opened in 3.0 and closed in 2.5, in a chapter that is opened and closed in 3.0. -/
def callsInTwoDialects : List Call :=
  [⟨.usx3_0, .chapter 1⟩, ⟨.usx3_0, .verse "1"⟩, ⟨.usx2_5, .verse "2"⟩, ⟨.usx3_0, .closeAll⟩]

theorem milestones_pair_under_calls_in_two_dialects :
    Ends callsInTwoDialects .chapter 3 "1" ∧ ∀ k, ¬Ends callsInTwoDialects .verse k "1:1" := by
  obtain ⟨_, _, ends, _, never, _⟩ := milestones_pair_under_any_calls callsInTwoDialects
  refine ⟨(ends .chapter 3 "1").mpr ⟨0, ⟨_, _, rfl, rfl, rfl, by decide⟩, ?chapter, _, rfl, rfl⟩, fun k ended => ?verse⟩
  case chapter =>
    refine ⟨by decide, fun j call behind earlier made => ?_, _, rfl, rfl⟩
    obtain rfl | rfl : j = 1 ∨ j = 2 := by omega
    · cases made
      rfl
    · cases made
      rfl
  case verse =>
    have only {i : Nat} {id : String} (opens : Opens callsInTwoDialects .verse i id) : i = 1 := by
      obtain ⟨call, _, made, _, opening, _⟩ := opens
      match i with
      | 1 => rfl
      | 0 | 2 | 3 =>
        cases made
        cases opening
      | i + 4 => cases made
    have first : ClosesFirst callsInTwoDialects .verse 1 2 := by
      refine ⟨by decide, fun j call behind earlier => ?_, _, rfl, rfl⟩
      omega
    obtain ⟨i, opens, closed, _⟩ := (ends .verse k "1:1").mp ended
    cases only opens
    obtain ⟨other, behind, _, again⟩ := never .verse 1 2 "1:1" _ opens first rfl rfl k closed.behind ended
    have same := only again
    omega

end Usx

end ScriptureMarkup
