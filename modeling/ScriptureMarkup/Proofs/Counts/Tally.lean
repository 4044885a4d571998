import Mathlib.Algebra.Ring.Nat
import ScriptureMarkup.Proofs.Walk.Completeness

namespace ScriptureMarkup

namespace Usx

/-- Two numbers that 32 bits do not tell apart. A number that fits into them is the same as the other. -/
def SameIn32Bits (number told : Nat) : Prop :=
  number % 2 ^ 32 = told % 2 ^ 32 ∧ (number < 2 ^ 32 → told = number)

theorem sameIn32Bits_ofNat (number : Nat) : SameIn32Bits number (UInt32.ofNat number).toNat := by
  have told : (UInt32.ofNat number).toNat = number % 2 ^ 32 := UInt32.toNat_ofNat'
  refine ⟨?_, fun fits => ?_⟩
  · rw [told, Nat.mod_mod]
  · rw [told, Nat.mod_eq_of_lt fits]

theorem SameIn32Bits.add {number told : Nat} (same : SameIn32Bits number told) (more : Nat) :
    SameIn32Bits (number + more) (told + more) := by
  obtain ⟨wrapped, exact⟩ := same
  refine ⟨?_, fun fits => ?_⟩
  · rw [Nat.add_mod, wrapped, ← Nat.add_mod]
  · rw [exact (Nat.lt_of_le_of_lt (Nat.le_add_right number more) fits)]

namespace Statistics

theorem merge_assoc (counts more others : Statistics) :
    (counts.merge more).merge others = counts.merge (more.merge others) := by
  simp only [merge, UInt32.add_assoc]

theorem merge_zero (counts : Statistics) : counts.merge zero = counts := by
  simp only [merge, zero, UInt32.add_zero]

theorem zero_merge (counts : Statistics) : zero.merge counts = counts := by
  simp only [merge, zero, UInt32.zero_add]

/-- Statistics merged one behind the other. -/
def sum (all : List Statistics) : Statistics := all.foldr merge zero

theorem foldl_merge (all : List Statistics) (total : Statistics) : all.foldl merge total = total.merge (sum all) := by
  induction all generalizing total with
  | nil => exact (merge_zero total).symm
  | cons counts all ih => exact (ih _).trans (merge_assoc ..)

theorem sum_append (front back : List Statistics) : sum (front ++ back) = (sum front).merge (sum back) := by
  induction front with
  | nil => exact (zero_merge _).symm
  | cons counts front ih => exact (congrArg counts.merge ih).trans (merge_assoc ..).symm

/-- A marker adds to what has been counted, whatever that is. -/
theorem record_merge (kind : Kind) (counts more : Statistics) :
    record kind (counts.merge more) = counts.merge (record kind more) := by
  unfold record
  cases kind with
  | field tag | heading tag | leveled tag | bare tag => cases tag <;> simp only [merge, UInt32.add_assoc]
  | text | book | chapter | verse | word | unknown => simp only [merge, UInt32.add_assoc]

theorem record_eq_merge (kind : Kind) (counts : Statistics) : record kind counts = counts.merge (record kind zero) := by
  rw [← record_merge, merge_zero]

theorem recordUnrenderable_merge (counts more : Statistics) :
    recordUnrenderable (counts.merge more) = counts.merge more.recordUnrenderable := by
  simp only [recordUnrenderable, merge, UInt32.add_assoc]

theorem recordUnrenderable_eq_merge (counts : Statistics) :
    counts.recordUnrenderable = counts.merge zero.recordUnrenderable := by
  rw [← recordUnrenderable_merge, merge_zero]

end Statistics

/-- What there is to count in a marker that is written in a given form. -/
def Shape.counts : Shape → Statistics
  | .closedParagraph | .heading | .paragraph | .blankParagraph => { Statistics.zero with paragraphs := 1 }
  | .note => { Statistics.zero with notes := 1 }
  | .table => { Statistics.zero with tables := 1 }
  | .span | .row | .cell _ | .silent | .unrendered => .zero

/-- The list of the kinds that are counted goes with the list of their forms, tag by tag. -/
theorem Statistics.record_form {kind : Kind} {shape : Shape} {style text : String}
    (formed : kind.form? = some (shape, style, text)) : zero.record kind = shape.counts := by
  cases kind with
  | field tag =>
    cases formed
    cases tag <;> rfl
  | heading tag =>
    cases formed
    cases tag <;> rfl
  | leveled tag =>
    cases formed
    cases tag <;> rfl
  | bare tag =>
    cases formed
    cases tag <;> rfl
  | book | chapter | verse | text | word | unknown => cases formed

end Usx

namespace Marker

open Usx (Shape Statistics)

/-- What is counted when a marker is entered. -/
def share (marker : Marker) : Statistics :=
  if marker.kind.hasForm then Statistics.zero.record marker.kind else Statistics.zero.recordUnrenderable

/-- What is counted when markers are entered one after the other. -/
def tally (markers : List Marker) : Statistics := .sum (markers.map share)

theorem tally_append (front back : List Marker) : tally (front ++ back) = (tally front).merge (tally back) := by
  rw [tally, List.map_append, Statistics.sum_append, tally, tally]

theorem tally_cons (marker : Marker) (markers : List Marker) :
    tally (marker :: markers) = marker.share.merge (tally markers) :=
  rfl

/-- A marker that is told by its tag alone has a share by its form alone. -/
theorem share_form {marker : Marker} {shape : Shape} {style text : String}
    (formed : marker.kind.form? = some (shape, style, text)) :
    marker.share = if shape = .unrendered then Statistics.zero.recordUnrenderable else shape.counts := by
  rw [share, Statistics.record_form formed, Kind.hasForm_form formed]
  cases shape <;> rfl

theorem words_share (marker : Marker) :
    marker.share.words = UInt32.ofNat ((marker.text?.map Text.wordCount).getD 0) := by
  obtain ⟨kind, contents⟩ := marker
  cases kind with
  | text content => exact UInt32.zero_add _
  | field tag | heading tag | leveled tag | bare tag =>
    rw [share_form rfl]
    cases tag.shape <;> rfl
  | book | chapter | verse | word | unknown => rfl

/-- Only plain texts have words that count. -/
theorem words_tally (markers : List Marker) :
    (tally markers).words = UInt32.ofNat ((texts markers).map Text.wordCount).sum := by
  induction markers with
  | nil => rfl
  | cons marker markers ih =>
    rw [tally_cons, Statistics.merge, words_share, ih, ← UInt32.ofNat_add, texts, texts, List.filterMap_cons]
    cases marker.text? <;> simp

theorem unrenderable_share (marker : Marker) :
    marker.share.unrenderable = UInt32.ofNat (if marker.kind.hasForm then 0 else 1) := by
  obtain ⟨kind, contents⟩ := marker
  cases kind with
  | field tag | heading tag | leveled tag | bare tag =>
    rw [share_form rfl, Kind.hasForm]
    cases tag.shape <;> rfl
  | text | book | chapter | verse | word | unknown => rfl

theorem unrenderable_tally (markers : List Marker) :
    (tally markers).unrenderable = UInt32.ofNat (missing markers).length := by
  induction markers with
  | nil => rfl
  | cons marker markers ih =>
    rw [tally_cons, Statistics.merge, unrenderable_share, ih, ← UInt32.ofNat_add, missing, missing, List.length_map,
      List.length_map, List.filter_cons]
    cases marker.kind.hasForm <;> simp [Nat.add_comm]

end Marker

namespace Usx

open Marker (reachedAll tally)

theorem Progress.statistics_of_enter {dialect : Dialect} {marker : Marker} {before opened : Progress}
    {next : Option (List Piece)} (entered : before.enter dialect marker = .ok (opened, next)) :
    opened.statistics = before.statistics.merge marker.share := by
  unfold Progress.enter at entered
  split at entered
  · cases entered
  · rename_i step stepped
    obtain ⟨_, skips⟩ := visit_iff stepped
    unfold Marker.share
    split at entered <;> rename_i visited <;> rw [visited] at skips <;> cases entered
    · rw [if_pos (by simpa using skips), ← Statistics.record_eq_merge]
      rfl
    · rw [if_pos (by simpa using skips), ← Statistics.record_eq_merge]
      rfl
    · rw [if_neg (by simpa using skips), ← Statistics.recordUnrenderable_eq_merge]
      rfl

/-- Whatever has been counted before, a walk adds what there is to count in what it reaches. -/
theorem statistics_visitAll {dialect : Dialect} {markers : List Marker} {before after : Progress}
    (ran : visitAll dialect markers before = .ok after) :
    after.statistics = before.statistics.merge (tally (reachedAll markers)) := by
  have step {before after : Progress} {marker : Marker} (passed : before.pass dialect marker = .ok after) :
      after.statistics = before.statistics.merge marker.share := by
    rw [Progress.pass] at passed
    cases entered : before.enter dialect marker with
    | error stopped =>
      rw [entered] at passed
      cases passed
    | ok outcome =>
      obtain ⟨opened, next⟩ := outcome
      have counted := Progress.statistics_of_enter entered
      rw [entered] at passed
      cases passed
      exact counted
  rw [observe_visitAll Progress.statistics (fun counts marker => counts.merge marker.share) (fun _ => rfl) step ran,
    tally, ← Statistics.foldl_merge, List.foldl_map]

theorem statistics_render {options : Options} {document : Document} {result : RenderResult}
    (rendered : (render options document).2 = .ok result) :
    result.statistics = if options.collectStatistics then some (tally (reachedAll document.contents)) else none := by
  obtain ⟨progress, ran, rfl⟩ := render_ok_iff.mp rendered
  have counted := statistics_visitAll ran
  have nothing : (Progress.start #[openingRecord options document]).statistics = .zero := rfl
  rw [nothing] at counted
  rw [Options.result, counted, Statistics.zero_merge]

end Usx

end ScriptureMarkup
