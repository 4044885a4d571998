import ScriptureMarkup.Proofs.Counts.Tally
import ScriptureMarkup.Proofs.Forests.Interchangeable

namespace ScriptureMarkup

open Usx (Dialect Interchangeable Options Progress Step)

/-- Closing tags, which end in an asterisk, and a few others that mean nothing where they stand. -/
def BareTag.isMute (tag : BareTag) : Bool := tag.name.toList.getLast? = some '*' || tag = .vp || tag = .nb

theorem BareTag.shape_of_isMute {tag : BareTag} (mute : tag.isMute = true) : tag.shape = .silent := by
  revert mute
  cases tag <;> decide

def Kind.isMute : Kind → Bool
  | .bare tag => tag.isMute
  | _ => false

theorem Kind.form_of_isMute {kind : Kind} (mute : kind.isMute = true) :
    ∃ tag : BareTag, kind = .bare tag ∧ tag.shape = .silent ∧ kind.form? = some (.silent, tag.identifier, "") := by
  cases kind with
  | bare tag =>
    have silent := BareTag.shape_of_isMute mute
    exact ⟨tag, rfl, silent, by rw [form?, silent]⟩
  | _ => cases mute

namespace Marker

mutual

/-- What is left of a marker when all is taken away that is skipped: the mute markers, and the
children that are not descended to. -/
def pruned : Marker → List Marker
  | ⟨kind, contents⟩ =>
    if kind.isMute then [] else [⟨kind, if kind.descends then prunedAll contents else []⟩]

def prunedAll : List Marker → List Marker
  | [] => []
  | marker :: markers => marker.pruned ++ prunedAll markers

end

mutual

theorem kinds_pruned (marker : Marker) :
    (descendants marker.pruned).map kind = (marker.reached.map kind).filter fun kind => !kind.isMute := by
  obtain ⟨kind, contents⟩ := marker
  rw [pruned, reached]
  cases mute : kind.isMute with
  | true =>
    obtain ⟨tag, rfl, _, form⟩ := Kind.form_of_isMute mute
    simp [descendants, Kind.descends_form form, Usx.Shape.descends, mute]
  | false =>
    cases kind.descends with
    | false => simp [descendants, mute]
    | true =>
      have inside := kinds_prunedAll contents
      simp [descendants_cons, descendants, mute, inside]

/-- What is left is what is reached, without the mute markers. -/
theorem kinds_prunedAll (markers : List Marker) :
    (descendants (prunedAll markers)).map kind =
      ((reachedAll markers).map kind).filter fun kind => !kind.isMute := by
  match markers with
  | [] => simp [prunedAll, reachedAll, descendants]
  | marker :: markers =>
    rw [prunedAll, reachedAll, descendants_append, List.map_append, List.map_append, List.filter_append,
      kinds_pruned marker, kinds_prunedAll markers]

end

end Marker

/-- A document without what is skipped in it. -/
def Document.pruned (document : Document) : Document := ⟨Marker.prunedAll document.contents⟩

namespace Usx

/-- A mute marker does nothing, whatever stands below it. -/
theorem Interchangeable.mute {dialect : Dialect} {kind : Kind} (mute : kind.isMute = true) (contents : List Marker) :
    Interchangeable dialect [⟨kind, contents⟩] [] := by
  obtain ⟨tag, rfl, silent, form⟩ := Kind.form_of_isMute mute
  intro left right agrees
  simp only [visitAll, visit, Progress.enter, enter, silent, Shape.enter, Step.still]
  refine .ok ⟨agrees.position, ?_, agrees.unrenderable, ?_⟩
  · simpa [Progress.count, Progress.move] using agrees.markup
  · have uncounted : left.statistics.record (.bare tag) = left.statistics := by
      rw [Statistics.record_eq_merge, Statistics.record_form form]
      exact Statistics.merge_zero _
    simpa [Progress.count, Progress.move, uncounted] using agrees.statistics

mutual

theorem interchangeable_pruned (dialect : Dialect) (marker : Marker) :
    Interchangeable dialect [marker] marker.pruned := by
  obtain ⟨kind, contents⟩ := marker
  rw [Marker.pruned]
  cases mute : kind.isMute with
  | true => exact .mute mute contents
  | false =>
    refine .below kind fun descends => ?_
    rw [if_pos descends]
    exact interchangeable_prunedAll dialect contents

theorem interchangeable_prunedAll (dialect : Dialect) (markers : List Marker) :
    Interchangeable dialect markers (Marker.prunedAll markers) := by
  match markers with
  | [] => exact .refl []
  | marker :: markers =>
    exact (interchangeable_pruned dialect marker).append (interchangeable_prunedAll dialect markers)

end

theorem render_pruned_part (dialect : Dialect) (collectStatistics : Bool) (document : Document) :
    (render ⟨true, dialect, collectStatistics⟩ document.pruned).2 =
      (render ⟨true, dialect, collectStatistics⟩ document).2 := by
  have alike : Interchangeable dialect document.contents document.pruned.contents :=
    interchangeable_prunedAll dialect document.contents
  rcases @alike.render ⟨true, dialect, collectStatistics⟩ with
    ⟨_, failed, failedToo⟩ | ⟨_, _, _, rendered, renderedToo⟩
  · rw [failed, failedToo]
  · rw [rendered, renderedToo]
    rfl

/-- Below a marker that is skipped there may be anything: what is left of a document without it is
rendered to the same body with the same tags and counts, or fails at the same book. Only an encoding
that was declared there is missed. -/
theorem skipped_markers_leave_no_trace (dialect : Dialect) (collectStatistics : Bool) (document : Document) :
    (render ⟨true, dialect, collectStatistics⟩ document.pruned).2 =
        (render ⟨true, dialect, collectStatistics⟩ document).2 ∧
      ((∃ malformed,
          (render ⟨false, dialect, collectStatistics⟩ document).2 = .error malformed ∧
          (render ⟨false, dialect, collectStatistics⟩ document.pruned).2 = .error malformed) ∨
        ∃ body unrenderable statistics,
          (render ⟨false, dialect, collectStatistics⟩ document).2 =
            .ok ⟨envelope dialect document.encoding body, unrenderable, statistics⟩ ∧
          (render ⟨false, dialect, collectStatistics⟩ document.pruned).2 =
            .ok ⟨envelope dialect document.pruned.encoding body, unrenderable, statistics⟩) ∧
      (∀ other : Document, other.pruned = document.pruned →
        (render ⟨true, dialect, collectStatistics⟩ other).2 =
          (render ⟨true, dialect, collectStatistics⟩ document).2) ∧
      document.pruned.descendants.map Marker.kind =
        ((Marker.reachedAll document.contents).map Marker.kind).filter fun kind => !kind.isMute := by
  have alike : Interchangeable dialect document.contents document.pruned.contents :=
    interchangeable_prunedAll dialect document.contents
  refine ⟨render_pruned_part dialect collectStatistics document, ?_, fun other same => ?_,
    Marker.kinds_prunedAll document.contents⟩
  · exact @alike.render ⟨false, dialect, collectStatistics⟩
  · rw [← render_pruned_part, same, render_pruned_part]

/-- A malformed book, a chapter and an unknown tag below a speaker. -/
theorem skipped_markers_leave_no_trace_below_speaker :
    (render ⟨true, .usx3_0, true⟩
        ⟨[⟨.field .sp "Job", [⟨.book "JO", []⟩, ⟨.chapter 3, [⟨.verse "1", []⟩]⟩, ⟨.unknown "zz", []⟩]⟩]⟩).2 =
      (render ⟨true, .usx3_0, true⟩ ⟨[⟨.field .sp "Job", []⟩]⟩).2 :=
  (skipped_markers_leave_no_trace .usx3_0 true ⟨[⟨.field .sp "Job", []⟩]⟩).2.2.1 _ rfl

end Usx

end ScriptureMarkup
