import Mathlib.Data.Option.NAry
import ScriptureMarkup.Proofs.Books.Separation
import ScriptureMarkup.Proofs.Counts.Tally
import ScriptureMarkup.Proofs.Walk.Stopping

namespace ScriptureMarkup

open Xml (Node)
open Usx (Dialect MalformedBook Options Position RenderResult Statistics)
open Marker (firstMalformed nodesAll reachedAll tally)

theorem Marker.missing_append (front back : List Marker) :
    missing (front ++ back) = missing front ++ missing back := by
  rw [missing, List.filter_append, List.map_append, missing, missing]

/-- Without the ends and the ids of milestones nothing that is written tells where it stands. -/
theorem Kind.nodes_earlier (kind : Kind) (children : List Node) (position other : Position) :
    kind.nodes .usx2_5 position children = kind.nodes .usx2_5 other children := by
  cases kind <;> rfl

namespace Marker

mutual

theorem nodes_earlier (marker : Marker) (position other : Position) :
    (marker.nodes .usx2_5 position).1 = (marker.nodes .usx2_5 other).1 := by
  obtain ⟨kind, contents⟩ := marker
  simp only [nodes]
  cases kind.descends with
  | false => exact kind.nodes_earlier [] position other
  | true =>
    simp only [if_true]
    rw [nodesAll_earlier contents _ (kind.arrive .usx2_5 other), kind.nodes_earlier _ position other]

theorem nodesAll_earlier (markers : List Marker) (position other : Position) :
    (nodesAll .usx2_5 markers position).1 = (nodesAll .usx2_5 markers other).1 := by
  match markers with
  | [] => rfl
  | marker :: markers =>
    simp only [nodesAll]
    rw [nodes_earlier marker position other, nodesAll_earlier markers _ (marker.nodes .usx2_5 other).2]

end

end Marker

theorem Usx.Position.ends_earlier (position : Position) : position.ends .usx2_5 = [] := rfl

theorem Document.nodes_append_earlier (collectStatistics : Bool) (first second : Document) :
    Document.nodes ⟨true, .usx2_5, collectStatistics⟩ ⟨first.contents ++ second.contents⟩ =
      first.nodes ⟨true, .usx2_5, collectStatistics⟩ ++ second.nodes ⟨true, .usx2_5, collectStatistics⟩ := by
  simp only [nodes_eq, if_true, Position.ends_earlier, List.append_nil, Marker.nodesAll_append]
  rw [Marker.nodesAll_earlier second.contents _ .start]

namespace Usx

theorem content_append_earlier {collectStatistics : Bool} {first second : Document} {one other both : RenderResult}
    (renderedFirst : (render ⟨true, .usx2_5, collectStatistics⟩ first).2 = .ok one)
    (renderedSecond : (render ⟨true, .usx2_5, collectStatistics⟩ second).2 = .ok other)
    (rendered : (render ⟨true, .usx2_5, collectStatistics⟩ ⟨first.contents ++ second.contents⟩).2 = .ok both) :
    both.content = one.content ++ other.content := by
  rw [← String.toList_inj, String.toList_append, (content_eq_tokens rendered).1, (content_eq_tokens renderedFirst).1,
    (content_eq_tokens renderedSecond).1, Document.nodes_append_earlier, Node.tokensAll_append, List.flatMap_append]

/-- Taking some out before or after those that come again makes no difference. -/
theorem eraseDups_filter (p : String → Bool) : (tags : List String) →
    (tags.filter p).eraseDups = tags.eraseDups.filter p
  | [] => rfl
  | tag :: tags => by
    have others := eraseDups_filter p (tags.filter fun other => !other == tag)
    rw [List.eraseDups_cons, List.filter_cons, List.filter_cons, ← others, List.filter_filter]
    split
    · rw [List.eraseDups_cons, List.filter_filter]
      simp only [Bool.and_comm]
    · rename_i left
      have covered : tags.filter (fun other => p other && !other == tag) = tags.filter p := by
        refine List.filter_congr fun other _ => ?_
        by_cases same : other = tag <;> simp [same, left]
      rw [covered]
  termination_by tags => tags.length
  decreasing_by
    have := List.length_filter_le (fun other => !other == tag) tags
    simp only [List.length_cons]
    omega

theorem eraseDups_append_unseen (front back : List String) :
    (front ++ back).eraseDups = front.eraseDups ++ back.eraseDups.filter fun tag => !front.eraseDups.contains tag := by
  rw [List.eraseDups_append, List.removeAll, eraseDups_filter]
  simp

/-- Two documents in one fail where the first fails by itself, or else where the second does. If
both are rendered, so are they together: each tag is reported where it was first seen, the counts
are added, and in the earlier dialect, where nothing that is open has to be closed, the one body
stands behind the other. -/
theorem rendering_distributes_over_concatenation (options : Options) (first second : Document) :
    (∀ malformed, (render options ⟨first.contents ++ second.contents⟩).2 = .error malformed ↔
        (render options first).2 = .error malformed ∨
          (∃ one, (render options first).2 = .ok one) ∧ (render options second).2 = .error malformed) ∧
      ∀ one other, (render options first).2 = .ok one → (render options second).2 = .ok other →
        ∃ both, (render options ⟨first.contents ++ second.contents⟩).2 = .ok both ∧
          both.unrenderable =
            one.unrenderable ++ other.unrenderable.filter (fun tag => !one.unrenderable.contains tag) ∧
          both.statistics = Option.map₂ Statistics.merge one.statistics other.statistics ∧
          (options.partialOutput = true → options.dialect = .usx2_5 →
            both.content = one.content ++ other.content) := by
  refine ⟨fun malformed => ?_, fun one other renderedFirst renderedSecond => ?_⟩
  · rw [render_error_iff, render_error_iff, render_error_iff, render_ok_iff_firstMalformed, Marker.reachedAll_append,
      Marker.firstMalformed_append, Option.or_eq_some_iff]
  · obtain ⟨both, rendered⟩ : ∃ both, (render options ⟨first.contents ++ second.contents⟩).2 = .ok both := by
      rw [render_ok_iff_firstMalformed, Marker.reachedAll_append, Marker.firstMalformed_append,
        render_ok_iff_firstMalformed.mp ⟨one, renderedFirst⟩,
        render_ok_iff_firstMalformed.mp ⟨other, renderedSecond⟩]
      rfl
    refine ⟨both, rendered, ?_, ?_, fun part earlier => ?_⟩
    · rw [unrenderable_render rendered, unrenderable_render renderedFirst, unrenderable_render renderedSecond,
        ← eraseDups_append_unseen, Document.missing, Marker.reachedAll_append, Marker.missing_append]
      rfl
    · rw [statistics_render rendered, statistics_render renderedFirst, statistics_render renderedSecond,
        Marker.reachedAll_append, Marker.tally_append]
      cases options.collectStatistics <;> rfl
    · obtain ⟨_, _, collectStatistics⟩ := options
      cases part
      cases earlier
      exact content_append_earlier renderedFirst renderedSecond rendered

/-- A tag without a form that comes in both documents, beside one that comes in the second alone. -/
theorem rendering_distributes_over_concatenation_of_repeated_tags :
    ∃ one other both,
      (render ⟨true, .usx2_5, true⟩ ⟨[⟨.chapter 2, [.text "a b"]⟩, ⟨.unknown "zz", []⟩]⟩).2 = .ok one ∧
      (render ⟨true, .usx2_5, true⟩ ⟨[⟨.bare .fig, []⟩, ⟨.verse "1", [⟨.unknown "zz", []⟩]⟩]⟩).2 = .ok other ∧
      (render ⟨true, .usx2_5, true⟩ ⟨[⟨.chapter 2, [.text "a b"]⟩, ⟨.unknown "zz", []⟩, ⟨.bare .fig, []⟩,
        ⟨.verse "1", [⟨.unknown "zz", []⟩]⟩]⟩).2 = .ok both ∧
      both.unrenderable = ["zz", "fig"] ∧ both.statistics = some ⟨0, 1, 1, 0, 0, 0, 3, 2⟩ ∧
      both.content = one.content ++ other.content := by
  obtain ⟨one, rendered⟩ : ∃ one, (render ⟨true, .usx2_5, true⟩
      ⟨[⟨.chapter 2, [.text "a b"]⟩, ⟨.unknown "zz", []⟩]⟩).2 = .ok one := render_ok_iff_nameable.mpr (by decide)
  obtain ⟨other, rendered'⟩ : ∃ other, (render ⟨true, .usx2_5, true⟩
      ⟨[⟨.bare .fig, []⟩, ⟨.verse "1", [⟨.unknown "zz", []⟩]⟩]⟩).2 = .ok other := render_ok_iff_nameable.mpr (by decide)
  obtain ⟨both, together, tags, counts, joined⟩ :=
    (rendering_distributes_over_concatenation ⟨true, .usx2_5, true⟩ _ _).2 one other rendered rendered'
  refine ⟨one, other, both, rendered, rendered', together, ?_, ?_, joined rfl rfl⟩
  · rw [tags, unrenderable_render rendered, unrenderable_render rendered']
    decide
  · rw [counts, statistics_render rendered, statistics_render rendered']
    decide

end Usx

end ScriptureMarkup
