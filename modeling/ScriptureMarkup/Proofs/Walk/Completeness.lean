import ScriptureMarkup.Proofs.Walk.Growth
import ScriptureMarkup.Proofs.Walk.Trail

namespace ScriptureMarkup

/-- Whether a kind of marker has a form in which its children have no place. -/
def Kind.isLeaf (kind : Kind) : Bool := kind.hasForm && !kind.descends

namespace Marker

mutual

/-- The markers of a tree that are not below a leaf, in the order of the text. -/
def exposed : Marker → List Marker
  | ⟨kind, contents⟩ => ⟨kind, contents⟩ :: if kind.isLeaf then [] else exposedAll contents

def exposedAll : List Marker → List Marker
  | [] => []
  | marker :: markers => marker.exposed ++ exposedAll markers

end

def text? (marker : Marker) : Option String :=
  match marker.kind with
  | .text content => some content
  | _ => none

/-- The texts of the markers that are plain text. -/
def texts (markers : List Marker) : List String := markers.filterMap text?

theorem texts_append (front back : List Marker) : texts (front ++ back) = texts front ++ texts back :=
  List.filterMap_append

mutual

theorem reached_sublist (marker : Marker) : marker.reached.Sublist marker.exposed := by
  obtain ⟨kind, contents⟩ := marker
  rw [reached, exposed]
  refine List.Sublist.cons_cons _ ?_
  have inside := reachedAll_sublist contents
  unfold Kind.isLeaf
  cases kind.descends <;> cases kind.hasForm <;> simp [inside]

theorem reachedAll_sublist (markers : List Marker) : (reachedAll markers).Sublist (exposedAll markers) := by
  match markers with
  | [] => exact List.Sublist.slnil
  | marker :: markers => exact (reached_sublist marker).append (reachedAll_sublist markers)

end

mutual

theorem reached_eq_exposed (marker : Marker) (formed : ∀ other ∈ marker.reached, other.kind.hasForm = true) :
    marker.reached = marker.exposed := by
  obtain ⟨kind, contents⟩ := marker
  rw [reached] at formed ⊢
  obtain ⟨here, below⟩ := List.forall_mem_cons.mp formed
  rw [exposed, Kind.isLeaf, here]
  cases descends : kind.descends with
  | false => rfl
  | true =>
    rw [descends, if_pos rfl] at below
    have inside := reachedAll_eq_exposedAll contents below
    simp only [if_true, Bool.not_true, Bool.and_false, Bool.false_eq_true, if_false, inside]

/-- If all that is reached has a form, then only leaves keep anything from being reached. -/
theorem reachedAll_eq_exposedAll (markers : List Marker)
    (formed : ∀ other ∈ reachedAll markers, other.kind.hasForm = true) : reachedAll markers = exposedAll markers := by
  match markers with
  | [] => rfl
  | marker :: markers =>
    rw [reachedAll] at formed ⊢
    obtain ⟨first, later⟩ := List.forall_mem_append.mp formed
    rw [exposedAll, reached_eq_exposed marker first, reachedAll_eq_exposedAll markers later]

end

theorem descendants_append (front back : List Marker) :
    descendants (front ++ back) = descendants front ++ descendants back := by
  induction front using descendants.induct with
  | case1 => rw [descendants, List.nil_append, List.nil_append]
  | case2 marker pending ih =>
    rw [List.cons_append, descendants, descendants, List.cons_append, ← List.append_assoc, ih]

theorem descendants_cons (marker : Marker) (markers : List Marker) :
    descendants (marker :: markers) = marker :: (descendants marker.contents ++ descendants markers) := by
  rw [descendants, descendants_append]

mutual

theorem exposed_sublist (marker : Marker) (pending : List Marker) :
    (marker.exposed ++ descendants pending).Sublist (descendants (marker :: pending)) := by
  obtain ⟨kind, contents⟩ := marker
  rw [exposed, descendants_cons, List.cons_append]
  refine List.Sublist.cons_cons _ (List.Sublist.append ?_ (List.Sublist.refl _))
  cases kind.isLeaf with
  | true => exact List.nil_sublist _
  | false => exact exposedAll_sublist contents

theorem exposedAll_sublist (markers : List Marker) : (exposedAll markers).Sublist (descendants markers) := by
  match markers with
  | [] => exact List.nil_sublist _
  | marker :: markers =>
    rw [exposedAll]
    exact ((List.Sublist.refl _).append (exposedAll_sublist markers)).trans (exposed_sublist marker markers)

end

mutual

theorem exposed_eq_of_childless (marker : Marker) (pending : List Marker)
    (childless : ∀ other ∈ descendants (marker :: pending), other.kind.isLeaf = true → other.contents = []) :
    marker.exposed ++ descendants pending = descendants (marker :: pending) := by
  obtain ⟨kind, contents⟩ := marker
  rw [descendants_cons] at childless ⊢
  obtain ⟨here, below⟩ := List.forall_mem_cons.mp childless
  obtain ⟨inside, _⟩ := List.forall_mem_append.mp below
  rw [exposed, List.cons_append]
  cases leaf : kind.isLeaf with
  | true =>
    have none : contents = [] := here leaf
    simp [none, descendants]
  | false => simp [exposedAll_eq_of_childless contents inside]

/-- If no leaf has children, then every marker is exposed. -/
theorem exposedAll_eq_of_childless (markers : List Marker)
    (childless : ∀ other ∈ descendants markers, other.kind.isLeaf = true → other.contents = []) :
    exposedAll markers = descendants markers := by
  match markers with
  | [] => rw [exposedAll, descendants]
  | marker :: markers =>
    have later := childless
    rw [descendants_cons] at later
    obtain ⟨_, below⟩ := List.forall_mem_cons.mp later
    obtain ⟨_, behind⟩ := List.forall_mem_append.mp below
    rw [exposedAll, exposedAll_eq_of_childless markers behind, exposed_eq_of_childless marker markers childless]

end

end Marker

namespace Usx

open Marker (texts exposedAll reachedAll)

/-- Texts that all come in a longer one, each of them behind the one before it. -/
inductive InOrder : List String → String → Prop
  | nil (whole : String) : InOrder [] whole
  | cons (part before : String) {later : String} {parts : List String} :
      InOrder parts later → InOrder (part :: parts) (before ++ part ++ later)

theorem InOrder.behind {parts : List String} {whole : String} (inOrder : InOrder parts whole) (front : String) :
    InOrder parts (front ++ whole) := by
  cases inOrder with
  | nil => exact .nil _
  | @cons part before later parts rest =>
    have moved := rest.cons part (front ++ before)
    simpa only [String.append_assoc] using moved

theorem InOrder.before {parts : List String} {whole : String} (inOrder : InOrder parts whole) (back : String) :
    InOrder parts (whole ++ back) := by
  induction inOrder with
  | nil => exact .nil _
  | @cons part before later parts _ ih =>
    have longer := ih.cons part before
    simpa only [String.append_assoc] using longer

theorem inOrder_of_sublist {parts pieces : List Piece} (sublist : parts.Sublist pieces) :
    InOrder (parts.map Piece.text) (markupText pieces) := by
  induction sublist with
  | slnil => exact .nil _
  | cons piece _ ih =>
    rw [markupText, List.map_cons, String.join_cons]
    exact ih.behind piece.text
  | cons_cons piece _ ih =>
    rw [markupText, List.map_cons, List.map_cons, String.join_cons]
    rw [markupText] at ih
    simpa only [String.empty_append] using ih.cons piece.text ""

/-- The texts that are reached are written in the order of the text. -/
theorem grows_texts (dialect : Dialect) :
    Grows dialect fun markers pieces => ((texts markers).map Piece.characters).Sublist pieces where
  nil := List.Sublist.slnil
  append front back := by
    rw [Marker.texts_append, List.map_append]
    exact front.append back
  own {marker} _ _ stepped := by
    obtain ⟨kind, contents⟩ := marker
    cases kind with
    | text content =>
      cases stepped
      exact List.Sublist.refl _
    | _ => exact List.nil_sublist _
  close _ _ := List.nil_sublist _

theorem texts_result {options : Options} {document : Document} {journal : Array Record} {progress : Progress}
    (ran : visitAll options.dialect document.contents (.start journal) = .ok progress) :
    InOrder ((texts (reachedAll document.contents)).map escapedText) (options.result document progress).content := by
  obtain ⟨added, grown, sublist⟩ := (grows_texts options.dialect).visitAll document.contents ran
  have start : (Progress.start journal).markup.toList = [] := rfl
  rw [start, List.nil_append] at grown
  have pieces : ((texts (reachedAll document.contents)).map Piece.characters).Sublist
      (progress.pieces options.dialect) := by
    rw [Progress.pieces_eq, grown]
    exact sublist.trans (List.sublist_append_left _ _)
  have body := inOrder_of_sublist pieces
  rw [List.map_map] at body
  unfold Options.result envelope
  dsimp only
  split
  · exact body
  · exact (body.behind _).before _

theorem isComplete_iff {options : Options} {document : Document} {result : RenderResult}
    (rendered : (render options document).2 = .ok result) :
    result.isComplete = true ↔ ∀ marker ∈ reachedAll document.contents, marker.kind.hasForm = true := by
  have none (tags : List String) : tags.eraseDups = [] ↔ tags = [] := by
    simp only [List.eq_nil_iff_forall_not_mem, List.mem_eraseDups]
  rw [RenderResult.isComplete, unrenderable_render rendered, List.isEmpty_iff, none, Document.missing, Marker.missing,
    List.map_eq_nil_iff, List.filter_eq_nil_iff]
  simp only [Bool.not_eq_true', Bool.not_eq_false]

/-- A rendering is complete if every marker that is not below a leaf has a form. Then the loop has
entered all of them, and their texts have been written in the order of the text; these are all
markers if no leaf has children. -/
theorem complete_rendering_shows_exposed {options : Options} {document : Document} {result : RenderResult}
    (rendered : (render options document).2 = .ok result) :
    (result.isComplete = true ↔ ∀ marker ∈ exposedAll document.contents, marker.kind.hasForm = true) ∧
      (result.isComplete = true →
        (∀ n, 2 * Marker.countAll document.contents ≤ n →
          trail options.dialect n (enterAll document.contents []) (.start #[openingRecord options document]) =
            exposedAll document.contents) ∧
        InOrder ((texts (exposedAll document.contents)).map escapedText) result.content) ∧
      (exposedAll document.contents).Sublist document.descendants ∧
      ((∀ marker ∈ document.descendants, marker.kind.isLeaf = true → marker.contents = []) →
        exposedAll document.contents = document.descendants) := by
  have formed := isComplete_iff rendered
  obtain ⟨progress, ran, rfl⟩ := render_ok_iff.mp rendered
  refine ⟨⟨fun complete => ?_, fun all => ?_⟩, fun complete => ⟨fun n bound => ?_, ?_⟩,
    Marker.exposedAll_sublist _, Marker.exposedAll_eq_of_childless _⟩
  · rw [← Marker.reachedAll_eq_exposedAll _ (formed.mp complete)]
    exact formed.mp complete
  · exact formed.mpr fun marker member => all marker ((Marker.reachedAll_sublist _).subset member)
  · rw [trail_eq_reachedAll ran bound, Marker.reachedAll_eq_exposedAll _ (formed.mp complete)]
  · rw [← Marker.reachedAll_eq_exposedAll _ (formed.mp complete)]
    exact texts_result ran

/-- A speaker with a text and an unknown tag below it, before a paragraph. -/
theorem complete_rendering_shows_exposed_beside_speaker :
    ∃ result, (render ⟨true, .usx3_0, false⟩
        ⟨[⟨.field .sp "Job", [.text "hidden", ⟨.unknown "zz", []⟩]⟩, ⟨.bare .p, [.text "kept"]⟩]⟩).2 = .ok result ∧
      result.isComplete = true ∧ InOrder ["kept"] result.content := by
  obtain ⟨result, rendered⟩ : ∃ result, (render ⟨true, .usx3_0, false⟩
      ⟨[⟨.field .sp "Job", [.text "hidden", ⟨.unknown "zz", []⟩]⟩, ⟨.bare .p, [.text "kept"]⟩]⟩).2 = .ok result := by
    refine render_succeeds fun journal => ?_
    simp only [visitAll, visit, Progress.enter, enter]
    exact ⟨_, rfl⟩
  obtain ⟨complete, shows, _⟩ := complete_rendering_shows_exposed rendered
  have all := complete.mpr (by decide)
  exact ⟨result, rendered, all, (shows all).2⟩

theorem InOrder.mem {part whole : String} {c : Char} (inOrder : InOrder [part] whole) (member : c ∈ part.toList) :
    c ∈ whole.toList := by
  cases inOrder with
  | cons before => simp [member]

/-- A speaker with a text below it. -/
def speech : Document := ⟨[⟨.field .sp "Job", [.text "hidden"]⟩]⟩

/-- A rendering that is complete, although the loop has not entered the text below a speaker and
that text is not written. -/
theorem complete_rendering_hides_text_below_speaker :
    ∃ result, (render ⟨true, .usx3_0, false⟩ speech).2 = .ok result ∧ result.isComplete = true ∧
      Marker.text "hidden" ∈ speech.descendants ∧
      (∀ n, 2 * Marker.countAll speech.contents ≤ n → Marker.text "hidden" ∉
        trail .usx3_0 n (enterAll speech.contents []) (.start #[openingRecord ⟨true, .usx3_0, false⟩ speech])) ∧
      ¬ InOrder [escapedText "hidden"] result.content := by
  obtain ⟨progress, ran, content⟩ : ∃ progress, visitAll .usx3_0 speech.contents
      (.start #[openingRecord ⟨true, .usx3_0, false⟩ speech]) = .ok progress ∧
      (Options.result ⟨true, .usx3_0, false⟩ speech progress).content = "<para style=\"sp\">Job</para>\n" := by
    simp only [speech, visitAll, visit, Progress.enter, enter]
    refine ⟨_, rfl, ?_⟩
    decide
  have rendered : (render ⟨true, .usx3_0, false⟩ speech).2 = .ok (Options.result ⟨true, .usx3_0, false⟩ speech progress) :=
    render_ok_iff.mpr ⟨progress, ran, rfl⟩
  refine ⟨_, rendered, (isComplete_iff rendered).mpr (by decide), ?_, fun n bound => ?_, fun inOrder => ?_⟩
  · rw [Document.descendants, speech, Marker.descendants_cons, Marker.descendants_cons]
    decide
  · rw [trail_eq_reachedAll ran bound]
    decide
  · rw [content] at inOrder
    have inside : 'h' ∈ "<para style=\"sp\">Job</para>\n".toList := inOrder.mem (by decide)
    revert inside
    decide

end Usx

end ScriptureMarkup
