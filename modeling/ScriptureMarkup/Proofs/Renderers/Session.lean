import ScriptureMarkup.Proofs.Walk.Reached
import ScriptureMarkup.Usx.Renderer

namespace ScriptureMarkup.Usx

/-- One step in the use of several renderers, which are numbered as they come into being. -/
inductive Use
  | render (number : Nat) (document : Document)
  | renderWithStatistics (number : Nat) (document : Document)
  | clear (number : Nat)
  | clone (number : Nat)

/-- What comes back from a step. -/
inductive Answer
  | content (outcome : Except MalformedBook String)
  | result (outcome : Except MalformedBook RenderResult)
  | nothing

def Answer.Failed : Answer → Prop
  | .content outcome => ∃ malformed, outcome = .error malformed
  | .result outcome => ∃ malformed, outcome = .error malformed
  | .nothing => False

namespace Use

def number : Use → Nat
  | .render number _ | .renderWithStatistics number _ | .clear number | .clone number => number

/-- The renderers that a step adds to those there are, when it names this one. -/
def copies (renderer : Renderer) : Use → List Renderer
  | .clone _ => [renderer]
  | .render .. | .renderWithStatistics .. | .clear _ => []

end Use

namespace Renderer

/-- What becomes of the renderer that a step names, and what it answers. -/
def serve (renderer : Renderer) : Use → Renderer × Answer
  | .render _ document =>
    let (later, outcome) := renderer.render document
    (later, .content (outcome.map RenderResult.content))
  | .renderWithStatistics _ document =>
    let (later, outcome) := renderer.render document
    (later, .result outcome)
  | .clear _ => (renderer.clear, .nothing)
  | .clone _ => (renderer, .nothing)

end Renderer

/-- Takes a step. One that names no renderer changes nothing. -/
def Use.perform (use : Use) (renderers : List Renderer) : List Renderer × Answer :=
  match renderers[use.number]? with
  | none => (renderers, .nothing)
  | some renderer =>
    let (later, answer) := renderer.serve use
    (renderers.set use.number later ++ use.copies renderer, answer)

/-- All renderers after some steps, the latest of which stands first. There is one to begin with. -/
def renderersAfter (options : Options) : List Use → List Renderer
  | [] => [.new options]
  | use :: earlier => (use.perform (renderersAfter options earlier)).1

/-- What a renderer that remembers some documents remembers after a step of its own. A rendering
that fails leaves no trace. -/
def Use.recall (options : Options) (documents : List Document) : Use → List Document
  | .render _ document | .renderWithStatistics _ document =>
    match (Usx.render options document).2 with
    | .ok _ => documents ++ [document]
    | .error _ => documents
  | .clear _ => []
  | .clone _ => documents

/-- The documents that a renderer has rendered since it was last cleared, in the order of time. A
copy remembers what its original did when it was made. -/
def remembered (options : Options) : List Use → Nat → List Document
  | [], _ => []
  | use :: earlier, number =>
    if number = (renderersAfter options earlier).length then remembered options earlier use.number
    else if number = use.number then use.recall options (remembered options earlier number)
    else remembered options earlier number

/-- The renderer that remembers some documents. -/
def Renderer.after (options : Options) (documents : List Document) : Renderer :=
  ⟨options, (documents.flatMap Document.missing).eraseDups⟩

namespace Renderer

theorem render_after (options : Options) (documents : List Document) (document : Document) :
    (after options documents).render document =
      match (Usx.render options document).2 with
      | .ok result => (after options (documents ++ [document]), .ok result)
      | .error malformed => (after options documents, .error malformed) := by
  unfold Renderer.render
  have same : (after options documents).options = options := rfl
  rw [same]
  cases rendered : (Usx.render options document).2 with
  | error malformed => rfl
  | ok result =>
    have joined : result.unrenderable.foldl addUnseen (documents.flatMap Document.missing).eraseDups =
        ((documents ++ [document]).flatMap Document.missing).eraseDups := by
      rw [unrenderable_render rendered, foldl_addUnseen, eraseDups_append_eraseDups, List.flatMap_append,
        List.flatMap_singleton]
    simp only [after, joined]

theorem serve_after (options : Options) (documents : List Document) (use : Use) :
    ((after options documents).serve use).1 = after options (use.recall options documents) := by
  cases use with
  | clear | clone => rfl
  | render number document | renderWithStatistics number document =>
    simp only [serve, render_after, Use.recall]
    cases (Usx.render options document).2 <;> rfl

/-- A renderer answers as a new one does, whatever it remembers. -/
theorem serve_after_answer (options : Options) (documents : List Document) (use : Use) :
    ((after options documents).serve use).2 = ((Renderer.new options).serve use).2 := by
  have new : Renderer.new options = after options [] := rfl
  rw [new]
  cases use with
  | clear | clone => rfl
  | render number document | renderWithStatistics number document =>
    simp only [serve, render_after]
    cases (Usx.render options document).2 <;> rfl

theorem serve_of_failed {options : Options} {documents : List Document} {use : Use}
    (failed : ((after options documents).serve use).2.Failed) :
    ((after options documents).serve use).1 = after options documents ∧
      use.copies (after options documents) = [] := by
  cases use with
  | clear | clone => exact failed.elim
  | render number document | renderWithStatistics number document =>
    simp only [serve, render_after] at failed ⊢
    cases rendered : (Usx.render options document).2 with
    | error malformed => exact ⟨rfl, rfl⟩
    | ok result =>
      rw [rendered] at failed
      obtain ⟨malformed, none⟩ := failed
      cases none

end Renderer

namespace Use

theorem perform_of_named {use : Use} {renderers : List Renderer} {renderer : Renderer}
    (named : renderers[use.number]? = some renderer) :
    use.perform renderers =
      (renderers.set use.number (renderer.serve use).1 ++ use.copies renderer, (renderer.serve use).2) := by
  rw [perform, named]

theorem length_copies_le (use : Use) (renderer : Renderer) : (use.copies renderer).length ≤ 1 := by
  cases use <;> simp [copies]

theorem perform_of_unnamed {use : Use} {renderers : List Renderer} (unnamed : renderers[use.number]? = none) :
    use.perform renderers = (renderers, .nothing) := by
  rw [perform, unnamed]

/-- Of the renderers there are, a step changes only the one that it names. -/
theorem perform_getElem?_of_ne {use : Use} {renderers : List Renderer} {number : Nat}
    (there : number < renderers.length) (other : number ≠ use.number) :
    (use.perform renderers).1[number]? = renderers[number]? := by
  cases named : renderers[use.number]? with
  | none => rw [perform_of_unnamed named]
  | some renderer =>
    rw [perform_of_named named, List.getElem?_append_left (by simpa using there), List.getElem?_set_ne other.symm]

end Use

/-- Every renderer is the one that remembers what it has rendered since it was last cleared. -/
theorem eq_after_of_renderersAfter {options : Options} {uses : List Use} {number : Nat} {renderer : Renderer}
    (there : (renderersAfter options uses)[number]? = some renderer) :
    renderer = .after options (remembered options uses number) := by
  induction uses generalizing number renderer with
  | nil =>
    obtain ⟨rfl, rfl⟩ : number = 0 ∧ Renderer.new options = renderer := by
      simpa [renderersAfter, List.getElem?_singleton] using there
    rfl
  | cons use earlier ih =>
    rw [renderersAfter] at there
    rw [remembered]
    cases named : (renderersAfter options earlier)[use.number]? with
    | none =>
      rw [Use.perform_of_unnamed named] at there
      have bound := (List.getElem?_eq_some_iff.mp there).1
      have apart : number ≠ use.number := by
        rintro rfl
        rw [named] at there
        cases there
      rw [if_neg (Nat.ne_of_lt bound), if_neg apart]
      exact ih there
    | some original =>
      have bound := (List.getElem?_eq_some_iff.mp named).1
      have known := ih named
      subst known
      by_cases last : number = (renderersAfter options earlier).length
      · rw [if_pos last]
        rw [Use.perform_of_named named, last, List.getElem?_append_right (by simp)] at there
        cases use with
        | clone => simpa [Use.copies] using there.symm
        | render | renderWithStatistics | clear => simp [Use.copies] at there
      rw [if_neg last]
      have old : number < (renderersAfter options earlier).length := by
        have kept := (List.getElem?_eq_some_iff.mp there).1
        rw [Use.perform_of_named named, List.length_append, List.length_set] at kept
        have one := use.length_copies_le (.after options (remembered options earlier use.number))
        omega
      by_cases same : number = use.number
      · subst same
        rw [if_pos rfl]
        rw [Use.perform_of_named named, List.getElem?_append_left (by simpa using old), List.getElem?_set_self old,
          Renderer.serve_after, Option.some.injEq] at there
        exact there.symm
      · rw [if_neg same]
        rw [Use.perform_getElem?_of_ne old same] at there
        exact ih there

/-- A renderer that is used again and again, copied and cleared renders every document as a new
one would. It reports what it has rendered since it was last cleared, each tag where it was first
seen, and neither a rendering that fails nor a step on another renderer changes that. -/
theorem renderers_keep_apart (options : Options) (earlier : List Use) (use : Use) :
    (use.number < (renderersAfter options earlier).length →
        (use.perform (renderersAfter options earlier)).2 = ((Renderer.new options).serve use).2) ∧
      (∀ document result, (Usx.render options document).2 = .ok result →
        result.unrenderable = document.missing.eraseDups) ∧
      (∀ number renderer, (renderersAfter options earlier)[number]? = some renderer →
        renderer.options = options ∧
          renderer.unrenderable = ((remembered options earlier number).flatMap Document.missing).eraseDups) ∧
      ((use.perform (renderersAfter options earlier)).2.Failed →
        (use.perform (renderersAfter options earlier)).1 = renderersAfter options earlier) ∧
      ∀ number < (renderersAfter options earlier).length, number ≠ use.number →
        (use.perform (renderersAfter options earlier)).1[number]? = (renderersAfter options earlier)[number]? := by
  refine ⟨fun there => ?_, fun _ _ => unrenderable_render, fun number renderer there => ?_, fun failed => ?_,
    fun _ => Use.perform_getElem?_of_ne⟩
  · have named := List.getElem?_eq_getElem there
    rw [Use.perform_of_named named, eq_after_of_renderersAfter named]
    exact Renderer.serve_after_answer options _ use
  · rw [eq_after_of_renderersAfter there]
    exact ⟨rfl, rfl⟩
  · cases named : (renderersAfter options earlier)[use.number]? with
    | none => rw [Use.perform_of_unnamed named]
    | some renderer =>
      rw [Use.perform_of_named named] at failed ⊢
      have known := eq_after_of_renderersAfter named
      subst known
      obtain ⟨kept, none⟩ := Renderer.serve_of_failed failed
      obtain ⟨bound, there⟩ := List.getElem?_eq_some_iff.mp named
      simp only [kept, none, List.append_nil]
      rw [← there, List.set_getElem_self]

/-- A renderer that is cleared after it has been copied. -/
theorem renderers_keep_apart_of_cleared_original :
    ∃ original copy, renderersAfter ⟨true, .usx3_0, false⟩
        [.clear 0, .clone 0, .render 0 ⟨[⟨.unknown "zz", []⟩]⟩] = [original, copy] ∧
      original.unrenderable = [] ∧ copy.unrenderable = ["zz"] := by
  obtain ⟨result, rendered⟩ : ∃ result, (Usx.render ⟨true, .usx3_0, false⟩ ⟨[⟨.unknown "zz", []⟩]⟩).2 = .ok result :=
    render_ok_iff_nameable.mpr (by decide)
  obtain ⟨original, copy, two⟩ : ∃ original copy, renderersAfter ⟨true, .usx3_0, false⟩
      [.clear 0, .clone 0, .render 0 ⟨[⟨.unknown "zz", []⟩]⟩] = [original, copy] := ⟨_, _, rfl⟩
  obtain ⟨_, _, reports, _⟩ := renderers_keep_apart ⟨true, .usx3_0, false⟩
    [.clear 0, .clone 0, .render 0 ⟨[⟨.unknown "zz", []⟩]⟩] (.clear 0)
  rw [two] at reports
  have first := (reports 0 original rfl).2
  have second := (reports 1 copy rfl).2
  refine ⟨original, copy, two, first, second.trans ?_⟩
  have recalled : remembered ⟨true, .usx3_0, false⟩ [.clear 0, .clone 0, .render 0 ⟨[⟨.unknown "zz", []⟩]⟩] 1 =
      [⟨[⟨.unknown "zz", []⟩]⟩] := by
    change (match (Usx.render ⟨true, .usx3_0, false⟩ ⟨[⟨.unknown "zz", []⟩]⟩).2 with
      | .ok _ => [] ++ [_]
      | .error _ => []) = _
    rw [rendered]
    rfl
  rw [recalled]
  decide

end ScriptureMarkup.Usx
