import ScriptureMarkup.Proofs.Markup.Body
import ScriptureMarkup.Proofs.Markup.Written

namespace ScriptureMarkup

/-- Whether there is a form for a kind of marker. One without a form is reported and skipped. -/
def Kind.hasForm : Kind → Bool
  | .book _ | .chapter _ | .verse _ | .text _ | .word .. => true
  | .field tag _ => tag.shape != .unrendered
  | .heading tag .. => tag.shape != .unrendered
  | .leveled tag _ => tag.shape != .unrendered
  | .bare tag => tag.shape != .unrendered
  | .unknown _ => false

theorem Kind.hasForm_form {kind : Kind} {shape : Usx.Shape} {style text : String}
    (formed : kind.form? = some (shape, style, text)) : kind.hasForm = (shape != .unrendered) := by
  cases kind with
  | field | heading | leveled | bare =>
    cases formed
    rfl
  | book | chapter | verse | text | word | unknown => cases formed

/-- Whether a book is named by a text that is long enough for a code and a label. -/
def Kind.isNameable : Kind → Bool
  | .book identifier => 4 ≤ identifier.length
  | _ => true

namespace Marker

mutual

/-- The markers of a tree that are not below one whose children are left out, in the order of
the text. -/
def reached : Marker → List Marker
  | ⟨kind, contents⟩ => ⟨kind, contents⟩ :: if kind.descends then reachedAll contents else []

def reachedAll : List Marker → List Marker
  | [] => []
  | marker :: markers => marker.reached ++ reachedAll markers

end

theorem reached_eq (marker : Marker) :
    marker.reached = marker :: if marker.kind.descends then reachedAll marker.contents else [] := by
  cases marker
  rw [reached]

theorem reachedAll_append (front back : List Marker) :
    reachedAll (front ++ back) = reachedAll front ++ reachedAll back := by
  induction front with
  | nil => simp [reachedAll]
  | cons marker front ih => simp [reachedAll, ih]

/-- The identifiers of the markers without a form, each as often as it comes. -/
def missing (markers : List Marker) : List String :=
  (markers.filter fun marker => !marker.kind.hasForm).map identifier

end Marker

def Document.missing (document : Document) : List String := Marker.missing (Marker.reachedAll document.contents)

namespace Usx

/-- A marker is entered or skipped for its kind alone, wherever it stands. -/
theorem visit_iff {dialect : Dialect} {kind : Kind} {position : Position} {step : Step}
    (stepped : enter dialect kind position = .ok step) :
    (kind.descends = true ↔ ∃ close, step.visit = .children close) ∧
      (kind.hasForm = false ↔ step.visit = .unrenderable) := by
  cases entered_of_enter stepped with
  | text | book | chapter | verse | word | unknown => simp [Step.still, Kind.descends, Kind.hasForm]
  | @form _ shape style text formed =>
    rw [Kind.descends_form formed, Kind.hasForm_form formed]
    cases shape <;> simp [Step.still, Shape.enter, Shape.descends]

namespace Progress

def withoutMarkup (progress : Progress) : Progress := { progress with markup := #[] }

/-- Enters a marker and forgets what has been written, so nothing is left to be closed. -/
def pass (dialect : Dialect) (progress : Progress) (marker : Marker) : Except Stopped Progress :=
  (progress.enter dialect marker).map fun entered => entered.1.withoutMarkup

variable {dialect : Dialect} {marker : Marker} {before opened : Progress} {next : Option (List Piece)}

theorem next_isSome (entered : before.enter dialect marker = .ok (opened, next)) :
    next.isSome = marker.kind.descends := by
  obtain ⟨step, stepped, _, _, closes⟩ := enter_ok entered
  obtain ⟨descends, _⟩ := visit_iff stepped
  rw [Bool.eq_iff_iff, descends, Option.isSome_iff_exists]
  exact exists_congr closes

/-- Nothing that has been written bears on what happens next. -/
theorem pass_withoutMarkup (dialect : Dialect) (progress : Progress) (marker : Marker) :
    progress.withoutMarkup.pass dialect marker = progress.pass dialect marker := by
  unfold pass Progress.enter
  have same : progress.withoutMarkup.position = progress.position := rfl
  rw [same]
  cases Usx.enter dialect marker.kind progress.position with
  | error malformed => rfl
  | ok step =>
    dsimp only
    cases step.visit <;> rfl

end Progress

theorem foldlM_append_ok {σ α ε : Type} (step : σ → α → Except ε σ) (front back : List α) (state : σ) :
    (front ++ back).foldlM step state =
      match front.foldlM step state with
      | .error fault => .error fault
      | .ok between => back.foldlM step between := by
  rw [List.foldlM_append]
  cases front.foldlM step state <;> rfl

mutual

theorem visit_withoutMarkup (dialect : Dialect) (marker : Marker) (progress : Progress) :
    (visit dialect marker progress).map Progress.withoutMarkup =
      marker.reached.foldlM (Progress.pass dialect) progress.withoutMarkup := by
  obtain ⟨kind, contents⟩ := marker
  rw [visit, Marker.reached, List.foldlM_cons, Progress.pass_withoutMarkup, Progress.pass]
  cases entered : progress.enter dialect ⟨kind, contents⟩ with
  | error stopped => rfl
  | ok outcome =>
    obtain ⟨opened, next⟩ := outcome
    have descends : next.isSome = kind.descends := Progress.next_isSome entered
    have inside := visitAll_withoutMarkup dialect contents opened
    rw [← descends]
    cases next with
    | none => rfl
    | some close =>
      change _ = (Marker.reachedAll contents).foldlM (Progress.pass dialect) opened.withoutMarkup
      rw [← inside]
      dsimp only
      cases visitAll dialect contents opened <;> rfl

/-- But for what is written, a walk enters one reached marker after the other, as if the tree
were a list of them. -/
theorem visitAll_withoutMarkup (dialect : Dialect) (markers : List Marker) (progress : Progress) :
    (visitAll dialect markers progress).map Progress.withoutMarkup =
      (Marker.reachedAll markers).foldlM (Progress.pass dialect) progress.withoutMarkup := by
  match markers with
  | [] => rfl
  | marker :: markers =>
    rw [visitAll, Marker.reachedAll, foldlM_append_ok, ← visit_withoutMarkup dialect marker progress]
    cases visit dialect marker progress with
    | error stopped => rfl
    | ok visited => exact visitAll_withoutMarkup dialect markers visited

end

theorem Progress.observe_foldlM {γ : Type} {dialect : Dialect} (observe : Progress → γ) (effect : γ → Marker → γ)
    (step : ∀ {before after : Progress} {marker : Marker}, before.pass dialect marker = .ok after →
      observe after = effect (observe before) marker)
    {markers : List Marker} {before after : Progress}
    (ran : markers.foldlM (Progress.pass dialect) before = .ok after) :
    observe after = markers.foldl effect (observe before) := by
  induction markers generalizing before with
  | nil =>
    cases ran
    rfl
  | cons marker markers ih =>
    rw [List.foldlM_cons] at ran
    cases passed : before.pass dialect marker with
    | error stopped =>
      rw [passed] at ran
      cases ran
    | ok next =>
      rw [passed] at ran
      rw [List.foldl_cons, ← step passed]
      exact ih ran

/-- What each step does to some part of the progress, a whole walk does marker by marker. -/
theorem observe_visitAll {γ : Type} {dialect : Dialect} (observe : Progress → γ) (effect : γ → Marker → γ)
    (forgets : ∀ progress : Progress, observe progress.withoutMarkup = observe progress)
    (step : ∀ {before after : Progress} {marker : Marker}, before.pass dialect marker = .ok after →
      observe after = effect (observe before) marker)
    {markers : List Marker} {before after : Progress} (ran : visitAll dialect markers before = .ok after) :
    observe after = (Marker.reachedAll markers).foldl effect (observe before) := by
  have flat := visitAll_withoutMarkup dialect markers before
  rw [ran] at flat
  rw [← forgets after, ← forgets before]
  exact Progress.observe_foldlM observe effect step flat.symm

theorem Progress.unrenderable_of_pass {dialect : Dialect} {before after : Progress} {marker : Marker}
    (passed : before.pass dialect marker = .ok after) :
    after.unrenderable =
      if marker.kind.hasForm then before.unrenderable else addUnseen before.unrenderable marker.identifier := by
  unfold Progress.pass Progress.enter at passed
  split at passed
  · cases passed
  · rename_i step stepped
    obtain ⟨_, skips⟩ := visit_iff stepped
    split at passed <;> rename_i visited <;> rw [visited] at skips <;> cases passed
    · rw [if_pos (by simpa using skips)]
      rfl
    · rw [if_pos (by simpa using skips)]
      rfl
    · rw [if_neg (by simpa using skips)]
      rfl

/-- A list of tags seen so far stays one in which each stands where it was first seen. -/
theorem foldl_addUnseen (seen tags : List String) :
    tags.foldl addUnseen seen.eraseDups = (seen ++ tags).eraseDups := by
  induction tags generalizing seen with
  | nil => rw [List.foldl_nil, List.append_nil]
  | cons tag tags ih =>
    have one : addUnseen seen.eraseDups tag = (seen ++ [tag]).eraseDups := by
      rw [List.eraseDups_append, addUnseen]
      by_cases known : tag ∈ seen <;> simp [List.removeAll, List.eraseDups_cons, known]
    rw [List.foldl_cons, one, ih, List.append_assoc, List.singleton_append]

/-- What has been told apart before need not be told apart again. -/
theorem eraseDups_append_eraseDups (front : List String) : (back : List String) →
    (front ++ back.eraseDups).eraseDups = (front ++ back).eraseDups
  | [] => rfl
  | tag :: back => by
    have others := eraseDups_append_eraseDups (front ++ [tag]) (back.filter fun other => !other == tag)
    have covered : (back.filter fun other => !other == tag).removeAll (front ++ [tag]) =
        back.removeAll (front ++ [tag]) := by
      rw [List.removeAll, List.filter_filter]
      refine List.filter_congr fun other _ => ?_
      by_cases same : other = tag <;> simp [same]
    rw [List.eraseDups_cons, ← List.singleton_append, ← List.append_assoc, others, List.eraseDups_append, covered,
      ← List.eraseDups_append, List.append_assoc, List.singleton_append]
  termination_by back => back.length
  decreasing_by
    have := List.length_filter_le (fun other => !other == tag) back
    simp only [List.length_cons]
    omega

/-- The tags that are reported are those of the reached markers without a form. -/
theorem unrenderable_visitAll {dialect : Dialect} {markers : List Marker} {journal : Array Record}
    {after : Progress} (ran : visitAll dialect markers (.start journal) = .ok after) :
    after.unrenderable = (Marker.missing (Marker.reachedAll markers)).eraseDups := by
  rw [observe_visitAll Progress.unrenderable
    (fun tags marker => if marker.kind.hasForm then tags else addUnseen tags marker.identifier)
    (fun _ => rfl) Progress.unrenderable_of_pass ran]
  have start : (Progress.start journal).unrenderable = ([] : List String).eraseDups := rfl
  rw [start, Marker.missing, ← List.nil_append (List.map _ _), ← foldl_addUnseen, List.foldl_map, List.foldl_filter]
  congr 1
  funext tags marker
  cases marker.kind.hasForm <;> rfl

theorem unrenderable_render {options : Options} {document : Document} {result : RenderResult}
    (rendered : (render options document).2 = .ok result) : result.unrenderable = document.missing.eraseDups := by
  obtain ⟨progress, ran, rfl⟩ := render_ok_iff.mp rendered
  exact unrenderable_visitAll ran

theorem splitBookIdentifier_ok_iff {identifier : String} :
    (∃ parts, splitBookIdentifier identifier = .ok parts) ↔ 4 ≤ identifier.length := by
  rw [splitBookIdentifier, ← String.length_toList]
  generalize identifier.toList = characters
  match characters with
  | [] | [_] | [_, _] | [_, _, _] => simp
  | _ :: _ :: _ :: _ :: _ => simp

theorem enter_ok_iff {dialect : Dialect} {kind : Kind} {position : Position} :
    (∃ step, enter dialect kind position = .ok step) ↔ kind.isNameable = true := by
  cases kind with
  | book identifier =>
    rw [Kind.isNameable, decide_eq_true_iff, ← splitBookIdentifier_ok_iff]
    simp only [enter]
    cases splitBookIdentifier identifier <;> simp
  | text | chapter | verse | word | field | heading | leveled | bare | unknown => simp [enter, Kind.isNameable]

theorem Progress.pass_ok_iff {dialect : Dialect} {before : Progress} {marker : Marker} :
    (∃ after, before.pass dialect marker = .ok after) ↔ marker.kind.isNameable = true := by
  rw [← @enter_ok_iff dialect marker.kind before.position]
  unfold Progress.pass Progress.enter
  cases Usx.enter dialect marker.kind before.position with
  | error malformed => simp [Except.map]
  | ok step =>
    dsimp only
    cases step.visit <;> simp [Except.map]

/-- A walk fails at a book that is not named, and at nothing else. -/
theorem visitAll_ok_iff {dialect : Dialect} {markers : List Marker} {before : Progress} :
    (∃ after, visitAll dialect markers before = .ok after) ↔
      ∀ marker ∈ Marker.reachedAll markers, marker.kind.isNameable = true := by
  have flat : (∃ after, visitAll dialect markers before = .ok after) ↔
      ∃ after, (Marker.reachedAll markers).foldlM (Progress.pass dialect) before.withoutMarkup = .ok after := by
    rw [← visitAll_withoutMarkup]
    cases visitAll dialect markers before <;> simp [Except.map]
  rw [flat]
  generalize before.withoutMarkup = progress
  generalize Marker.reachedAll markers = reached
  induction reached generalizing progress with
  | nil => simp [pure, Except.pure]
  | cons marker reached ih =>
    rw [List.foldlM_cons, List.forall_mem_cons, ← @Progress.pass_ok_iff dialect progress marker]
    cases progress.pass dialect marker with
    | error stopped => simp [bind, Except.bind]
    | ok next => simpa [bind, Except.bind] using ih next

/-- A document is rendered if the books in it are named, whatever else it holds. -/
theorem render_ok_iff_nameable {options : Options} {document : Document} :
    (∃ result, (render options document).2 = .ok result) ↔
      ∀ marker ∈ Marker.reachedAll document.contents, marker.kind.isNameable = true := by
  constructor
  · rintro ⟨result, rendered⟩
    obtain ⟨progress, ran, _⟩ := render_ok_iff.mp rendered
    exact visitAll_ok_iff.mp ⟨progress, ran⟩
  · exact fun nameable => render_succeeds fun journal => visitAll_ok_iff.mpr nameable

end Usx

end ScriptureMarkup
