import ScriptureMarkup.Usx.Render

namespace ScriptureMarkup.Usx

mutual

/-- Renders a marker by recursion: first what opens it, then its children from left to right
if they are to be visited, and then what closes it. -/
def visit (dialect : Dialect) : Marker → Progress → Except Stopped Progress
  | ⟨kind, contents⟩, progress =>
    match progress.enter dialect ⟨kind, contents⟩ with
    | .error stopped => .error stopped
    | .ok (opened, none) => .ok opened
    | .ok (opened, some close) =>
      match visitAll dialect contents opened with
      | .error stopped => .error stopped
      | .ok inner => .ok (inner.put close)

def visitAll (dialect : Dialect) : List Marker → Progress → Except Stopped Progress
  | [], progress => .ok progress
  | marker :: markers, progress =>
    match visit dialect marker progress with
    | .error stopped => .error stopped
    | .ok visited => visitAll dialect markers visited

end

def openingRecord (options : Options) (document : Document) : Record :=
  .rendering document.contents.length options.dialect document.encoding

/-- Closes the milestones that are open after the last marker and puts the markup into its
envelope. -/
def conclude (options : Options) (document : Document) :
    Except Stopped Progress → List Record × Except MalformedBook RenderResult
  | .error stopped => (stopped.journal.toList, .error stopped.malformed)
  | .ok progress =>
    let finished := progress.finish options.dialect
    let body := markupText finished.markup.toList
    let content := if options.partialOutput then body else envelope options.dialect document.encoding body
    let statistics := if options.collectStatistics then some finished.statistics else none
    (finished.journal.toList, .ok ⟨content, finished.unrenderable, statistics⟩)

def renderByRecursion (options : Options) (document : Document) : List Record × Except MalformedBook RenderResult :=
  conclude options document
    (visitAll options.dialect document.contents (.start #[openingRecord options document]))

/-- One turn of the loop: takes the first of what is still to be done. -/
def turn (dialect : Dialect) : List Frame → Progress → Except Stopped (List Frame × Progress)
  | [], progress => .ok ([], progress)
  | .close pieces :: frames, progress => .ok (frames, progress.put pieces)
  | .enter marker :: frames, progress =>
    match progress.enter dialect marker with
    | .error stopped => .error stopped
    | .ok (opened, none) => .ok (frames, opened)
    | .ok (opened, some close) => .ok (enterAll marker.contents (.close close :: frames), opened)

/-- A number of turns, fewer if one of them meets a malformed book. -/
def turns (dialect : Dialect) : Nat → List Frame → Progress → Except Stopped (List Frame × Progress)
  | 0, frames, progress => .ok (frames, progress)
  | n + 1, frames, progress =>
    match turn dialect frames progress with
    | .error stopped => .error stopped
    | .ok (later, moved) => turns dialect n later moved

/-- What a stack of pending frames amounts to: each marker on it is rendered by recursion. -/
def perform (dialect : Dialect) : List Frame → Progress → Except Stopped Progress
  | [], progress => .ok progress
  | .close pieces :: frames, progress => perform dialect frames (progress.put pieces)
  | .enter marker :: frames, progress =>
    match visit dialect marker progress with
    | .error stopped => .error stopped
    | .ok visited => perform dialect frames visited

variable (dialect : Dialect)

theorem perform_enterAll (markers : List Marker) (frames : List Frame) (progress : Progress) :
    perform dialect (enterAll markers frames) progress =
      match visitAll dialect markers progress with
      | .error stopped => .error stopped
      | .ok visited => perform dialect frames visited := by
  induction markers generalizing progress with
  | nil => simp only [enterAll, List.map_nil, List.nil_append, visitAll]
  | cons marker markers ih =>
    rw [visitAll]
    simp only [enterAll, List.map_cons, List.cons_append, perform] at ih ⊢
    cases visit dialect marker progress with
    | error stopped => rfl
    | ok visited => exact ih visited

/-- A turn changes the stack and the progress, but not what they amount to together. -/
theorem perform_eq_turn (frames : List Frame) (progress : Progress) :
    perform dialect frames progress =
      match turn dialect frames progress with
      | .error stopped => .error stopped
      | .ok (later, moved) => perform dialect later moved := by
  match frames with
  | [] => rfl
  | .close pieces :: frames => rfl
  | .enter ⟨kind, contents⟩ :: frames =>
    simp only [perform, turn, visit]
    cases progress.enter dialect ⟨kind, contents⟩ with
    | error stopped => rfl
    | ok entered =>
      obtain ⟨opened, next⟩ := entered
      cases next with
      | none => rfl
      | some close =>
        simp only [perform_enterAll]
        cases visitAll dialect contents opened <;> rfl

/-- A turn takes away from what is still to be done: a marker weighs more than its children
and what closes it. -/
theorem weight_turn {frames later : List Frame} {progress moved : Progress} {n : Nat}
    (ran : turn dialect frames progress = .ok (later, moved)) (bound : weight frames ≤ n + 1) : weight later ≤ n := by
  match frames with
  | [] =>
    cases ran
    exact Nat.zero_le n
  | .close pieces :: frames =>
    cases ran
    simp only [weight, Frame.weight] at bound ⊢
    omega
  | .enter marker :: frames =>
    have size := marker.count_eq
    simp only [turn] at ran
    simp only [weight, Frame.weight] at bound
    split at ran
    · cases ran
    · cases ran
      omega
    · cases ran
      rw [weight_enterAll]
      simp only [weight, Frame.weight]
      omega

theorem turns_eq_perform {n : Nat} (frames : List Frame) (progress : Progress) (bound : weight frames ≤ n) :
    turns dialect n frames progress = (perform dialect frames progress).map fun done => ([], done) := by
  -- not by the length of the stack: a turn may put many frames on it, but their weight goes down
  induction n generalizing frames progress with
  | zero =>
    match frames with
    | [] => rfl
    | .close _ :: _ => simp [weight, Frame.weight] at bound
    | .enter marker :: _ => simp [weight, Frame.weight, marker.count_eq] at bound
  | succ n ih =>
    rw [turns, perform_eq_turn]
    cases ran : turn dialect frames progress with
    | error stopped => rfl
    | ok state => exact ih state.1 state.2 (weight_turn dialect ran bound)

theorem walk_eq_perform (frames : List Frame) (progress : Progress) :
    walk dialect frames progress = perform dialect frames progress := by
  induction frames, progress using walk.induct dialect with
  | case1 progress => rw [walk, perform]
  | case2 progress pieces frames ih => rw [walk, perform, ih]
  | case3 progress marker frames stopped entered =>
    rw [walk, perform_eq_turn, turn]
    simp only [entered]
  | case4 progress marker frames opened entered ih =>
    rw [walk, perform_eq_turn, turn]
    simp only [entered, ih]
  | case5 progress marker frames opened close entered ih =>
    rw [walk, perform_eq_turn, turn]
    simp only [entered, ih]

theorem walk_enterAll (markers : List Marker) (progress : Progress) :
    walk dialect (enterAll markers []) progress = visitAll dialect markers progress := by
  rw [walk_eq_perform, perform_enterAll]
  cases visitAll dialect markers progress <;> rfl

theorem render_eq_renderByRecursion (options : Options) (document : Document) :
    render options document = renderByRecursion options document := by
  rw [renderByRecursion, ← walk_enterAll, render]
  unfold conclude
  rfl

/-- The loop over a stack of pending frames ends, after no more than two turns for each marker,
and has then done what recursion over the tree does, whether it succeeds or not. -/
theorem render_agrees_with_recursion (options : Options) (document : Document) :
    render options document = renderByRecursion options document ∧
      ∀ n, 2 * Marker.countAll document.contents ≤ n →
        turns options.dialect n (enterAll document.contents []) (.start #[openingRecord options document]) =
          (visitAll options.dialect document.contents (.start #[openingRecord options document])).map
            fun done => ([], done) := by
  refine ⟨render_eq_renderByRecursion options document, fun n bound => ?_⟩
  rw [turns_eq_perform, ← walk_eq_perform, walk_enterAll]
  rw [weight_enterAll]
  simpa [weight] using bound

end ScriptureMarkup.Usx
