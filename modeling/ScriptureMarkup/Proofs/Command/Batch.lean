import ScriptureMarkup.Proofs.Command.Keeping

namespace ScriptureMarkup.Command

open Usx (RenderResult Options)

section

variable {environment : Option String} {arguments inputs : List String} {input directory : String}
  {dialect : Usx.Dialect} {statistics : Bool} {desk ready : Desk}

theorem run_eq {invocation : Invocation} (asked : Invocation.ofArguments? environment arguments = some invocation)
    (desk : Desk) :
    run Desk.host environment arguments desk =
      match invocation.run Desk.host desk with
      | (.ok (), after) => (0, after)
      | (.error complaint, after) =>
        (1, { after with reported := after.reported ++ line ("Error: " ++ complaint.message) }) := by
  simp only [run, asked, Desk.bind_apply]
  generalize invocation.run Desk.host desk = answer
  obtain ⟨outcome, after⟩ := answer
  cases outcome <;> rfl

/-- A single rendering prints its markup and nothing else. -/
theorem run_render (desk : Desk)
    (asked : Invocation.ofArguments? environment arguments = some (.render input none false dialect statistics))
    {collect : Bool} {outcome : Except Failure RenderResult}
    (rendered : desk.tree.render ⟨false, dialect, collect⟩ input = outcome) :
    ∃ reported, run Desk.host environment arguments desk =
      match outcome.map (·.content) with
      | .ok content => (0, { desk with printed := desk.printed ++ content, reported := reported })
      | .error _ => (1, { desk with reported := reported }) := by
  have read : Desk.host.read input desk = (desk.tree.read input, desk) := rfl
  rw [run_eq asked, ← rendered, desk.tree.content_render dialect collect statistics, FileTree.render_eq]
  simp only [Invocation.run, runRender, Desk.bind_apply, read]
  cases desk.tree.read input with
  | error failure => exact ⟨_, rfl⟩
  | ok source =>
    dsimp only
    cases renderInput ⟨false, dialect, statistics⟩ source with
    | error failure => exact ⟨_, rfl⟩
    | ok result =>
      obtain ⟨content, unrenderable, counts⟩ := result
      cases counts <;> exact ⟨_, rfl⟩

/-- A batch stops where an input cannot be loaded, before anything is rendered. -/
theorem run_batch_of_not_loads
    (asked : Invocation.ofArguments? environment arguments = some (.batch inputs directory dialect statistics))
    (made : desk.Makes directory ready)
    (stops : ¬∀ input ∈ inputs, ready.tree.Loads input) :
    ∃ reported, run Desk.host environment arguments desk = (1, { ready with reported := reported }) := by
  obtain ⟨failure, stopped⟩ := Renderings.mapM_load_of_not_loads stops
  have batch : (Invocation.batch inputs directory dialect statistics).run Desk.host desk =
      (.error (.document failure), ready) := by
    unfold Desk.Makes at made
    simp only [Invocation.run, runBatch, Desk.bind_apply, made, Desk.loadAll_host, stopped]
    rfl
  rw [run_eq asked, batch]
  exact ⟨_, rfl⟩

/-- What a batch reports after all of its documents. -/
def closingReport (statistics : Bool) (renderings : Renderings) : String :=
  (if statistics then totalsText renderings.statistics else "") ++
    if renderings.failed = 0 then "" else failuresText renderings.failed renderings.length

/-- A batch whose inputs all load keeps what can be rendered, and complains at the end. -/
theorem run_batch
    (asked : Invocation.ofArguments? environment arguments = some (.batch inputs directory dialect statistics))
    (made : desk.Makes directory ready)
    (loads : ∀ input ∈ inputs, ready.tree.Loads input)
    (writable : ∀ input ∈ inputs, ready.tree.Writable (outputPath input directory)) :
    let renderings := Renderings.of ready.tree ⟨false, dialect, statistics⟩ inputs
    ∃ later, run Desk.host environment arguments desk =
        (if renderings.failed = 0 then 0 else 1,
          ⟨later, desk.printed ++ "\nOutput files:\n" ++ renderings.printed directory,
            desk.reported ++ renderings.reported ++ closingReport statistics renderings⟩) ∧
      Kept ready.tree later directory renderings := by
  intro renderings
  obtain ⟨documents, loaded⟩ := Renderings.mapM_load_of_loads loads
  have told : Renderings.told (inputs.zip (Usx.renderAll ⟨false, dialect, statistics⟩ documents)) = renderings :=
    Renderings.told_zip loaded
  have total : statisticsReport (Usx.totalStatistics (Usx.renderAll ⟨false, dialect, statistics⟩ documents)) =
      totalsText renderings.statistics := by
    rw [Renderings.totalStatistics_renderAll loaded, statisticsReport_sum]
  obtain ⟨later, keep, kept⟩ :=
    keepAll_host directory (inputs.zip (Usx.renderAll ⟨false, dialect, statistics⟩ documents))
      { ready with printed := ready.printed ++ "\nOutput files:\n" }
      fun outcome member => writable outcome.1 (List.of_mem_zip member).1
  rw [told] at keep kept
  refine ⟨later, ?_, kept⟩
  obtain ⟨printed, reported, -⟩ := made.grown
  rw [run_eq asked, ← printed, ← reported]
  unfold Desk.Makes at made
  simp only [Invocation.run, runBatch, Desk.bind_apply, made, Desk.loadAll_host, loaded, Desk.host_print, keep, total]
  have length : renderings.length = inputs.length := List.length_map _
  by_cases every : renderings.failed = 0 <;> cases statistics <;>
    simp [every, length, closingReport, line_unrendered, Desk.bind_apply, Desk.host_report, Desk.pure_apply,
      String.append_assoc]

/-- A batch whose outputs do not get into each other's way does for each input what rendering
it alone does, and accounts for all of them. -/
theorem batch_agrees_with_single_renderings
    (asked : Invocation.ofArguments? environment arguments = some (.batch inputs directory dialect statistics))
    (made : desk.Makes directory ready)
    (writable : ∀ input ∈ inputs, ready.tree.Writable (outputPath input directory))
    (apart : (inputs.map (outputPath · directory)).Nodup) :
    let options : Options := ⟨false, dialect, statistics⟩
    let renderings := Renderings.of ready.tree options inputs
    ∃ code after, run Desk.host environment arguments desk = (code, after) ∧
      ((¬∀ input ∈ inputs, ready.tree.Loads input) → code = 1 ∧ after.tree.files = desk.tree.files) ∧
      ((∀ input ∈ inputs, ready.tree.Loads input) →
        (∀ input ∈ inputs, ∀ environment' arguments' statistics',
          Invocation.ofArguments? environment' arguments' = some (.render input none false dialect statistics') →
          (ready.tree.Renders options input →
            ∃ shown, run Desk.host environment' arguments' ⟨ready.tree, "", ""⟩ = (0, shown) ∧
              after.tree.text? (outputPath input directory) = some shown.printed) ∧
          (¬ready.tree.Renders options input →
            ∃ shown, run Desk.host environment' arguments' ⟨ready.tree, "", ""⟩ = (1, shown) ∧ shown.printed = "" ∧
              after.tree.text? (outputPath input directory) = ready.tree.text? (outputPath input directory)) ∧
          ∀ shown, run Desk.host environment' arguments' ⟨desk.tree, "", ""⟩ = (0, shown) →
            after.tree.text? (outputPath input directory) = some shown.printed) ∧
        (∀ place, after.tree.files.lookup place ≠ desk.tree.files.lookup place →
          ∃ input ∈ inputs, ready.tree.Renders options input ∧
            ready.tree.place? (outputPath input directory) = some place) ∧
        after.printed = desk.printed ++ "\nOutput files:\n" ++ renderings.printed directory ∧
        after.reported = desk.reported ++ renderings.reported ++ closingReport statistics renderings ∧
        code = if ∀ input ∈ inputs, ready.tree.Renders options input then 0 else 1) := by
  intro options renderings
  obtain ⟨-, -, grown⟩ := made.grown
  by_cases loads : ∀ input ∈ inputs, ready.tree.Loads input
  swap
  · obtain ⟨reported, ran⟩ := run_batch_of_not_loads asked made loads
    exact ⟨_, _, ran, fun _ => ⟨rfl, grown.files⟩, fun now => absurd now loads⟩
  obtain ⟨later, ran, kept⟩ := run_batch asked made loads writable
  refine ⟨_, _, ran, fun stops => absurd loads stops, fun _ =>
    ⟨fun input member environment' arguments' statistics' alone => ?_, fun place differ => ?_, rfl, rfl, ?_⟩⟩
  · have own := kept.text?_of_apart member (writable input member) apart
    refine ⟨fun ⟨result, rendered⟩ => ?_, fun fails => ?_, fun shown success => ?_⟩
    · obtain ⟨_, single⟩ := run_render ⟨ready.tree, "", ""⟩ alone rendered
      rw [rendered] at own
      exact ⟨_, single, own.trans (congrArg some String.empty_append.symm)⟩
    · cases rendered : ready.tree.render options input with
      | ok result => exact absurd ⟨result, rendered⟩ fails
      | error failure =>
        obtain ⟨_, single⟩ := run_render ⟨ready.tree, "", ""⟩ alone rendered
        rw [rendered] at own
        exact ⟨_, single, rfl, own⟩
    · -- a single rendering before the batch has made its directory
      cases rendered : desk.tree.render options input with
      | ok result =>
        obtain ⟨_, single⟩ := run_render ⟨desk.tree, "", ""⟩ alone rendered
        rw [grown.render rendered] at own
        cases success.symm.trans single
        exact own.trans (congrArg some String.empty_append.symm)
      | error failure =>
        obtain ⟨_, single⟩ := run_render ⟨desk.tree, "", ""⟩ alone rendered
        cases success.symm.trans single
  · rw [← grown.files] at differ
    exact kept.changed differ
  · exact if_congr Renderings.failed_eq_zero_iff rfl rfl

end

/-- Two books, of which one cannot be rendered. -/
def goodAndBad : Desk where
  tree := ⟨[(["good.json"], "\x7b\"contents\":[\x7b\"marker\":\"text\",\"text\":\"good\"\x7d]\x7d"),
    (["bad.json"], "\x7b\"contents\":[\x7b\"marker\":\"id\",\"text_identifier\":\"X\"\x7d]\x7d")], []⟩
  printed := ""
  reported := ""

/-- What is told of them. -/
def goodAndBadPrinted : String := "\nOutput files:\n  ├─ out/good.usx (53 bytes)\n"

def goodAndBadReported : String :=
  "  Failed bad.json: Malformed book identifier: \"X\" (expected a 3-letter code, a separator and a label)\n" ++
  "Render Statistics\n────────────────────────────────────────\nBooks: 0\nChapters: 0\nVerses: 0\nParagraphs: 0\n" ++
  "Notes: 0\nTables: 0\nWords: 1\nSkipped markers: 0\nError: 1 of 2 documents failed to render\n"

theorem batch_agrees_with_single_renderings_of_good_and_bad :
    ∃ after, run Desk.host none ["batch", "good.json", "bad.json", "-o", "out", "--stats"] goodAndBad = (1, after) ∧
      after.tree.text? "out/good.usx" = some (run Desk.host none ["render", "good.json"] goodAndBad).2.printed ∧
      after.tree.text? "out/bad.usx" = none ∧ after.printed = goodAndBadPrinted ∧
      after.reported = goodAndBadReported := by
  have asked : Invocation.ofArguments? none ["batch", "good.json", "bad.json", "-o", "out", "--stats"] =
      some (.batch ["good.json", "bad.json"] "out" .usx3_0 true) := by decide +kernel
  have made : goodAndBad.Makes "out" { goodAndBad with tree := ⟨goodAndBad.tree.files, [["out"]]⟩ } := rfl
  have good : Invocation.ofArguments? none ["render", "good.json"] =
      some (.render "good.json" none false .usx3_0 false) := by decide +kernel
  have bad : Invocation.ofArguments? none ["render", "bad.json"] =
      some (.render "bad.json" none false .usx3_0 false) := by decide +kernel
  obtain ⟨code, after, ran, -, account⟩ :=
    batch_agrees_with_single_renderings asked made (by decide +kernel) (by decide +kernel)
  obtain ⟨outputs, -, printed, reported, rfl⟩ := account (by decide +kernel)
  rw [if_neg (by decide +kernel)] at ran
  obtain ⟨-, -, kept⟩ := outputs "good.json" (by simp) _ _ _ good
  obtain ⟨-, passed, -⟩ := outputs "bad.json" (by simp) _ _ _ bad
  obtain ⟨_, -, -, absent⟩ := passed (by decide +kernel)
  have path : outputPath "good.json" "out" = "out/good.usx" := by decide +kernel
  have path' : outputPath "bad.json" "out" = "out/bad.usx" := by decide +kernel
  rw [path] at kept
  rw [path'] at absent
  exact ⟨after, ran, kept _ (Prod.ext (by decide +kernel) rfl), absent.trans (by decide +kernel),
    printed.trans (by decide +kernel), reported.trans (by decide +kernel)⟩

end ScriptureMarkup.Command
