import ScriptureMarkup.Proofs.Command.Batch

namespace ScriptureMarkup.Command

open Usx (RenderResult Options)

/-- Among the inputs that share a name, one is the last to be rendered. -/
theorem Renderings.exists_last {tree : FileTree} {options : Options} {inputs : List String} {input : String}
    (member : input ∈ inputs) (renders : tree.Renders options input) :
    ∃ earlier last later result, inputs = earlier ++ last :: later ∧ fileStem last = fileStem input ∧
      (∀ other ∈ later, fileStem other = fileStem input → ¬tree.Renders options other) ∧
      tree.render options last = .ok result ∧
      (contentsOf input (of tree options inputs)).getLast? = some result.content := by
  let kept (other : String) : Option String :=
    if fileStem other = fileStem input then (tree.render options other).toOption.map (·.content) else none
  -- the last content is the first that is met from behind
  have contents : (contentsOf input (of tree options inputs)).getLast? = inputs.reverse.findSome? kept := by
    rw [contentsOf, of, List.filterMap_map, List.getLast?_filterMap]
    rfl
  have found : (inputs.reverse.findSome? kept).isSome := by
    obtain ⟨result, rendered⟩ := renders
    refine List.findSome?_isSome_iff.mpr ⟨input, List.mem_reverse.mpr member, ?_⟩
    simp [kept, rendered, Except.toOption]
  obtain ⟨content, first⟩ := Option.isSome_iff_exists.mp found
  obtain ⟨later, last, earlier, order, held, none⟩ := List.findSome?_eq_some_iff.mp first
  simp only [kept] at held
  split_ifs at held with named
  cases rendered : tree.render options last with
  | error failure => simp [rendered, Except.toOption] at held
  | ok result =>
    rw [rendered] at held
    refine ⟨earlier.reverse, last, later.reverse, result, by simpa using congrArg List.reverse order, named,
      fun other member same renders => ?_, rendered, contents.trans (first.trans held.symm)⟩
    obtain ⟨_, rendered⟩ := renders
    have passed := none other (List.mem_reverse.mp member)
    simp [kept, same, rendered, Except.toOption] at passed

/-- Inputs of one name share a file, which holds the rendering of the last of them. So each of
them finds its own rendering there only if those are all alike. -/
theorem batch_keeps_last_of_namesakes {environment : Option String} {arguments inputs : List String} {directory : String}
    {dialect : Usx.Dialect} {statistics : Bool} {desk ready : Desk}
    (asked : Invocation.ofArguments? environment arguments = some (.batch inputs directory dialect statistics))
    (made : desk.Makes directory ready)
    (loads : ∀ input ∈ inputs, ready.tree.Loads input)
    (writable : ∀ input ∈ inputs, ready.tree.Writable (outputPath input directory)) :
    let options : Options := ⟨false, dialect, statistics⟩
    ∃ code after, run Desk.host environment arguments desk = (code, after) ∧
      (∀ input ∈ inputs, ready.tree.Renders options input →
        ∃ earlier last later result, inputs = earlier ++ last :: later ∧ fileStem last = fileStem input ∧
          (∀ other ∈ later, fileStem other = fileStem input → ¬ready.tree.Renders options other) ∧
          ready.tree.render options last = .ok result ∧
          after.tree.text? (outputPath input directory) = some result.content) ∧
      ((∀ input ∈ inputs, ∀ result, ready.tree.render options input = .ok result →
          after.tree.text? (outputPath input directory) = some result.content) ↔
        ∀ input ∈ inputs, ∀ other ∈ inputs, fileStem input = fileStem other → ∀ result result',
          ready.tree.render options input = .ok result → ready.tree.render options other = .ok result' →
            result.content = result'.content) := by
  intro options
  obtain ⟨later, ran, kept⟩ := run_batch asked made loads writable
  have last (input : String) (member : input ∈ inputs) (renders : ready.tree.Renders options input) :
      ∃ earlier last after result, inputs = earlier ++ last :: after ∧ fileStem last = fileStem input ∧
        (∀ other ∈ after, fileStem other = fileStem input → ¬ready.tree.Renders options other) ∧
        ready.tree.render options last = .ok result ∧
        later.text? (outputPath input directory) = some result.content := by
    obtain ⟨earlier, last, after, result, order, named, none, rendered, held⟩ := Renderings.exists_last member renders
    refine ⟨earlier, last, after, result, order, named, none, rendered, ?_⟩
    rw [kept.text?_outputPath (writable input member), held, Option.some_or]
  refine ⟨_, _, ran, last, fun own input member other member' named result result' rendered rendered' => ?_,
    fun alike input member result rendered => ?_⟩
  · have path : outputPath input directory = outputPath other directory := by rw [outputPath, outputPath, named]
    have both := (own input member result rendered).symm.trans (path ▸ own other member' result' rendered')
    exact Option.some.inj both
  · obtain ⟨earlier, last, after, result', order, named, -, rendered', held⟩ := last input member ⟨result, rendered⟩
    have there : last ∈ inputs := by simp [order]
    rw [held, alike last there input member named result' result rendered' rendered]

/-- Two texts in files of one name. -/
def twoOfOneName : Desk where
  tree := ⟨[(["a.json"], "\x7b\"contents\":[\x7b\"marker\":\"text\",\"text\":\"first\"\x7d]\x7d"),
    (["x", "a.json"], "\x7b\"contents\":[\x7b\"marker\":\"text\",\"text\":\"second one\"\x7d]\x7d")], []⟩
  printed := ""
  reported := ""

def twoWithDirectory : FileTree := { twoOfOneName.tree with directories := [["out"]] }

theorem asked_twoOfOneName : Invocation.ofArguments? none ["batch", "a.json", "x/a.json", "-o", "out"] =
    some (.batch ["a.json", "x/a.json"] "out" .usx3_0 false) := by decide +kernel

theorem makes_twoOfOneName : twoOfOneName.Makes "out" { twoOfOneName with tree := twoWithDirectory } := rfl

theorem batch_keeps_last_of_two :
    ∃ after, run Desk.host none ["batch", "a.json", "x/a.json", "-o", "out"] twoOfOneName = (0, after) ∧
      after.tree.text? "out/a.usx" = some "<?xml version=\"1.0\"?>\n<usx version=\"3.0\">\nsecond one</usx>\n" := by
  obtain ⟨code, after, ran, last, -⟩ :=
    batch_keeps_last_of_namesakes asked_twoOfOneName makes_twoOfOneName (by decide +kernel) (by decide +kernel)
  have success : (run Desk.host none ["batch", "a.json", "x/a.json", "-o", "out"] twoOfOneName).1 = 0 := by decide +kernel
  have path : outputPath "a.json" "out" = "out/a.usx" := by decide +kernel
  obtain ⟨earlier, input, later, result, order, -, none, rendered, held⟩ := last "a.json" (by simp) (by decide +kernel)
  have second : input = "x/a.json" := by
    match earlier with
    | [] =>
      cases order
      exact absurd (by decide +kernel) (none "x/a.json" (by simp) (by decide +kernel))
    | [_] =>
      cases order
      rfl
    | _ :: _ :: _ => simp at order
  have content : (twoWithDirectory.render ⟨false, .usx3_0, false⟩ input).toOption.map (·.content) =
      some "<?xml version=\"1.0\"?>\n<usx version=\"3.0\">\nsecond one</usx>\n" := by
    subst second
    decide +kernel
  rw [path] at held
  rw [ran] at success
  rw [rendered] at content
  exact ⟨after, ran.trans (congrArg (·, after) success), held.trans content⟩

/-- Not every rendering outlives the batch. -/
theorem batch_overwrites_first_of_two :
    ¬∀ environment arguments inputs directory dialect statistics desk ready,
      Invocation.ofArguments? environment arguments = some (.batch inputs directory dialect statistics) →
      desk.Makes directory ready → (∀ input ∈ inputs, ready.tree.Loads input) →
      (∀ input ∈ inputs, ready.tree.Writable (outputPath input directory)) →
      ∀ input ∈ inputs, ∀ result, ready.tree.render ⟨false, dialect, statistics⟩ input = .ok result →
        (run Desk.host environment arguments desk).2.tree.text? (outputPath input directory) = some result.content := by
  intro keeps
  have first := keeps none ["batch", "a.json", "x/a.json", "-o", "out"] _ _ _ _ twoOfOneName _ asked_twoOfOneName
    makes_twoOfOneName (by decide +kernel) (by decide +kernel) "a.json" (by simp)
  have renders : twoWithDirectory.Renders ⟨false, .usx3_0, false⟩ "a.json" := by
    decide +kernel
  obtain ⟨result, rendered⟩ := renders
  have other : (run Desk.host none ["batch", "a.json", "x/a.json", "-o", "out"] twoOfOneName).2.tree.text?
      (outputPath "a.json" "out") ≠
      (twoWithDirectory.render ⟨false, .usx3_0, false⟩ "a.json").toOption.map (·.content) := by
    decide +kernel
  rw [rendered] at other
  exact other (first result rendered)

end ScriptureMarkup.Command
