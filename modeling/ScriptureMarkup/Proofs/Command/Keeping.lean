import Mathlib.Data.List.Nodup
import ScriptureMarkup.Proofs.Command.Desk
import ScriptureMarkup.Proofs.Command.Renderings

namespace ScriptureMarkup.Command

open Usx (MalformedBook RenderResult Options)

/-- What becomes of a tree when renderings are kept in it: directories stay as they are, and
a file holds what has been kept in it last. -/
structure Kept (tree later : FileTree) (directory : String) (renderings : Renderings) : Prop where
  same : later.isDirectory = tree.isDirectory
  lookup : ∀ place, later.files.lookup place =
    (renderings.contentsAt tree directory place).getLast?.or (tree.files.lookup place)

namespace Kept

variable {tree later : FileTree} {directory input : String} {renderings : Renderings}

theorem nil (tree : FileTree) (directory : String) : Kept tree tree directory [] := ⟨rfl, fun _ => rfl⟩

theorem failed (kept : Kept tree later directory renderings) (input : String) (failure : Failure) :
    Kept tree later directory ((input, .error failure) :: renderings) :=
  ⟨kept.same, fun place => by rw [kept.lookup, Renderings.contentsAt_error]⟩

theorem put {place : Place} (found : tree.place? (outputPath input directory) = some place) {result : RenderResult}
    (kept : Kept (tree.put place result.content) later directory renderings) :
    Kept tree later directory ((input, .ok result) :: renderings) := by
  obtain ⟨above, there, rfl, -⟩ := FileTree.place?_outputPath found
  have same := FileTree.isDirectory_put there (outputName input) result.content
  refine ⟨kept.same.trans same, fun place => ?_⟩
  rw [kept.lookup, Renderings.contentsAt_congr same, FileTree.lookup_put, Renderings.contentsAt_ok, found]
  by_cases here : place = above ++ [outputName input]
  · rw [if_pos here, if_pos (congrArg some here.symm), List.getLast?_cons]
    cases (renderings.contentsAt tree directory place).getLast? <;> rfl
  · rw [if_neg here, if_neg fun same => here (Option.some.inj same).symm]

/-- The file of an input holds the last content that has been kept under its name. -/
theorem text?_outputPath (kept : Kept tree later directory renderings)
    (writable : tree.Writable (outputPath input directory)) :
    later.text? (outputPath input directory) =
      (renderings.contentsOf input).getLast?.or (tree.text? (outputPath input directory)) := by
  obtain ⟨place, found, -⟩ := writable.write
  rw [FileTree.text?, FileTree.text?, FileTree.place?_congr kept.same, found, Option.bind_some, Option.bind_some,
    kept.lookup, Renderings.contentsAt_place found]

theorem text?_of_apart {inputs : List String} {options : Options}
    (kept : Kept tree later directory (.of tree options inputs)) (member : input ∈ inputs)
    (writable : tree.Writable (outputPath input directory)) (apart : (inputs.map (outputPath · directory)).Nodup) :
    later.text? (outputPath input directory) =
      match tree.render options input with
      | .ok result => some result.content
      | .error _ => tree.text? (outputPath input directory) := by
  have stems : (inputs.map fileStem).Nodup := by
    refine List.Nodup.of_map (fun stem => inDirectory directory (stem ++ ".usx")) ?_
    rwa [List.map_map]
  rw [kept.text?_outputPath writable, Renderings.contentsOf_of_apart stems member]
  cases tree.render options input <;> rfl

/-- No file changes but those of inputs that are rendered. -/
theorem changed {inputs : List String} {options : Options} (kept : Kept tree later directory (.of tree options inputs))
    {place : Place} (differ : later.files.lookup place ≠ tree.files.lookup place) :
    ∃ input ∈ inputs, tree.Renders options input ∧ tree.place? (outputPath input directory) = some place := by
  have filled : (Renderings.of tree options inputs).contentsAt tree directory place ≠ [] := by
    intro none
    exact differ (by rw [kept.lookup, none]; rfl)
  obtain ⟨content, member⟩ := List.exists_mem_of_ne_nil _ filled
  obtain ⟨rendering, listed, found⟩ := List.mem_filterMap.mp member
  obtain ⟨input, there, rfl⟩ := List.mem_map.mp listed
  dsimp only at found
  split_ifs at found with here
  cases rendered : tree.render options input with
  | error failure => simp [rendered, Except.toOption] at found
  | ok result => exact ⟨input, there, ⟨result, rendered⟩, here⟩

end Kept

theorem keepAll_error (directory input : String) (malformed : MalformedBook)
    (outcomes : List (String × Except MalformedBook RenderResult)) (desk : Desk) :
    keepAll Desk.host directory ((input, .error malformed) :: outcomes) desk =
      ((keepAll Desk.host directory outcomes { desk with
          reported := desk.reported ++ failedText input (.malformedBook malformed) }).map (·.map (· + 1)) id) := by
  simp only [keepAll, Desk.bind_apply, Desk.host_report, line_failed]
  generalize keepAll Desk.host directory outcomes _ = run
  obtain ⟨outcome, after⟩ := run
  cases outcome <;> rfl

theorem keepAll_ok {directory input : String} {result : RenderResult} {desk : Desk} {later : FileTree}
    (written : desk.tree.write (outputPath input directory) result.content = .ok later)
    (outcomes : List (String × Except MalformedBook RenderResult)) :
    keepAll Desk.host directory ((input, .ok result) :: outcomes) desk =
      keepAll Desk.host directory outcomes
        ⟨later, desk.printed ++ keptText (outputPath input directory) result.content,
          desk.reported ++ warningText input result.unrenderable⟩ := by
  have run : Desk.host.write (outputPath input directory) result.content desk =
      (.ok (), { desk with tree := later }) := by
    simp only [Desk.host, Desk.change, written]
  simp only [keepAll, Desk.bind_apply, run, Desk.host_print, Desk.host_report, line_kept, warning_eq]

/-- Where the outputs can be written, a batch runs to its end: each rendering is kept and each
failure passed over. -/
theorem keepAll_host (directory : String) (outcomes : List (String × Except MalformedBook RenderResult)) (desk : Desk)
    (writable : ∀ outcome ∈ outcomes, desk.tree.Writable (outputPath outcome.1 directory)) :
    ∃ later, keepAll Desk.host directory outcomes desk =
        (.ok (Renderings.told outcomes).failed,
          ⟨later, desk.printed ++ (Renderings.told outcomes).printed directory,
            desk.reported ++ (Renderings.told outcomes).reported⟩) ∧
      Kept desk.tree later directory (Renderings.told outcomes) := by
  induction outcomes generalizing desk with
  | nil =>
    refine ⟨desk.tree, ?_, .nil _ _⟩
    simp only [keepAll, Desk.pure_apply, Renderings.told, List.map_nil, Renderings.printed, Renderings.reported,
      List.filterMap_nil, String.join_nil, String.append_empty]
    rfl
  | cons outcome outcomes ih =>
    have others : ∀ outcome ∈ outcomes, desk.tree.Writable (outputPath outcome.1 directory) :=
      fun outcome member => writable outcome (List.mem_cons_of_mem _ member)
    match outcome with
    | (input, .error malformed) =>
      have told : Renderings.told ((input, .error malformed) :: outcomes) =
          (input, .error (.malformedBook malformed)) :: Renderings.told outcomes := rfl
      let failure := failedText input (.malformedBook malformed)
      obtain ⟨later, run, kept⟩ := ih { desk with reported := desk.reported ++ failure } others
      refine ⟨later, ?_, told ▸ kept.failed input _⟩
      rw [keepAll_error, run, told, Renderings.failed_error, Renderings.printed_error, Renderings.reported_error,
        ← String.append_assoc]
      rfl
    | (input, .ok result) =>
      have told : Renderings.told ((input, .ok result) :: outcomes) =
          (input, .ok result) :: Renderings.told outcomes := rfl
      obtain ⟨place, found, write⟩ := (writable _ List.mem_cons_self).write
      obtain ⟨above, there, rfl, -⟩ := FileTree.place?_outputPath found
      have same := FileTree.isDirectory_put there (outputName input) result.content
      obtain ⟨later, run, kept⟩ := ih
        ⟨desk.tree.put (above ++ [outputName input]) result.content,
          desk.printed ++ keptText (outputPath input directory) result.content,
          desk.reported ++ warningText input result.unrenderable⟩
        -- what has just been kept moves no directory, so the other outputs can be written as before
        fun outcome member => (others outcome member).congr same
      refine ⟨later, ?_, told ▸ kept.put found⟩
      rw [keepAll_ok (write _), run, told, Renderings.failed_ok, Renderings.printed_ok, Renderings.reported_ok,
        ← String.append_assoc, ← String.append_assoc]

end ScriptureMarkup.Command
