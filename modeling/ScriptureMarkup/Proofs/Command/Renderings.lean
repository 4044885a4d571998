import ScriptureMarkup.Proofs.Command.Files
import ScriptureMarkup.Proofs.Command.Reports

namespace ScriptureMarkup

namespace Usx

/-- What a document that has been rendered adds to a total. -/
def counted {ε : Type} (outcome : Except ε RenderResult) : Option Statistics := outcome.toOption.bind (·.statistics)

theorem totalStatistics_eq_sum (results : List (Except MalformedBook RenderResult)) :
    totalStatistics results = .sum (results.filterMap counted) := by
  have merged : totalStatistics results = (results.filterMap counted).foldl .merge .zero := by
    rw [List.foldl_filterMap, totalStatistics]
    congr 1
    funext total result
    match result with
    | .ok ⟨_, _, some counts⟩ => rfl
    | .ok ⟨_, _, none⟩ => rfl
    | .error _ => rfl
  rw [merged, Statistics.foldl_merge, Statistics.zero_merge]

end Usx

namespace Command

open Usx (MalformedBook RenderResult Options)

/-- The inputs of a batch, each with what becomes of its document. -/
abbrev Renderings := List (String × Except Failure RenderResult)

namespace Renderings

/-- Every input rendered by itself. -/
def of (tree : FileTree) (options : Options) (inputs : List String) : Renderings :=
  inputs.map fun input => (input, tree.render options input)

/-- One line for each output. -/
def printed (directory : String) (renderings : Renderings) : String :=
  String.join (renderings.filterMap fun (input, outcome) => outcome.toOption.map fun result =>
    keptText (outputPath input directory) result.content)

/-- One line for each failure, among the warnings about what has been rendered. -/
def reported (renderings : Renderings) : String :=
  String.join (renderings.map fun
    | (input, .ok result) => warningText input result.unrenderable
    | (input, .error failure) => failedText input failure)

def failed (renderings : Renderings) : Nat := renderings.countP fun (_, outcome) => outcome.toOption.isNone

/-- What has been counted in each document that could be rendered. -/
def statistics (renderings : Renderings) : List Usx.Statistics :=
  renderings.filterMap fun (_, outcome) => Usx.counted outcome

theorem printed_error (directory input : String) (failure : Failure) (renderings : Renderings) :
    printed directory ((input, .error failure) :: renderings) = printed directory renderings := rfl

theorem printed_ok (directory input : String) (result : RenderResult) (renderings : Renderings) :
    printed directory ((input, .ok result) :: renderings) =
      keptText (outputPath input directory) result.content ++ printed directory renderings :=
  String.join_cons

theorem reported_error (input : String) (failure : Failure) (renderings : Renderings) :
    reported ((input, .error failure) :: renderings) = failedText input failure ++ reported renderings :=
  String.join_cons

theorem reported_ok (input : String) (result : RenderResult) (renderings : Renderings) :
    reported ((input, .ok result) :: renderings) = warningText input result.unrenderable ++ reported renderings :=
  String.join_cons

theorem failed_error (input : String) (failure : Failure) (renderings : Renderings) :
    failed ((input, .error failure) :: renderings) = failed renderings + 1 :=
  List.countP_cons_of_pos rfl

theorem failed_ok (input : String) (result : RenderResult) (renderings : Renderings) :
    failed ((input, .ok result) :: renderings) = failed renderings :=
  List.countP_cons_of_neg Bool.false_ne_true

/-- What is kept at a place, the latest content last. -/
def contentsAt (tree : FileTree) (directory : String) (place : Place) (renderings : Renderings) : List String :=
  renderings.filterMap fun (input, outcome) =>
    if tree.place? (outputPath input directory) = some place then outcome.toOption.map (·.content) else none

/-- What is kept under the name of an input, the latest content last. -/
def contentsOf (input : String) (renderings : Renderings) : List String :=
  renderings.filterMap fun (other, outcome) =>
    if fileStem other = fileStem input then outcome.toOption.map (·.content) else none

/-- Outcomes as the commands tell them. -/
def told (outcomes : List (String × Except MalformedBook RenderResult)) : Renderings :=
  outcomes.map fun (input, outcome) => (input, outcome.mapError .malformedBook)

variable {tree other : FileTree} {options : Options} {inputs : List String} {documents : List Document}

theorem contentsAt_error (directory : String) (place : Place) (input : String) (failure : Failure)
    (renderings : Renderings) :
    contentsAt tree directory place ((input, .error failure) :: renderings) =
      contentsAt tree directory place renderings :=
  List.filterMap_cons_none (ite_self none)

theorem contentsAt_ok (directory : String) (place : Place) (input : String) (result : RenderResult)
    (renderings : Renderings) :
    contentsAt tree directory place ((input, .ok result) :: renderings) =
      if tree.place? (outputPath input directory) = some place then
        result.content :: contentsAt tree directory place renderings
      else contentsAt tree directory place renderings := by
  split_ifs with here
  · exact List.filterMap_cons_some (if_pos here)
  · exact List.filterMap_cons_none (if_neg here)

theorem contentsAt_congr (same : other.isDirectory = tree.isDirectory) (directory : String) (place : Place)
    (renderings : Renderings) :
    contentsAt other directory place renderings = contentsAt tree directory place renderings := by
  simp only [contentsAt, FileTree.place?_congr same]

theorem contentsAt_place {directory input : String} {place : Place}
    (found : tree.place? (outputPath input directory) = some place) (renderings : Renderings) :
    contentsAt tree directory place renderings = contentsOf input renderings := by
  have named (other : String) :
      tree.place? (outputPath other directory) = some place ↔ fileStem other = fileStem input := by
    constructor
    · intro found'
      obtain ⟨above, -, here, all⟩ := FileTree.place?_outputPath found
      have there := here.symm.trans (all other place found')
      simpa [outputName_inj, eq_comm] using there
    · intro same
      rw [outputPath, same]
      exact found
  simp only [contentsAt, contentsOf, named]

theorem contentsOf_cons (input other : String) (outcome : Except Failure RenderResult) (renderings : Renderings) :
    contentsOf input ((other, outcome) :: renderings) =
      (if fileStem other = fileStem input then (outcome.toOption.map (·.content)).toList else []) ++
        contentsOf input renderings := by
  rw [contentsOf, contentsOf, List.filterMap_cons]
  by_cases same : fileStem other = fileStem input
  · simp only [if_pos same]
    cases outcome <;> rfl
  · simp only [if_neg same, List.nil_append]

/-- Inputs of different names do not get into each other's way. -/
theorem contentsOf_of_apart {input : String} (apart : (inputs.map fileStem).Nodup) (member : input ∈ inputs) :
    contentsOf input (of tree options inputs) = ((tree.render options input).toOption.map (·.content)).toList := by
  induction inputs with
  | nil => cases member
  | cons other inputs ih =>
    rw [List.map_cons, List.nodup_cons] at apart
    rcases List.mem_cons.mp member with rfl | later
    · have alone : contentsOf input (of tree options inputs) = [] := by
        refine List.filterMap_eq_nil_iff.mpr fun rendering found => ?_
        obtain ⟨namesake, there, rfl⟩ := List.mem_map.mp found
        exact if_neg fun same => apart.1 (List.mem_map.mpr ⟨namesake, there, same⟩)
      rw [of, List.map_cons, contentsOf_cons, if_pos rfl]
      exact (congrArg _ alone).trans (List.append_nil _)
    · have differ : fileStem other ≠ fileStem input :=
        fun same => apart.1 (List.mem_map.mpr ⟨input, later, same.symm⟩)
      rw [of, List.map_cons, contentsOf_cons, if_neg differ]
      exact ih apart.2 later

theorem failed_eq_zero_iff :
    (of tree options inputs).failed = 0 ↔ ∀ input ∈ inputs, tree.Renders options input := by
  rw [failed, of, List.countP_map, List.countP_eq_zero]
  refine forall₂_congr fun input _ => ?_
  dsimp only [Function.comp_apply, FileTree.Renders]
  cases tree.render options input <;> simp [Except.toOption]

theorem mapM_load_of_loads (loads : ∀ input ∈ inputs, tree.Loads input) :
    ∃ documents, inputs.mapM tree.load = .ok documents := by
  induction inputs with
  | nil => exact ⟨[], rfl⟩
  | cons input inputs ih =>
    obtain ⟨document, found⟩ := loads input List.mem_cons_self
    obtain ⟨documents, rest⟩ := ih fun other member => loads other (List.mem_cons_of_mem _ member)
    exact ⟨document :: documents, by rw [List.mapM_cons, found, rest]; rfl⟩

theorem mapM_load_of_not_loads (stops : ¬∀ input ∈ inputs, tree.Loads input) :
    ∃ failure, inputs.mapM tree.load = .error failure := by
  induction inputs with
  | nil => simp at stops
  | cons input inputs ih =>
    rw [List.mapM_cons]
    cases found : tree.load input with
    | error failure => exact ⟨failure, rfl⟩
    | ok document =>
      obtain ⟨failure, rest⟩ := ih (by simpa [FileTree.Loads, found] using stops)
      exact ⟨failure, by rw [rest]; rfl⟩

theorem render_of_loaded (loaded : inputs.mapM tree.load = .ok documents) :
    inputs.map (tree.render options) = (Usx.renderAll options documents).map (·.mapError .malformedBook) := by
  induction inputs generalizing documents with
  | nil =>
    cases loaded
    rfl
  | cons input inputs ih =>
    rw [List.mapM_cons] at loaded
    cases found : tree.load input with
    | error failure =>
      rw [found] at loaded
      cases loaded
    | ok document =>
      cases rest : inputs.mapM tree.load with
      | error failure =>
        rw [found, rest] at loaded
        cases loaded
      | ok documents =>
        rw [found, rest] at loaded
        cases loaded
        have here : tree.render options input = document.render options := by rw [FileTree.render, found]
        rw [List.map_cons, ih rest, here]
        rfl

theorem told_zip (loaded : inputs.mapM tree.load = .ok documents) :
    told (inputs.zip (Usx.renderAll options documents)) = of tree options inputs := by
  rw [of, List.map_prod_left_eq_zip, render_of_loaded loaded, List.zip_map_right]
  rfl

theorem totalStatistics_renderAll (loaded : inputs.mapM tree.load = .ok documents) :
    Usx.totalStatistics (Usx.renderAll options documents) = .sum (of tree options inputs).statistics := by
  have told : (Usx.counted ∘ fun outcome : Except MalformedBook RenderResult =>
      outcome.mapError Failure.malformedBook) = Usx.counted := by
    funext outcome
    cases outcome <;> rfl
  rw [Usx.totalStatistics_eq_sum, statistics, of, List.filterMap_map]
  change _ = Usx.Statistics.sum (inputs.filterMap (Usx.counted ∘ tree.render options))
  rw [← List.filterMap_map, render_of_loaded loaded, List.filterMap_map, told]

end Renderings

end Command

end ScriptureMarkup
