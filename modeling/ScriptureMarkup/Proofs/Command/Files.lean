import ScriptureMarkup.Proofs.Command.Places

namespace ScriptureMarkup.Command.FileTree

/-- The place that a path leads to, if it leads to one. -/
def place? (tree : FileTree) (path : String) : Option Place :=
  match tree.locate path with
  | .ok place => some place
  | .error _ => none

/-- The text of the file that a path leads to. -/
def text? (tree : FileTree) (path : String) : Option String :=
  (tree.place? path).bind fun place => tree.files.lookup place

/-- The document in a file. -/
def load (tree : FileTree) (path : String) : Except Failure Document :=
  match tree.read path with
  | .error failure => .error failure
  | .ok input => Document.load input

/-- What the document in a file is rendered to. -/
def render (tree : FileTree) (options : Usx.Options) (path : String) : Except Failure Usx.RenderResult :=
  match tree.load path with
  | .error failure => .error failure
  | .ok document => document.render options

/-- Whether a file holds a document. -/
def Loads (tree : FileTree) (path : String) : Prop := ∃ document, tree.load path = .ok document

/-- Whether a file holds a document that can be rendered. -/
def Renders (tree : FileTree) (options : Usx.Options) (path : String) : Prop :=
  ∃ result, tree.render options path = .ok result

/-- Whether a text can be put into the file that a path leads to. -/
def Writable (tree : FileTree) (path : String) : Prop := ∃ text written, tree.write path text = .ok written

variable {tree other : FileTree}

theorem place?_eq_some {path : String} {place : Place} : tree.place? path = some place ↔ tree.locate path = .ok place := by
  unfold place?
  cases tree.locate path <;> simp

theorem place?_congr (same : other.isDirectory = tree.isDirectory) (path : String) : other.place? path = tree.place? path :=
  Option.ext fun place => by
    rw [place?_eq_some, place?_eq_some]
    exact ⟨locate_mono fun _ => by rw [same]; exact id, locate_mono fun _ => by rw [same]; exact id⟩

theorem outputName_ne_of_short (input : String) {name : String} (short : name.length < 4) : outputName input ≠ name := by
  rintro rfl
  exact absurd (length_outputName input) (Nat.not_le.mpr short)

/-- An output lies in the directory that the path of that directory leads to, whatever its name. -/
theorem enter_of_locate_outputPath {directory input : String} {place : Place}
    (located : tree.locate (outputPath input directory) = .ok place) :
    ∃ above, tree.enter (if isAbsolute (inDirectory directory "") then ["/"] else []) (steps directory) = .ok above ∧
      place = above ++ [outputName input] := by
  have path : outputPath input directory = inDirectory directory (outputName input) := rfl
  rw [locate, directoryOf, path,
    steps_inDirectory directory (slash_not_mem_outputName input) (outputName_ne_of_short input (by decide)),
    List.dropLast_concat, List.getLast?_concat, isAbsolute_inDirectory directory _ ""] at located
  by_cases long : maxPathSize < (inDirectory directory (outputName input)).utf8ByteSize
  · simp [if_pos long] at located
  rw [if_neg long] at located
  cases entered : tree.enter (if isAbsolute (inDirectory directory "") then ["/"] else []) (steps directory) with
  | error fault => simp [entered] at located
  | ok above =>
    simp only [entered, step] at located
    split_ifs at located
    cases located
    refine ⟨above, rfl, ?_⟩
    rw [next, if_neg (outputName_ne_of_short input (by decide)), if_neg (outputName_ne_of_short input (by decide))]

/-- All outputs lie side by side in one directory, each under its name. -/
theorem place?_outputPath {directory input : String} {place : Place}
    (found : tree.place? (outputPath input directory) = some place) :
    ∃ above, tree.isDirectory above = true ∧ place = above ++ [outputName input] ∧
      ∀ other place', tree.place? (outputPath other directory) = some place' →
        place' = above ++ [outputName other] := by
  obtain ⟨above, entered, here⟩ := enter_of_locate_outputPath (place?_eq_some.mp found)
  refine ⟨above, enter_isDirectory ?_ entered, here, fun other place' found' => ?_⟩
  · split_ifs <;> rfl
  · obtain ⟨_, entered', there⟩ := enter_of_locate_outputPath (place?_eq_some.mp found')
    cases entered.symm.trans entered'
    exact there

theorem render_eq (tree : FileTree) (options : Usx.Options) (path : String) :
    tree.render options path =
      match tree.read path with
      | .error failure => .error failure
      | .ok input => renderInput options input := by
  rw [render, load]
  cases tree.read path <;> rfl

/-- Statistics are collected beside the markup. -/
theorem content_render (tree : FileTree) (dialect : Usx.Dialect) (statistics collect : Bool) (path : String) :
    (tree.render ⟨false, dialect, statistics⟩ path).map (·.content) =
      (tree.render ⟨false, dialect, collect⟩ path).map (·.content) := by
  simp only [render, Document.render, Usx.render]
  cases tree.load path with
  | error failure => rfl
  | ok document =>
    dsimp only
    split <;> rfl

theorem writable_iff {path : String} :
    tree.Writable path ↔
      endsInSlash path = false ∧ ∃ place, tree.place? path = some place ∧ tree.isDirectory place = false := by
  simp only [Writable, FileTree.write, place?_eq_some]
  cases endsInSlash path with
  | true => cases tree.directoryOf path <;> simp
  | false =>
    cases tree.locate path with
    | error fault => simp
    | ok place => cases directory : tree.isDirectory place <;> simp [directory]

/-- A file into which some text can be put takes any other as well. -/
theorem Writable.write {path : String} (writable : tree.Writable path) :
    ∃ place, tree.place? path = some place ∧ ∀ text, tree.write path text = .ok (tree.put place text) := by
  obtain ⟨ends, place, found, file⟩ := writable_iff.mp writable
  refine ⟨place, found, fun text => ?_⟩
  rw [FileTree.write, ends, place?_eq_some.mp found]
  simp [file]

instance (tree : FileTree) (path : String) : Decidable (tree.Loads path) :=
  decidable_of_iff ((tree.load path).isOk = true) (by
    unfold Loads
    cases tree.load path <;> simp [Except.isOk, Except.toBool])

instance (tree : FileTree) (options : Usx.Options) (path : String) : Decidable (tree.Renders options path) :=
  decidable_of_iff ((tree.render options path).isOk = true) (by
    unfold Renders
    cases tree.render options path <;> simp [Except.isOk, Except.toBool])

instance (tree : FileTree) (path : String) : Decidable (tree.Writable path) :=
  decidable_of_iff ((tree.write path "").isOk = true) (by
    constructor
    · intro taken
      cases written : tree.write path "" with
      | error fault => simp [written, Except.isOk, Except.toBool] at taken
      | ok later => exact ⟨"", later, written⟩
    · intro writable
      obtain ⟨place, -, write⟩ := writable.write
      rw [write]
      rfl)

theorem Writable.congr (same : other.isDirectory = tree.isDirectory) {path : String} (writable : tree.Writable path) :
    other.Writable path := by
  rw [writable_iff] at writable ⊢
  rwa [place?_congr same, same]

/-- A path leads to a directory, or to something in one. -/
theorem directory_of_locate {path : String} {place : Place} (located : tree.locate path = .ok place) :
    tree.isDirectory place = true ∨ ∃ above name, tree.isDirectory above = true ∧ place = above ++ [name] := by
  unfold locate directoryOf at located
  by_cases long : maxPathSize < path.utf8ByteSize
  · simp [if_pos long] at located
  rw [if_neg long] at located
  cases entered : tree.enter (if isAbsolute path then ["/"] else []) (steps path).dropLast with
  | error fault => simp [entered] at located
  | ok reached =>
    have directory : tree.isDirectory reached = true := by
      refine enter_isDirectory ?_ entered
      split_ifs <;> rfl
    simp only [entered] at located
    split at located
    · cases located
      exact .inl directory
    · rename_i name _
      simp only [step] at located
      split_ifs at located
      cases located
      unfold next
      split_ifs
      · exact .inl directory
      · refine .inl ?_
        unfold above
        split_ifs with out
        · exact isDirectory_iff.mpr (.inl (by simpa [or_imp, forall_and] using out))
        · exact directory
        · exact isDirectory_above directory (List.dropLast_prefix _)
      · exact .inr ⟨reached, name, directory, rfl⟩

/-- What becomes of a tree when directories are made: no file changes, and none becomes a directory. -/
structure Grown (tree later : FileTree) : Prop where
  files : later.files = tree.files
  kept : ∀ place, tree.isDirectory place = true → later.isDirectory place = true
  fresh : ∀ place, later.isDirectory place = true → tree.isDirectory place = true ∨ tree.files.lookup place = none

namespace Grown

theorem refl (tree : FileTree) : Grown tree tree := ⟨rfl, fun _ => id, fun _ => .inl⟩

theorem trans {between later : FileTree} (first : Grown tree between) (second : Grown between later) :
    Grown tree later := by
  refine ⟨second.files.trans first.files, fun place there => second.kept place (first.kept place there),
    fun place there => ?_⟩
  rcases second.fresh place there with old | none
  · exact first.fresh place old
  · exact .inr (first.files ▸ none)

theorem makeDirectory {path : String} {later : FileTree} (made : tree.makeDirectory path = .ok later) :
    Grown tree later := by
  unfold FileTree.makeDirectory at made
  split at made
  · cases made
  · rename_i place located
    split_ifs at made with present
    simp only [Bool.or_eq_true, not_or, Option.not_isSome_iff_eq_none] at present
    cases made
    refine ⟨rfl, fun other there => (isDirectory_make place other).mpr (.inl there), fun other there => ?_⟩
    rcases (isDirectory_make place other).mp there with old | inside
    · exact .inl old
    · rcases directory_of_locate located with directory | ⟨above, name, directory, rfl⟩
      · exact absurd directory present.1
      · rcases List.prefix_concat_iff.mp inside with rfl | before
        · exact .inr present.2
        · exact .inl (isDirectory_above directory before)

theorem read {later : FileTree} (grown : Grown tree later) {path : String} {input : Json.Input}
    (found : tree.read path = .ok input) : later.read path = .ok input := by
  unfold FileTree.read at found ⊢
  cases located : tree.locate path with
  | error fault => simp [located] at found
  | ok place =>
    rw [located] at found
    rw [locate_mono grown.kept located]
    by_cases directory : tree.isDirectory place = true
    · simp [directory] at found
    · have file : ¬later.isDirectory place = true := by
        intro now
        rcases grown.fresh place now with old | none
        · exact directory old
        · simp [directory, none] at found
      simp only [if_neg directory] at found
      simp only [if_neg file, grown.files]
      exact found

theorem render {later : FileTree} (grown : Grown tree later) {options : Usx.Options} {path : String}
    {result : Usx.RenderResult} (rendered : tree.render options path = .ok result) :
    later.render options path = .ok result := by
  unfold FileTree.render FileTree.load at rendered ⊢
  cases found : tree.read path with
  | error failure => simp [found] at rendered
  | ok input =>
    rw [found] at rendered
    rw [grown.read found]
    exact rendered

end Grown

end ScriptureMarkup.Command.FileTree
