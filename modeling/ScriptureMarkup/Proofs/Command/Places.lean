import ScriptureMarkup.Command.FileTree
import ScriptureMarkup.Proofs.Command.OutputPath

namespace ScriptureMarkup.Command.FileTree

variable {tree other : FileTree}

theorem isDirectory_iff {place : Place} :
    tree.isDirectory place = true ↔
      (∀ name ∈ place, name = "..") ∨ place = ["/"] ∨ (∃ directory ∈ tree.directories, place <+: directory) ∨
        ∃ file ∈ tree.files, place <+: file.1 ∧ place ≠ file.1 := by
  simp [isDirectory, List.all_eq_true, List.any_eq_true, or_comm, or_left_comm, or_assoc]

/-- What lies on the way to a directory is a directory. -/
theorem isDirectory_above {place above : Place} (directory : tree.isDirectory place = true)
    (on : above <+: place) : tree.isDirectory above = true := by
  rw [isDirectory_iff] at directory ⊢
  rcases directory with out | root | ⟨made, member, inside⟩ | ⟨file, member, inside, apart⟩
  · exact .inl fun name found => out name (on.subset found)
  · subst root
    rcases List.prefix_cons_iff.mp on with rfl | ⟨rest, rfl, more⟩
    · exact .inl (by simp)
    · rw [List.prefix_nil.mp more]
      exact .inr (.inl rfl)
  · exact .inr (.inr (.inl ⟨made, member, on.trans inside⟩))
  · refine .inr (.inr (.inr ⟨file, member, on.trans inside, ?_⟩))
    rintro rfl
    exact apart (inside.eq_of_length_le on.length_le)

theorem lookup_put (place found : Place) (text : String) :
    (tree.put place text).files.lookup found = if found = place then some text else tree.files.lookup found := by
  by_cases same : found = place
  · simp [put, same]
  rw [put, List.lookup_cons, beq_eq_false_iff_ne.mpr same, if_neg same]
  dsimp only
  induction tree.files with
  | nil => rfl
  | cons file files ih =>
    obtain ⟨key, content⟩ := file
    rw [List.filter_cons, List.lookup_cons]
    split_ifs with kept
    · rw [List.lookup_cons, ih]
    · have differ : found ≠ key := by
        rintro rfl
        exact kept (decide_eq_true same)
      rw [ih, beq_eq_false_iff_ne.mpr differ]

/-- A file that is put into a directory brings no directory with it. -/
theorem isDirectory_put {directory : Place} (there : tree.isDirectory directory = true) (name text : String) :
    (tree.put (directory ++ [name]) text).isDirectory = tree.isDirectory := by
  funext place
  rw [Bool.eq_iff_iff]
  constructor
  · intro found
    rw [isDirectory_iff] at found
    rcases found with out | root | made | ⟨file, member, inside, apart⟩
    · exact isDirectory_iff.mpr (.inl out)
    · exact isDirectory_iff.mpr (.inr (.inl root))
    · exact isDirectory_iff.mpr (.inr (.inr (.inl made)))
    · rcases List.mem_cons.mp member with rfl | old
      · rcases List.prefix_concat_iff.mp inside with whole | above
        · exact absurd whole apart
        · exact isDirectory_above there above
      · exact isDirectory_iff.mpr (.inr (.inr (.inr ⟨file, List.mem_of_mem_filter old, inside, apart⟩)))
  · intro found
    rw [isDirectory_iff] at found ⊢
    rcases found with out | root | made | ⟨file, member, inside, apart⟩
    · exact .inl out
    · exact .inr (.inl root)
    · exact .inr (.inr (.inl made))
    · refine .inr (.inr (.inr ?_))
      by_cases same : file.1 = directory ++ [name]
      · exact ⟨(directory ++ [name], text), List.mem_cons_self, same ▸ inside, same ▸ apart⟩
      · exact ⟨file, List.mem_cons_of_mem _ (by simpa [same] using member), inside, apart⟩

theorem isDirectory_make (place other : Place) :
    ({ tree with directories := place :: tree.directories } : FileTree).isDirectory other = true ↔
      tree.isDirectory other = true ∨ other <+: place := by
  simp only [isDirectory_iff, List.exists_mem_cons_iff, or_comm, or_left_comm, or_assoc]

theorem enter_isDirectory {place reached : Place} {names : List String} (start : tree.isDirectory place = true)
    (entered : tree.enter place names = .ok reached) : tree.isDirectory reached = true := by
  induction names generalizing place with
  | nil =>
    cases entered
    exact start
  | cons name names ih =>
    unfold enter at entered
    split at entered
    · cases entered
    · split at entered
      · rename_i directory
        exact ih directory entered
      · split at entered <;> cases entered

/-- More directories take nothing away from where a path leads. -/
theorem enter_mono (more : ∀ place, tree.isDirectory place = true → other.isDirectory place = true)
    {place reached : Place} {names : List String} (entered : tree.enter place names = .ok reached) :
    other.enter place names = .ok reached := by
  induction names generalizing place with
  | nil => exact entered
  | cons name names ih =>
    unfold enter at entered ⊢
    split at entered
    · cases entered
    · split at entered
      · rename_i next _ directory
        rw [if_pos (more next directory)]
        exact ih entered
      · split at entered <;> cases entered

theorem locate_mono (more : ∀ place, tree.isDirectory place = true → other.isDirectory place = true)
    {path : String} {place : Place} (located : tree.locate path = .ok place) : other.locate path = .ok place := by
  unfold locate directoryOf at located ⊢
  by_cases long : maxPathSize < path.utf8ByteSize
  · simp only [if_pos long] at located
    cases located
  · simp only [if_neg long] at located ⊢
    cases entered : tree.enter (if isAbsolute path then ["/"] else []) (steps path).dropLast with
    | error fault =>
      rw [entered] at located
      cases located
    | ok directory =>
      rw [entered] at located
      rw [enter_mono more entered]
      exact located

end ScriptureMarkup.Command.FileTree
