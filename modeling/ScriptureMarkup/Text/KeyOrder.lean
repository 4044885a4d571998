namespace ScriptureMarkup.Text

/-- Puts an entry into a list that ascends by key. An entry of the same key gives way,
so of several values for one key the last one stays. -/
def putEntry {α : Type} (key : String) (value : α) : List (String × α) → List (String × α)
  | [] => [(key, value)]
  | (k, v) :: entries =>
    if key < k then (key, value) :: (k, v) :: entries
    else if key = k then (key, value) :: entries
    else (k, v) :: putEntry key value entries

/-- The entries in ascending order of keys, each key once. Texts compare by code points,
which is the order of their bytes in UTF-8. -/
def inKeyOrder {α : Type} (entries : List (String × α)) : List (String × α) :=
  entries.foldl (fun sorted entry => putEntry entry.1 entry.2 sorted) []

/-- Keys strictly ascend, hence no key comes twice. -/
def KeysAscend {α : Type} (entries : List (String × α)) : Prop :=
  entries.Pairwise fun a b => a.1 < b.1

theorem mem_putEntry {α : Type} {key : String} {value : α} {entries : List (String × α)} {entry : String × α}
    (member : entry ∈ putEntry key value entries) : entry = (key, value) ∨ entry ∈ entries := by
  induction entries with
  | nil => exact .inl (by simpa [putEntry] using member)
  | cons head entries ih =>
    rw [putEntry] at member
    split at member
    · simpa using member
    · split at member
      · rcases List.mem_cons.mp member with same | old
        · exact .inl same
        · exact .inr (List.mem_cons_of_mem _ old)
      · rcases List.mem_cons.mp member with same | later
        · exact .inr (by simp [same])
        · exact (ih later).imp_right (List.mem_cons_of_mem _)

theorem keysAscend_putEntry {α : Type} (key : String) (value : α) {entries : List (String × α)}
    (ascend : KeysAscend entries) : KeysAscend (putEntry key value entries) := by
  induction entries with
  | nil => simp [putEntry, KeysAscend]
  | cons head entries ih =>
    obtain ⟨above, later⟩ := List.pairwise_cons.mp ascend
    rw [putEntry]
    split
    · rename_i below
      refine List.pairwise_cons.mpr ⟨fun entry member => ?_, ascend⟩
      rcases List.mem_cons.mp member with same | old
      · simpa [same] using below
      · exact String.lt_trans below (above entry old)
    · split
      · rename_i same
        exact List.pairwise_cons.mpr ⟨fun entry member => same ▸ above entry member, later⟩
      · rename_i notBelow notSame
        refine List.pairwise_cons.mpr ⟨fun entry member => ?_, ih later⟩
        rcases mem_putEntry member with same | old
        · subst same
          exact Std.lt_of_le_of_ne (Std.not_lt.mp notBelow) (Ne.symm notSame)
        · exact above entry old

theorem keysAscend_inKeyOrder {α : Type} (entries : List (String × α)) : KeysAscend (inKeyOrder entries) := by
  suffices ∀ sorted : List (String × α), KeysAscend sorted →
      KeysAscend (entries.foldl (fun sorted entry => putEntry entry.1 entry.2 sorted) sorted) from
    this [] List.Pairwise.nil
  induction entries with
  | nil => exact fun _ ascend => ascend
  | cons entry entries ih => exact fun sorted ascend => ih _ (keysAscend_putEntry entry.1 entry.2 ascend)

end ScriptureMarkup.Text
