import ScriptureMarkup.Proofs.Documents.Preorder

namespace ScriptureMarkup.Marker

/-- The marker to which a path leads from a given one. A path names one child after the other by its
number among its siblings. -/
def at? (marker : Marker) : List Nat → Option Marker
  | [] => some marker
  | i :: path => marker.contents[i]?.bind fun child => child.at? path

/-- The marker of a forest to which a path leads that begins with the number of a root. -/
def atAll? (markers : List Marker) : List Nat → Option Marker
  | [] => none
  | i :: path => markers[i]?.bind fun marker => marker.at? path

mutual

/-- The paths that lead from a marker to itself and to all that is below it, in the order of the text. -/
def paths : Marker → List (List Nat)
  | ⟨_, contents⟩ => [] :: pathsAll contents

def pathsAll : List Marker → List (List Nat)
  | [] => []
  | marker :: markers => marker.paths.map (0 :: ·) ++ (pathsAll markers).map (List.modifyHead (· + 1))

end

theorem exists_cons_of_mem_pathsAll {markers : List Marker} {path : List Nat} (member : path ∈ pathsAll markers) :
    ∃ i later, path = i :: later := by
  induction markers generalizing path with
  | nil => simp [pathsAll] at member
  | cons marker markers ih =>
    rw [pathsAll, List.mem_append, List.mem_map, List.mem_map] at member
    rcases member with ⟨later, _, rfl⟩ | ⟨shorter, inside, rfl⟩
    · exact ⟨0, later, rfl⟩
    · obtain ⟨i, later, rfl⟩ := ih inside
      exact ⟨i + 1, later, rfl⟩

theorem atAll?_modifyHead (marker : Marker) (markers : List Marker) (path : List Nat) :
    atAll? (marker :: markers) (path.modifyHead (· + 1)) = atAll? markers path := by
  cases path <;> rfl

mutual

theorem map_at?_paths (marker : Marker) : marker.paths.map marker.at? = marker.preorder.map some := by
  obtain ⟨kind, contents⟩ := marker
  have below := map_atAll?_pathsAll contents
  have same : ∀ path ∈ pathsAll contents, at? ⟨kind, contents⟩ path = atAll? contents path := by
    intro path member
    obtain ⟨i, later, rfl⟩ := exists_cons_of_mem_pathsAll member
    rfl
  rw [paths, preorder, List.map_cons, List.map_cons, List.map_congr_left same, below]
  rfl

/-- The paths of a forest lead to its markers in the order of the text. -/
theorem map_atAll?_pathsAll (markers : List Marker) :
    (pathsAll markers).map (atAll? markers) = (preorderAll markers).map some := by
  match markers with
  | [] => rfl
  | marker :: markers =>
    have first := map_at?_paths marker
    have later := map_atAll?_pathsAll markers
    rw [pathsAll, preorderAll, List.map_append, List.map_append, List.map_map, List.map_map, ← first, ← later]
    congr 1
    exact List.map_congr_left fun path _ => atAll?_modifyHead marker markers path

end

mutual

theorem mem_paths {marker : Marker} {path : List Nat} (leads : (marker.at? path).isSome = true) :
    path ∈ marker.paths := by
  obtain ⟨kind, contents⟩ := marker
  rw [paths]
  cases path with
  | nil => exact List.mem_cons_self
  | cons i path => exact List.mem_cons_of_mem _ (mem_pathsAll leads)

theorem mem_pathsAll {markers : List Marker} {path : List Nat} (leads : (atAll? markers path).isSome = true) :
    path ∈ pathsAll markers := by
  match markers, path with
  | [], path => cases path <;> cases leads
  | marker :: markers, [] => cases leads
  | marker :: markers, 0 :: path =>
    have inside : path ∈ marker.paths := mem_paths leads
    exact List.mem_append_left _ (List.mem_map_of_mem inside)
  | marker :: markers, (i + 1) :: path =>
    have inside : i :: path ∈ pathsAll markers := mem_pathsAll leads
    exact List.mem_append_right _ (List.mem_map.mpr ⟨i :: path, inside, rfl⟩)

end

/-- The listed paths are those that lead somewhere. -/
theorem mem_pathsAll_iff {markers : List Marker} {path : List Nat} :
    path ∈ pathsAll markers ↔ (atAll? markers path).isSome = true := by
  refine ⟨fun member => ?_, mem_pathsAll⟩
  have listed : atAll? markers path ∈ (pathsAll markers).map (atAll? markers) := List.mem_map_of_mem member
  rw [map_atAll?_pathsAll] at listed
  obtain ⟨marker, _, found⟩ := List.mem_map.mp listed
  rw [← found]
  rfl

theorem modifyHead_lt_modifyHead {path other : List Nat} (less : path < other) :
    path.modifyHead (· + 1) < other.modifyHead (· + 1) := by
  cases less with
  | nil => exact .nil
  | rel less => exact .rel (Nat.succ_lt_succ less)
  | cons less => exact .cons less

mutual

theorem paths_ascend (marker : Marker) : marker.paths.Pairwise (· < ·) := by
  obtain ⟨kind, contents⟩ := marker
  rw [paths]
  refine List.pairwise_cons.mpr ⟨fun path member => ?_, pathsAll_ascend contents⟩
  obtain ⟨i, later, rfl⟩ := exists_cons_of_mem_pathsAll member
  exact .nil

/-- A path comes before those that continue it, and all that begin like it before those that turn to a
later sibling. -/
theorem pathsAll_ascend (markers : List Marker) : (pathsAll markers).Pairwise (· < ·) := by
  match markers with
  | [] => exact .nil
  | marker :: markers =>
    rw [pathsAll, List.pairwise_append]
    refine ⟨List.Pairwise.map _ (fun _ _ less => .cons less) (paths_ascend marker),
      List.Pairwise.map _ (fun _ _ less => modifyHead_lt_modifyHead less) (pathsAll_ascend markers), ?_⟩
    intro path front other back
    obtain ⟨_, _, rfl⟩ := List.mem_map.mp front
    obtain ⟨shorter, inside, rfl⟩ := List.mem_map.mp back
    obtain ⟨i, later, rfl⟩ := exists_cons_of_mem_pathsAll inside
    exact .rel (Nat.succ_pos i)

end

end ScriptureMarkup.Marker
