import Mathlib.Data.List.Basic
import ScriptureMarkup.Command.Path

namespace ScriptureMarkup.Command

theorem splitSlash_ne_nil (text : List Char) : splitSlash text ≠ [] := by
  cases text with
  | nil => simp [splitSlash]
  | cons c text =>
    unfold splitSlash
    split_ifs
    · simp
    · split <;> simp

theorem splitSlash_cons {c : Char} (other : c ≠ '/') (text : List Char) :
    ∃ part parts, splitSlash text = part :: parts ∧ splitSlash (c :: text) = (c :: part) :: parts := by
  obtain ⟨part, parts, split⟩ := List.exists_cons_of_ne_nil (splitSlash_ne_nil text)
  exact ⟨part, parts, split, by simp only [splitSlash, if_neg other, split]⟩

theorem splitSlash_append (front back : List Char) :
    splitSlash (front ++ '/' :: back) = splitSlash front ++ splitSlash back := by
  induction front with
  | nil => simp [splitSlash]
  | cons c front ih =>
    by_cases slash : c = '/'
    · subst slash
      simp only [List.cons_append, splitSlash, if_true, ih]
    · obtain ⟨part, parts, here, split⟩ := splitSlash_cons slash front
      obtain ⟨part', parts', there, split'⟩ := splitSlash_cons slash (front ++ '/' :: back)
      rw [ih, here, List.cons_append, List.cons.injEq] at there
      obtain ⟨rfl, rfl⟩ := there
      rw [List.cons_append, split, split', List.cons_append]

theorem not_mem_splitSlash {text part : List Char} (member : part ∈ splitSlash text) : '/' ∉ part := by
  induction text generalizing part with
  | nil =>
    cases List.mem_singleton.mp member
    exact List.not_mem_nil
  | cons c text ih =>
    by_cases slash : c = '/'
    · simp only [splitSlash, if_pos slash] at member
      rcases List.mem_cons.mp member with rfl | later
      · exact List.not_mem_nil
      · exact ih later
    · obtain ⟨first, parts, here, split⟩ := splitSlash_cons slash text
      rw [here] at ih
      rw [split] at member
      rcases List.mem_cons.mp member with rfl | later
      · have rest := ih List.mem_cons_self
        simp [Ne.symm slash, rest]
      · exact ih (List.mem_cons_of_mem _ later)

theorem splitSlash_of_not_mem {text : List Char} (clean : '/' ∉ text) : splitSlash text = [text] := by
  induction text with
  | nil => rfl
  | cons c text ih =>
    rw [List.mem_cons, not_or] at clean
    obtain ⟨part, parts, here, split⟩ := splitSlash_cons (Ne.symm clean.1) text
    rw [ih clean.2, List.cons.injEq] at here
    obtain ⟨rfl, rfl⟩ := here
    exact split

/-- A name is one more step, whether or not the path of its directory ends in a slash. -/
theorem steps_inDirectory (directory : String) {name : String} (clean : '/' ∉ name.toList) (filled : name ≠ "") :
    steps (inDirectory directory name) = steps directory ++ [name] := by
  have named : name.toList ≠ [] := by simpa using filled
  unfold inDirectory
  split_ifs with ends
  · obtain ⟨front, ends⟩ := List.getLast?_eq_some_iff.mp (of_decide_eq_true ends)
    simp [steps, ends, splitSlash_append, splitSlash_of_not_mem clean, splitSlash, named]
  · simp [steps, splitSlash_append, splitSlash_of_not_mem clean, named]

theorem isAbsolute_inDirectory (directory name other : String) :
    isAbsolute (inDirectory directory name) = isAbsolute (inDirectory directory other) := by
  unfold inDirectory
  split_ifs with ends
  · obtain ⟨front, ends⟩ := List.getLast?_eq_some_iff.mp (of_decide_eq_true ends)
    simp [isAbsolute, ends]
  · cases directory.toList <;> simp [isAbsolute, *]

theorem mem_toList_of_mem_stem {name : String} {c : Char} (member : c ∈ (stem name).toList) : c ∈ name.toList := by
  unfold stem at member
  dsimp only at member
  split at member
  · exact member
  · exact member
  · rename_i last before _ behind
    have inside : c ∈ last :: before := List.mem_cons_of_mem _ (by simpa using member)
    rw [← behind] at inside
    simpa using (List.dropWhile_suffix _).subset inside

theorem not_mem_of_mem_properSteps {path step : String} (member : step ∈ properSteps path) : '/' ∉ step.toList := by
  have inside : step ∈ steps path := by
    unfold properSteps at member
    split at member
    · cases member
    · rename_i first others steps
      rw [steps]
      rcases List.mem_append.mp member with here | later
      · split_ifs at here
        · cases here
        · simp at here
          simp [here]
      · exact List.mem_cons_of_mem _ (List.mem_of_mem_filter later)
  obtain ⟨part, found, same⟩ := List.mem_filterMap.mp inside
  split_ifs at same
  cases same
  simpa using not_mem_splitSlash found

/-- The name under which the rendering of an input is kept. -/
def outputName (input : String) : String := fileStem input ++ ".usx"

theorem outputName_inj {input other : String} : outputName input = outputName other ↔ fileStem input = fileStem other :=
  String.append_left_inj ".usx"

theorem slash_not_mem_outputName (input : String) : '/' ∉ (outputName input).toList := by
  have clean : '/' ∉ (fileStem input).toList := by
    unfold fileStem
    split
    · simp
    · simp
    · simp
    · rename_i name _ _ last
      exact fun member => not_mem_of_mem_properSteps (List.mem_of_getLast? last) (mem_toList_of_mem_stem member)
  simpa [outputName] using clean

theorem length_outputName (input : String) : 4 ≤ (outputName input).length := by
  have ending : ".usx".length = 4 := rfl
  simp [outputName, ending]

end ScriptureMarkup.Command
