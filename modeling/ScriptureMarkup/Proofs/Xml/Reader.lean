import ScriptureMarkup.Proofs.Xml.Content

namespace ScriptureMarkup.Xml

/-- A name, which is as long as it can be, and what follows it. -/
def scanName (text : List Char) : Option (String × List Char) :=
  if text.takeWhile isNameCharacter = [] then none
  else some (String.ofList (text.takeWhile isNameCharacter), text.dropWhile isNameCharacter)

/-- The rest of a value up to the quote that ends it, and what follows the quote. -/
def scanValue (text : List Char) : Option (String × List Char) :=
  match text.dropWhile (· != '"') with
  | [] => none
  | _ :: rest => some (String.ofList (text.takeWhile (· != '"')), rest)

def scanEntry : List Char → Option ((String × String) × List Char)
  | ' ' :: text =>
    match scanName text with
    | some (name, '=' :: '"' :: rest) => (scanValue rest).map fun found => ((name, found.1), found.2)
    | _ => none
  | _ => none

theorem span_iff (p : Char → Bool) (text front back : List Char) :
    text.takeWhile p = front ∧ text.dropWhile p = back ↔
      text = front ++ back ∧ (∀ c ∈ front, p c = true) ∧ ∀ c ∈ back.head?, p c = false := by
  constructor
  · rintro ⟨rfl, rfl⟩
    refine ⟨List.takeWhile_append_dropWhile.symm, List.all_eq_true.mp List.all_takeWhile, ?_⟩
    intro c atHead
    have stops := List.head?_dropWhile_not p text
    rw [Option.mem_def.mp atHead] at stops
    exact stops
  · rintro ⟨rfl, inside, stops⟩
    rw [List.takeWhile_append_of_pos inside, List.dropWhile_append_of_pos inside]
    cases back with
    | nil => simp
    | cons c back =>
      have outside := stops c rfl
      simp [outside]

theorem scanName_iff {text rest : List Char} {name : String} :
    scanName text = some (name, rest) ↔
      text = name.toList ++ rest ∧ LegalName name ∧ ∀ c ∈ rest.head?, isNameCharacter c = false := by
  have span := span_iff isNameCharacter text name.toList rest
  have found : scanName text = some (name, rest) ↔ name ≠ "" ∧
      text.takeWhile isNameCharacter = name.toList ∧ text.dropWhile isNameCharacter = rest := by
    unfold scanName
    split
    · rename_i empty
      simp only [empty, reduceCtorEq, false_iff]
      rintro ⟨nonempty, same, _⟩
      exact nonempty (String.toList_eq_nil_iff.mp same.symm)
    · rename_i nonempty
      simp only [Option.some.injEq, Prod.mk.injEq]
      constructor
      · rintro ⟨rfl, rfl⟩
        exact ⟨by simpa using nonempty, by simp⟩
      · rintro ⟨_, same, rfl⟩
        exact ⟨by rw [same, String.ofList_toList], rfl⟩
  rw [found, span, LegalName]
  tauto

theorem scanValue_iff {text rest : List Char} {value : String} :
    scanValue text = some (value, rest) ↔ text = value.toList ++ '"' :: rest ∧ '"' ∉ value.toList := by
  have span := span_iff (· != '"') text value.toList ('"' :: rest)
  have found : scanValue text = some (value, rest) ↔
      text.takeWhile (· != '"') = value.toList ∧ text.dropWhile (· != '"') = '"' :: rest := by
    unfold scanValue
    split
    · rename_i ends
      simp [ends]
    · rename_i c after ends
      have atQuote : c = '"' := by
        have stops := List.head?_dropWhile_not (· != '"') text
        simpa [ends] using stops
      simp only [Option.some.injEq, Prod.mk.injEq, ends, atQuote, List.cons.injEq, true_and]
      rw [← String.toList_inj, String.toList_ofList]
  rw [found, span]
  constructor
  · rintro ⟨same, inside, _⟩
    exact ⟨same, fun member => by simpa using inside _ member⟩
  · rintro ⟨same, outside⟩
    exact ⟨same, fun c member => by simpa using ne_of_mem_of_not_mem member outside, by simp⟩

theorem scanEntry_iff {text rest : List Char} {entry : String × String} :
    scanEntry text = some (entry, rest) ↔
      text = attributeText entry ++ rest ∧ LegalName entry.1 ∧ '"' ∉ entry.2.toList := by
  constructor
  · intro read
    unfold scanEntry at read
    split at read
    · rename_i after
      split at read
      · rename_i name value named
        obtain ⟨found, valued, same⟩ := Option.map_eq_some_iff.mp read
        cases same
        obtain ⟨rfl, legal, _⟩ := scanName_iff.mp named
        obtain ⟨rfl, closed⟩ := scanValue_iff.mp valued
        exact ⟨by simp [attributeText], legal, closed⟩
      · cases read
    · cases read
  · rintro ⟨rfl, legal, closed⟩
    have named : scanName (entry.1.toList ++ '=' :: '"' :: (entry.2.toList ++ '"' :: rest)) =
        some (entry.1, '=' :: '"' :: (entry.2.toList ++ '"' :: rest)) :=
      scanName_iff.mpr ⟨rfl, legal, by simp [isNameCharacter, delimiters]⟩
    have valued : scanValue (entry.2.toList ++ '"' :: rest) = some (entry.2, rest) :=
      scanValue_iff.mpr ⟨rfl, closed⟩
    simp [scanEntry, attributeText, named, valued]

theorem length_scanEntry {text rest : List Char} {entry : String × String}
    (read : scanEntry text = some (entry, rest)) : rest.length < text.length := by
  obtain ⟨rfl, _, _⟩ := scanEntry_iff.mp read
  simp [attributeText]
  omega

def scanEntries (text : List Char) : List (String × String) × List Char :=
  match _ : scanEntry text with
  | none => ([], text)
  | some (entry, rest) => (entry :: (scanEntries rest).1, (scanEntries rest).2)
  termination_by text.length
  decreasing_by all_goals exact length_scanEntry (by assumption)

theorem scanEntries_eq (text : List Char) :
    scanEntries text = match scanEntry text with
      | none => ([], text)
      | some (entry, rest) => (entry :: (scanEntries rest).1, (scanEntries rest).2) := by
  rw [scanEntries]
  split <;> simp_all

theorem scanEntries_iff {text rest : List Char} {entries : List (String × String)} :
    scanEntries text = (entries, rest) ↔
      text = entries.flatMap attributeText ++ rest ∧
        (∀ entry ∈ entries, LegalName entry.1 ∧ '"' ∉ entry.2.toList) ∧ scanEntry rest = none := by
  induction entries generalizing text with
  | nil =>
    rw [scanEntries_eq]
    cases read : scanEntry text with
    | none =>
      simp only [Prod.mk.injEq, true_and, List.flatMap_nil, List.nil_append, List.not_mem_nil]
      constructor
      · rintro rfl
        exact ⟨rfl, by simp, read⟩
      · exact And.left
    | some found =>
      simp only [Prod.mk.injEq, reduceCtorEq, false_and, List.flatMap_nil, List.nil_append, false_iff]
      rintro ⟨rfl, _, ends⟩
      simp [read] at ends
  | cons entry entries ih =>
    have first := @scanEntry_iff text (entries.flatMap attributeText ++ rest) entry
    rw [List.flatMap_cons, List.append_assoc, List.forall_mem_cons, ← and_assoc, ← and_assoc, ← first, scanEntries_eq]
    cases read : scanEntry text with
    | none => simp
    | some found =>
      obtain ⟨entry', after⟩ := found
      have later := @ih after
      rw [Prod.ext_iff] at later
      simp only [Prod.mk.injEq, List.cons.injEq, Option.some.injEq]
      rw [and_assoc, later]
      tauto

end ScriptureMarkup.Xml
