import ScriptureMarkup.Proofs.Json.TreeValues

/-!
What is written spells what it has been written for.
-/

namespace ScriptureMarkup.Json

namespace Tree

mutual

/-- A value as a tree. -/
def ofValue : Value → Tree
  | .scalar x => .scalar (some x)
  | .array items => .array (ofItems items)
  | .object fields => .object (ofFields fields)

def ofItems : List Value → List Tree
  | [] => []
  | item :: items => ofValue item :: ofItems items

def ofFields : List (String × Value) → List (Option String × Tree)
  | [] => []
  | (key, value) :: fields => (some key, ofValue value) :: ofFields fields

end

end Tree

variable {rest : Input}

theorem Ends.delimited (ends : Ends rest) : Delimited rest := by
  intro symbol here
  rcases ends symbol here with rfl | rfl | rfl
  · exact ⟨',', rfl, .inr (.inl rfl)⟩
  · exact ⟨']', rfl, .inr (.inr (.inl rfl))⟩
  · exact ⟨'\x7d', rfl, .inr (.inr (.inr rfl))⟩

/-- The text of a value spells it. -/
def SpellsOut (value : Value) : Prop :=
  ∀ rest, Ends rest → Spells (.value (Tree.ofValue value)) (value.written.map some ++ rest) rest

theorem key_written (key : String) (rest : Input) :
    Key (some key) (some '"' :: ((key.toList.flatMap writtenCharacter).map some ++ some '"' :: some ':' :: rest)) rest := by
  obtain ⟨parts, quoted, means⟩ := quoted_of_stringBody (outcome_stringBody_written key (some ':' :: rest))
  exact means ▸ .mk (.nil _) quoted (.nil _)

theorem spells_listed {items : List Value} (each : ∀ item ∈ items, SpellsOut item) (rest : Input) :
    Spells (.items false (Tree.ofItems items)) (listed (items.map Value.written) ']' rest) rest := by
  induction items with
  | nil => exact .closeArray (.nil _)
  | cons item items ih =>
    obtain ⟨here, later⟩ := List.forall_mem_cons.mp each
    rw [List.map_cons, listed_cons, Tree.ofItems]
    exact .item (.behind (.nil _)) (here _ (ends_listed _ (.inl rfl) rest)) (ih later)

theorem spells_separated {items : List Value} (each : ∀ item ∈ items, SpellsOut item) (rest : Input) :
    Spells (.items true (Tree.ofItems items)) ((separated (items.map Value.written)).map some ++ some ']' :: rest) rest := by
  cases items with
  | nil => exact .closeArray (.nil _)
  | cons item items =>
    obtain ⟨here, later⟩ := List.forall_mem_cons.mp each
    rw [List.map_cons, separated_cons, Tree.ofItems]
    exact .item (.first _) (here _ (ends_listed _ (.inl rfl) rest)) (spells_listed later rest)

theorem spells_listedFields {fields : List (String × Value)} (each : ∀ field ∈ fields, SpellsOut field.2) (rest : Input) :
    Spells (.members false (Tree.ofFields fields)) (listed (fields.map writtenField) '\x7d' rest) rest := by
  induction fields with
  | nil => exact .closeObject (.nil _)
  | cons field fields ih =>
    obtain ⟨here, later⟩ := List.forall_mem_cons.mp each
    rw [List.map_cons, listed_cons, writtenField_append, Tree.ofFields]
    exact .member (.behind (.nil _)) (key_written _ _) (here _ (ends_listed _ (.inr rfl) rest)) (ih later)

theorem spells_separatedFields {fields : List (String × Value)} (each : ∀ field ∈ fields, SpellsOut field.2) (rest : Input) :
    Spells (.members true (Tree.ofFields fields))
      ((separated (fields.map writtenField)).map some ++ some '\x7d' :: rest) rest := by
  cases fields with
  | nil => exact .closeObject (.nil _)
  | cons field fields =>
    obtain ⟨here, later⟩ := List.forall_mem_cons.mp each
    rw [List.map_cons, separated_cons, writtenField_append, Tree.ofFields]
    exact .member (.first _) (key_written _ _) (here _ (ends_listed _ (.inr rfl) rest)) (spells_listedFields later rest)

theorem spellsOut {value : Value} (exact : value.Exact) : SpellsOut value := by
  induction value using Value.induction with
  | scalar x => exact fun rest ends => .scalar (.nil _) (literal_of_scalar (outcome_scalar_written exact ends))
  | array items ih =>
    intro rest _
    have all := Value.exactItems_iff.mp exact
    rw [Value.written, bracketed, Value.writtenItems_eq, Tree.ofValue]
    exact .array (.nil _) (spells_separated (fun item member => ih item member (all item member)) rest)
  | object fields ih =>
    intro rest _
    have all := Value.exactFields_iff.mp exact
    rw [Value.written, bracketed, Value.writtenFields_eq, Tree.ofValue]
    exact .object (.nil _) (spells_separatedFields (fun field member => ih field member (all field member)) rest)

/-- A written value spells itself, with nothing in front of it and nothing behind. -/
theorem spelledBy_written {value : Value} (exact : value.Exact) : (Tree.ofValue value).SpelledBy (.ofString value.text) := by
  refine ⟨[], ?_, .nil []⟩
  have spelled := spellsOut exact [] (by simp [Ends])
  have text : value.text.toList = value.written := String.toList_ofList
  rwa [List.append_nil, ← text] at spelled

theorem readsAs_written {α : Type} {read : Reader α} {meaning : Tree → Option α} (means : Means .value read meaning)
    (value : Value) (exact : value.Exact) {a : α} (meant : meaning (Tree.ofValue value) = some a) :
    ReadsAs read (Tree.ofValue value) a :=
  ⟨_, spelledBy_written exact, toOption_eq_some.mp ((means.whole (spelledBy_written exact)).trans meant)⟩

end ScriptureMarkup.Json
