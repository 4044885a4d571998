import ScriptureMarkup.Proofs.Json.Literals
import ScriptureMarkup.Text.KeyOrder

namespace ScriptureMarkup.Json

/-- Texts with commas between them. -/
def separated : List (List Char) → List Char
  | [] => []
  | text :: texts => text ++ texts.flatMap (',' :: ·)

def writtenField (field : String × Value) : List Char := writtenString field.1 ++ ':' :: field.2.written

namespace Value

/-- What holds of a value if it holds of all values in it, holds of every value. -/
theorem induction {motive : Value → Prop} (scalar : ∀ x, motive (.scalar x))
    (array : ∀ items, (∀ item ∈ items, motive item) → motive (.array items))
    (object : ∀ fields, (∀ field ∈ fields, motive field.2) → motive (.object fields)) (value : Value) : motive value := by
  refine @Value.rec motive (fun items => ∀ item ∈ items, motive item) (fun fields => ∀ field ∈ fields, motive field.2)
    (fun field => motive field.2) scalar array object ?_ ?_ ?_ ?_ (fun _ _ here => here) value
  · simp
  · exact fun item items here others => List.forall_mem_cons.mpr ⟨here, others⟩
  · simp
  · exact fun field fields here others => List.forall_mem_cons.mpr ⟨here, others⟩

theorem writtenItems_eq (items : List Value) : writtenItems items = separated (items.map written) := by
  induction items with
  | nil => rfl
  | cons item items ih =>
    cases items with
    | nil => simp [writtenItems, separated]
    | cons next items => simp [writtenItems, separated, ih]

theorem writtenFields_eq (fields : List (String × Value)) : writtenFields fields = separated (fields.map writtenField) := by
  induction fields with
  | nil => rfl
  | cons field fields ih =>
    cases fields with
    | nil => simp [writtenFields, separated, writtenField]
    | cons next fields => simp [writtenFields, separated, writtenField, ih]

mutual

/-- A value all of whose numbers are natural numbers of 64 bits. -/
def Exact : Value → Prop
  | .scalar x => x.Exact
  | .array items => ExactItems items
  | .object fields => ExactFields fields

def ExactItems : List Value → Prop
  | [] => True
  | item :: items => item.Exact ∧ ExactItems items

def ExactFields : List (String × Value) → Prop
  | [] => True
  | (_, value) :: fields => value.Exact ∧ ExactFields fields

end

theorem exactItems_iff {items : List Value} : ExactItems items ↔ ∀ item ∈ items, item.Exact := by
  induction items with
  | nil => simp [ExactItems]
  | cons item items ih => rw [ExactItems, List.forall_mem_cons, ih]

theorem exactFields_iff {fields : List (String × Value)} : ExactFields fields ↔ ∀ field ∈ fields, field.2.Exact := by
  induction fields with
  | nil => simp [ExactFields]
  | cons field fields ih => rw [ExactFields, List.forall_mem_cons, ih]

mutual

/-- The greatest number of arrays and objects of a value that lie in each other. -/
def nesting : Value → Nat
  | .scalar _ => 0
  | .array items => nestingItems items + 1
  | .object fields => nestingFields fields + 1

def nestingItems : List Value → Nat
  | [] => 0
  | item :: items => max item.nesting (nestingItems items)

def nestingFields : List (String × Value) → Nat
  | [] => 0
  | (_, value) :: fields => max value.nesting (nestingFields fields)

end

theorem nestingItems_eq (items : List Value) : nestingItems items = (items.map nesting).foldr max 0 := by
  induction items with
  | nil => rfl
  | cons item items ih => rw [nestingItems, ih, List.map_cons, List.foldr_cons]

theorem nestingFields_eq (fields : List (String × Value)) :
    nestingFields fields = (fields.map fun field => field.2.nesting).foldr max 0 := by
  induction fields with
  | nil => rfl
  | cons field fields ih => rw [nestingFields, ih, List.map_cons, List.foldr_cons]

theorem nestingFields_append (front back : List (String × Value)) :
    nestingFields (front ++ back) = max (nestingFields front) (nestingFields back) := by
  induction front with
  | nil => exact (Nat.zero_max _).symm
  | cons field front ih => rw [List.cons_append, nestingFields, nestingFields, ih, Nat.max_assoc]

mutual

/-- A value with the fields of each object in ascending order of keys. -/
def sorted : Value → Value
  | .scalar x => .scalar x
  | .array items => .array (sortedItems items)
  | .object fields => .object (Text.inKeyOrder (sortedFields fields))

def sortedItems : List Value → List Value
  | [] => []
  | item :: items => item.sorted :: sortedItems items

def sortedFields : List (String × Value) → List (String × Value)
  | [] => []
  | (key, value) :: fields => (key, value.sorted) :: sortedFields fields

end

theorem sortedItems_eq (items : List Value) : sortedItems items = items.map sorted := by
  induction items with
  | nil => rfl
  | cons item items ih => rw [sortedItems, ih, List.map_cons]

theorem sortedFields_eq (fields : List (String × Value)) :
    sortedFields fields = fields.map fun field => (field.1, field.2.sorted) := by
  induction fields with
  | nil => rfl
  | cons field fields ih => rw [sortedFields, ih, List.map_cons]

end Value

end ScriptureMarkup.Json
