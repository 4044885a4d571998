import ScriptureMarkup.Json.Layout
import ScriptureMarkup.Proofs.Json.Collections

namespace ScriptureMarkup.Json

variable {α β σ : Type} {s : Input}

/-- What comes of a value of some nesting where only so many brackets may be open at a time. -/
def within (depth nesting : Nat) (value : α) : Except Fault α :=
  if nesting ≤ depth then .ok value else .error .tooDeep

theorem within_map (depth nesting : Nat) (value : α) (f : α → β) :
    (within depth nesting value).map f = within depth nesting (f value) := by
  unfold within
  split <;> rfl

theorem within_bind {depth nesting deeper : Nat} {value : α} {result : β} {next : α → Except Fault β}
    (goes : next value = within depth deeper result) :
    (within depth nesting value >>= next) = within depth (max nesting deeper) result := by
  unfold within at goes ⊢
  by_cases shallow : nesting ≤ depth
  · rw [if_pos shallow]
    change next value = _
    simp only [goes, Nat.max_le, shallow, true_and]
  · rw [if_neg shallow, if_neg (fun both => shallow (Nat.max_le.mp both).1)]
    rfl

theorem within_succ (depth nesting : Nat) (value : α) :
    within (depth + 1) (nesting + 1) value = within depth nesting value := by
  simp only [within, Nat.add_le_add_iff_right]

theorem mapM_within (depth : Nat) (deep : β → Nat) (f : β → α) (parts : List β) :
    (parts.mapM fun part => within depth (deep part) (f part)) =
      within depth ((parts.map deep).foldr max 0) (parts.map f) := by
  induction parts with
  | nil => rfl
  | cons part parts ih =>
    rw [List.mapM_cons, ih]
    exact within_bind (within_map depth _ _ _)

theorem foldlM_within {answer : σ → β → Except Fault σ} {depth : Nat} {deep : β → Nat} {step : σ → β → σ}
    {parts : List β} (each : ∀ state, ∀ part ∈ parts, answer state part = within depth (deep part) (step state part))
    (state : σ) :
    parts.foldlM answer state = within depth ((parts.map deep).foldr max 0) (parts.foldl step state) := by
  induction parts generalizing state with
  | nil => rfl
  | cons part parts ih =>
    rw [List.foldlM_cons, each state part List.mem_cons_self]
    exact within_bind (ih (fun state part member => each state part (List.mem_cons_of_mem _ member)) _)

theorem outcome_afterBlanks (read : Reader α) (s : Input) : outcome (afterBlanks read s) = outcome (read (skipBlanks s)) :=
  outcome_widen _ _

theorem Reads.map {read : Reader α} {text : List Char} {answer : Except Fault α} (reads : Reads read text answer)
    (f : α → β) : Reads (fun s => (read s).map (·.map f)) text (answer.map f) := by
  refine ⟨reads.begins, fun rest ends => ?_⟩
  rw [outcome_map, reads.answers rest ends]
  cases answer <;> rfl

theorem outcome_opened (read : Reader α) (bracket : Option Char) (s : Input) :
    outcome (opened (some read) bracket s) = outcome (read s) := outcome_widen _ _

theorem outcome_arrayOf (item : Reader α) (s : Input) :
    outcome (arrayOf (some item) (some '[' :: s)) = outcome (elements item s) := by
  rw [arrayOf, outcome_afterBlanks]
  exact outcome_opened _ _ _

theorem outcome_objectOf (wanted : Wanted) (inside : Reader α) (s : Input) :
    outcome (objectOf wanted (some inside) (some '\x7b' :: s)) = outcome (inside s) := by
  rw [objectOf, outcome_afterBlanks]
  exact outcome_opened _ _ _

theorem outcome_valueOf_array (part : Reader Value) (s : Input) :
    outcome (valueOf (some part) (some '[' :: s)) = (outcome (elements part s)).map fun found => (.array found.1, found.2) := by
  rw [valueOf, outcome_afterBlanks]
  change outcome ((opened (some (elements part)) (some '[') s).map (·.map Value.array)) = _
  rw [outcome_map, outcome_opened]

/-- One member of an object that is kept whole. -/
def keep (read : Reader Value) (fields : List (String × Value)) (key : String) :
    Except Fault (Reader (List (String × Value))) :=
  .ok fun s => (read s).map (·.map fun value => Text.putEntry key value fields)

theorem outcome_valueOf_object (part : Reader Value) (s : Input) :
    outcome (valueOf (some part) (some '\x7b' :: s)) =
      (outcome (members (keep part) [] s)).map fun found => (.object found.1, found.2) := by
  rw [valueOf, outcome_afterBlanks]
  change outcome ((opened (some (members (keep part) [])) (some '\x7b') s).map (·.map Value.object)) = _
  rw [outcome_map, outcome_opened]

theorem begins_scalar {x : Scalar} (exact : x.Exact) :
    ∃ c tail, x.written = c :: tail ∧ isBlank c = false ∧ c ≠ '[' ∧ c ≠ ']' ∧ c ≠ '\x7b' := by
  cases x with
  | null => exact ⟨_, _, rfl, by decide⟩
  | bool b => cases b <;> exact ⟨_, _, rfl, by decide⟩
  | string text => exact ⟨_, _, rfl, by decide⟩
  | number number =>
    cases number with
    | real x => exact exact.elim
    | integer n =>
      obtain ⟨n, rfl, _⟩ := exact
      obtain ⟨c, text, written, digit, _⟩ := toDigits_eq_cons n
      have other := fun symbol (no : Char.isDigit symbol = false) => ne_of_isDigit digit no
      have visible : isBlank c = false := by
        simp [isBlank, other ' ' rfl, other '\n' rfl, other '\t' rfl, other '\r' rfl]
      exact ⟨c, text, (toList_toString n).trans written, visible, other '[' rfl, other ']' rfl, other '\x7b' rfl⟩

theorem outcome_valueOf_scalar (part : Option (Reader Value)) {x : Scalar} (exact : x.Exact) {rest : Input} (ends : Ends rest) :
    outcome (valueOf part (x.written.map some ++ rest)) = .ok (.scalar x, rest) := by
  obtain ⟨c, tail, written, visible, noList, _, noObject⟩ := begins_scalar exact
  have read := outcome_scalar_written exact ends
  rw [written, List.map_cons, List.cons_append] at read ⊢
  obtain ⟨shorter, read⟩ := of_outcome read
  rw [valueOf, outcome_afterBlanks, skipBlanks_cons visible]
  generalize same : some c :: (tail.map some ++ rest) = s at shorter read ⊢
  split
  · cases same
    exact absurd rfl noList
  · cases same
    exact absurd rfl noObject
  · rw [outcome_map, read]
    rfl

theorem bracketed (opening closing : Char) (text : List Char) (rest : Input) :
    (opening :: text ++ [closing]).map some ++ rest = some opening :: (text.map some ++ some closing :: rest) := by
  simp

theorem begins_written {value : Value} (exact : value.Exact) : Begins value.written := by
  cases value with
  | scalar x =>
    obtain ⟨c, tail, written, visible, _, other, _⟩ := begins_scalar exact
    exact ⟨c, tail, written, visible, other⟩
  | array items => exact ⟨'[', _, rfl, rfl, by decide⟩
  | object fields => exact ⟨'\x7b', _, rfl, rfl, by decide⟩

theorem outcome_elements_within {item : Reader α} {text : β → List Char} {depth : Nat} {deep : β → Nat} {f : β → α}
    {parts : List β} (each : ∀ part ∈ parts, Reads item (text part) (within depth (deep part) (f part))) (rest : Input) :
    outcome (elements item ((separated (parts.map text)).map some ++ some ']' :: rest)) =
      (within depth ((parts.map deep).foldr max 0) (parts.map f)).map (·, rest) := by
  rw [outcome_elements each, mapM_within]

theorem reads_arrayOf {item : Reader α} {text : β → List Char} {depth : Nat} {deep : β → Nat} {f : β → α}
    {parts : List β} (each : ∀ part ∈ parts, Reads item (text part) (within depth (deep part) (f part))) :
    Reads (arrayOf (some item)) ('[' :: separated (parts.map text) ++ [']'])
      (within (depth + 1) ((parts.map deep).foldr max 0 + 1) (parts.map f)) := by
  refine ⟨⟨'[', _, rfl, rfl, by decide⟩, fun rest ends => ?_⟩
  rw [bracketed, outcome_arrayOf, outcome_elements_within each, within_succ]

theorem outcome_members_within {member : σ → String → Except Fault (Reader σ)} {depth : Nat} {step : σ → String × Value → σ}
    {fields : List (String × Value)}
    (each : ∀ state, ∀ field ∈ fields, Answers member state field (within depth field.2.nesting (step state field)))
    (state : σ) (rest : Input) :
    outcome (members member state ((separated (fields.map writtenField)).map some ++ some '\x7d' :: rest)) =
      (within depth (Value.nestingFields fields) (fields.foldl step state)).map (·, rest) := by
  rw [outcome_members state each, foldlM_within (fun _ _ _ => rfl), Value.nestingFields_eq]

/-- A written value is read back with its fields in order, where its nesting is allowed; where it is
not, the reader says so. -/
theorem reads_value {value : Value} (exact : value.Exact) (depth : Nat) :
    Reads (Json.value depth) value.written (within depth value.nesting value.sorted) := by
  refine ⟨begins_written exact, fun rest ends => ?_⟩
  induction value using Value.induction generalizing depth rest with
  | scalar x =>
    have read : ∀ part, outcome (valueOf part (x.written.map some ++ rest)) = .ok (.scalar x, rest) :=
      fun part => outcome_valueOf_scalar part exact ends
    cases depth <;> exact read _
  | array items ih =>
    have all := Value.exactItems_iff.mp exact
    rw [Value.written, bracketed, Value.nesting]
    cases depth with
    | zero => rfl
    | succ depth =>
      have each : ∀ item ∈ items, Reads (Json.value depth) item.written (within depth item.nesting item.sorted) :=
        fun item member => ⟨begins_written (all item member), ih item member (all item member) depth⟩
      rw [Json.value, outcome_valueOf_array, Value.writtenItems_eq, outcome_elements_within each, within_succ,
        Value.nestingItems_eq, Value.sorted, Value.sortedItems_eq, ← within_map depth _ _ Value.array]
      cases within depth ((items.map Value.nesting).foldr max 0) (items.map Value.sorted) <;> rfl
  | object fields ih =>
    have all := Value.exactFields_iff.mp exact
    rw [Value.written, bracketed, Value.nesting]
    cases depth with
    | zero => rfl
    | succ depth =>
      have each : ∀ state, ∀ field ∈ fields, Answers (keep (Json.value depth)) state field
          (within depth field.2.nesting (Text.putEntry field.1 field.2.sorted state)) := by
        intro state field member
        have part : Reads (Json.value depth) field.2.written (within depth field.2.nesting field.2.sorted) :=
          ⟨begins_written (all field member), ih field member (all field member) depth⟩
        have put := part.map fun value => Text.putEntry field.1 value state
        rw [within_map] at put
        exact put
      rw [Json.value, outcome_valueOf_object, Value.writtenFields_eq, outcome_members_within each, within_succ,
        Value.sorted, Value.sortedFields_eq, Text.inKeyOrder, List.foldl_map, ← within_map depth _ _ Value.object]
      cases within depth (Value.nestingFields fields)
        (fields.foldl (fun state field => Text.putEntry field.1 field.2.sorted state) []) <;> rfl

theorem outcome_finishing {scanned : Except Fault (Scanned σ s)} (finish : σ → Except Fault α) {depth nesting : Nat}
    {state : σ} {value : α} {rest : Input} (finishes : finish state = .ok value)
    (read : outcome scanned = (within depth nesting state).map (·, rest)) :
    outcome (scanned >>= Layout.finishing finish) = (within depth nesting value).map (·, rest) := by
  unfold within at read ⊢
  by_cases shallow : nesting ≤ depth
  · rw [if_pos shallow] at read ⊢
    obtain ⟨shorter, read⟩ := of_outcome read
    rw [read]
    change outcome (Layout.finishing finish _) = _
    rw [Layout.finishing, finishes]
    rfl
  · rw [if_neg shallow] at read ⊢
    rw [of_outcome_error read]
    rfl

/-- A record that is written as an object. -/
theorem outcome_layoutReader {layout : Layout σ} {blank : σ} (byName : σ → Except Fault α)
    (byPlace : Nat × σ → Except Fault α) {s rest : Input} {depth nesting : Nat} {state : List String × σ} {value : α}
    (finishes : byName state.2 = .ok value)
    (read : outcome (members layout.member ([], blank) s) = (within depth nesting state).map (·, rest)) :
    outcome (layout.reader blank byName byPlace (some '\x7b' :: s)) = (within depth nesting value).map (·, rest) := by
  have brace : isBlank '\x7b' = false := rfl
  rw [← outcome_finishing (fun state : List String × σ => byName state.2) finishes read, Layout.reader,
    outcome_afterBlanks, skipBlanks_cons brace]
  cases ran : members layout.member ([], blank) s with
  | error fault =>
    simp only [ran]
    rfl
  | ok x =>
    simp only [ran]
    exact outcome_widen _ _

end ScriptureMarkup.Json
