import Mathlib.Tactic.SplitIfs
import ScriptureMarkup.Proofs.Json.Values

namespace ScriptureMarkup.Json

/-- Where a text stands that is searched for brackets: outside of strings, in a string, or behind a
backslash in a string. -/
inductive Place
  | outside
  | string
  | escape

/-- How far a search for brackets has come: how many are open, and how many were open at most. -/
structure Brackets where
  place : Place
  opened : Nat
  deepest : Nat

/-- Brackets in strings do not count. -/
def Brackets.pass (brackets : Brackets) (c : Char) : Brackets :=
  match brackets.place with
  | .escape => { brackets with place := .string }
  | .string =>
    if c = '"' then { brackets with place := .outside }
    else if c = '\\' then { brackets with place := .escape }
    else brackets
  | .outside =>
    if c = '"' then { brackets with place := .string }
    else if c = '[' ∨ c = '\x7b' then ⟨.outside, brackets.opened + 1, max brackets.deepest (brackets.opened + 1)⟩
    else if c = ']' ∨ c = '\x7d' then { brackets with opened := brackets.opened - 1 }
    else brackets

/-- The greatest number of arrays and objects of a text that stand open at a time. -/
def nesting (text : List Char) : Nat := (text.foldl Brackets.pass ⟨.outside, 0, 0⟩).deepest

namespace Brackets

variable {n m : Nat}

theorem pass_writtenCharacter (c : Char) : (writtenCharacter c).foldl pass ⟨.string, n, m⟩ = ⟨.string, n, m⟩ := by
  unfold writtenCharacter
  split_ifs with quote backslash backspace tab newline feed carriage control
  · rfl
  · rfl
  · rfl
  · rfl
  · rfl
  · rfl
  · rfl
  · have digits : ∀ n : Nat, n < 16 → lowerHexDigit n ≠ '"' ∧ lowerHexDigit n ≠ '\\' := by decide
    have high := digits (c.toNat / 16) (by omega)
    have low := digits (c.toNat % 16) (by omega)
    simp [pass, high, low]
  · simp [pass, quote, backslash]

theorem pass_writtenString (text : String) : (writtenString text).foldl pass ⟨.outside, n, m⟩ = ⟨.outside, n, m⟩ := by
  have inside : ∀ characters : List Char,
      (characters.flatMap writtenCharacter).foldl pass ⟨.string, n, m⟩ = ⟨.string, n, m⟩ := by
    intro characters
    induction characters with
    | nil => rfl
    | cons c characters ih => rw [List.flatMap_cons, List.foldl_append, pass_writtenCharacter, ih]
  rw [writtenString, List.cons_append, List.foldl_cons, List.foldl_append]
  change List.foldl pass (List.foldl pass ⟨.string, n, m⟩ _) _ = _
  rw [inside]
  rfl

theorem pass_toDigits (k : Nat) : (Nat.toDigits 10 k).foldl pass ⟨.outside, n, m⟩ = ⟨.outside, n, m⟩ := by
  have all : ∀ c ∈ Nat.toDigits 10 k, c.isDigit = true :=
    fun c member => Nat.isDigit_of_mem_toDigits (by decide) (by decide) member
  revert all
  generalize Nat.toDigits 10 k = text
  intro all
  induction text with
  | nil => rfl
  | cons c text ih =>
    obtain ⟨digit, others⟩ := List.forall_mem_cons.mp all
    have other := fun symbol (no : Char.isDigit symbol = false) => ne_of_isDigit digit no
    have passed : pass ⟨.outside, n, m⟩ c = ⟨.outside, n, m⟩ := by
      simp [pass, other '"' rfl, other '[' rfl, other '\x7b' rfl, other ']' rfl, other '\x7d' rfl]
    rw [List.foldl_cons, passed, ih others]

theorem pass_scalar {x : Scalar} (exact : x.Exact) : x.written.foldl pass ⟨.outside, n, m⟩ = ⟨.outside, n, m⟩ := by
  cases x with
  | null => rfl
  | bool b => cases b <;> rfl
  | string text => exact pass_writtenString text
  | number number =>
    cases number with
    | real x => exact exact.elim
    | integer k =>
      obtain ⟨k, rfl, _⟩ := exact
      rw [Scalar.written, Number.written, toList_toString]
      exact pass_toDigits k

/-- A text within which all brackets are closed, and at most so many are open at a time. -/
def Balanced (text : List Char) (nesting : Nat) : Prop :=
  ∀ n m, n ≤ m → text.foldl pass ⟨.outside, n, m⟩ = ⟨.outside, n, max m (n + nesting)⟩

theorem balanced_append {front back : List Char} {deep deeper : Nat} (first : Balanced front deep)
    (second : Balanced back deeper) : Balanced (front ++ back) (max deep deeper) := by
  intro n m le
  rw [List.foldl_append, first n m le, second n _ (by omega)]
  congr 1
  omega

theorem balanced_of_flat {text : List Char} (flat : ∀ n m, text.foldl pass ⟨.outside, n, m⟩ = ⟨.outside, n, m⟩) :
    Balanced text 0 := by
  intro n m le
  rw [flat, Nat.add_zero, Nat.max_eq_left le]

theorem balanced_separated {β : Type} {text : β → List Char} {deep : β → Nat} {parts : List β}
    (each : ∀ part ∈ parts, Balanced (text part) (deep part)) :
    Balanced (separated (parts.map text)) ((parts.map deep).foldr max 0) := by
  have commas : ∀ parts : List β, (∀ part ∈ parts, Balanced (text part) (deep part)) →
      Balanced ((parts.map text).flatMap (',' :: ·)) ((parts.map deep).foldr max 0) := by
    intro parts each
    induction parts with
    | nil => exact balanced_of_flat fun _ _ => rfl
    | cons part parts ih =>
      obtain ⟨here, others⟩ := List.forall_mem_cons.mp each
      exact balanced_append here (ih others)
  cases parts with
  | nil => exact commas [] each
  | cons part parts =>
    obtain ⟨here, others⟩ := List.forall_mem_cons.mp each
    exact balanced_append here (commas parts others)

theorem balanced_within {text : List Char} {deep : Nat} (inside : Balanced text deep) {opening closing : Char}
    (pair : opening = '[' ∧ closing = ']' ∨ opening = '\x7b' ∧ closing = '\x7d') :
    Balanced (opening :: text ++ [closing]) (deep + 1) := by
  intro n m le
  have opened : pass ⟨.outside, n, m⟩ opening = ⟨.outside, n + 1, max m (n + 1)⟩ := by
    rcases pair with ⟨rfl, _⟩ | ⟨rfl, _⟩ <;> rfl
  have closed : ∀ k, pass ⟨.outside, n + 1, k⟩ closing = ⟨.outside, n, k⟩ := by
    intro k
    rcases pair with ⟨_, rfl⟩ | ⟨_, rfl⟩ <;> rfl
  rw [List.cons_append, List.foldl_cons, List.foldl_append, opened, inside _ _ (by omega), List.foldl_cons, closed,
    List.foldl_nil]
  congr 1
  omega

theorem balanced_written {value : Value} (exact : value.Exact) : Balanced value.written value.nesting := by
  induction value using Value.induction with
  | scalar x => exact balanced_of_flat fun _ _ => pass_scalar exact
  | array items ih =>
    rw [Value.written, Value.nesting, Value.writtenItems_eq, Value.nestingItems_eq]
    have all := Value.exactItems_iff.mp exact
    exact balanced_within (balanced_separated fun item member => ih item member (all item member)) (.inl ⟨rfl, rfl⟩)
  | object fields ih =>
    rw [Value.written, Value.nesting, Value.writtenFields_eq, Value.nestingFields_eq]
    have all := Value.exactFields_iff.mp exact
    refine balanced_within (balanced_separated fun field member => ?_) (.inr ⟨rfl, rfl⟩)
    have key : Balanced (writtenString field.1) 0 := balanced_of_flat fun _ _ => pass_writtenString field.1
    have behind : Balanced (':' :: field.2.written) field.2.nesting := ih field member (all field member)
    have whole := balanced_append key behind
    rw [Nat.zero_max] at whole
    exact whole

end Brackets

/-- A written value is nested as deep as the value. -/
theorem nesting_written {value : Value} (exact : value.Exact) : nesting value.written = value.nesting := by
  rw [nesting, Brackets.balanced_written exact 0 0 (Nat.le_refl 0)]
  simp

end ScriptureMarkup.Json
