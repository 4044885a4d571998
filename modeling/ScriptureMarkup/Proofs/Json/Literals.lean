import Mathlib.Tactic.SplitIfs
import ScriptureMarkup.Json.Scalar
import ScriptureMarkup.Json.Written

namespace ScriptureMarkup.Json

variable {α β : Type} {s t start : Input}

/-- What has been read and what is left, without the account that something has been read. -/
def outcome (scanned : Except Fault (Scanned α s)) : Except Fault (α × Input) :=
  scanned.map fun x => (x.value, x.rest)

theorem outcome_widen (le : s.length ≤ t.length) (scanned : Except Fault (Scanned α s)) :
    outcome (scanned.map (·.widen le)) = outcome scanned := by
  cases scanned <;> rfl

theorem outcome_map (f : α → β) (scanned : Except Fault (Scanned α s)) :
    outcome (scanned.map (·.map f)) = (outcome scanned).map fun found => (f found.1, found.2) := by
  cases scanned <;> rfl

theorem of_outcome {scanned : Except Fault (Scanned α s)} {value : α} {rest : Input}
    (found : outcome scanned = .ok (value, rest)) :
    ∃ shorter : rest.length < s.length, scanned = .ok ⟨value, rest, shorter⟩ := by
  cases scanned with
  | error fault => cases found
  | ok x =>
    cases found
    exact ⟨x.shorter, rfl⟩

theorem of_outcome_error {scanned : Except Fault (Scanned α s)} {fault : Fault}
    (found : outcome scanned = .error fault) : scanned = .error fault := by
  cases scanned with
  | error fault =>
    cases found
    rfl
  | ok x => cases found

theorem skipBlanks_cons {c : Char} (visible : isBlank c = false) (s : Input) :
    skipBlanks (some c :: s) = some c :: s := by
  simp [skipBlanks, visible]

/-- What may stand behind a value in a written text. -/
def Ends (rest : Input) : Prop :=
  ∀ symbol ∈ rest.head?, symbol = some ',' ∨ symbol = some ']' ∨ symbol = some '\x7d'

theorem hexDigit?_lowerHexDigit {n : Nat} (small : n < 16) : hexDigit? (some (lowerHexDigit n)) = some n := by
  revert n
  decide

theorem outcome_hexUnit_written {n : Nat} (small : n < 0x20) (rest : Input) :
    outcome (hexUnit (some '0' :: some '0' :: some (lowerHexDigit (n / 16)) :: some (lowerHexDigit (n % 16)) :: rest)) =
      .ok (n, rest) := by
  have high := hexDigit?_lowerHexDigit (n := n / 16) (by omega)
  have low := hexDigit?_lowerHexDigit (n := n % 16) (by omega)
  have zero : hexDigit? (some '0') = some 0 := rfl
  have whole : ((0 * 16 + 0) * 16 + n / 16) * 16 + n % 16 = n := by omega
  simp only [hexUnit, zero, high, low, outcome, Except.map, whole]

theorem outcome_unicodeEscape_written {c : Char} (control : c.toNat < 0x20) (rest : Input) :
    outcome (unicodeEscape (some '0' :: some '0' :: some (lowerHexDigit (c.toNat / 16)) ::
      some (lowerHexDigit (c.toNat % 16)) :: rest)) = .ok (c, rest) := by
  obtain ⟨shorter, unit⟩ := of_outcome (outcome_hexUnit_written control rest)
  have apart : isLowSurrogate c.toNat = false ∧ isHighSurrogate c.toNat = false := by
    simp only [isLowSurrogate, isHighSurrogate, Bool.and_eq_false_iff, decide_eq_false_iff_not]
    omega
  rw [unicodeEscape, unit]
  simp [apart, outcome, Scanned.map, Except.map]

/-- However a character is written, it is read back as itself. -/
theorem outcome_stringPart_written (c : Char) (rest : Input) :
    outcome (stringPart ((writtenCharacter c).map some ++ rest)) = .ok (some (some c), rest) := by
  generalize written : writtenCharacter c = text
  unfold writtenCharacter at written
  split_ifs at written with quote backslash backspace tab newline feed carriage control <;> subst written
  · subst quote
    rfl
  · subst backslash
    rfl
  · subst backspace
    rfl
  · subst tab
    rfl
  · subst newline
    rfl
  · subst feed
    rfl
  · subst carriage
    rfl
  · obtain ⟨shorter, read⟩ := of_outcome (outcome_unicodeEscape_written control rest)
    change outcome (stringPart (some '\\' :: some 'u' :: some '0' :: some '0' :: _ :: _ :: rest)) = _
    rw [stringPart, escape, read]
    rfl
  · change outcome (stringPart (some c :: rest)) = _
    rw [stringPart, if_neg control]
    · rfl
    · exact fun same => quote same
    · exact fun same => backslash same

theorem stringSymbols_step (done : Input) {symbol : Option Char} {rest : Input}
    (bound : s.length ≤ start.length) (part : outcome (stringPart s) = .ok (some symbol, rest)) :
    ∃ later : rest.length ≤ start.length, stringSymbols done s bound = stringSymbols (symbol :: done) rest later := by
  obtain ⟨shorter, found⟩ := of_outcome part
  refine ⟨Nat.le_of_lt (Nat.lt_of_lt_of_le shorter bound), ?_⟩
  rw [stringSymbols, found]

theorem stringSymbols_end {done rest : Input} (bound : s.length ≤ start.length)
    (part : outcome (stringPart s) = .ok (none, rest)) : outcome (stringSymbols done s bound) = .ok (done.reverse, rest) := by
  obtain ⟨shorter, found⟩ := of_outcome part
  rw [stringSymbols, found]
  rfl

theorem outcome_stringSymbols_written (characters : List Char) (done rest : Input)
    (written : s = (characters.flatMap writtenCharacter).map some ++ some '"' :: rest) (bound : s.length ≤ start.length) :
    outcome (stringSymbols done s bound) = .ok (done.reverse ++ characters.map some, rest) := by
  induction characters generalizing done s with
  | nil =>
    have part : outcome (stringPart s) = .ok (none, rest) := by
      subst written
      rfl
    rw [stringSymbols_end bound part, List.map_nil, List.append_nil]
  | cons c characters ih =>
    have part := outcome_stringPart_written c ((characters.flatMap writtenCharacter).map some ++ some '"' :: rest)
    rw [← List.append_assoc, ← List.map_append, ← List.flatMap_cons, ← written] at part
    obtain ⟨later, step⟩ := stringSymbols_step done bound part
    rw [step, ih _ rfl later, List.reverse_cons, List.append_assoc, List.singleton_append, List.map_cons]

/-- A written string is read back from behind its quote. -/
theorem outcome_stringBody_written (text : String) (rest : Input) :
    outcome (stringBody ((text.toList.flatMap writtenCharacter).map some ++ some '"' :: rest)) = .ok (text, rest) := by
  obtain ⟨shorter, symbols⟩ := of_outcome
    (outcome_stringSymbols_written text.toList [] rest rfl (length_le_self _))
  have whole : (text.toList.map some).mapM id = some text.toList := by
    rw [List.mapM_map]
    simpa using List.mapM_pure (m := Option) (l := text.toList) (f := id)
  rw [stringBody, symbols, List.reverse_nil, List.nil_append]
  simp only [whole, String.ofList_toList]
  rfl

/-- The digits of a natural number. -/
theorem toList_toString (n : Nat) : (toString (n : Int)).toList = Nat.toDigits 10 n := by
  change (toString n).toList = _
  rw [Nat.toString_eq_ofList_toDigits, String.toList_ofList]

def digitValue (c : Char) : Nat := c.toNat - '0'.toNat

theorem digit?_of_isDigit {c : Char} (digit : c.isDigit = true) : digit? (some c) = some (digitValue c) := by
  have range : '0' ≤ c ∧ c ≤ '9' := by simpa [Char.isDigit, Char.le_def] using digit
  rw [digit?, if_pos range, digitValue]

theorem digits_of_ends {rest : Input} (ends : Ends rest) : digits rest = ([], rest) := by
  cases rest with
  | nil => rfl
  | cons symbol rest =>
    rcases ends symbol rfl with rfl | rfl | rfl <;> rfl

theorem digits_append {text : List Char} (all : ∀ c ∈ text, c.isDigit = true) {rest : Input} (ends : Ends rest) :
    digits (text.map some ++ rest) = (text.map digitValue, rest) := by
  induction text with
  | nil => exact digits_of_ends ends
  | cons c text ih =>
    obtain ⟨digit, others⟩ := List.forall_mem_cons.mp all
    simp only [List.map_cons, List.cons_append, digits, digit?_of_isDigit digit, ih others]

theorem toDigits_of_pos {n : Nat} (positive : 0 < n) :
    ∃ c text, Nat.toDigits 10 n = c :: text ∧ digitValue c ≠ 0 := by
  induction n using Nat.strongRecOn with
  | _ n ih =>
    rw [Nat.toDigits_eq_if (by decide)]
    split
    · rename_i small
      refine ⟨n.digitChar, [], rfl, ?_⟩
      rw [digitValue, Nat.toNat_digitChar_of_lt_ten small]
      change 48 + n - 48 ≠ 0
      omega
    · obtain ⟨c, text, front, leads⟩ := ih (n / 10) (by omega) (by omega)
      exact ⟨c, text ++ [(n % 10).digitChar], by rw [front, List.cons_append], leads⟩

/-- Only zero is written with a zero in front. -/
theorem toDigits_eq_cons (n : Nat) : ∃ c text, Nat.toDigits 10 n = c :: text ∧ c.isDigit = true ∧
    (∀ other ∈ text, other.isDigit = true) ∧ (digitValue c ≠ 0 ∨ text = []) := by
  have all : ∀ c ∈ Nat.toDigits 10 n, c.isDigit = true :=
    fun c member => Nat.isDigit_of_mem_toDigits (by decide) (by decide) member
  rcases Nat.eq_zero_or_pos n with rfl | positive
  · exact ⟨'0', [], rfl, rfl, by simp, .inr rfl⟩
  · obtain ⟨c, text, written, leads⟩ := toDigits_of_pos positive
    rw [written, List.forall_mem_cons] at all
    exact ⟨c, text, written, all.1, all.2, .inl leads⟩

theorem foldl_toDigits (n : Nat) :
    ((Nat.toDigits 10 n).map digitValue).foldl (fun n d => n * 10 + d) 0 = n := by
  have value := Nat.ofDigitChars_ten_toDigits (n := n)
  rw [Nat.ofDigitChars_eq_foldl] at value
  simpa only [List.foldl_map, digitValue, Nat.mul_comm 10] using value

theorem outcome_wholeDigits_written (n : Nat) {rest : Input} (ends : Ends rest) :
    outcome (wholeDigits ((Nat.toDigits 10 n).map some ++ rest)) = .ok ((Nat.toDigits 10 n).map digitValue, rest) := by
  obtain ⟨c, text, written, digit, others, leads⟩ := toDigits_eq_cons n
  rw [written, List.map_cons, List.map_cons, List.cons_append, wholeDigits, someDigits]
  simp only [digit?_of_isDigit digit, digits_append others ends]
  split
  · rename_i zeros
    obtain ⟨zero, more⟩ := List.cons.inj zeros
    rcases leads with leads | rfl
    · exact absurd zero leads
    · cases more
  · rfl

theorem fractionPart_of_ends {rest : Input} (ends : Ends rest) :
    ∃ le, fractionPart rest = .ok ⟨([], none, rest), le⟩ := by
  cases rest with
  | nil => exact ⟨_, rfl⟩
  | cons symbol rest =>
    rcases ends symbol rfl with rfl | rfl | rfl <;> exact ⟨_, rfl⟩

theorem ne_of_isDigit {c other : Char} (digit : c.isDigit = true) (no : other.isDigit = false) : c ≠ other := by
  rintro rfl
  simp [no] at digit

/-- A written natural number that fits 64 bits is read back as an integer. -/
theorem outcome_number_written {n : Nat} (fits : n < UInt64.size) {rest : Input} (ends : Ends rest) :
    outcome (number ((Nat.toDigits 10 n).map some ++ rest)) = .ok (.number (.integer n), rest) := by
  obtain ⟨shorter, whole⟩ := of_outcome (outcome_wholeDigits_written n ends)
  obtain ⟨le, nothing⟩ := fractionPart_of_ends ends
  have text : outcome (numberText ((Nat.toDigits 10 n).map some ++ rest)) =
      .ok (⟨false, (Nat.toDigits 10 n).map digitValue, [], none⟩, rest) := by
    rw [numberText, unsignedNumber, whole]
    · simp only [nothing]
      rfl
    · intro s negative
      obtain ⟨c, text, written, digit, _⟩ := toDigits_eq_cons n
      rw [written] at negative
      injection negative with same
      injection same with same
      exact ne_of_isDigit digit rfl same
  obtain ⟨_, read⟩ := of_outcome text
  have value : NumberText.value ⟨false, (Nat.toDigits 10 n).map digitValue, [], none⟩ = .ok (.integer n) := by
    simp [NumberText.value, NumberText.integer?, foldl_toDigits, fits]
  rw [number, read]
  simp only [value]
  rfl

theorem scalar_of_isDigit {c : Char} (digit : c.isDigit = true) (s : Input) :
    scalar (some c :: s) = number (some c :: s) := by
  rw [scalar, if_pos (.inr (by rw [digit?_of_isDigit digit]; rfl))]
  · exact fun same => ne_of_isDigit digit rfl (Option.some.inj same)
  · exact fun same => ne_of_isDigit digit rfl (Option.some.inj same)
  · exact fun same => ne_of_isDigit digit rfl (Option.some.inj same)
  · exact fun same => ne_of_isDigit digit rfl (Option.some.inj same)

/-- A scalar whose number, if it is one, is a natural number of 64 bits. -/
def Scalar.Exact : Scalar → Prop
  | .number (.integer n) => ∃ m : Nat, n = m ∧ m < UInt64.size
  | .number (.real _) => False
  | .null | .bool _ | .string _ => True

theorem outcome_scalar_written {x : Scalar} (exact : x.Exact) {rest : Input} (ends : Ends rest) :
    outcome (scalar (x.written.map some ++ rest)) = .ok (x, rest) := by
  cases x with
  | null => rfl
  | bool b => cases b <;> rfl
  | string text =>
    obtain ⟨shorter, body⟩ := of_outcome (outcome_stringBody_written text rest)
    have opens : (Scalar.string text).written.map some ++ rest =
        some '"' :: ((text.toList.flatMap writtenCharacter).map some ++ some '"' :: rest) := by
      simp [Scalar.written, writtenString]
    rw [opens, scalar, body]
    rfl
  | number n =>
    cases n with
    | real x => exact exact.elim
    | integer n =>
      obtain ⟨m, rfl, fits⟩ := exact
      have read := outcome_number_written fits ends
      have digits : (Scalar.number (.integer m)).written = Nat.toDigits 10 m := toList_toString m
      obtain ⟨c, text, written, digit, _⟩ := toDigits_eq_cons m
      rw [digits]
      rw [written, List.map_cons, List.cons_append] at read ⊢
      rw [scalar_of_isDigit digit, read]

end ScriptureMarkup.Json
