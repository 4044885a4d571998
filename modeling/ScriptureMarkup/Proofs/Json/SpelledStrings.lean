import ScriptureMarkup.Proofs.Json.SpelledNumbers

/-!
Strings, scalars and keys as they are read. A string is passed over if it is spelled, and read as a text
if what it spells is one.
-/

namespace ScriptureMarkup.Json

section Strings

variable {parts : List StringPart} {s r start : Input}

theorem outcome_hexUnit {w x y z : Option Char} {a b c d : Nat} (first : hexDigit? w = some a)
    (second : hexDigit? x = some b) (third : hexDigit? y = some c) (fourth : hexDigit? z = some d) (s : Input) :
    outcome (hexUnit (w :: x :: y :: z :: s)) = .ok (((a * 16 + b) * 16 + c) * 16 + d, s) := by
  simp only [hexUnit, first, second, third, fourth, outcome, Except.map]

theorem digits_of_hexUnit {n : Nat} (read : outcome (hexUnit s) = .ok (n, r)) :
    ∃ w x y z a b c d, s = w :: x :: y :: z :: r ∧ hexDigit? w = some a ∧ hexDigit? x = some b ∧ hexDigit? y = some c ∧
      hexDigit? z = some d ∧ n = ((a * 16 + b) * 16 + c) * 16 + d := by
  rw [hexUnit.eq_def] at read
  split at read
  · split at read
    · rename_i first second third fourth
      cases read
      exact ⟨_, _, _, _, _, _, _, _, rfl, first, second, third, fourth, rfl⟩
    · cases read
  · split at read <;> cases read

/-- A string that is spelled is passed over. -/
theorem Quoted.form (spelled : Quoted parts s r) (bound : s.length ≤ start.length) :
    outcome (stringForm s bound) = .ok ((), r) := by
  induction spelled with
  | close r =>
    rw [stringForm]
    rfl
  | @symbol x parts s r quote backslash visible _ ih =>
    cases x with
    | none =>
      rw [stringForm]
      exact ih _
    | some c =>
      rw [stringForm, if_neg (Nat.not_lt.mpr (visible c rfl))]
      · exact ih _
      · exact fun same => quote (congrArg some same)
      · exact fun same => backslash (congrArg some same)
  | @letter c meant parts s r short _ ih =>
    have other : c ≠ 'u' := by
      rintro rfl
      cases short
    rw [stringForm, escapeForm]
    · simp only [short]
      exact ih _
    · exact other
  | unit first second third fourth _ ih =>
    obtain ⟨shorter, read⟩ := of_outcome (outcome_hexUnit first second third fourth _)
    rw [stringForm, escapeForm, read]
    exact ih _

/-- What has been read if anything has. -/
abbrev result {α : Type} {s : Input} (scanned : Except Fault (Scanned α s)) : Option (α × Input) :=
  (outcome scanned).toOption

theorem stringSymbols_fault {done : Input} (bound : s.length ≤ start.length) {fault : Fault}
    (part : stringPart s = .error fault) : result (stringSymbols done s bound) = none := by
  rw [result, stringSymbols, part]
  rfl

/-- What is read of two units depends on both. -/
theorem outcome_unicodeEscape_pair {n low : Nat} {s t : Input}
    (unit : outcome (hexUnit s) = .ok (n, some '\\' :: some 'u' :: t))
    (next : outcome (hexUnit t) = .ok (low, r)) (notLow : isLowSurrogate n = false) (high : isHighSurrogate n = true) :
    outcome (unicodeEscape s) =
      if isLowSurrogate low then .ok (Char.ofNat (0x10000 + (n - 0xD800) * 0x400 + (low - 0xDC00)), r)
      else .error .loneSurrogate := by
  obtain ⟨shorter, unit⟩ := of_outcome unit
  obtain ⟨_, next⟩ := of_outcome next
  rw [unicodeEscape, unit]
  simp only [notLow, high, next, Bool.false_eq_true, if_false, if_true]
  split <;> simp only [outcome, Except.map]

theorem outcome_unicodeEscape_single {n : Nat} (unit : outcome (hexUnit s) = .ok (n, r)) (notLow : isLowSurrogate n = false)
    (notHigh : isHighSurrogate n = false) : outcome (unicodeEscape s) = .ok (Char.ofNat n, r) := by
  obtain ⟨shorter, unit⟩ := of_outcome unit
  rw [unicodeEscape, unit]
  simp only [notLow, notHigh, Bool.false_eq_true, if_false]
  rfl

/-- A lone surrogate is refused. -/
theorem unicodeEscape_lone {n : Nat} (unit : outcome (hexUnit s) = .ok (n, r))
    (lone : isLowSurrogate n = true ∨ isHighSurrogate n = true ∧ ∀ t, r ≠ some '\\' :: some 'u' :: t) :
    ∃ fault, unicodeEscape s = .error fault := by
  obtain ⟨shorter, unit⟩ := of_outcome unit
  rw [unicodeEscape, unit]
  by_cases low : isLowSurrogate n = true
  · exact ⟨.loneSurrogate, by simp only [low, if_true]⟩
  · obtain ⟨high, other⟩ := lone.resolve_left low
    simp only [low, high, Bool.false_eq_true, if_false, if_true]
    split
    · exact ⟨_, rfl⟩
    · exact ⟨_, rfl⟩
    · exact absurd rfl (other _)
    · exact ⟨_, rfl⟩

theorem outcome_stringPart_escape (t : Input) :
    outcome (stringPart (some '\\' :: some 'u' :: t)) =
      (outcome (unicodeEscape t)).map fun found => (some (some found.1), found.2) := by
  rw [stringPart, escape]
  cases unicodeEscape t <;> rfl

/-- Whether no second unit of a pair follows. -/
theorem Quoted.ne_unit (spelled : Quoted parts s r) (other : ∀ n later, parts ≠ .unit n :: later) (t : Input) :
    s ≠ some '\\' :: some 'u' :: t := by
  cases spelled with
  | close r =>
    rintro ⟨⟩
  | symbol quote backslash visible later =>
    rintro ⟨⟩
    exact backslash rfl
  | letter short later =>
    rintro ⟨⟩
    cases short
  | unit first second third fourth later => exact absurd rfl (other _ _)

/-- What stands where a unit begins a string. -/
theorem Quoted.unit_inv {n : Nat} (spelled : Quoted (.unit n :: parts) s r) :
    ∃ t rest, s = some '\\' :: some 'u' :: t ∧ outcome (hexUnit t) = .ok (n, rest) ∧ Quoted parts rest r := by
  cases spelled with
  | unit first second third fourth later => exact ⟨_, _, rfl, outcome_hexUnit first second third fourth _, later⟩

/-- A part that has been read stands in front of what the rest means. -/
theorem symbols_step {symbol : Option Char} {rest : Input} {later : Option Input}
    (part : outcome (stringPart s) = .ok (some symbol, rest))
    (goes : ∀ (done : Input) (bound : rest.length ≤ start.length),
      result (stringSymbols done rest bound) = later.map (done.reverse ++ ·, r))
    (done : Input) (bound : s.length ≤ start.length) :
    result (stringSymbols done s bound) = (later.map (symbol :: ·)).map (done.reverse ++ ·, r) := by
  obtain ⟨bound, step⟩ := stringSymbols_step done bound part
  rw [step, goes]
  simp [Function.comp_def]

/-- A string that is spelled is read as the symbols it means, if it means any. -/
theorem Quoted.symbols (spelled : Quoted parts s r) (done : Input) (bound : s.length ≤ start.length) :
    result (stringSymbols done s bound) = (StringPart.symbols parts).map (done.reverse ++ ·, r) := by
  induction parts using StringPart.symbols.induct generalizing s done with
  | case1 =>
    cases spelled with
    | close =>
      rw [result, stringSymbols_end bound rfl, StringPart.symbols]
      simp [Except.toOption]
  | case2 x parts ih =>
    rw [StringPart.symbols]
    cases spelled with
    | @symbol _ _ rest _ quote backslash visible later =>
      refine symbols_step ?_ (ih later) done bound
      cases x with
      | none => rfl
      | some c =>
        rw [stringPart, if_neg (Nat.not_lt.mpr (visible c rfl))]
        · rfl
        · exact fun same => quote (congrArg some same)
        · exact fun same => backslash (congrArg some same)
    | @letter c meant _ rest _ short later =>
      refine symbols_step ?_ (ih later) done bound
      have other : c ≠ 'u' := by
        rintro rfl
        cases short
      rw [stringPart, escape]
      · simp only [short]
        rfl
      · exact other
  | case3 n parts low =>
    obtain ⟨t, rest, rfl, unit, later⟩ := spelled.unit_inv
    obtain ⟨fault, refused⟩ := unicodeEscape_lone unit (.inl low)
    rw [stringSymbols_fault bound (of_outcome_error (by rw [outcome_stringPart_escape, refused]; rfl)),
      StringPart.symbols.eq_def]
    simp [low]
  | case4 n notLow high low parts isLow ih =>
    obtain ⟨t, _, rfl, unit, later⟩ := spelled.unit_inv
    obtain ⟨u, rest, rfl, next, later⟩ := later.unit_inv
    have pair := outcome_unicodeEscape_pair unit next (eq_false_of_ne_true notLow) high
    rw [if_pos isLow] at pair
    rw [symbols_step (by rw [outcome_stringPart_escape, pair]; rfl) (ih later) done bound,
      StringPart.symbols.eq_def (.unit n :: _)]
    simp [notLow, high, isLow]
  | case5 n notLow high low parts other =>
    obtain ⟨t, _, rfl, unit, later⟩ := spelled.unit_inv
    obtain ⟨u, rest, rfl, next, later⟩ := later.unit_inv
    have pair := outcome_unicodeEscape_pair unit next (eq_false_of_ne_true notLow) high
    rw [if_neg other] at pair
    rw [stringSymbols_fault bound (of_outcome_error (by rw [outcome_stringPart_escape, pair]; rfl)),
      StringPart.symbols.eq_def]
    simp [notLow, high, other]
  | case6 n parts notLow high alone =>
    obtain ⟨t, rest, rfl, unit, later⟩ := spelled.unit_inv
    obtain ⟨fault, refused⟩ := unicodeEscape_lone unit (.inr ⟨high, later.ne_unit alone⟩)
    rw [stringSymbols_fault bound (of_outcome_error (by rw [outcome_stringPart_escape, refused]; rfl)),
      StringPart.symbols.eq_def]
    simp [notLow, high]
  | case7 n parts notLow notHigh ih =>
    obtain ⟨t, rest, rfl, unit, later⟩ := spelled.unit_inv
    have single := outcome_unicodeEscape_single unit (eq_false_of_ne_true notLow) (eq_false_of_ne_true notHigh)
    rw [symbols_step (by rw [outcome_stringPart_escape, single]; rfl) (ih later) done bound,
      StringPart.symbols.eq_def (.unit n :: _)]
    simp [notLow, notHigh]

/-- A string that is spelled is read as the text it means, if it means one. -/
theorem Quoted.body (spelled : Quoted parts s r) : result (stringBody s) = (StringPart.text parts).map (·, r) := by
  have read := spelled.symbols [] (length_le_self s)
  rw [result] at read ⊢
  rw [stringBody, StringPart.text]
  cases means : StringPart.symbols parts with
  | none =>
    rw [means] at read
    cases found : stringSymbols [] s (length_le_self s) with
    | error fault => rfl
    | ok x =>
      rw [found] at read
      cases read
  | some symbols =>
    rw [means] at read
    cases found : stringSymbols [] s (length_le_self s) with
    | error fault =>
      rw [found] at read
      cases read
    | ok x =>
      rw [found] at read
      cases read
      dsimp only [Option.bind_eq_bind, Option.bind_some]
      cases x.value.mapM id <;> rfl

/-- A character that neither ends a string nor begins an escape stands in front of a string. -/
theorem Quoted.behind_character {c : Char} (later : Quoted parts s r) (quote : c ≠ '"') (backslash : c ≠ '\\')
    (visible : ¬c.toNat < 0x20) : ∃ parts, Quoted parts (some c :: s) r := by
  refine ⟨_, .symbol (mt Option.some.inj quote) (mt Option.some.inj backslash) ?_ later⟩
  rintro _ ⟨⟩
  exact Nat.not_lt.mp visible

theorem Quoted.behind_stray (later : Quoted parts s r) : ∃ parts, Quoted parts (none :: s) r :=
  ⟨_, .symbol nofun nofun nofun later⟩

/-- A unit that is read stands in front of a string. -/
theorem quoted_of_hexUnit {n : Nat} {t : Input} (unit : outcome (hexUnit s) = .ok (n, t)) (later : Quoted parts t r) :
    ∃ parts, Quoted parts (some '\\' :: some 'u' :: s) r := by
  obtain ⟨w, x, y, z, a, b, c, d, rfl, first, second, third, fourth, _⟩ := digits_of_hexUnit unit
  exact ⟨_, .unit first second third fourth later⟩

/-- An escape that is passed over stands in front of a string. -/
theorem quoted_of_escapeForm {rest : Input} (form : outcome (escapeForm s) = .ok ((), rest)) (later : Quoted parts rest r) :
    ∃ parts, Quoted parts (some '\\' :: s) r := by
  rw [escapeForm.eq_def] at form
  split at form
  · cases form
  · cases form
  · rename_i t
    obtain ⟨shorter, read⟩ := of_outcome form
    obtain ⟨⟨n, u, _⟩, unit, ⟨⟩⟩ := ok_of_map read
    exact quoted_of_hexUnit (congrArg outcome unit) later
  · split at form
    · rename_i short
      obtain ⟨meant, short⟩ := Option.isSome_iff_exists.mp short
      cases form
      exact ⟨_, .letter short later⟩
    · cases form

/-- What is passed over as a string is one. -/
theorem quoted_of_stringForm (bound : s.length ≤ start.length) (read : outcome (stringForm s bound) = .ok ((), r)) :
    ∃ parts, Quoted parts s r := by
  fun_induction stringForm s bound with
  | case1 => cases read
  | case2 =>
    cases read
    exact ⟨[], .close _⟩
  | case3 => cases read
  | case4 s bound _ rest shorter form _ ih =>
    obtain ⟨parts, later⟩ := ih read
    exact quoted_of_escapeForm (congrArg outcome form) later
  | case5 => cases read
  | case6 c s _ quote backslash visible _ ih =>
    obtain ⟨parts, later⟩ := ih read
    exact later.behind_character quote backslash visible
  | case7 s _ _ ih =>
    obtain ⟨parts, later⟩ := ih read
    exact later.behind_stray

theorem quoted_of_unicodeEscape {c : Char} {rest : Input} (read : outcome (unicodeEscape s) = .ok (c, rest))
    (later : Quoted parts rest r) : ∃ parts, Quoted parts (some '\\' :: some 'u' :: s) r := by
  obtain ⟨shorter, ran⟩ := of_outcome read
  rw [unicodeEscape] at ran
  split at ran
  · cases ran
  · rename_i unit found
    have first : outcome (hexUnit s) = .ok (unit.value, unit.rest) := congrArg outcome found
    split at ran
    · cases ran
    · split at ran
      · split at ran
        · cases ran
        · cases ran
        · rename_i t behind
          split at ran
          · cases ran
          · rename_i low next
            split at ran
            · simp only [Except.ok.injEq, Scanned.mk.injEq] at ran
              obtain ⟨_, rfl⟩ := ran
              obtain ⟨_, later⟩ := quoted_of_hexUnit (congrArg outcome next) later
              exact quoted_of_hexUnit first (behind ▸ later)
            · cases ran
        · cases ran
      · cases ran
        exact quoted_of_hexUnit first later

/-- What is read in front of a string belongs to it. -/
theorem quoted_of_stringPart {symbol : Option Char} {rest : Input} (part : outcome (stringPart s) = .ok (some symbol, rest))
    (later : Quoted parts rest r) : ∃ parts, Quoted parts s r := by
  rw [stringPart.eq_def] at part
  split at part
  · cases part
  · cases part
  · rename_i s
    obtain ⟨shorter, ran⟩ := of_outcome part
    obtain ⟨⟨c, t, _⟩, escaped, ⟨⟩⟩ := ok_of_map ran
    rw [escape.eq_def] at escaped
    split at escaped
    · cases escaped
    · cases escaped
    · obtain ⟨⟨_, _, _⟩, read, ⟨⟩⟩ := ok_of_map escaped
      exact quoted_of_unicodeEscape (congrArg outcome read) later
    · split at escaped
      · rename_i short
        cases escaped
        exact ⟨_, .letter short later⟩
      · cases escaped
  · rename_i c s quote backslash
    split at part
    · cases part
    · rename_i visible
      cases part
      exact later.behind_character quote backslash visible
  · cases part
    exact later.behind_stray

theorem eq_quote_of_stringPart {rest : Input} (part : outcome (stringPart s) = .ok (none, rest)) : s = some '"' :: rest := by
  rw [stringPart.eq_def] at part
  split at part
  · cases part
  · cases part
    rfl
  · obtain ⟨shorter, ran⟩ := of_outcome part
    obtain ⟨x, _, ⟨⟩⟩ := ok_of_map ran
  · split at part <;> cases part
  · cases part

theorem quoted_of_stringSymbols {done symbols : Input} {bound : s.length ≤ start.length}
    (read : outcome (stringSymbols done s bound) = .ok (symbols, r)) : ∃ parts, Quoted parts s r := by
  fun_induction stringSymbols done s bound with
  | case1 => cases read
  | case2 done s bound rest shorter part =>
    cases read
    change ∃ parts, Quoted parts s rest
    rw [eq_quote_of_stringPart (congrArg outcome part)]
    exact ⟨[], .close rest⟩
  | case3 done s bound symbol rest shorter part ih =>
    obtain ⟨parts, later⟩ := ih read
    exact quoted_of_stringPart (congrArg outcome part) later

/-- What is read as a string is one, and means what is read. -/
theorem quoted_of_stringBody {text : String} (read : outcome (stringBody s) = .ok (text, r)) :
    ∃ parts, Quoted parts s r ∧ StringPart.text parts = some text := by
  obtain ⟨shorter, ran⟩ := of_outcome read
  have spelled : ∃ parts rest, Quoted parts s rest := by
    rw [stringBody] at ran
    split at ran
    · cases ran
    · rename_i symbols found
      obtain ⟨parts, spelled⟩ := quoted_of_stringSymbols (congrArg outcome found)
      exact ⟨parts, _, spelled⟩
  obtain ⟨parts, rest, spelled⟩ := spelled
  have body := spelled.body
  rw [result, read] at body
  obtain ⟨text, means, ⟨⟩⟩ := Option.map_eq_some_iff.mp body.symm
  exact ⟨parts, spelled, means⟩

end Strings

section Literals

variable {meaning : Option Scalar} {s r : Input}

theorem eq_append_of_word {letters : List Char} (read : word letters s = .ok r) : s = letters.map some ++ r := by
  induction letters generalizing s with
  | nil =>
    cases read
    rfl
  | cons c letters ih =>
    cases s with
    | nil => cases read
    | cons symbol s =>
      rw [word] at read
      split at read
      · rename_i same
        rw [same, ih read, List.map_cons, List.cons_append]
      · cases read

theorem eq_of_wordScalar {x y : Scalar} {letters : List Char} {first : Option Char}
    (read : outcome (wordScalar x letters first s) = .ok (y, r)) : y = x ∧ s = letters.map some ++ r := by
  rw [wordScalar] at read
  split at read
  · cases read
  · rename_i found
    cases read
    exact ⟨rfl, eq_append_of_word found⟩

/-- Whether a character may begin a number. -/
def BeginsNumber (c : Char) : Prop := c = '-' ∨ c.isDigit = true

theorem BeginsNumber.ne {c : Char} (begins : BeginsNumber c) (other : Char) (minus : other ≠ '-')
    (digit : other.isDigit = false) : c ≠ other := by
  rcases begins with rfl | begins
  · exact minus.symm
  · exact ne_of_isDigit begins digit

theorem isDigit_of_digit? {c : Char} (digit : (digit? (some c)).isSome = true) : c.isDigit = true := by
  rw [digit?] at digit
  split at digit
  · rename_i range
    simpa [Char.isDigit, Char.le_def] using range
  · cases digit

theorem Numeral.begins {numeral : NumberText} (spelled : Numeral numeral s r) :
    ∃ c t, s = some c :: t ∧ BeginsNumber c ∧ (some c = some '-' ∨ (digit? (some c)).isSome = true) := by
  obtain ⟨symbol, t, rfl, start⟩ := spelled.head
  cases symbol with
  | none => simp [digit?] at start
  | some c =>
    refine ⟨c, t, rfl, ?_, start⟩
    exact start.imp Option.some.inj isDigit_of_digit?

/-- What a scalar begins with. -/
theorem Literal.head (spelled : Literal meaning s r) :
    ∃ c t, s = some c :: t ∧ isBlank c = false ∧ c ≠ '[' ∧ c ≠ ']' ∧ c ≠ '\x7b' ∧ c ≠ '\x7d' := by
  cases spelled with
  | null | yes | no => exact ⟨_, _, rfl, rfl, by decide⟩
  | string quoted => exact ⟨_, _, rfl, rfl, by decide⟩
  | number numeral =>
    obtain ⟨c, t, rfl, begins, _⟩ := numeral.begins
    have ne := begins.ne
    refine ⟨c, t, rfl, ?_, ne _ (by decide) rfl, ne _ (by decide) rfl, ne _ (by decide) rfl, ne _ (by decide) rfl⟩
    simp [isBlank, ne ' ' (by decide) rfl, ne '\n' (by decide) rfl, ne '\t' (by decide) rfl, ne '\r' (by decide) rfl]

/-- A scalar that is spelled is passed over. -/
theorem Literal.form (spelled : Literal meaning s r) (delimited : Delimited r) : outcome (scalarForm s) = .ok ((), r) := by
  cases spelled with
  | null | yes | no => rfl
  | string quoted =>
    rw [scalarForm, outcome_widen]
    exact quoted.form _
  | number numeral =>
    obtain ⟨shorter, read⟩ := of_outcome (numeral.read delimited)
    obtain ⟨c, t, rfl, begins, start⟩ := numeral.begins
    -- A character that may begin a number begins no word and no string.
    have ne (other : Char) (minus : other ≠ '-') (digit : other.isDigit = false) : some c ≠ some other :=
      mt Option.some.inj (begins.ne other minus digit)
    rw [scalarForm, if_pos start, read]
    · rfl
    all_goals exact fun same => ne _ (by decide) rfl same

/-- A scalar that is spelled is read as what it means. -/
theorem Literal.read (spelled : Literal meaning s r) (delimited : Delimited r) : result (scalar s) = meaning.map (·, r) := by
  cases spelled with
  | null | yes | no => rfl
  | @string parts t _ quoted =>
    have body := quoted.body
    rw [scalar]
    cases read : stringBody t <;> rw [read] at body <;> cases means : StringPart.text parts <;> rw [means] at body <;>
      cases body <;> rfl
  | @number numeral _ _ spelled =>
    obtain ⟨shorter, read⟩ := of_outcome (spelled.read delimited)
    obtain ⟨c, t, rfl, begins, start⟩ := spelled.begins
    have ne (other : Char) (minus : other ≠ '-') (digit : other.isDigit = false) : some c ≠ some other :=
      mt Option.some.inj (begins.ne other minus digit)
    rw [result, scalar, if_pos start, Json.number, read]
    · dsimp only
      cases numeral.value <;> rfl
    all_goals exact fun same => ne _ (by decide) rfl same

/-- What is passed over as a scalar is one. -/
theorem literal_of_scalarForm (read : outcome (scalarForm s) = .ok ((), r)) : ∃ meaning, Literal meaning s r := by
  have behind : ∀ {x : Scalar} {letters first t},
      outcome ((wordScalar x letters first t).map (·.map fun _ => ())) = .ok ((), r) →
      t = letters.map some ++ r := by
    intro x letters first t read
    rw [outcome_map] at read
    obtain ⟨⟨y, rest⟩, word, ⟨⟩⟩ := ok_of_map read
    exact (eq_of_wordScalar word).2
  rw [scalarForm.eq_def] at read
  split at read
  · cases read
  · rw [behind read]
    exact ⟨_, .null r⟩
  · rw [behind read]
    exact ⟨_, .yes r⟩
  · rw [behind read]
    exact ⟨_, .no r⟩
  · rw [outcome_widen] at read
    obtain ⟨parts, quoted⟩ := quoted_of_stringForm _ read
    exact ⟨_, .string quoted⟩
  · split at read
    · split at read
      · cases read
      · rename_i x found
        cases read
        exact ⟨_, .number (numeral_of_numberText (congrArg outcome found))⟩
    · cases read

/-- What is read as a scalar is one, and means what is read. -/
theorem literal_of_scalar {x : Scalar} (read : outcome (scalar s) = .ok (x, r)) : Literal (some x) s r := by
  rw [scalar.eq_def] at read
  split at read
  · cases read
  · obtain ⟨rfl, rfl⟩ := eq_of_wordScalar read
    exact .null r
  · obtain ⟨rfl, rfl⟩ := eq_of_wordScalar read
    exact .yes r
  · obtain ⟨rfl, rfl⟩ := eq_of_wordScalar read
    exact .no r
  · obtain ⟨shorter, ran⟩ := of_outcome read
    obtain ⟨⟨text, _, _⟩, body, ⟨⟩⟩ := ok_of_map ran
    obtain ⟨parts, quoted, means⟩ := quoted_of_stringBody (congrArg outcome body)
    have spelled := Literal.string quoted
    rwa [means] at spelled
  · split at read
    · obtain ⟨shorter, ran⟩ := of_outcome read
      rw [number] at ran
      split at ran
      · cases ran
      · rename_i y found
        obtain ⟨n, value, ⟨⟩⟩ := ok_of_map ran
        have spelled := Literal.number (numeral_of_numberText (congrArg outcome found))
        rwa [value] at spelled
    · cases read

end Literals

end ScriptureMarkup.Json
