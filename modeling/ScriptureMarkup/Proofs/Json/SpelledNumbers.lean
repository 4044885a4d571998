import ScriptureMarkup.Proofs.Json.Literals
import ScriptureMarkup.Proofs.Json.Spelling

/-!
Numbers as they are read: what is read is a number of the grammar, and a number of the grammar is read
whole where a value may end.
-/

namespace ScriptureMarkup.Json

theorem ok_of_map {α β : Type} {x : Except Fault α} {f : α → β} {b : β} (found : x.map f = .ok b) :
    ∃ a, x = .ok a ∧ f a = b := by
  cases x with
  | error fault => cases found
  | ok a =>
    cases found
    exact ⟨a, rfl, rfl⟩

/-- What may stand behind a value: a blank, what goes on with a list or an object, or nothing. -/
def Delimited (rest : Input) : Prop :=
  ∀ symbol ∈ rest.head?, ∃ c, symbol = some c ∧ (isBlank c = true ∨ c = ',' ∨ c = ']' ∨ c = '\x7d')

theorem Delimited.nil : Delimited [] := by simp [Delimited]

theorem Delimited.ne {c : Char} {rest : Input} (delimited : Delimited (some c :: rest)) :
    c ≠ '.' ∧ c ≠ 'e' ∧ c ≠ 'E' ∧ digit? (some c) = none := by
  obtain ⟨_, ⟨rfl⟩, ends⟩ := delimited (some c) rfl
  simp only [isBlank, Bool.or_eq_true, decide_eq_true_eq] at ends
  rcases ends with ((((rfl | rfl) | rfl) | rfl) | rfl | rfl | rfl) <;> decide

/-- Whether no digit follows. -/
def DigitsEnd (s : Input) : Prop := ∀ symbol ∈ s.head?, digit? symbol = none

theorem Delimited.digitsEnd {rest : Input} (delimited : Delimited rest) : DigitsEnd rest := by
  intro symbol head
  obtain ⟨c, rfl, _⟩ := delimited symbol head
  cases rest with
  | nil => cases head
  | cons first rest =>
    cases head
    exact delimited.ne.2.2.2

section Digits

variable {ds : List Nat} {s r : Input}

theorem digits_of_digitsEnd (ends : DigitsEnd r) : digits r = ([], r) := by
  cases r with
  | nil => rfl
  | cons symbol r => simp only [digits, ends symbol rfl]

theorem Digits.read (spelled : Digits ds s r) (ends : DigitsEnd r) : digits s = (ds, r) := by
  induction spelled with
  | one digit => simp only [digits, digit, digits_of_digitsEnd ends]
  | more digit _ ih => simp only [digits, digit, ih ends]

theorem digits_spelled (s : Input) : digits s = ([], s) ∨ Digits (digits s).1 s (digits s).2 := by
  induction s with
  | nil => exact .inl rfl
  | cons symbol s ih =>
    cases digit : digit? symbol with
    | none => exact .inl (by simp only [digits, digit])
    | some d =>
      have here : digits (symbol :: s) = (d :: (digits s).1, (digits s).2) := by simp only [digits, digit]
      rw [here]
      rcases ih with stops | goes
      · rw [stops]
        exact .inr (.one digit)
      · exact .inr (.more digit goes)

theorem Digits.head (spelled : Digits ds s r) : ∃ symbol d rest, s = symbol :: rest ∧ digit? symbol = some d := by
  cases spelled with
  | one digit => exact ⟨_, _, _, rfl, digit⟩
  | more digit _ => exact ⟨_, _, _, rfl, digit⟩

theorem outcome_someDigits_eq (s : Input) :
    outcome (someDigits s) =
      match digits s with
      | (d :: ds, r) => .ok (d :: ds, r)
      | ([], []) => .error (.endOfInput .value)
      | ([], _ :: _) => .error .invalidNumber := by
  cases s with
  | nil => rfl
  | cons symbol s =>
    rw [someDigits, digits]
    cases digit? symbol <;> rfl

theorem Digits.outcome_someDigits (spelled : Digits ds s r) (ends : DigitsEnd r) :
    outcome (someDigits s) = .ok (ds, r) := by
  rw [outcome_someDigits_eq, spelled.read ends]
  cases spelled <;> rfl

theorem digits_of_someDigits (read : outcome (someDigits s) = .ok (ds, r)) : Digits ds s r := by
  have spelled := digits_spelled s
  rw [outcome_someDigits_eq] at read
  split at read <;> rename_i found <;> cases read
  rw [found] at spelled
  exact spelled.resolve_left (by simp)

/-- Whether these may be the digits before the point: a zero stands alone. -/
def Whole (ds : List Nat) : Prop := ∀ d rest, ds ≠ 0 :: d :: rest

theorem outcome_wholeDigits_iff :
    outcome (wholeDigits s) = .ok (ds, r) ↔ outcome (someDigits s) = .ok (ds, r) ∧ Whole ds := by
  rw [wholeDigits]
  cases someDigits s with
  | error fault => simp [outcome, Except.map]
  | ok x =>
    obtain ⟨value, rest, shorter⟩ := x
    dsimp only [outcome, Except.map]
    have judged : ∀ whole : Whole value, (value, rest) = (ds, r) ↔ (value, rest) = (ds, r) ∧ Whole ds :=
      fun whole => ⟨fun same => ⟨same, (Prod.mk.inj same).1 ▸ whole⟩, And.left⟩
    rcases value with _ | ⟨_ | n, _ | ⟨d, more⟩⟩
    case cons.zero.cons =>
      refine iff_of_false (by simp) ?_
      rintro ⟨same, whole⟩
      cases same
      exact whole d more rfl
    all_goals
      simp only [Except.ok.injEq]
      exact judged (by rintro d rest ⟨⟩)

end Digits

section Parts

variable {power : Option (Bool × List Nat)} {fraction : List Nat} {s u r : Input}

/-- What has been read of a number, without the account of its length. -/
abbrev part {α : Type} {p : α → Prop} (read : Except Fault { x : α // p x }) : Except Fault α := read.map (·.1)

theorem Power.head (spelled : Power power s r) (delimited : Delimited r) :
    ∀ symbol ∈ s.head?, digit? symbol = none ∧ symbol ≠ some '.' := by
  have letter : ∀ e, e = 'e' ∨ e = 'E' → digit? (some e) = none ∧ some e ≠ some '.' := by
    rintro e (rfl | rfl) <;> decide
  intro symbol here
  cases spelled with
  | absent =>
    refine ⟨delimited.digitsEnd symbol here, ?_⟩
    rintro rfl
    cases s with
    | nil => cases here
    | cons first s =>
      cases here
      exact delimited.ne.1 rfl
  | plain e _ | plus e _ | minus e _ =>
    cases here
    exact letter _ e

theorem Power.read (spelled : Power power s r) (delimited : Delimited r) : part (powerPart s) = .ok (power, r) := by
  cases spelled with
  | absent =>
    cases s with
    | nil => rfl
    | cons symbol s =>
      obtain ⟨c, rfl, _⟩ := delimited symbol rfl
      have other := delimited.ne
      rw [powerPart.eq_def]
      simp only [if_neg (not_or.mpr ⟨other.2.1, other.2.2.1⟩)]
      rfl
  | plain letter digits =>
    obtain ⟨shorter, read⟩ := of_outcome (digits.outcome_someDigits delimited.digitsEnd)
    obtain ⟨symbol, d, rest, rfl, digit⟩ := digits.head
    rw [powerPart, if_pos letter, read]
    · rfl
    · rintro _ ⟨⟩
      cases digit
    · rintro _ ⟨⟩
      cases digit
  | plus letter digits | minus letter digits =>
    obtain ⟨shorter, read⟩ := of_outcome (digits.outcome_someDigits delimited.digitsEnd)
    rw [powerPart, if_pos letter, read]
    rfl

theorem power_of_powerPart {p : { x : Option (Bool × List Nat) × Input // x.2.length ≤ s.length }}
    (read : powerPart s = .ok p) : Power p.1.1 s p.1.2 := by
  rw [powerPart.eq_def] at read
  split at read
  · split at read
    · rename_i letter
      split at read <;> obtain ⟨x, found, rfl⟩ := ok_of_map read
      · exact .minus letter (digits_of_someDigits (congrArg outcome found))
      · exact .plus letter (digits_of_someDigits (congrArg outcome found))
      · exact .plain letter (digits_of_someDigits (congrArg outcome found))
    · cases read
      exact .absent _
  · cases read
    exact .absent _

theorem Fraction.read {v : Input} (spelled : Fraction fraction s v) (behind : Power power v r) (delimited : Delimited r) :
    part (fractionPart s) = .ok (fraction, power, r) := by
  have read := behind.read delimited
  cases spelled with
  | absent =>
    rw [part] at read ⊢
    obtain ⟨p, found, same⟩ := ok_of_map read
    rw [fractionPart, found]
    · simp only [Except.map, same]
    · rintro rest rfl
      exact (behind.head delimited _ rfl).2 rfl
  | point digits =>
    have ends : DigitsEnd v := fun symbol here => (behind.head delimited symbol here).1
    obtain ⟨shorter, whole⟩ := of_outcome (digits.outcome_someDigits ends)
    obtain ⟨p, found, same⟩ := ok_of_map read
    rw [fractionPart, whole]
    simp only [found, Except.map, same]

theorem fraction_of_fractionPart {p : { x : List Nat × Option (Bool × List Nat) × Input // x.2.2.length ≤ s.length }}
    (read : fractionPart s = .ok p) : ∃ v, Fraction p.1.1 s v ∧ Power p.1.2.1 v p.1.2.2 := by
  rw [fractionPart.eq_def] at read
  split at read
  · split at read
    · cases read
    · rename_i x found
      obtain ⟨p, more, rfl⟩ := ok_of_map read
      exact ⟨x.rest, .point (digits_of_someDigits (congrArg outcome found)), power_of_powerPart more⟩
  · obtain ⟨p, more, rfl⟩ := ok_of_map read
    exact ⟨s, .absent s, power_of_powerPart more⟩

theorem Fraction.head {v : Input} (spelled : Fraction fraction s v) (behind : Power power v r) (delimited : Delimited r) :
    DigitsEnd s := by
  cases spelled with
  | absent => exact fun symbol here => (behind.head delimited symbol here).1
  | point digits =>
    rintro symbol ⟨⟩
    rfl

end Parts

section Numerals

variable {numeral : NumberText} {s r : Input}

/-- A number is read whole. -/
theorem Numeral.read (spelled : Numeral numeral s r) (delimited : Delimited r) :
    outcome (numberText s) = .ok (numeral, r) := by
  cases spelled with
  | @mk negative whole fraction power _ t u v _ sign digits leads point behind =>
    have unsigned : outcome (unsignedNumber negative t) = .ok (⟨negative, whole, fraction, power⟩, r) := by
      have read := outcome_wholeDigits_iff.mpr
        ⟨digits.outcome_someDigits (point.head behind delimited), leads⟩
      obtain ⟨shorter, read⟩ := of_outcome read
      obtain ⟨p, found, same⟩ := ok_of_map (point.read behind delimited)
      rw [unsignedNumber, read]
      simp only [found, outcome, Except.map, same]
    cases sign with
    | minus =>
      rw [numberText, outcome_widen]
      exact unsigned
    | absent =>
      rw [numberText]
      · exact unsigned
      · rintro rest rfl
        obtain ⟨symbol, d, rest, ⟨⟩, digit⟩ := digits.head
        cases digit

theorem numeral_of_unsignedNumber {negative : Bool} (read : outcome (unsignedNumber negative s) = .ok (numeral, r))
    {start : Input} (sign : Sign negative start s) : Numeral numeral start r := by
  obtain ⟨shorter, ran⟩ := of_outcome read
  rw [unsignedNumber] at ran
  split at ran
  · cases ran
  · rename_i x found
    obtain ⟨p, more, same⟩ := ok_of_map ran
    obtain ⟨digits, leads⟩ := outcome_wholeDigits_iff.mp (congrArg outcome found)
    obtain ⟨v, point, behind⟩ := fraction_of_fractionPart more
    cases same
    exact .mk sign (digits_of_someDigits digits) leads point behind

/-- What is read as a number is one. -/
theorem numeral_of_numberText (read : outcome (numberText s) = .ok (numeral, r)) : Numeral numeral s r := by
  rw [numberText.eq_def] at read
  split at read
  · rw [outcome_widen] at read
    exact numeral_of_unsignedNumber read (.minus _)
  · exact numeral_of_unsignedNumber read (.absent s)

/-- A number begins with a digit or with a minus. -/
theorem Numeral.head (spelled : Numeral numeral s r) :
    ∃ symbol rest, s = symbol :: rest ∧ (symbol = some '-' ∨ (digit? symbol).isSome) := by
  cases spelled with
  | mk sign digits leads point behind =>
    cases sign with
    | minus => exact ⟨_, _, rfl, .inl rfl⟩
    | absent =>
      obtain ⟨symbol, d, rest, rfl, digit⟩ := digits.head
      exact ⟨symbol, rest, rfl, .inr (by rw [digit]; rfl)⟩

end Numerals

end ScriptureMarkup.Json
