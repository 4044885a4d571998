import ScriptureMarkup.Json.Input

namespace ScriptureMarkup.Json

def digit? : Option Char → Option Nat
  | some c => if '0' ≤ c ∧ c ≤ '9' then some (c.toNat - '0'.toNat) else none
  | none => none

/-- The digits that an input begins with, and what follows them. -/
def digits : Input → List Nat × Input
  | [] => ([], [])
  | symbol :: s =>
    match digit? symbol with
    | some d => (d :: (digits s).1, (digits s).2)
    | none => ([], symbol :: s)

theorem length_digits_le (s : Input) : (digits s).2.length ≤ s.length := by
  induction s with
  | nil => simp [digits]
  | cons symbol s ih =>
    rw [digits]
    split
    · exact Nat.le_succ_of_le ih
    · exact Nat.le_refl _

/-- A number as it is written: the digits before the point, those after it, and the sign
and digits of the power of ten. No digits after the point stand for no point. -/
structure NumberText where
  negative : Bool
  whole : List Nat
  fraction : List Nat
  power : Option (Bool × List Nat)

/-- At least one digit. Without one the input has either ended or goes on with something
that a number may not hold. -/
def someDigits (s : Input) : Except Fault (Scanned (List Nat) s) :=
  match s with
  | [] => .error (.endOfInput .value)
  | symbol :: s =>
    match digit? symbol with
    | some d => .ok ⟨d :: (digits s).1, (digits s).2, Nat.lt_succ_of_le (length_digits_le s)⟩
    | none => .error .invalidNumber

/-- The digits before the point; a zero can only stand alone. -/
def wholeDigits (s : Input) : Except Fault (Scanned (List Nat) s) :=
  match someDigits s with
  | .error fault => .error fault
  | .ok x =>
    match x.value with
    | 0 :: _ :: _ => .error .invalidNumber
    | _ => .ok x

theorem length_behind_sign {s : Input} (x : Scanned (List Nat) s) : x.rest.length ≤ s.length + 1 + 1 := by
  have := x.shorter
  omega

theorem length_without_sign {s : Input} (x : Scanned (List Nat) s) : x.rest.length ≤ s.length + 1 := by
  have := x.shorter
  omega

/-- The power of ten at the end of a number, if it has one. -/
def powerPart (s : Input) :
    Except Fault { x : Option (Bool × List Nat) × Input // x.2.length ≤ s.length } :=
  match s with
  | some c :: r =>
    if c = 'e' ∨ c = 'E' then
      match r with
      | some '-' :: t =>
        (someDigits t).map fun x => ⟨(some (true, x.value), x.rest), length_behind_sign x⟩
      | some '+' :: t =>
        (someDigits t).map fun x => ⟨(some (false, x.value), x.rest), length_behind_sign x⟩
      | t =>
        (someDigits t).map fun x => ⟨(some (false, x.value), x.rest), length_without_sign x⟩
    else .ok ⟨(none, some c :: r), Nat.le_refl _⟩
  | r => .ok ⟨(none, r), Nat.le_refl _⟩

/-- The point with the digits after it, if there is one, and then the power of ten. -/
def fractionPart (s : Input) :
    Except Fault { x : List Nat × Option (Bool × List Nat) × Input // x.2.2.length ≤ s.length } :=
  match s with
  | some '.' :: r =>
    match someDigits r with
    | .error fault => .error fault
    | .ok x =>
      (powerPart x.rest).map fun p => ⟨(x.value, p.1.1, p.1.2), by
        have := x.shorter
        have := p.2
        simp only [List.length_cons]
        omega⟩
  | r => (powerPart r).map fun p => ⟨([], p.1.1, p.1.2), p.2⟩

/-- Reads a number without its sign. -/
def unsignedNumber (negative : Bool) : Reader NumberText := fun s =>
  match wholeDigits s with
  | .error fault => .error fault
  | .ok x =>
    (fractionPart x.rest).map fun p =>
      ⟨⟨negative, x.value, p.1.1, p.1.2.1⟩, p.1.2.2, Nat.lt_of_le_of_lt p.2 x.shorter⟩

/-- Reads a number as it is written. -/
def numberText : Reader NumberText
  | some '-' :: s => (unsignedNumber true s).map (·.widen (length_le_succ s))
  | s => unsignedNumber false s

/-- A number on its way to its value: `significand * 10 ^ exponent`, with a significand of
64 bits. -/
structure Scaled where
  significand : Nat
  exponent : Int

/-- Adds digits before the point. From the first one that does not fit, they count as
zeros. -/
def Scaled.addWhole : List Nat → Scaled → Scaled
  | [], x => x
  | d :: ds, x =>
    let longer := x.significand * 10 + d
    if longer < UInt64.size then addWhole ds ⟨longer, x.exponent⟩
    else ⟨x.significand, x.exponent + (ds.length + 1)⟩

/-- Adds digits after the point, up to the first one that does not fit. -/
def Scaled.addFraction : List Nat → Scaled → Scaled
  | [], x => x
  | d :: ds, x =>
    let longer := x.significand * 10 + d
    if longer < UInt64.size then addFraction ds ⟨longer, x.exponent - 1⟩ else x

/-- The power of ten that digits spell, if it fits 32 bits with a sign. -/
def powerOfDigits? : List Nat → Nat → Option Nat
  | [], power => some power
  | d :: ds, power => if power * 10 + d < UInt32.size / 2 then powerOfDigits? ds (power * 10 + d) else none

def powerOfTen (n : Nat) : Float := Float.ofScientific 1 false n

/-- Divides by a power of ten in steps of at most `10 ^ 308`, the greatest there is. -/
def scaleDown (x : Float) (n : Nat) : Float :=
  if n ≤ 308 then x / powerOfTen n
  else if x == 0 then x
  else scaleDown (x / powerOfTen 308) (n - 308)
  termination_by n

/-- The double for a scaled number: the significand is rounded, then multiplied or divided.
This is not always the nearest double. -/
def Scaled.toFloat (x : Scaled) : Except Fault Float :=
  let significand := x.significand.toUInt64.toFloat
  match x.exponent with
  | .ofNat n =>
    if n ≤ 308 then
      let product := significand * powerOfTen n
      if product.isInf then .error .numberOutOfRange else .ok product
    else if significand == 0 then .ok significand
    else .error .numberOutOfRange
  | .negSucc n => .ok (scaleDown significand (n + 1))

/-- The value of a number without a sign that is not an integer of 64 bits. -/
def NumberText.magnitude (text : NumberText) : Except Fault Float :=
  let scaled := (Scaled.addWhole text.whole ⟨0, 0⟩).addFraction text.fraction
  match text.power with
  | none => scaled.toFloat
  | some (negative, digits) =>
    match powerOfDigits? digits 0 with
    | some power =>
      let exponent := scaled.exponent + (if negative then -(power : Int) else power)
      Scaled.toFloat ⟨scaled.significand, exponent⟩
    | none => if scaled.significand ≠ 0 ∧ !negative then .error .numberOutOfRange else .ok 0

/-- The integer a number stands for, if it is written as one and fits: 64 bits without a
sign, or 64 bits with one below zero. Minus zero is no integer. -/
def NumberText.integer? (text : NumberText) : Option Int :=
  let n : Nat := text.whole.foldl (fun n d => n * 10 + d) 0
  if !text.fraction.isEmpty || text.power.isSome then none
  else if text.negative then if 0 < n ∧ n ≤ UInt64.size / 2 then some (-(n : Int)) else none
  else if n < UInt64.size then some n
  else none

def NumberText.value (text : NumberText) : Except Fault Number :=
  match text.integer? with
  | some n => .ok (.integer n)
  | none => text.magnitude.map fun x => .real (if text.negative then -x else x)

end ScriptureMarkup.Json
