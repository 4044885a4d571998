namespace ScriptureMarkup.Decimal

/-- A binary fraction and the reals that round to it. The value is `4 * mantissa` quarters
of `2 ^ exponent`; below it the gap to the next fraction is halved at a power of two. -/
structure Rounded where
  mantissa : Nat
  exponent : Int
  lowerQuarters : Nat
  upperQuarters : Nat

/-- The magnitude of a double, read off its bits: eleven of exponent, fifty-two of fraction. -/
def Rounded.ofBits (bits : Nat) : Rounded :=
  let fractions := Nat.pow 2 52
  let biased : Nat := bits / fractions % 2048
  let fraction := bits % fractions
  let mantissa := if biased = 0 then fraction else fractions + fraction
  let narrow := fraction = 0 ∧ 1 < biased
  ⟨mantissa, ((max biased 1 : Nat) : Int) - 1075, 4 * mantissa - (if narrow then 1 else 2), 4 * mantissa + 2⟩

/-- The multiple of `10 ^ place` that rounds to the given fraction, if there is one. Only
the two neighbours of the value can do so; of two the nearer is taken, of two equally near
the even one. The ends of the interval round to it when its mantissa is even. -/
def Rounded.multipleAt (x : Rounded) (place : Int) : Option Nat :=
  let quarter := x.exponent - 2
  let scale := Nat.pow 2 quarter.toNat * Nat.pow 10 (-place).toNat
  let step := Nat.pow 2 (-quarter).toNat * Nat.pow 10 place.toNat
  let value := 4 * x.mantissa * scale
  let below := value / step
  let hits (n : Nat) : Bool :=
    if x.mantissa % 2 = 0 then x.lowerQuarters * scale ≤ n * step && n * step ≤ x.upperQuarters * scale
    else x.lowerQuarters * scale < n * step && n * step < x.upperQuarters * scale
  match hits below, hits (below + 1) with
  | true, false => some below
  | false, true => some (below + 1)
  | false, false => none
  | true, true =>
    let twice := 2 * value
    let middle := (2 * below + 1) * step
    if twice < middle ∨ (twice = middle ∧ below % 2 = 0) then some below else some (below + 1)

/-- The fewest decimal digits that read back: the coarsest place at which a multiple rounds
to the fraction, with that multiple. Finite doubles need places from 309 down to -324; zero
is a multiple at every place and has no coarsest one. -/
def Rounded.shortest (x : Rounded) : Option (Nat × Int) :=
  if x.mantissa = 0 then none
  else (List.range 634).findSome? fun (k : Nat) =>
    let place : Int := 309 - (k : Int)
    (x.multipleAt place).map fun multiple => (multiple, place)

/-- Digits with a point after the first `whole` of them, at least one digit on each side. -/
def withPoint (digits : List Char) (whole : Int) : List Char :=
  if whole ≤ 0 then ['0', '.'] ++ List.replicate (-whole).toNat '0' ++ digits
  else
    let before := digits.take whole.toNat ++ List.replicate (whole.toNat - digits.length) '0'
    let after := digits.drop whole.toNat
    before ++ '.' :: (if after.isEmpty then ['0'] else after)

/-- Digits with a point after the first, dropped when nothing follows it, and the power of
ten with its sign. -/
def withPower (digits : List Char) (power : Int) : List Char :=
  let mantissa := match digits with
    | [] => []
    | [first] => [first]
    | first :: others => first :: '.' :: others
  let sign := if power < 0 then '-' else '+'
  mantissa ++ 'e' :: sign :: Nat.toDigits 10 power.natAbs

/-- The shortest text of a double that reads back as the same double: positional from
`10 ^ -5` up to below `10 ^ 16`, with a power of ten outside. -/
def floatText (x : Float) : String :=
  let bits := x.toBits.toNat
  let sign := if bits / Nat.pow 2 63 = 1 then ['-'] else []
  let magnitude := match (Rounded.ofBits bits).shortest with
    | none => ['0', '.', '0']
    | some (multiple, place) =>
      let digits := Nat.toDigits 10 multiple
      let whole := (digits.length : Int) + place
      if -5 < whole ∧ whole ≤ 16 then withPoint digits whole else withPower digits (whole - 1)
  String.ofList (sign ++ magnitude)

end ScriptureMarkup.Decimal
