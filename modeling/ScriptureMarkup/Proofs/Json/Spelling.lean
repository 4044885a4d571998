import ScriptureMarkup.Json.Skip

/-!
The grammar of texts. A relation `R x s r` says that the input `s` begins with a spelling of `x` and
that `r` follows it. A text spells a tree, in which every member of an object stands in its place and
as often as it comes; blanks and the choice among several spellings of a scalar leave no trace.
-/

namespace ScriptureMarkup.Json

/-- What a text spells, with scalars and keys by what they mean. A number out of range means nothing,
and neither does a string that holds half of a surrogate pair or bytes that are no character. -/
inductive Tree
  | scalar (meaning : Option Scalar)
  | array (items : List Tree)
  | object (members : List (Option String × Tree))

inductive Blanks : Input → Input → Prop
  | nil (r : Input) : Blanks r r
  | cons {c : Char} {s r : Input} : isBlank c = true → Blanks s r → Blanks (some c :: s) r

/-- At least one digit. -/
inductive Digits : List Nat → Input → Input → Prop
  | one {symbol : Option Char} {d : Nat} {r : Input} : digit? symbol = some d → Digits [d] (symbol :: r) r
  | more {symbol : Option Char} {d : Nat} {ds : List Nat} {s r : Input} :
      digit? symbol = some d → Digits ds s r → Digits (d :: ds) (symbol :: s) r

inductive Sign : Bool → Input → Input → Prop
  | absent (r : Input) : Sign false r r
  | minus (r : Input) : Sign true (some '-' :: r) r

inductive Fraction : List Nat → Input → Input → Prop
  | absent (r : Input) : Fraction [] r r
  | point {ds : List Nat} {s r : Input} : Digits ds s r → Fraction ds (some '.' :: s) r

inductive Power : Option (Bool × List Nat) → Input → Input → Prop
  | absent (r : Input) : Power none r r
  | plain {e : Char} {ds : List Nat} {s r : Input} :
      e = 'e' ∨ e = 'E' → Digits ds s r → Power (some (false, ds)) (some e :: s) r
  | plus {e : Char} {ds : List Nat} {s r : Input} :
      e = 'e' ∨ e = 'E' → Digits ds s r → Power (some (false, ds)) (some e :: some '+' :: s) r
  | minus {e : Char} {ds : List Nat} {s r : Input} :
      e = 'e' ∨ e = 'E' → Digits ds s r → Power (some (true, ds)) (some e :: some '-' :: s) r

/-- A number. Before the point a zero begins no further digits. -/
inductive Numeral : NumberText → Input → Input → Prop
  | mk {negative : Bool} {whole fraction : List Nat} {power : Option (Bool × List Nat)} {s t u v r : Input} :
      Sign negative s t → Digits whole t u → (∀ d ds, whole ≠ 0 :: d :: ds) → Fraction fraction u v →
      Power power v r → Numeral ⟨negative, whole, fraction, power⟩ s r

/-- A part of a string: a symbol, written as it is or by a letter behind a backslash, or a UTF-16 unit. -/
inductive StringPart
  | symbol (x : Option Char)
  | unit (n : Nat)

/-- A string, from behind its opening quote. -/
inductive Quoted : List StringPart → Input → Input → Prop
  | close (r : Input) : Quoted [] (some '"' :: r) r
  | symbol {x : Option Char} {parts : List StringPart} {s r : Input} :
      x ≠ some '"' → x ≠ some '\\' → (∀ c, x = some c → 0x20 ≤ c.toNat) → Quoted parts s r →
      Quoted (.symbol x :: parts) (x :: s) r
  | letter {c meant : Char} {parts : List StringPart} {s r : Input} :
      shortEscape? c = some meant → Quoted parts s r →
      Quoted (.symbol (some meant) :: parts) (some '\\' :: some c :: s) r
  | unit {w x y z : Option Char} {a b c d : Nat} {parts : List StringPart} {s r : Input} :
      hexDigit? w = some a → hexDigit? x = some b → hexDigit? y = some c → hexDigit? z = some d →
      Quoted parts s r →
      Quoted (.unit (((a * 16 + b) * 16 + c) * 16 + d) :: parts) (some '\\' :: some 'u' :: w :: x :: y :: z :: s) r

namespace StringPart

/-- The symbols of a string. Two units make one character if the first is a high surrogate and the
second a low one; no surrogate stands otherwise. -/
def symbols : List StringPart → Option Input
  | [] => some []
  | .symbol x :: parts => (symbols parts).map (x :: ·)
  | .unit n :: parts =>
    if isLowSurrogate n then none
    else if isHighSurrogate n then
      match parts with
      | .unit low :: parts =>
        if isLowSurrogate low then
          (symbols parts).map (some (Char.ofNat (0x10000 + (n - 0xD800) * 0x400 + (low - 0xDC00))) :: ·)
        else none
      | _ => none
    else (symbols parts).map (some (Char.ofNat n) :: ·)

/-- The text that a string means, if all its symbols are characters. -/
def text (parts : List StringPart) : Option String := do
  let characters ← (← symbols parts).mapM id
  pure (String.ofList characters)

end StringPart

/-- A scalar. -/
inductive Literal : Option Scalar → Input → Input → Prop
  | null (r : Input) : Literal (some .null) (some 'n' :: some 'u' :: some 'l' :: some 'l' :: r) r
  | yes (r : Input) : Literal (some (.bool true)) (some 't' :: some 'r' :: some 'u' :: some 'e' :: r) r
  | no (r : Input) :
      Literal (some (.bool false)) (some 'f' :: some 'a' :: some 'l' :: some 's' :: some 'e' :: r) r
  | number {numeral : NumberText} {s r : Input} :
      Numeral numeral s r → Literal (numeral.value.toOption.map .number) s r
  | string {parts : List StringPart} {s r : Input} :
      Quoted parts s r → Literal ((StringPart.text parts).map .string) (some '"' :: s) r

/-- A key with its colon. -/
inductive Key : Option String → Input → Input → Prop
  | mk {parts : List StringPart} {s t u r : Input} :
      Blanks s (some '"' :: t) → Quoted parts t u → Blanks u (some ':' :: r) → Key (StringPart.text parts) s r

/-- What stands in front of an element of a list or an object: nothing if it is the first, else a comma. -/
inductive Comma : Bool → Input → Input → Prop
  | first (r : Input) : Comma true r r
  | behind {s r : Input} : Blanks s (some ',' :: r) → Comma false s r

/-- What an input may begin with: a value, or the rest of a list or of an object, up to its closing
bracket, from behind the opening one (`first`) or from behind an element. -/
inductive Phrase
  | value (tree : Tree)
  | items (first : Bool) (items : List Tree)
  | members (first : Bool) (members : List (Option String × Tree))

inductive Spells : Phrase → Input → Input → Prop
  | scalar {meaning : Option Scalar} {s t r : Input} :
      Blanks s t → Literal meaning t r → Spells (.value (.scalar meaning)) s r
  | array {items : List Tree} {s t r : Input} :
      Blanks s (some '[' :: t) → Spells (.items true items) t r → Spells (.value (.array items)) s r
  | object {members : List (Option String × Tree)} {s t r : Input} :
      Blanks s (some '\x7b' :: t) → Spells (.members true members) t r → Spells (.value (.object members)) s r
  | closeArray {first : Bool} {s r : Input} : Blanks s (some ']' :: r) → Spells (.items first []) s r
  | item {first : Bool} {item : Tree} {items : List Tree} {s t u r : Input} :
      Comma first s t → Spells (.value item) t u → Spells (.items false items) u r →
      Spells (.items first (item :: items)) s r
  | closeObject {first : Bool} {s r : Input} : Blanks s (some '\x7d' :: r) → Spells (.members first []) s r
  | member {first : Bool} {key : Option String} {value : Tree} {members : List (Option String × Tree)}
      {s t u v r : Input} :
      Comma first s t → Key key t u → Spells (.value value) u v → Spells (.members false members) v r →
      Spells (.members first ((key, value) :: members)) s r

/-- A whole input spells a tree, with blanks around it. -/
def Tree.SpelledBy (tree : Tree) (s : Input) : Prop := ∃ r, Spells (.value tree) s r ∧ Blanks r []

end ScriptureMarkup.Json
