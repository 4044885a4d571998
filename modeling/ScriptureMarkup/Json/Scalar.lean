import ScriptureMarkup.Json.NumberLiteral
import ScriptureMarkup.Json.StringLiteral

namespace ScriptureMarkup.Json

/-- Reads the rest of a word that spells a scalar. -/
def wordScalar (value : Scalar) (letters : List Char) (first : Option Char) (s : Input) :
    Except Fault (Scanned Scalar (first :: s)) :=
  match h : word letters s with
  | .error fault => .error fault
  | .ok rest => .ok ⟨value, rest, Nat.lt_succ_of_le (length_word_le h)⟩

/-- Reads a number and works out its value. -/
def number : Reader Scalar := fun s =>
  match numberText s with
  | .error fault => .error fault
  | .ok x => x.value.value.map fun n => x.map fun _ => .number n

/-- Reads a value that holds no other, from its first letter on. -/
def scalar : Reader Scalar
  | [] => .error (.endOfInput .value)
  | some 'n' :: s => wordScalar .null ['u', 'l', 'l'] (some 'n') s
  | some 't' :: s => wordScalar (.bool true) ['r', 'u', 'e'] (some 't') s
  | some 'f' :: s => wordScalar (.bool false) ['a', 'l', 's', 'e'] (some 'f') s
  | some '"' :: s => (stringBody s).map fun x => (x.map .string).widen (length_le_succ s)
  | symbol :: s =>
    if symbol = some '-' ∨ (digit? symbol).isSome then number (symbol :: s) else .error .expectedValue

/-- Reads a scalar and takes from it what is wanted. What is wanted is asked of the value
after it has been read, while a list or an object is refused at its bracket. -/
def scalarAs {α : Type} (wanted : Wanted) (take : Scalar → Except Fault α) : Reader α := afterBlanks fun s =>
  match s with
  | some '[' :: _ => .error (.wrongType .sequence wanted)
  | some '{' :: _ => .error (.wrongType .map wanted)
  | s =>
    match scalar s with
    | .error fault => .error fault
    | .ok x => (take x.value).map fun value => x.map fun _ => value

/-- The fault of a place where a list or an object is wanted and neither begins. -/
def refusal (wanted : Wanted) (s : Input) : Fault :=
  match scalarAs wanted (fun x => (.error (.wrongType (.scalar x) wanted) : Except Fault Unit)) s with
  | .error fault => fault
  | .ok _ => .expectedValue

/-- Takes a scalar out of a value that has been kept whole. -/
def Value.take {α : Type} (wanted : Wanted) (fromScalar : Scalar → Except Fault α) : Value → Except Fault α
  | .scalar s => fromScalar s
  | .array _ => .error (.wrongType .sequence wanted)
  | .object _ => .error (.wrongType .map wanted)

def Scalar.text : Scalar → Except Fault String
  | .string text => .ok text
  | other => .error (.wrongType (.scalar other) .text)

def Scalar.bool? : Scalar → Except Fault Bool
  | .bool b => .ok b
  | other => .error (.wrongType (.scalar other) .boolean)

/-- An integer below `limit` that is not negative. -/
def Scalar.below (limit : Nat) (wanted : Wanted) : Scalar → Except Fault Nat
  | .number (.integer n) =>
    if 0 ≤ n ∧ n < limit then .ok n.toNat else .error (.outOfRange n wanted)
  | other => .error (.wrongType (.scalar other) wanted)

def Scalar.byte (x : Scalar) : Except Fault UInt8 :=
  (x.below UInt8.size .byte).map Nat.toUInt8

def Scalar.word (x : Scalar) : Except Fault UInt32 :=
  (x.below UInt32.size .word).map Nat.toUInt32

def text : Reader String := scalarAs .text Scalar.text

def boolean : Reader Bool := scalarAs .boolean Scalar.bool?

def word32 : Reader UInt32 := scalarAs .word Scalar.word

end ScriptureMarkup.Json
