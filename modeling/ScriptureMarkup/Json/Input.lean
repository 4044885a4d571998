import ScriptureMarkup.Json.Fault

namespace ScriptureMarkup.Json

/-- Text to be read, as the characters its bytes spell; `none` stands for a byte that is
part of no well-formed character. -/
abbrev Input := List (Option Char)

def Input.ofString (text : String) : Input := text.toList.map some

/-- The number of bytes a symbol takes up in UTF-8. -/
def symbolSize : Option Char → Nat
  | some c => c.utf8Size
  | none => 1

def Input.size : Input → Nat
  | [] => 0
  | symbol :: s => symbolSize symbol + Input.size s

/-- The low six bits of a byte that continues a character. -/
def continuation? (b : UInt8) : Option Nat :=
  if 0x80 ≤ b ∧ b < 0xC0 then some (b.toNat - 0x80) else none

/-- The character that `n` stands for, when `n` is not below the values that need this many
bytes and is a character at all. -/
def scalarValue? (least n : Nat) : Option Char :=
  if h : n.isValidChar then if least ≤ n then some (Char.ofNatAux n h) else none else none

/-- The character that the bytes begin with and the number of bytes after the first that
belong to it. -/
def leadingCharacter? : List UInt8 → Option (Char × Nat)
  | [] => none
  | b :: bytes =>
    let tail (count : Nat) : Option (List Nat) :=
      if count ≤ bytes.length then (bytes.take count).mapM continuation? else none
    let value (first count least : Nat) : Option (Char × Nat) := do
      let parts ← tail count
      let c ← scalarValue? least (parts.foldl (fun n part => 64 * n + part) first)
      pure (c, count)
    if b < 0x80 then value b.toNat 0 0
    else if 0xC0 ≤ b ∧ b < 0xE0 then value (b.toNat - 0xC0) 1 0x80
    else if 0xE0 ≤ b ∧ b < 0xF0 then value (b.toNat - 0xE0) 2 0x800
    else if 0xF0 ≤ b ∧ b < 0xF8 then value (b.toNat - 0xF0) 3 0x10000
    else none

/-- Reads bytes as UTF-8. A byte that begins no character is kept apart, and reading goes on
behind it, so quotes and brackets after it are still seen. -/
def Input.ofBytes : List UInt8 → Input
  | [] => []
  | b :: bytes =>
    match leadingCharacter? (b :: bytes) with
    | some (c, more) => some c :: Input.ofBytes (bytes.drop more)
    | none => none :: Input.ofBytes bytes
  termination_by bytes => bytes.length
  decreasing_by
    · simp only [List.length_drop, List.length_cons]
      omega
    · exact Nat.lt_add_one bytes.length

def isBlank (c : Char) : Bool := c = ' ' || c = '\n' || c = '\t' || c = '\r'

/-- The input from its first symbol that is not a blank. -/
def skipBlanks : Input → Input
  | some c :: s => if isBlank c then skipBlanks s else some c :: s
  | s => s

theorem length_skipBlanks_le (s : Input) : (skipBlanks s).length ≤ s.length := by
  induction s with
  | nil => simp [skipBlanks]
  | cons symbol s ih =>
    cases symbol with
    | none => simp [skipBlanks]
    | some c =>
      rw [skipBlanks]
      split
      · exact Nat.le_succ_of_le ih
      · exact Nat.le_refl _

theorem length_le_self (s : Input) : s.length ≤ s.length := Nat.le_refl _

theorem length_le_succ (s : Input) : s.length ≤ s.length + 1 := Nat.le_succ _

theorem length_le_of_shorter {s t rest : Input} (shorter : rest.length < s.length) (bound : s.length ≤ t.length) :
    rest.length ≤ t.length := Nat.le_of_lt (Nat.lt_of_lt_of_le shorter bound)

theorem length_le_of_lt {s t : Input} (shorter : s.length < t.length) : s.length ≤ t.length := Nat.le_of_lt shorter

theorem length_lt_succ (s : Input) : s.length < s.length + 1 := Nat.lt_succ_self _

/-- A value read from the beginning of `s`, and what is left behind it. Something has been
read, which is why lists of values come to an end. -/
structure Scanned (α : Type) (s : Input) where
  value : α
  rest : Input
  shorter : rest.length < s.length

/-- Reads one value from the beginning of an input. -/
abbrev Reader (α : Type) := (s : Input) → Except Fault (Scanned α s)

namespace Scanned

/-- The same reading, seen from an earlier place. -/
def widen {α : Type} {s t : Input} (x : Scanned α s) (le : s.length ≤ t.length) : Scanned α t :=
  ⟨x.value, x.rest, Nat.lt_of_lt_of_le x.shorter le⟩

def map {α β : Type} {s : Input} (f : α → β) (x : Scanned α s) : Scanned β s :=
  ⟨f x.value, x.rest, x.shorter⟩

end Scanned

/-- A reader that passes over blanks before the value. -/
def afterBlanks {α : Type} (read : Reader α) : Reader α := fun s =>
  (read (skipBlanks s)).map (·.widen (length_skipBlanks_le s))

/-- Reads the rest of a fixed word whose first letter has been seen. -/
def word : List Char → Input → Except Fault Input
  | [], s => .ok s
  | _ :: _, [] => .error (.endOfInput .value)
  | c :: letters, symbol :: s => if symbol = some c then word letters s else .error .expectedWord

theorem length_word_le {letters : List Char} {s r : Input} (done : word letters s = .ok r) :
    r.length ≤ s.length := by
  induction letters generalizing s with
  | nil =>
    rw [word] at done
    cases done
    exact Nat.le_refl _
  | cons c letters ih =>
    cases s with
    | nil => simp [word] at done
    | cons symbol s =>
      rw [word] at done
      split at done
      · exact Nat.le_succ_of_le (ih done)
      · cases done

/-- Reads a whole input as one value with blanks around it. -/
def Reader.whole {α : Type} (read : Reader α) (s : Input) : Except Fault α :=
  match read s with
  | .error fault => .error fault
  | .ok x => if (skipBlanks x.rest).isEmpty then .ok x.value else .error .trailingCharacters

end ScriptureMarkup.Json
