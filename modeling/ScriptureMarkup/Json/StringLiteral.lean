import ScriptureMarkup.Json.Input

namespace ScriptureMarkup.Json

def hexDigit? : Option Char → Option Nat
  | none => none
  | some c =>
    if '0' ≤ c ∧ c ≤ '9' then some (c.toNat - '0'.toNat)
    else if 'a' ≤ c ∧ c ≤ 'f' then some (c.toNat - 'a'.toNat + 10)
    else if 'A' ≤ c ∧ c ≤ 'F' then some (c.toNat - 'A'.toNat + 10)
    else none

/-- Reads four hexadecimal digits as a UTF-16 unit. Four bytes are taken before any of
them is judged, so the end of the input is noticed first. -/
def hexUnit : Reader Nat
  | a :: b :: c :: d :: s =>
    match hexDigit? a, hexDigit? b, hexDigit? c, hexDigit? d with
    | some a, some b, some c, some d =>
      .ok ⟨((a * 16 + b) * 16 + c) * 16 + d, s, by simp only [List.length_cons]; omega⟩
    | _, _, _, _ => .error .invalidEscape
  | s => if Input.size s < 4 then .error (.endOfInput .string) else .error .invalidEscape

def isHighSurrogate (unit : Nat) : Bool := 0xD800 ≤ unit && unit ≤ 0xDBFF

def isLowSurrogate (unit : Nat) : Bool := 0xDC00 ≤ unit && unit ≤ 0xDFFF

/-- Reads the character that a Unicode escape stands for, from behind its `u`. A high
surrogate needs a second escape with a low one right after it. -/
def unicodeEscape : Reader Char := fun s =>
  match hexUnit s with
  | .error fault => .error fault
  | .ok unit =>
    if isLowSurrogate unit.value then .error .loneSurrogate
    else if isHighSurrogate unit.value then
      match h : unit.rest with
      | [] => .error (.endOfInput .string)
      | [some '\\'] => .error (.endOfInput .string)
      | some '\\' :: some 'u' :: s' =>
        match hexUnit s' with
        | .error fault => .error fault
        | .ok low =>
          if isLowSurrogate low.value then
            .ok ⟨Char.ofNat (0x10000 + (unit.value - 0xD800) * 0x400 + (low.value - 0xDC00)), low.rest, by
              have := unit.shorter
              have := low.shorter
              simp only [h, List.length_cons] at *
              omega⟩
          else .error .loneSurrogate
      | _ => .error .unfinishedSurrogatePair
    else .ok (unit.map Char.ofNat)

/-- Characters that a backslash and one letter stand for. -/
def shortEscape? : Char → Option Char
  | '"' => some '"'
  | '\\' => some '\\'
  | '/' => some '/'
  | 'b' => some '\x08'
  | 'f' => some '\x0c'
  | 'n' => some '\n'
  | 'r' => some '\r'
  | 't' => some '\t'
  | _ => none

/-- Reads an escape from behind its backslash. -/
def escape : Reader Char
  | [] => .error (.endOfInput .string)
  | none :: _ => .error .invalidEscape
  | some 'u' :: s => (unicodeEscape s).map (·.widen (length_le_succ s))
  | some c :: s =>
    match shortEscape? c with
    | some meant => .ok ⟨meant, s, length_lt_succ s⟩
    | none => .error .invalidEscape

/-- The next part of a string: one symbol of its value, or nothing for its closing quote. -/
def stringPart : Reader (Option (Option Char))
  | [] => .error (.endOfInput .string)
  | some '"' :: s => .ok ⟨none, s, length_lt_succ s⟩
  | some '\\' :: s => (escape s).map fun x => (x.map fun c => some (some c)).widen (length_le_succ s)
  | some c :: s =>
    if c.toNat < 0x20 then .error .controlCharacter else .ok ⟨some (some c), s, length_lt_succ s⟩
  | none :: s => .ok ⟨some none, s, length_lt_succ s⟩

/-- Reads the symbols of a string up to its closing quote; `done` holds those before `s`,
the last one first. -/
def stringSymbols {start : Input} (done : Input) (s : Input) (bound : s.length ≤ start.length) :
    Except Fault (Scanned Input start) :=
  match stringPart s with
  | .error fault => .error fault
  | .ok ⟨none, rest, shorter⟩ => .ok ⟨done.reverse, rest, Nat.lt_of_lt_of_le shorter bound⟩
  | .ok ⟨some symbol, rest, shorter⟩ =>
    stringSymbols (symbol :: done) rest (Nat.le_of_lt (Nat.lt_of_lt_of_le shorter bound))
  termination_by s.length

/-- Reads a string from behind its opening quote. Bytes that spell no character are
refused only when the closing quote has been reached. -/
def stringBody : Reader String := fun s =>
  match stringSymbols [] s (length_le_self s) with
  | .error fault => .error fault
  | .ok symbols =>
    match symbols.value.mapM id with
    | some characters => .ok (symbols.map fun _ => String.ofList characters)
    | none => .error .invalidCodePoint

/-- Passes over an escape, from behind its backslash; any four digits will do after a `u`. -/
def escapeForm : Reader Unit
  | [] => .error (.endOfInput .string)
  | none :: _ => .error .invalidEscape
  | some 'u' :: s => (hexUnit s).map fun x => (x.map fun _ => ()).widen (length_le_succ s)
  | some c :: s => if (shortEscape? c).isSome then .ok ⟨(), s, length_lt_succ s⟩ else .error .invalidEscape

/-- Passes over a string from behind its opening quote, without asking what it spells. -/
def stringForm {start : Input} (s : Input) (bound : s.length ≤ start.length) :
    Except Fault (Scanned Unit start) :=
  match s with
  | [] => .error (.endOfInput .string)
  | some '"' :: s => .ok ⟨(), s, Nat.lt_of_lt_of_le (Nat.lt_succ_self _) bound⟩
  | some '\\' :: s =>
    match escapeForm s with
    | .error fault => .error fault
    | .ok ⟨_, rest, shorter⟩ =>
      stringForm rest (by simp only [List.length_cons] at bound; omega)
  | some c :: s =>
    if c.toNat < 0x20 then .error .controlCharacter
    else stringForm s (by simp only [List.length_cons] at bound; omega)
  | none :: s => stringForm s (by simp only [List.length_cons] at bound; omega)
  termination_by s.length
  decreasing_by all_goals simp only [List.length_cons]; omega

end ScriptureMarkup.Json
