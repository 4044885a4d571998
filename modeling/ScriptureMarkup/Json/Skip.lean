import ScriptureMarkup.Json.Collection

namespace ScriptureMarkup.Json

inductive Bracket
  | square
  | curly

def Bracket.closing : Bracket → Char
  | .square => ']'
  | .curly => '}'

def Bracket.unfinished : Bracket → Unfinished
  | .square => .list
  | .curly => .object

def Bracket.expectedComma : Bracket → Fault
  | .square => .expectedCommaOrBracket
  | .curly => .expectedCommaOrBrace

/-- What may come next in a value that is passed over: a value, the first element behind a
bracket, a further element, or the end of the value before. -/
inductive Expecting
  | value
  | element (bracket : Bracket)
  | first (bracket : Bracket)
  | next

/-- The order in which expectations give way to each other without anything being read. -/
def Expecting.rank : Expecting → Nat
  | .value => 0
  | .element _ => 1
  | .first _ => 2
  | .next => 3

/-- Passes over a value that holds no other. Numbers and strings are only checked for form,
and whatever is wrong with a number makes it an invalid one. -/
def scalarForm : Reader Unit
  | [] => .error (.endOfInput .value)
  | some 'n' :: s => (wordScalar .null ['u', 'l', 'l'] (some 'n') s).map (·.map fun _ => ())
  | some 't' :: s => (wordScalar .null ['r', 'u', 'e'] (some 't') s).map (·.map fun _ => ())
  | some 'f' :: s => (wordScalar .null ['a', 'l', 's', 'e'] (some 'f') s).map (·.map fun _ => ())
  | some '"' :: s => (stringForm s (length_le_self s)).map (·.widen (length_le_succ s))
  | symbol :: s =>
    if symbol = some '-' ∨ (digit? symbol).isSome then
      match numberText (symbol :: s) with
      | .error _ => .error .invalidNumber
      | .ok x => .ok (x.map fun _ => ())
    else .error .expectedValue

/-- Passes over the key and colon that stand before a value in an object. -/
def keyForm : Reader Unit := fun s =>
  match h : skipBlanks s with
  | [] => .error (.endOfInput .object)
  | some '"' :: r =>
    match stringForm r (length_le_self r) with
    | .error fault => .error fault
    | .ok ⟨_, rest, shorter⟩ =>
      (colon rest).map (·.widen (by
        have := length_skipBlanks_le s
        rw [h, List.length_cons] at this
        omega))
  | _ => .error .keyMustBeString

/-- The number of symbols that have been read at least when something is expected. -/
def Expecting.begun : Expecting → Nat
  | .next => 1
  | .value | .element _ | .first _ => 0

theorem length_lt_behind {s r start : Input} {symbol : Option Char} (here : skipBlanks s = symbol :: r)
    (bound : s.length ≤ start.length) : r.length < start.length := by
  have blanks := length_skipBlanks_le s
  rw [here, List.length_cons] at blanks
  omega

theorem length_le_behind {s r start : Input} {symbol : Option Char} (here : skipBlanks s = symbol :: r)
    (bound : s.length ≤ start.length) : r.length ≤ start.length := Nat.le_of_lt (length_lt_behind here bound)

theorem length_lt_scanned {s r rest start : Input} {symbol : Option Char} (here : skipBlanks s = symbol :: r)
    (shorter : rest.length < (symbol :: r).length) (bound : s.length ≤ start.length) : rest.length < start.length :=
  Nat.lt_of_lt_of_le shorter (length_lt_behind here bound)

/-- Passes over the rest of a value. The brackets that stand open are a list, the innermost
first, so any number of them may be open. -/
def skipFrom {start : Input} (expecting : Expecting) (opened : List Bracket) (s : Input)
    (bound : s.length + expecting.begun ≤ start.length) : Except Fault (Scanned Unit start) :=
  have := length_skipBlanks_le s
  match expecting with
  | .value =>
    match h : skipBlanks s with
    | [] => .error (.endOfInput .value)
    | symbol :: r =>
      if symbol = some '[' then skipFrom (.first .square) opened r (length_le_behind h bound)
      else if symbol = some '{' then skipFrom (.first .curly) opened r (length_le_behind h bound)
      else
        match scalarForm (symbol :: r) with
        | .error fault => .error fault
        | .ok ⟨_, rest, shorter⟩ => skipFrom .next opened rest (length_lt_scanned h shorter bound)
  | .element .square => skipFrom .value (.square :: opened) s bound
  | .element .curly =>
    match keyForm s with
    | .error fault => .error fault
    | .ok ⟨_, rest, shorter⟩ => skipFrom .value (.curly :: opened) rest (length_le_of_shorter shorter bound)
  | .first bracket =>
    match h : skipBlanks s with
    | [] => .error (.endOfInput bracket.unfinished)
    | symbol :: r =>
      if symbol = some bracket.closing then skipFrom .next opened r (length_lt_behind h bound)
      else skipFrom (.element bracket) opened (symbol :: r) (length_lt_behind h bound)
  | .next =>
    match opened with
    | [] => .ok ⟨(), s, bound⟩
    | bracket :: outer =>
      have within := length_le_of_lt bound
      match h : skipBlanks s with
      | [] => .error (.endOfInput bracket.unfinished)
      | symbol :: r =>
        if symbol = some ',' then skipFrom (.element bracket) outer r (length_le_behind h within)
        else if symbol = some bracket.closing then skipFrom .next outer r (length_lt_behind h within)
        else .error bracket.expectedComma
  termination_by (s.length, expecting.rank)
  decreasing_by all_goals simp_wf; grind [Expecting.rank]

/-- Passes over a value that nobody asked for. -/
def skip : Reader Unit := fun s => skipFrom .value [] s (length_le_self s)

end ScriptureMarkup.Json
