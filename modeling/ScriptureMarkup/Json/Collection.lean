import ScriptureMarkup.Json.Scalar
import ScriptureMarkup.Text.KeyOrder

namespace ScriptureMarkup.Json

/-- Looks for the next element of a list: whether there is one, and where it begins. When
there is none, the list has been closed. -/
def nextElement (first : Bool) (s : Input) : Except Fault (Bool × Input) :=
  match skipBlanks s with
  | [] => .error (.endOfInput .list)
  | some ']' :: r => .ok (false, r)
  | symbol :: r =>
    if first then .ok (true, symbol :: r)
    else if symbol = some ',' then
      match skipBlanks r with
      | [] => .error (.endOfInput .value)
      | some ']' :: _ => .error .trailingComma
      | r => .ok (true, r)
    else .error .expectedCommaOrBracket

theorem length_nextElement_le {first more : Bool} {s r : Input} (found : nextElement first s = .ok (more, r)) :
    r.length ≤ s.length ∧ (more = false → r.length < s.length) := by
  have blanks := length_skipBlanks_le s
  unfold nextElement at found
  split at found
  · cases found
  · rename_i r' atEnd
    cases found
    rw [atEnd, List.length_cons] at blanks
    exact ⟨by omega, fun _ => by omega⟩
  · rename_i symbol r' notClosed here
    rw [here, List.length_cons] at blanks
    split at found
    · cases found
      exact ⟨by simpa using blanks, by simp⟩
    · split at found
      · have later := length_skipBlanks_le r'
        split at found
        · cases found
        · cases found
        · cases found
          exact ⟨by omega, by simp⟩
      · cases found

/-- Reads the elements of a list from behind its bracket; `done` holds those before `s`, the
last one first. -/
def elementsFrom {α : Type} (item : Reader α) {start : Input} (first : Bool) (done : List α) (s : Input)
    (bound : s.length ≤ start.length) : Except Fault (Scanned (List α) start) :=
  match h : nextElement first s with
  | .error fault => .error fault
  | .ok (false, r) =>
    .ok ⟨done.reverse, r, Nat.lt_of_lt_of_le ((length_nextElement_le h).2 rfl) bound⟩
  | .ok (true, r) =>
    match item r with
    | .error fault => .error fault
    | .ok ⟨value, rest, shorter⟩ =>
      have smaller : rest.length < s.length := Nat.lt_of_lt_of_le shorter (length_nextElement_le h).1
      elementsFrom item false (value :: done) rest (Nat.le_of_lt (Nat.lt_of_lt_of_le smaller bound))
  termination_by s.length

def elements {α : Type} (item : Reader α) : Reader (List α) := fun s =>
  elementsFrom item true [] s (length_le_self s)

/-- Reads the end of a list whose wanted elements have all been read. -/
def closeList : Reader Unit := fun s =>
  match h : skipBlanks s with
  | [] => .error (.endOfInput .list)
  | some ']' :: r =>
    .ok ⟨(), r, by have := length_skipBlanks_le s; rw [h, List.length_cons] at this; omega⟩
  | some ',' :: r =>
    match skipBlanks r with
    | some ']' :: _ => .error .trailingComma
    | _ => .error .trailingCharacters
  | _ => .error .trailingCharacters

/-- Reads the next key of an object, or nothing when the object is closed. -/
def nextKey (first : Bool) : Reader (Option String) := fun s =>
  let key (t : Input) (shorter : t.length < s.length) : Except Fault (Scanned (Option String) s) :=
    (stringBody t).map fun x => (x.map some).widen (Nat.le_of_lt shorter)
  have blanks := length_skipBlanks_le s
  match h : skipBlanks s with
  | [] => .error (.endOfInput .object)
  | some '\x7d' :: r => .ok ⟨none, r, by rw [h, List.length_cons] at blanks; omega⟩
  | symbol :: r =>
    if first then
      if symbol = some '"' then key r (by rw [h, List.length_cons] at blanks; omega)
      else .error .keyMustBeString
    else if symbol = some ',' then
      match h' : skipBlanks r with
      | [] => .error (.endOfInput .value)
      | some '"' :: t =>
        key t (by
          have later := length_skipBlanks_le r
          rw [h, List.length_cons] at blanks
          rw [h', List.length_cons] at later
          omega)
      | some '\x7d' :: _ => .error .trailingComma
      | _ => .error .keyMustBeString
    else .error .expectedCommaOrBrace

/-- Reads the colon behind a key. -/
def colon : Reader Unit := fun s =>
  match h : skipBlanks s with
  | [] => .error (.endOfInput .object)
  | symbol :: r =>
    if symbol = some ':' then
      .ok ⟨(), r, by have := length_skipBlanks_le s; rw [h, List.length_cons] at this; omega⟩
    else .error .expectedColon

/-- Reads the members of an object from behind its brace. What has been read so far decides
how the value of the next key is read, or whether that key is refused. -/
def membersFrom {σ : Type} (member : σ → String → Except Fault (Reader σ)) {start : Input} (first : Bool) (state : σ)
    (s : Input) (bound : s.length ≤ start.length) : Except Fault (Scanned σ start) :=
  match nextKey first s with
  | .error fault => .error fault
  | .ok ⟨none, rest, shorter⟩ => .ok ⟨state, rest, Nat.lt_of_lt_of_le shorter bound⟩
  | .ok ⟨some key, afterKey, shorterKey⟩ =>
    match member state key with
    | .error fault => .error fault
    | .ok read =>
      match colon afterKey with
      | .error fault => .error fault
      | .ok ⟨_, afterColon, shorterColon⟩ =>
        match read afterColon with
        | .error fault => .error fault
        | .ok ⟨state, rest, shorter⟩ =>
          have smaller : rest.length < s.length :=
            Nat.lt_trans shorter (Nat.lt_trans shorterColon shorterKey)
          membersFrom member false state rest (Nat.le_of_lt (Nat.lt_of_lt_of_le smaller bound))
  termination_by s.length

def members {σ : Type} (member : σ → String → Except Fault (Reader σ)) (state : σ) : Reader σ := fun s =>
  membersFrom member true state s (length_le_self s)

/-- A reader behind an opening bracket; `none` when no more brackets may be opened. -/
def opened {α : Type} (inside : Option (Reader α)) (bracket : Option Char) (s : Input) :
    Except Fault (Scanned α (bracket :: s)) :=
  match inside with
  | none => .error .tooDeep
  | some read => (read s).map (·.widen (length_le_succ s))

/-- Reads a list. -/
def arrayOf {α : Type} (item : Option (Reader α)) : Reader (List α) := afterBlanks fun s =>
  match s with
  | some '[' :: s => opened (item.map elements) (some '[') s
  | s => .error (refusal .sequence s)

/-- Reads an object. -/
def objectOf {α : Type} (wanted : Wanted) (inside : Option (Reader α)) : Reader α := afterBlanks fun s =>
  match s with
  | some '{' :: s => opened inside (some '{') s
  | s => .error (refusal wanted s)

/-- Reads a value of any shape, whose parts are read by `part`. The last of several members
with one key stays. -/
def valueOf (part : Option (Reader Value)) : Reader Value := afterBlanks fun s =>
  match s with
  | some '[' :: s => (opened (part.map elements) (some '[') s).map (·.map .array)
  | some '{' :: s =>
    let member (read : Reader Value) (fields : List (String × Value)) (key : String) :
        Except Fault (Reader (List (String × Value))) :=
      .ok fun s => (read s).map (·.map fun value => Text.putEntry key value fields)
    (opened (part.map fun read => members (member read) []) (some '{') s).map (·.map .object)
  | s => (scalar s).map (·.map .scalar)

/-- Reads a value in which at most `depth` brackets stand open at a time. -/
def value : Nat → Reader Value
  | 0 => valueOf none
  | depth + 1 => valueOf (some (value depth))

/-- The number of brackets that may stand open at a time in a text. -/
def maxDepth : Nat := 127

end ScriptureMarkup.Json
