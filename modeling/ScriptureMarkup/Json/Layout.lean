import ScriptureMarkup.Json.Skip

namespace ScriptureMarkup.Json

/-- The fields of a record in the order of their places. Reading one adds its value to what
has been read of the record so far. -/
structure Layout (σ : Type) where
  wanted : Wanted
  fields : List (String × (σ → Reader σ))

namespace Layout

variable {σ α : Type}

/-- Reads the value of one key. Unknown keys are passed over; a known one may come once. -/
def member (layout : Layout σ) (state : List String × σ) (key : String) :
    Except Fault (Reader (List String × σ)) :=
  match layout.fields.lookup key with
  | none => .ok fun s => (skip s).map (·.map fun _ => state)
  | some read =>
    if state.1.contains key then .error (.duplicateField key)
    else .ok fun s => (read state.2 s).map (·.map fun value => (key :: state.1, value))

/-- Reads values by place, from behind the bracket of a list, and counts them. -/
def places (first : Bool) (count : Nat) (state : σ) :
    List (String × (σ → Reader σ)) → Reader (Nat × σ)
  | [] => fun s => (closeList s).map (·.map fun _ => (count, state))
  | (_, read) :: later => fun s =>
    match h : nextElement first s with
    | .error fault => .error fault
    | .ok (false, r) => .ok ⟨(count, state), r, (length_nextElement_le h).2 rfl⟩
    | .ok (true, r) =>
      match read state r with
      | .error fault => .error fault
      | .ok ⟨state, rest, shorter⟩ =>
        (places false (count + 1) state later rest).map
          (·.widen (Nat.le_of_lt (Nat.lt_of_lt_of_le shorter (length_nextElement_le h).1)))

/-- Replaces the value read by what `finish` makes of it. -/
def finishing {β : Type} {s : Input} (finish : β → Except Fault α) (x : Scanned β s) :
    Except Fault (Scanned α s) :=
  (finish x.value).map fun value => x.map fun _ => value

/-- Reads a record, either as an object or as a list of its fields. -/
def reader (layout : Layout σ) (blank : σ) (byName : σ → Except Fault α) (byPlace : Nat × σ → Except Fault α) :
    Reader α := afterBlanks fun s =>
  match s with
  | some '{' :: s =>
    match members layout.member ([], blank) s with
    | .error fault => .error fault
    | .ok x => (finishing (fun state => byName state.2) x).map (·.widen (length_le_succ s))
  | some '[' :: s =>
    match places true 0 blank layout.fields s with
    | .error fault => .error fault
    | .ok x => (finishing byPlace x).map (·.widen (length_le_succ s))
  | s => .error (refusal layout.wanted s)

end Layout

/-- A field that has to be there. -/
def required {α : Type} (name : String) : Option α → Except Fault α
  | some value => .ok value
  | none => .error (.missingField name)

end ScriptureMarkup.Json
