import ScriptureMarkup.Json.Collection
import ScriptureMarkup.Proofs.Json.Values

namespace ScriptureMarkup.Json

/-- A text that begins with a value. Neither blanks nor the end of a list stand in front of it. -/
def Begins (text : List Char) : Prop := ∃ c tail, text = c :: tail ∧ isBlank c = false ∧ c ≠ ']'

/-- A reader that gives the answer to a text wherever it stands. -/
structure Reads {α : Type} (read : Reader α) (text : List Char) (answer : Except Fault α) : Prop where
  begins : Begins text
  answers : ∀ rest, Ends rest → outcome (read (text.map some ++ rest)) = answer.map (·, rest)

/-- Texts that each stand behind a comma, and what closes them. -/
def listed (texts : List (List Char)) (bracket : Char) (rest : Input) : Input :=
  (texts.flatMap (',' :: ·)).map some ++ some bracket :: rest

theorem listed_cons (text : List Char) (texts : List (List Char)) (bracket : Char) (rest : Input) :
    listed (text :: texts) bracket rest = some ',' :: (text.map some ++ listed texts bracket rest) := by
  simp [listed]

theorem separated_cons (text : List Char) (texts : List (List Char)) (bracket : Char) (rest : Input) :
    (separated (text :: texts)).map some ++ some bracket :: rest = text.map some ++ listed texts bracket rest := by
  simp [separated, listed]

theorem ends_listed (texts : List (List Char)) {bracket : Char} (closes : bracket = ']' ∨ bracket = '\x7d') (rest : Input) :
    Ends (listed texts bracket rest) := by
  intro symbol head
  cases texts with
  | nil =>
    cases head
    rcases closes with rfl | rfl <;> simp
  | cons text texts =>
    cases head
    simp

/-- Whether there is a first among some texts, and where it begins. -/
def listHead (texts : List (List Char)) (rest : Input) : Bool × Input :=
  match texts with
  | [] => (false, rest)
  | text :: texts => (true, text.map some ++ listed texts ']' rest)

theorem nextElement_separated {texts : List (List Char)} (begin : ∀ text ∈ texts, Begins text) (rest : Input) :
    nextElement true ((separated texts).map some ++ some ']' :: rest) = .ok (listHead texts rest) := by
  cases texts with
  | nil => rfl
  | cons text texts =>
    obtain ⟨c, tail, rfl, visible, other⟩ := begin text List.mem_cons_self
    rw [separated_cons]
    simp [nextElement, skipBlanks_cons visible, other, listHead]

theorem nextElement_listed {texts : List (List Char)} (begin : ∀ text ∈ texts, Begins text) (rest : Input) :
    nextElement false (listed texts ']' rest) = .ok (listHead texts rest) := by
  cases texts with
  | nil => rfl
  | cons text texts =>
    obtain ⟨c, tail, rfl, visible, other⟩ := begin text List.mem_cons_self
    have comma : isBlank ',' = false := rfl
    rw [listed_cons]
    simp [nextElement, skipBlanks_cons visible, skipBlanks_cons comma, other, listHead]

section Elements

variable {α : Type} {item : Reader α} {first : Bool} {s r rest start : Input}

theorem elementsFrom_step (done : List α) (bound : s.length ≤ start.length) (next : nextElement first s = .ok (true, r))
    {value : α} (read : outcome (item r) = .ok (value, rest)) :
    ∃ later : rest.length ≤ start.length,
      elementsFrom item first done s bound = elementsFrom item false (value :: done) rest later := by
  obtain ⟨shorter, read⟩ := of_outcome read
  have smaller : rest.length < s.length := Nat.lt_of_lt_of_le shorter (length_nextElement_le next).1
  refine ⟨Nat.le_of_lt (Nat.lt_of_lt_of_le smaller bound), ?_⟩
  rw [elementsFrom]
  split <;> rename_i known <;> cases known.symm.trans next
  rw [read]

theorem elementsFrom_fault (done : List α) (bound : s.length ≤ start.length) (next : nextElement first s = .ok (true, r))
    {fault : Fault} (read : outcome (item r) = .error fault) : elementsFrom item first done s bound = .error fault := by
  rw [elementsFrom]
  split <;> rename_i known <;> cases known.symm.trans next
  rw [of_outcome_error read]

theorem elementsFrom_end (done : List α) (bound : s.length ≤ start.length) (next : nextElement first s = .ok (false, r)) :
    outcome (elementsFrom item first done s bound) = .ok (done.reverse, r) := by
  rw [elementsFrom]
  split <;> rename_i known <;> cases known.symm.trans next
  rfl

variable {β : Type} {text : β → List Char} {answer : β → Except Fault α}

theorem outcome_elementsFrom {parts : List β} (each : ∀ part ∈ parts, Reads item (text part) (answer part))
    (done : List α) (bound : s.length ≤ start.length) (next : nextElement first s = .ok (listHead (parts.map text) rest)) :
    outcome (elementsFrom item first done s bound) =
      (parts.mapM answer).map fun values => (done.reverse ++ values, rest) := by
  induction parts generalizing first done s with
  | nil =>
    rw [elementsFrom_end done bound next]
    simp [Except.map, pure, Except.pure]
  | cons part parts ih =>
    obtain ⟨here, others⟩ := List.forall_mem_cons.mp each
    have read := here.answers _ (ends_listed (parts.map text) (.inl rfl) rest)
    rw [List.mapM_cons]
    cases given : answer part with
    | error fault =>
      rw [given] at read
      rw [elementsFrom_fault done bound next read]
      rfl
    | ok value =>
      rw [given] at read
      obtain ⟨later, step⟩ := elementsFrom_step done bound next read
      have more := nextElement_listed (List.forall_mem_map.mpr fun part member => (others part member).begins) rest
      rw [step, ih others _ later more]
      cases parts.mapM answer <;> simp [Except.map, bind, Except.bind, pure, Except.pure]

/-- A list is read element by element, up to the first one that is not readable. -/
theorem outcome_elements {parts : List β} (each : ∀ part ∈ parts, Reads item (text part) (answer part)) (rest : Input) :
    outcome (elements item ((separated (parts.map text)).map some ++ some ']' :: rest)) =
      (parts.mapM answer).map (·, rest) := by
  have begin := List.forall_mem_map.mpr fun part member => (each part member).begins
  exact outcome_elementsFrom each [] (length_le_self _) (nextElement_separated begin rest)

end Elements

section Members

variable {σ : Type} {member : σ → String → Except Fault (Reader σ)} {first : Bool} {s rest start : Input}

theorem outcome_colon (rest : Input) : outcome (colon (some ':' :: rest)) = .ok ((), rest) := rfl

/-- Whether there is a first among some fields: its key and what stands behind it. -/
def objectHead (fields : List (String × Value)) (rest : Input) : Option String × Input :=
  match fields with
  | [] => (none, rest)
  | (key, value) :: fields =>
    (some key, some ':' :: (value.written.map some ++ listed (fields.map writtenField) '\x7d' rest))

theorem writtenField_append (key : String) (value : Value) (rest : Input) :
    (writtenField (key, value)).map some ++ rest =
      some '"' :: ((key.toList.flatMap writtenCharacter).map some ++ some '"' :: some ':' ::
        (value.written.map some ++ rest)) := by
  simp [writtenField, writtenString]

theorem nextKey_separated (fields : List (String × Value)) (rest : Input) :
    outcome (nextKey true ((separated (fields.map writtenField)).map some ++ some '\x7d' :: rest)) =
      .ok (objectHead fields rest) := by
  cases fields with
  | nil => rfl
  | cons field fields =>
    obtain ⟨key, value⟩ := field
    rw [List.map_cons, separated_cons, writtenField_append]
    obtain ⟨shorter, body⟩ := of_outcome (outcome_stringBody_written key
      (some ':' :: (value.written.map some ++ listed (fields.map writtenField) '\x7d' rest)))
    change outcome (Except.map _ (stringBody _)) = _
    rw [body]
    rfl

theorem nextKey_listed (fields : List (String × Value)) (rest : Input) :
    outcome (nextKey false (listed (fields.map writtenField) '\x7d' rest)) = .ok (objectHead fields rest) := by
  cases fields with
  | nil => rfl
  | cons field fields =>
    obtain ⟨key, value⟩ := field
    rw [List.map_cons, listed_cons, writtenField_append]
    obtain ⟨shorter, body⟩ := of_outcome (outcome_stringBody_written key
      (some ':' :: (value.written.map some ++ listed (fields.map writtenField) '\x7d' rest)))
    change outcome (Except.map _ (stringBody _)) = _
    rw [body]
    rfl

/-- What becomes of one field: it is refused, or its value is read. -/
def Answers (member : σ → String → Except Fault (Reader σ)) (state : σ) (field : String × Value) (answer : Except Fault σ) :
    Prop :=
  match member state field.1 with
  | .error fault => answer = .error fault
  | .ok read => Reads read field.2.written answer

theorem membersFrom_end (state : σ) (bound : s.length ≤ start.length) (next : outcome (nextKey first s) = .ok (none, rest)) :
    outcome (membersFrom member first state s bound) = .ok (state, rest) := by
  obtain ⟨shorter, next⟩ := of_outcome next
  rw [membersFrom, next]
  rfl

theorem membersFrom_step {state next : σ} {key : String} {value : Value}
    (answers : Answers member state (key, value) (.ok next)) (ends : Ends rest) (bound : s.length ≤ start.length)
    (head : outcome (nextKey first s) = .ok (some key, some ':' :: (value.written.map some ++ rest))) :
    ∃ later : rest.length ≤ start.length,
      membersFrom member first state s bound = membersFrom member false next rest later := by
  obtain ⟨shorterKey, head⟩ := of_outcome head
  obtain ⟨shorterColon, colon⟩ := of_outcome (outcome_colon (value.written.map some ++ rest))
  cases chosen : member state key with
  | error fault =>
    simp only [Answers, chosen] at answers
    cases answers
  | ok read =>
    simp only [Answers, chosen] at answers
    obtain ⟨shorter, given⟩ := of_outcome (answers.answers rest ends)
    have smaller : rest.length < s.length := Nat.lt_trans shorter (Nat.lt_trans shorterColon shorterKey)
    refine ⟨Nat.le_of_lt (Nat.lt_of_lt_of_le smaller bound), ?_⟩
    rw [membersFrom, head]
    simp only [chosen, colon, given]

theorem membersFrom_fault {state : σ} {key : String} {value : Value} {fault : Fault}
    (answers : Answers member state (key, value) (.error fault)) (ends : Ends rest) (bound : s.length ≤ start.length)
    (head : outcome (nextKey first s) = .ok (some key, some ':' :: (value.written.map some ++ rest))) :
    membersFrom member first state s bound = .error fault := by
  obtain ⟨shorterKey, head⟩ := of_outcome head
  obtain ⟨shorterColon, colon⟩ := of_outcome (outcome_colon (value.written.map some ++ rest))
  rw [membersFrom, head]
  cases chosen : member state key with
  | error fault =>
    simp only [Answers, chosen] at answers
    cases answers
    simp only [chosen]
  | ok read =>
    simp only [Answers, chosen] at answers
    simp only [chosen, colon, of_outcome_error (answers.answers rest ends)]

variable {answer : σ → String × Value → Except Fault σ}

theorem outcome_membersFrom {fields : List (String × Value)} (state : σ)
    (each : ∀ state, ∀ field ∈ fields, Answers member state field (answer state field)) (bound : s.length ≤ start.length)
    (head : outcome (nextKey first s) = .ok (objectHead fields rest)) :
    outcome (membersFrom member first state s bound) = (fields.foldlM answer state).map (·, rest) := by
  induction fields generalizing first state s with
  | nil => exact membersFrom_end state bound head
  | cons field fields ih =>
    obtain ⟨key, value⟩ := field
    have here := each state (key, value) List.mem_cons_self
    have ends := ends_listed (fields.map writtenField) (.inr rfl) rest
    rw [List.foldlM_cons]
    cases given : answer state (key, value) with
    | error fault =>
      rw [given] at here
      rw [membersFrom_fault here ends bound head]
      rfl
    | ok next =>
      rw [given] at here
      obtain ⟨later, step⟩ := membersFrom_step here ends bound head
      rw [step, ih next (fun state field member => each state field (List.mem_cons_of_mem _ member)) later
        (nextKey_listed fields rest)]
      rfl

/-- An object is read field by field, up to the first one that is refused or not readable. -/
theorem outcome_members {fields : List (String × Value)} (state : σ)
    (each : ∀ state, ∀ field ∈ fields, Answers member state field (answer state field)) (rest : Input) :
    outcome (members member state ((separated (fields.map writtenField)).map some ++ some '\x7d' :: rest)) =
      (fields.foldlM answer state).map (·, rest) :=
  outcome_membersFrom state each (length_le_self _) (nextKey_separated fields rest)

end Members

end ScriptureMarkup.Json
