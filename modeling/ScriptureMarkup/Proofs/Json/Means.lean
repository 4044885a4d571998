import ScriptureMarkup.Json.Collection
import ScriptureMarkup.Proofs.Json.Collections
import ScriptureMarkup.Proofs.Json.SpelledStrings

/-!
Readers of values, lists and objects by what they make of a tree. A reader that means something reads
each spelling of a tree as that, and reads nothing else.
-/

namespace ScriptureMarkup.Json

theorem toOption_map {α β : Type} (f : α → β) (x : Except Fault α) : (x.map f).toOption = x.toOption.map f := by
  cases x <;> rfl

theorem toOption_eq_some {α : Type} {x : Except Fault α} {a : α} : x.toOption = some a ↔ x = .ok a := by
  cases x <;> simp [Except.toOption]

theorem toOption_eq_none {α : Type} {x : Except Fault α} : x.toOption = none ↔ ∃ fault, x = .error fault := by
  cases x <;> simp [Except.toOption]

section Blanks

variable {s t r : Input}

theorem blanks_skipBlanks (s : Input) : Blanks s (skipBlanks s) := by
  induction s with
  | nil => exact .nil []
  | cons symbol s ih =>
    cases symbol with
    | none => exact .nil _
    | some c =>
      rw [skipBlanks]
      split
      · rename_i blank
        exact .cons blank ih
      · exact .nil _

theorem Blanks.skip (blanks : Blanks s t) : skipBlanks s = skipBlanks t := by
  induction blanks with
  | nil => rfl
  | cons blank _ ih => rw [skipBlanks, if_pos blank, ih]

theorem Blanks.skip_cons {c : Char} (blanks : Blanks s (some c :: t)) (visible : isBlank c = false) :
    skipBlanks s = some c :: t := by
  rw [blanks.skip, skipBlanks_cons visible]

theorem blanks_of_skip (here : skipBlanks s = t) : Blanks s t := here ▸ blanks_skipBlanks s

theorem Blanks.trans (blanks : Blanks s t) (more : Blanks t r) : Blanks s r := by
  induction blanks with
  | nil => exact more
  | cons blank _ ih => exact .cons blank (ih more)

theorem Blanks.delimited {c : Char} (blanks : Blanks s (some c :: t)) (ends : c = ',' ∨ c = ']' ∨ c = '\x7d') :
    Delimited s := by
  rintro symbol here
  cases blanks with
  | nil =>
    cases here
    exact ⟨c, rfl, .inr ends⟩
  | cons blank _ =>
    cases here
    exact ⟨_, rfl, .inl blank⟩

theorem Blanks.delimited_nil (blanks : Blanks s []) : Delimited s := by
  rintro symbol here
  cases blanks with
  | nil => cases here
  | cons blank _ =>
    cases here
    exact ⟨_, rfl, .inl blank⟩

end Blanks

section Phrases

variable {tree : Tree} {trees : List Tree} {members : List (Option String × Tree)} {first : Bool} {s t r : Input}

/-- What a value begins with. -/
theorem Spells.head (spelled : Spells (.value tree) s r) :
    ∃ c t, skipBlanks s = some c :: t ∧ isBlank c = false ∧ c ≠ ']' ∧ c ≠ '\x7d' := by
  cases spelled with
  | scalar blanks literal =>
    obtain ⟨c, t, rfl, visible, _, bracket, _, brace⟩ := literal.head
    exact ⟨c, t, blanks.skip_cons visible, visible, bracket, brace⟩
  | array blanks _ => exact ⟨_, _, blanks.skip_cons rfl, by decide⟩
  | object blanks _ => exact ⟨_, _, blanks.skip_cons rfl, by decide⟩

theorem Spells.behind_blanks (spelled : Spells (.value tree) t r) (blanks : Blanks s t) : Spells (.value tree) s r := by
  cases spelled with
  | scalar more literal => exact .scalar (blanks.trans more) literal
  | array more items => exact .array (blanks.trans more) items
  | object more members => exact .object (blanks.trans more) members

theorem Spells.from_visible (spelled : Spells (.value tree) s r) : Spells (.value tree) (skipBlanks s) r := by
  cases spelled with
  | scalar blanks literal =>
    obtain ⟨c, t, rfl, visible, _⟩ := literal.head
    rw [blanks.skip_cons visible]
    exact .scalar (.nil _) literal
  | array blanks items =>
    rw [blanks.skip_cons rfl]
    exact .array (.nil _) items
  | object blanks members =>
    rw [blanks.skip_cons rfl]
    exact .object (.nil _) members

theorem Spells.delimited_items (spelled : Spells (.items false trees) s r) : Delimited s := by
  cases spelled with
  | closeArray blanks => exact blanks.delimited (.inr (.inl rfl))
  | item comma _ _ =>
    cases comma with
    | behind blanks => exact blanks.delimited (.inl rfl)

theorem Spells.delimited_members (spelled : Spells (.members false members) s r) : Delimited s := by
  cases spelled with
  | closeObject blanks => exact blanks.delimited (.inr (.inr rfl))
  | member comma _ _ _ =>
    cases comma with
    | behind blanks => exact blanks.delimited (.inl rfl)

end Phrases

section Next

variable {tree : Tree} {key : Option String} {first : Bool} {s t u r : Input}

theorem nextElement_close (blanks : Blanks s (some ']' :: r)) : nextElement first s = .ok (false, r) := by
  simp only [nextElement, blanks.skip_cons rfl]

theorem nextElement_item (comma : Comma first s t) (spelled : Spells (.value tree) t r) :
    nextElement first s = .ok (true, skipBlanks t) := by
  obtain ⟨c, rest, head, visible, bracket, _⟩ := spelled.head
  cases comma with
  | first => simp [nextElement, head, bracket]
  | behind blanks => simp [nextElement, blanks.skip_cons rfl, head, bracket]

theorem blanks_of_nextElement (next : nextElement first s = .ok (false, r)) : Blanks s (some ']' :: r) := by
  rw [nextElement] at next
  split at next
  · cases next
  · rename_i here
    cases next
    exact blanks_of_skip here
  · split at next
    · cases next
    · split at next
      · split at next <;> cases next
      · cases next

theorem comma_of_nextElement (next : nextElement first s = .ok (true, r)) : ∃ t, Comma first s t ∧ skipBlanks t = r := by
  rw [nextElement] at next
  split at next
  · cases next
  · cases next
  · rename_i here
    split at next
    · rename_i isFirst
      cases next
      rw [isFirst]
      exact ⟨s, .first s, here⟩
    · rename_i notFirst
      rw [eq_false_of_ne_true notFirst]
      split at next
      · rename_i symbol
        split at next
        · cases next
        · cases next
        · cases next
          exact ⟨_, .behind (blanks_of_skip (symbol ▸ here)), rfl⟩
      · cases next

theorem nextKey_close (blanks : Blanks s (some '\x7d' :: r)) : outcome (nextKey first s) = .ok (none, r) := by
  rw [nextKey]
  split <;> rename_i here <;> cases here.symm.trans (blanks.skip_cons rfl)
  · rfl
  · contradiction

/-- A key is looked for behind its quote. -/
theorem nextKey_quote (comma : Comma first s t) (blanks : Blanks t (some '"' :: u)) :
    outcome (nextKey first s) = (outcome (stringBody u)).map fun found => (some found.1, found.2) := by
  rw [nextKey]
  cases comma with
  | first =>
    split <;> rename_i here <;> cases here.symm.trans (blanks.skip_cons rfl)
    simp only [if_true]
    cases stringBody u <;> rfl
  | behind more =>
    split <;> rename_i here <;> cases here.symm.trans (more.skip_cons rfl)
    simp only [if_true, Bool.false_eq_true, if_false]
    split
    · rename_i ended
      cases ended.symm.trans (blanks.skip_cons rfl)
    · rename_i quote
      cases quote.symm.trans (blanks.skip_cons rfl)
      cases stringBody u <;> rfl
    · rename_i brace
      cases brace.symm.trans (blanks.skip_cons rfl)
    · rename_i other _
      exact absurd (blanks.skip_cons rfl) (other u)

theorem body_of_key {text : Option String} (le : t.length ≤ s.length)
    (read : outcome ((stringBody t).map fun x => (x.map some).widen le) = .ok (text, r)) :
    ∃ body, text = some body ∧ outcome (stringBody t) = .ok (body, r) := by
  obtain ⟨shorter, ran⟩ := of_outcome read
  obtain ⟨⟨body, _, _⟩, found, ⟨⟩⟩ := ok_of_map ran
  exact ⟨body, rfl, congrArg outcome found⟩

/-- What is found where a key is looked for: the end of the object, or a key. -/
theorem found_of_nextKey {text : Option String} (next : outcome (nextKey first s) = .ok (text, r)) :
    (text = none ∧ Blanks s (some '\x7d' :: r)) ∨
      ∃ body t u, text = some body ∧ Comma first s t ∧ Blanks t (some '"' :: u) ∧
        outcome (stringBody u) = .ok (body, r) := by
  rw [nextKey] at next
  split at next
  · cases next
  · rename_i here
    cases next
    exact .inl ⟨rfl, blanks_of_skip here⟩
  · rename_i symbol u _ here
    split at next
    · rename_i isFirst
      subst isFirst
      split at next
      · rename_i quote
        obtain ⟨body, rfl, read⟩ := body_of_key _ next
        exact .inr ⟨body, s, u, rfl, .first s, blanks_of_skip (quote ▸ here), read⟩
      · cases next
    · rename_i notFirst
      rw [eq_false_of_ne_true notFirst]
      split at next
      · rename_i comma
        split at next
        · cases next
        · rename_i quote
          obtain ⟨body, rfl, read⟩ := body_of_key _ next
          exact .inr ⟨body, _, _, rfl, .behind (blanks_of_skip (comma ▸ here)), blanks_of_skip quote, read⟩
        · cases next
        · cases next
      · cases next

theorem outcome_colon_behind (blanks : Blanks s (some ':' :: r)) : outcome (colon s) = .ok ((), r) := by
  rw [colon]
  split <;> rename_i here <;> cases here.symm.trans (blanks.skip_cons rfl)
  rfl

theorem blanks_of_colon (read : outcome (colon s) = .ok ((), r)) : Blanks s (some ':' :: r) := by
  rw [colon] at read
  split at read
  · cases read
  · rename_i here
    split at read
    · rename_i colon
      cases read
      exact blanks_of_skip (colon ▸ here)
    · cases read

/-- A key that is spelled is read as the text it means, if it means one. -/
theorem Key.read (spelled : Key key t r) (comma : Comma first s t) :
    ∃ u, result (nextKey first s) = key.map (some ·, u) ∧ outcome (colon u) = .ok ((), r) := by
  cases spelled with
  | @mk parts _ t u _ blanks quoted colon =>
    refine ⟨u, ?_, outcome_colon_behind colon⟩
    have body := quoted.body
    rw [result] at body ⊢
    rw [nextKey_quote comma blanks, toOption_map, body, Option.map_map]
    rfl

/-- What is read as a key is one, and means what is read. -/
theorem key_of_nextKey {text : String} (next : outcome (nextKey first s) = .ok (some text, u))
    (behind : outcome (colon u) = .ok ((), r)) : ∃ t, Comma first s t ∧ Key (some text) t r := by
  obtain ⟨⟨⟩, _⟩ | ⟨body, t, v, ⟨⟩, comma, blanks, read⟩ := found_of_nextKey next
  obtain ⟨parts, quoted, means⟩ := quoted_of_stringBody read
  exact ⟨t, comma, means ▸ .mk blanks quoted (blanks_of_colon behind)⟩

end Next

/-- A reader that reads each spelling of a thing as what the thing means, and reads nothing else. What
comes next has to leave no doubt where a number ends. -/
structure Means {α β : Type} (phrase : β → Phrase) (read : Reader α) (meaning : β → Option α) : Prop where
  sound {x : β} {s r : Input} : Spells (phrase x) s r → Delimited r → result (read s) = (meaning x).map (·, r)
  complete {a : α} {s r : Input} : outcome (read s) = .ok (a, r) → ∃ x, Spells (phrase x) s r ∧ meaning x = some a

section Elements

variable {α : Type} {item : Reader α} {meaning : Tree → Option α} {first : Bool} {s r start : Input}

theorem result_elementsFrom (means : Means .value item meaning) {trees : List Tree}
    (spelled : Spells (.items first trees) s r) (done : List α) (bound : s.length ≤ start.length) :
    result (elementsFrom item first done s bound) = (trees.mapM meaning).map (done.reverse ++ ·, r) := by
  induction trees generalizing first done s with
  | nil =>
    cases spelled with
    | closeArray blanks =>
      rw [result, elementsFrom_end done bound (nextElement_close blanks)]
      simp [Except.toOption]
  | cons tree trees ih =>
    cases spelled with
    | item comma value later =>
      have next := nextElement_item comma value
      have read := means.sound value.from_visible later.delimited_items
      rw [List.mapM_cons]
      cases meant : meaning tree with
      | none =>
        rw [meant] at read
        obtain ⟨fault, read⟩ := toOption_eq_none.mp read
        rw [result, elementsFrom_fault done bound next read]
        rfl
      | some a =>
        rw [meant] at read
        obtain ⟨bound, step⟩ := elementsFrom_step done bound next (toOption_eq_some.mp read)
        rw [step, ih later]
        cases trees.mapM meaning <;> simp

theorem spells_of_elementsFrom (means : Means .value item meaning) {done : List α} {bound : s.length ≤ start.length}
    {values : List α} (read : outcome (elementsFrom item first done s bound) = .ok (values, r)) :
    ∃ trees more, Spells (.items first trees) s r ∧ trees.mapM meaning = some more ∧ values = done.reverse ++ more := by
  fun_induction elementsFrom item first done s bound with
  | case1 => cases read
  | case2 first done s bound rest next =>
    cases read
    exact ⟨[], [], .closeArray (blanks_of_nextElement next), rfl, (List.append_nil _).symm⟩
  | case3 => cases read
  | case4 first done s bound t next a u shorter here smaller ih =>
    obtain ⟨trees, more, later, meant, rfl⟩ := ih read
    obtain ⟨tree, value, means⟩ := means.complete (congrArg outcome here)
    obtain ⟨v, comma, rfl⟩ := comma_of_nextElement next
    refine ⟨tree :: trees, a :: more, .item comma (value.behind_blanks (blanks_skipBlanks v)) later, ?_, ?_⟩
    · rw [List.mapM_cons, means, meant]
      rfl
    · rw [List.reverse_cons, List.append_assoc, List.singleton_append]

/-- A list of things means a list of what they mean. -/
theorem Means.elements (means : Means .value item meaning) :
    Means (.items true) (elements item) (List.mapM meaning) where
  sound spelled _ := result_elementsFrom means spelled [] (length_le_self _)
  complete read := by
    obtain ⟨trees, more, spelled, meant, rfl⟩ := spells_of_elementsFrom means read
    exact ⟨trees, spelled, meant⟩

end Elements

section Members

variable {σ : Type} {member : σ → String → Except Fault (Reader σ)} {step : σ → String → Tree → Option σ} {first : Bool}
  {s r start : Input}

/-- What a key decides on means what the value behind it does to the state. -/
def MeansMember (member : σ → String → Except Fault (Reader σ)) (step : σ → String → Tree → Option σ) : Prop :=
  ∀ state key, match member state key with
    | .error _ => ∀ tree, step state key tree = none
    | .ok read => Means .value read (step state key)

/-- What members do to a state. -/
def foldMembers (step : σ → String → Tree → Option σ) (state : σ) (members : List (Option String × Tree)) : Option σ :=
  members.foldlM (fun state member => member.1.bind fun key => step state key member.2) state

theorem result_membersFrom (means : MeansMember member step) {trees : List (Option String × Tree)}
    (spelled : Spells (.members first trees) s r) (state : σ) (bound : s.length ≤ start.length) :
    result (membersFrom member first state s bound) = (foldMembers step state trees).map (·, r) := by
  induction trees generalizing first state s with
  | nil =>
    cases spelled with
    | closeObject blanks =>
      rw [result, membersFrom_end state bound (nextKey_close blanks)]
      rfl
  | cons tree trees ih =>
    cases spelled with
    | @member _ key tree _ _ t u v _ comma spelled value later =>
      obtain ⟨w, next, colon⟩ := spelled.read comma
      rw [foldMembers, List.foldlM_cons]
      cases key with
      | none =>
        obtain ⟨fault, next⟩ := toOption_eq_none.mp next
        rw [membersFrom, of_outcome_error next]
        rfl
      | some key =>
        obtain ⟨shorterKey, next⟩ := of_outcome (toOption_eq_some.mp next)
        obtain ⟨shorterColon, colon⟩ := of_outcome colon
        have here := means state key
        rw [membersFrom, next]
        cases chosen : member state key with
        | error fault =>
          rw [chosen] at here
          simp only [chosen, Option.bind_some, here tree]
          rfl
        | ok read =>
          rw [chosen] at here
          have read := here.sound value later.delimited_members
          simp only [chosen, colon, Option.bind_some]
          cases done : step state key tree with
          | none =>
            rw [done] at read
            obtain ⟨fault, read⟩ := toOption_eq_none.mp read
            rw [of_outcome_error read]
            rfl
          | some next =>
            rw [done] at read
            obtain ⟨shorter, read⟩ := of_outcome (toOption_eq_some.mp read)
            rw [read]
            exact ih later next _

theorem spells_of_membersFrom (means : MeansMember member step) {state last : σ} {bound : s.length ≤ start.length}
    (read : outcome (membersFrom member first state s bound) = .ok (last, r)) :
    ∃ trees, Spells (.members first trees) s r ∧ foldMembers step state trees = some last := by
  fun_induction membersFrom member first state s bound with
  | case1 => cases read
  | case2 first state s bound rest shorter next =>
    cases read
    obtain ⟨_, blanks⟩ | ⟨_, _, _, ⟨⟩, _⟩ := found_of_nextKey (congrArg outcome next)
    exact ⟨[], .closeObject blanks, rfl⟩
  | case3 => cases read
  | case4 => cases read
  | case5 => cases read
  | case6 first state s bound key afterKey shorterKey next value chosen _ afterColon shorterColon colon middle rest shorter
      here smaller ih =>
    obtain ⟨trees, later, meant⟩ := ih read
    have each := means state key
    rw [chosen] at each
    obtain ⟨tree, value, done⟩ := each.complete (congrArg outcome here)
    obtain ⟨t, comma, spelled⟩ := key_of_nextKey (congrArg outcome next) (congrArg outcome colon)
    refine ⟨(some key, tree) :: trees, .member comma spelled value later, ?_⟩
    rw [foldMembers, List.foldlM_cons, Option.bind_some, done]
    exact meant

/-- Members mean what they do to the state, one after the other. -/
theorem Means.members (means : MeansMember member step) (state : σ) :
    Means (.members true) (members member state) (foldMembers step state) where
  sound spelled _ := result_membersFrom means spelled state (length_le_self _)
  complete read := spells_of_membersFrom means read

end Members

end ScriptureMarkup.Json
