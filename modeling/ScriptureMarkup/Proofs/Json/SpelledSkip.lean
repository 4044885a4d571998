import ScriptureMarkup.Proofs.Json.Means

/-!
Values that are passed over. Each spelling of a value is passed over, however deep its brackets lie, and
nothing else is.
-/

namespace ScriptureMarkup.Json

section Keys

variable {key : Option String} {s t r : Input}

/-- A key that is spelled is passed over. -/
theorem Key.form (spelled : Key key s r) : outcome (keyForm s) = .ok ((), r) := by
  cases spelled with
  | mk blanks quoted colon =>
    obtain ⟨shorter, form⟩ := of_outcome (quoted.form (length_le_self _))
    rw [keyForm]
    split <;> rename_i here
    · cases here.symm.trans (blanks.skip_cons rfl)
    · cases here.symm.trans (blanks.skip_cons rfl)
      simp only [form]
      rw [outcome_widen]
      exact outcome_colon_behind colon
    · exact absurd (blanks.skip_cons rfl) (here _)

theorem key_of_keyForm (form : outcome (keyForm s) = .ok ((), r)) : ∃ key, Key key s r := by
  rw [keyForm] at form
  split at form
  · cases form
  · rename_i here
    split at form
    · cases form
    · rename_i found
      rw [outcome_widen] at form
      obtain ⟨parts, quoted⟩ := quoted_of_stringForm _ (congrArg outcome found)
      exact ⟨_, .mk (blanks_of_skip here) quoted (blanks_of_colon form)⟩
  · cases form

/-- What a key begins with. -/
theorem Key.head (spelled : Key key s r) : ∃ t, skipBlanks s = some '"' :: t ∧ Key key (skipBlanks s) r := by
  cases spelled with
  | mk blanks quoted colon =>
    have here := blanks.skip_cons rfl
    exact ⟨_, here, here ▸ .mk (.nil _) quoted colon⟩

end Keys

/-- The rest of a list or of an object, from behind its bracket or from behind an element. -/
def RestOf (first : Bool) : Bracket → Input → Input → Prop
  | .square, s, r => ∃ items, Spells (.items first items) s r
  | .curly, s, r => ∃ members, Spells (.members first members) s r

/-- An element of a list or of an object. -/
def ElementOf : Bracket → Input → Input → Prop
  | .square, s, r => ∃ tree, Spells (.value tree) s r
  | .curly, s, r => ∃ key t tree, Key key s t ∧ Spells (.value tree) t r

section Brackets

variable {first : Bool} {bracket : Bracket} {s t u r : Input}

theorem RestOf.close (blanks : Blanks s (some bracket.closing :: r)) : RestOf first bracket s r := by
  cases bracket with
  | square => exact ⟨[], .closeArray blanks⟩
  | curly => exact ⟨[], .closeObject blanks⟩

theorem RestOf.element (comma : Comma first s t) (element : ElementOf bracket t u) (later : RestOf false bracket u r) :
    RestOf first bracket s r := by
  cases bracket with
  | square =>
    obtain ⟨tree, value⟩ := element
    obtain ⟨items, later⟩ := later
    exact ⟨tree :: items, .item comma value later⟩
  | curly =>
    obtain ⟨key, _, tree, key, value⟩ := element
    obtain ⟨members, later⟩ := later
    exact ⟨_, .member comma key value later⟩

theorem ElementOf.behind_blanks (element : ElementOf bracket t r) (blanks : Blanks s t) : ElementOf bracket s r := by
  cases bracket with
  | square =>
    obtain ⟨tree, value⟩ := element
    exact ⟨tree, value.behind_blanks blanks⟩
  | curly =>
    obtain ⟨key, u, tree, ⟨more, quoted, colon⟩, value⟩ := element
    exact ⟨_, u, tree, .mk (blanks.trans more) quoted colon, value⟩

end Brackets

/-- What stands behind a value where brackets are open: the rest of each of them. -/
def Resumes : List Bracket → Input → Input → Prop
  | [], s, r => s = r
  | bracket :: outer, s, r => ∃ t, RestOf false bracket s t ∧ Resumes outer t r

/-- What stands where something is expected. -/
def Resolves : Expecting → List Bracket → Input → Input → Prop
  | .value, opened, s, r => ∃ tree t, Spells (.value tree) s t ∧ Resumes opened t r
  | .element bracket, opened, s, r => ∃ t, ElementOf bracket s t ∧ Resumes (bracket :: opened) t r
  | .first bracket, opened, s, r => ∃ t, RestOf true bracket s t ∧ Resumes opened t r
  | .next, opened, s, r => Resumes opened s r

/-- Whatever is passed over is what has been expected. -/
theorem resolves_of_skipFrom {start s r : Input} {expecting : Expecting} {opened : List Bracket}
    {bound : s.length + expecting.begun ≤ start.length}
    (skipped : outcome (skipFrom expecting opened s bound) = .ok ((), r)) :
    Resolves expecting opened s r := by
  fun_induction skipFrom expecting opened s bound with
  | case1 | case4 | case7 | case9 | case13 | case16 => cases skipped
  | case2 opened s _ _ t _ here ih =>
    obtain ⟨u, ⟨items, inside⟩, later⟩ := ih skipped
    exact ⟨.array items, u, .array (blanks_of_skip here) inside, later⟩
  | case3 opened s _ _ t _ here _ ih =>
    obtain ⟨u, ⟨members, inside⟩, later⟩ := ih skipped
    exact ⟨.object members, u, .object (blanks_of_skip here) inside, later⟩
  | case5 opened s _ _ symbol t here _ _ _ rest shorter form _ ih =>
    obtain ⟨meaning, literal⟩ := literal_of_scalarForm (congrArg outcome form)
    exact ⟨.scalar meaning, rest, .scalar (blanks_of_skip here) literal, ih skipped⟩
  | case6 opened s _ _ _ ih =>
    obtain ⟨tree, t, value, later⟩ := ih skipped
    exact ⟨t, ⟨tree, value⟩, later⟩
  | case8 opened s _ _ _ rest shorter form _ ih =>
    obtain ⟨key, spelled⟩ := key_of_keyForm (congrArg outcome form)
    obtain ⟨tree, t, value, later⟩ := ih skipped
    exact ⟨t, ⟨key, rest, tree, spelled, value⟩, later⟩
  | case10 opened s _ bracket _ t _ here ih => exact ⟨t, .close (blanks_of_skip here), ih skipped⟩
  | case11 opened s _ bracket _ symbol t here _ _ ih =>
    obtain ⟨u, element, v, rest, later⟩ := ih skipped
    exact ⟨v, .element (.first s) (element.behind_blanks (blanks_of_skip here)) rest, later⟩
  | case12 =>
    cases skipped
    rfl
  | case14 s _ _ bracket outer _ t _ here ih =>
    obtain ⟨u, element, v, rest, later⟩ := ih skipped
    exact ⟨v, .element (.behind (blanks_of_skip here)) element rest, later⟩
  | case15 s _ _ bracket outer _ t _ here _ ih => exact ⟨t, .close (blanks_of_skip here), ih skipped⟩

/-- What is expected where the rest of a list or of an object stands, and the brackets that are open there. -/
def expectingRest (first : Bool) (bracket : Bracket) (opened : List Bracket) : Expecting × List Bracket :=
  if first then (.first bracket, opened) else (.next, bracket :: opened)

/-- What is expected where a phrase stands, and the brackets that are open there. -/
def Phrase.expecting (opened : List Bracket) : Phrase → Expecting × List Bracket
  | .value _ => (.value, opened)
  | .items first _ => expectingRest first .square opened
  | .members first _ => expectingRest first .curly opened

section Skip

variable {start s t u r : Input} {opened : List Bracket} {bracket : Bracket} {first : Bool} {symbol : Option Char}

theorem skipFrom_first (here : skipBlanks s = symbol :: t)
    (bound : s.length + (Expecting.first bracket).begun ≤ start.length) :
    skipFrom (.first bracket) opened s bound =
      if symbol = some bracket.closing then @skipFrom start .next opened t (length_lt_behind here bound)
      else @skipFrom start (.element bracket) opened (symbol :: t) (length_lt_behind here bound) := by
  conv => lhs; rw [skipFrom.eq_def]
  dsimp only
  split <;> rename_i found <;> cases found.symm.trans here
  rfl

theorem skipFrom_next (here : skipBlanks s = symbol :: t) (bound : s.length + Expecting.next.begun ≤ start.length) :
    skipFrom .next (bracket :: opened) s bound =
      if symbol = some ',' then
        @skipFrom start (.element bracket) opened t (length_le_behind here (length_le_of_lt bound))
      else if symbol = some bracket.closing then
        @skipFrom start .next opened t (length_lt_behind here (length_le_of_lt bound))
      else .error bracket.expectedComma := by
  conv => lhs; rw [skipFrom.eq_def]
  dsimp only
  split <;> rename_i found <;> cases found.symm.trans here
  rfl

theorem skipFrom_close (blanks : Blanks s (some bracket.closing :: r))
    (bound : s.length + (expectingRest first bracket opened).1.begun ≤ start.length) :
    ∃ later, skipFrom (expectingRest first bracket opened).1 (expectingRest first bracket opened).2 s bound =
      @skipFrom start .next opened r later := by
  have visible : isBlank bracket.closing = false := by cases bracket <;> rfl
  have noComma : some bracket.closing ≠ some ',' := by cases bracket <;> decide
  have here := blanks.skip_cons visible
  cases first with
  | true => exact ⟨_, (skipFrom_first here bound).trans (if_pos rfl)⟩
  | false => exact ⟨_, (skipFrom_next here bound).trans ((if_neg noComma).trans (if_pos rfl))⟩

/-- Behind its comma an element is expected, perhaps behind the blanks in front of it. -/
theorem skipFrom_comma (bracket : Bracket) (comma : Comma first s t) (here : skipBlanks t = symbol :: u)
    (other : symbol ≠ some bracket.closing)
    (bound : s.length + (expectingRest first bracket opened).1.begun ≤ start.length) :
    t.length ≤ start.length ∧ ∃ v later, (v = t ∨ v = skipBlanks t) ∧
      skipFrom (expectingRest first bracket opened).1 (expectingRest first bracket opened).2 s bound =
        @skipFrom start (.element bracket) opened v later := by
  cases comma with
  | first => exact ⟨bound, _, _, .inr here.symm, (skipFrom_first here bound).trans (if_neg other)⟩
  | behind blanks =>
    have here := blanks.skip_cons rfl
    exact ⟨length_le_behind here (length_le_of_lt bound), t, _, .inl rfl, (skipFrom_next here bound).trans (if_pos rfl)⟩

/-- Blanks in front of a value change nothing. -/
theorem skipFrom_value_congr (same : skipBlanks s = skipBlanks t) (bound : s.length + Expecting.value.begun ≤ start.length)
    (bound' : t.length + Expecting.value.begun ≤ start.length) :
    skipFrom .value opened s bound = @skipFrom start .value opened t bound' := by
  conv => lhs; rw [skipFrom.eq_def]
  dsimp only
  split <;> rename_i here <;> symm <;> conv => lhs; rw [skipFrom.eq_def]
  all_goals
    dsimp only
    split <;> rename_i there <;> cases here.symm.trans (same.trans there)
    rfl

theorem skipFrom_array (here : skipBlanks s = some '[' :: t) (bound : s.length + Expecting.value.begun ≤ start.length) :
    skipFrom .value opened s bound =
      @skipFrom start (.first .square) opened t (length_le_behind here bound) := by
  conv => lhs; rw [skipFrom.eq_def]
  dsimp only
  split <;> rename_i found <;> cases found.symm.trans here
  rw [if_pos rfl]

theorem skipFrom_object (here : skipBlanks s = some '\x7b' :: t) (bound : s.length + Expecting.value.begun ≤ start.length) :
    skipFrom .value opened s bound =
      @skipFrom start (.first .curly) opened t (length_le_behind here bound) := by
  conv => lhs; rw [skipFrom.eq_def]
  dsimp only
  split <;> rename_i found <;> cases found.symm.trans here
  rw [if_neg (by decide), if_pos rfl]

theorem skipFrom_scalar {c : Char} {shorter : r.length < (some c :: t).length} (here : skipBlanks s = some c :: t)
    (list : c ≠ '[') (object : c ≠ '\x7b') (form : scalarForm (some c :: t) = .ok ⟨(), r, shorter⟩)
    (bound : s.length + Expecting.value.begun ≤ start.length) :
    skipFrom .value opened s bound = @skipFrom start .next opened r (length_lt_scanned here shorter bound) := by
  conv => lhs; rw [skipFrom.eq_def]
  dsimp only
  split <;> rename_i found <;> cases found.symm.trans here
  rw [if_neg (fun same => list (Option.some.inj same)), if_neg (fun same => object (Option.some.inj same))]
  simp only [form]

theorem skipFrom_element_square (bound : s.length + (Expecting.element .square).begun ≤ start.length) :
    skipFrom (.element .square) opened s bound = @skipFrom start .value (.square :: opened) s bound := by
  conv => lhs; rw [skipFrom.eq_def]

theorem skipFrom_element_curly {shorter : r.length < s.length} (form : keyForm s = .ok ⟨(), r, shorter⟩)
    (bound : s.length + (Expecting.element .curly).begun ≤ start.length) :
    skipFrom (.element .curly) opened s bound =
      @skipFrom start .value (.curly :: opened) r (length_le_of_shorter shorter bound) := by
  conv => lhs; rw [skipFrom.eq_def]
  dsimp only
  simp only [form]

/-- Whatever is spelled is passed over where it is expected. -/
theorem skipFrom_spelled {phrase : Phrase} (spelled : Spells phrase s r) (delimited : Delimited r) (opened : List Bracket)
    (bound : s.length + (phrase.expecting opened).1.begun ≤ start.length) :
    ∃ later, skipFrom (phrase.expecting opened).1 (phrase.expecting opened).2 s bound =
      @skipFrom start .next opened r later := by
  induction spelled generalizing opened with
  | scalar blanks literal =>
    obtain ⟨shorter, form⟩ := of_outcome (literal.form delimited)
    obtain ⟨c, t, rfl, visible, list, _, object, _⟩ := literal.head
    exact ⟨_, skipFrom_scalar (blanks.skip_cons visible) list object form bound⟩
  | array blanks _ inside =>
    have here := blanks.skip_cons rfl
    obtain ⟨later, skipped⟩ := inside delimited opened (length_le_behind here bound)
    exact ⟨later, (skipFrom_array here bound).trans skipped⟩
  | object blanks _ inside =>
    have here := blanks.skip_cons rfl
    obtain ⟨later, skipped⟩ := inside delimited opened (length_le_behind here bound)
    exact ⟨later, (skipFrom_object here bound).trans skipped⟩
  | closeArray blanks => exact skipFrom_close blanks bound
  | closeObject blanks => exact skipFrom_close blanks bound
  | @item first item items s t u r comma value later skipValue skipLater =>
    have ends := later.delimited_items
    obtain ⟨c, w, here, _, bracket, _⟩ := value.head
    obtain ⟨within, v, bound, place, behind⟩ :=
      skipFrom_comma .square comma here (fun same => bracket (Option.some.inj same)) bound
    have same : skipBlanks v = skipBlanks t := by
      rcases place with rfl | rfl
      · rfl
      · exact (blanks_skipBlanks t).skip.symm
    obtain ⟨after, skipped⟩ := skipValue ends (.square :: opened) within
    obtain ⟨last, rest⟩ := skipLater delimited opened after
    exact ⟨last, calc
      skipFrom (expectingRest first .square opened).1 (expectingRest first .square opened).2 s _
      _ = skipFrom (.element .square) opened v bound := behind
      _ = skipFrom .value (.square :: opened) v bound := skipFrom_element_square bound
      _ = skipFrom .value (.square :: opened) t within := skipFrom_value_congr same _ _
      _ = skipFrom .next (.square :: opened) u after := skipped
      _ = skipFrom .next opened r last := rest⟩
  | @member first key tree members s t u v r comma spelled value later skipValue skipLater =>
    have ends := later.delimited_members
    obtain ⟨_, here, visible⟩ := spelled.head
    obtain ⟨within, w, bound, place, behind⟩ := skipFrom_comma .curly comma here (by decide) bound
    have form : outcome (keyForm w) = .ok ((), u) := by
      rcases place with rfl | rfl
      · exact spelled.form
      · exact visible.form
    obtain ⟨shorter, form⟩ := of_outcome form
    obtain ⟨after, skipped⟩ := skipValue ends (.curly :: opened) (length_le_of_shorter shorter bound)
    obtain ⟨last, rest⟩ := skipLater delimited opened after
    exact ⟨last, calc
      skipFrom (expectingRest first .curly opened).1 (expectingRest first .curly opened).2 s _
      _ = skipFrom (.element .curly) opened w bound := behind
      _ = skipFrom .value (.curly :: opened) u _ := skipFrom_element_curly form bound
      _ = skipFrom .next (.curly :: opened) v after := skipped
      _ = skipFrom .next opened r last := rest⟩

/-- A value is passed over if it is spelled, whatever it means. -/
theorem means_skip : Means .value skip (fun _ => some ()) where
  sound {tree s r} spelled delimited := by
    obtain ⟨later, skipped⟩ := skipFrom_spelled spelled delimited [] (length_le_self s)
    have done : skipFrom .next [] r later = .ok ⟨(), r, later⟩ := by rw [skipFrom.eq_def]
    rw [result, skip]
    exact congrArg (fun ran => (outcome ran).toOption) (skipped.trans done)
  complete {_ s r} found := by
    obtain ⟨tree, t, value, rfl⟩ := resolves_of_skipFrom found
    exact ⟨tree, value, rfl⟩

end Skip

end ScriptureMarkup.Json
