import ScriptureMarkup.Proofs.Json.Means
import ScriptureMarkup.Proofs.Json.ReadBack

/-!
What lists, objects and whole values mean.
-/

namespace ScriptureMarkup.Json

variable {α β γ : Type}

/-- What becomes of several things if something becomes of each. -/
theorem mapM_eq (f : α → Option β) (l : List α) :
    l.mapM f = if l.all fun a => (f a).isSome then some (l.filterMap f) else none := by
  induction l with
  | nil => rfl
  | cons a l ih =>
    rw [List.mapM_cons, ih, List.all_cons, List.filterMap_cons]
    cases f a with
    | none => rfl
    | some b => cases l.all fun a => (f a).isSome <;> rfl

theorem mapM_congr {f g : α → Option β} {l : List α} (same : ∀ a ∈ l, f a = g a) : l.mapM f = l.mapM g := by
  induction l with
  | nil => rfl
  | cons a l ih =>
    obtain ⟨here, later⟩ := List.forall_mem_cons.mp same
    rw [List.mapM_cons, List.mapM_cons, here, ih later]

theorem mem_of_mapM {f : α → Option β} {l : List α} {made : List β} (done : l.mapM f = some made) {b : β}
    (member : b ∈ made) :
    ∃ a ∈ l, f a = some b := by
  rw [mapM_eq] at done
  split at done <;> cases done
  exact List.mem_filterMap.mp member

namespace Means

variable {phrase : β → Phrase} {read : Reader α} {meaning : β → Option α}

theorem map (means : Means phrase read meaning) (f : α → γ) :
    Means phrase (fun s => (read s).map (·.map f)) (fun x => (meaning x).map f) where
  sound {x s r} spelled delimited := by
    have here := means.sound spelled delimited
    rw [result] at here ⊢
    rw [outcome_map, toOption_map, here]
    cases meaning x <;> rfl
  complete found := by
    rw [outcome_map] at found
    obtain ⟨⟨a, rest⟩, ran, ⟨⟩⟩ := ok_of_map found
    obtain ⟨x, spelled, meant⟩ := means.complete ran
    exact ⟨x, spelled, by rw [meant]; rfl⟩

/-- What is made of a reading in the end. -/
theorem finishing (means : Means phrase read meaning) (finish : α → Except Fault γ) :
    Means phrase (fun s => read s >>= Layout.finishing finish) (fun x => (meaning x).bind fun a => (finish a).toOption) where
  sound {x s r} spelled delimited := by
    have here := means.sound spelled delimited
    cases meant : meaning x with
    | none =>
      rw [meant] at here
      obtain ⟨fault, here⟩ := toOption_eq_none.mp here
      rw [of_outcome_error here]
      rfl
    | some a =>
      rw [meant] at here
      obtain ⟨shorter, here⟩ := of_outcome (toOption_eq_some.mp here)
      rw [here]
      change (outcome ((finish a).map _)).toOption = (finish a).toOption.map _
      cases finish a <;> rfl
  complete {a s r} found := by
    cases here : read s with
    | error fault =>
      rw [here] at found
      cases found
    | ok y =>
      rw [here] at found
      obtain ⟨shorter, ran⟩ := @of_outcome _ _ (Layout.finishing finish y) _ _ found
      obtain ⟨b, finished, ⟨⟩⟩ := ok_of_map ran
      obtain ⟨x, spelled, meant⟩ := means.complete (congrArg outcome here)
      exact ⟨x, spelled, by rw [meant]; exact congrArg Except.toOption finished⟩

end Means

namespace Tree

/-- What a list means by its elements, and nothing else means anything. -/
def arrayOf (inside : List Tree → Option α) : Tree → Option α
  | .array items => inside items
  | _ => none

/-- What an object means by its members, and nothing else means anything. -/
def objectOf (inside : List (Option String × Tree) → Option α) : Tree → Option α
  | .object members => inside members
  | _ => none

/-- A member by its key and what its value means. -/
def entryOf (part : Tree → Option α) (member : Option String × Tree) : Option (String × α) :=
  member.1.bind fun key => (part member.2).map (key, ·)

/-- The value that is kept of a tree, by what its elements or its members come to. -/
def valueOf (list : List Tree → Option (List Value))
    (object : List (Option String × Tree) → Option (List (String × Value))) :
    Tree → Option Value
  | .scalar meaning => meaning.map .scalar
  | .array items => (list items).map .array
  | .object members => (object members).map .object

/-- The fields of an object, each key once: the last of several members with one key stays. -/
def fieldsOf (part : Tree → Option α) (members : List (Option String × Tree)) : Option (List (String × α)) :=
  (members.mapM (entryOf part)).map Text.inKeyOrder

/-- The value that is kept of a tree in which at most `depth` lists and objects lie in each other. -/
def value : Nat → Tree → Option Value
  | 0 => valueOf (fun _ => none) (fun _ => none)
  | depth + 1 => valueOf (List.mapM (value depth)) (fieldsOf (value depth))

end Tree

section Brackets

variable {s t r : Input} {tree : Tree}

/-- What a reader of values sees of a spelling: a scalar, or the bracket of a list or of an object. -/
theorem Spells.seen (spelled : Spells (.value tree) s r) :
    (∃ meaning c t, tree = .scalar meaning ∧ skipBlanks s = some c :: t ∧ Literal meaning (some c :: t) r ∧ c ≠ '[' ∧
      c ≠ '\x7b') ∨
    (∃ items t, tree = .array items ∧ skipBlanks s = some '[' :: t ∧ Spells (.items true items) t r) ∨
    ∃ members t, tree = .object members ∧ skipBlanks s = some '\x7b' :: t ∧ Spells (.members true members) t r := by
  cases spelled with
  | scalar blanks literal =>
    obtain ⟨c, t, rfl, visible, list, _, object, _⟩ := literal.head
    exact .inl ⟨_, c, t, rfl, blanks.skip_cons visible, literal, list, object⟩
  | array blanks items => exact .inr (.inl ⟨_, _, rfl, blanks.skip_cons rfl, items⟩)
  | object blanks members => exact .inr (.inr ⟨_, _, rfl, blanks.skip_cons rfl, members⟩)

/-- What is read behind a bracket. -/
def insideOf (inside : Option (Reader α)) : Reader α := inside.getD fun _ => .error .tooDeep

theorem outcome_opened_eq (inside : Option (Reader α)) (bracket : Option Char) (s : Input) :
    outcome (opened inside bracket s) = outcome (insideOf inside s) := by
  cases inside with
  | none => rfl
  | some read => exact outcome_opened read bracket s

theorem outcome_arrayOf_bracket (item : Option (Reader α)) (here : skipBlanks s = some '[' :: t) :
    outcome (arrayOf item s) = outcome (insideOf (item.map elements) t) := by
  rw [arrayOf, outcome_afterBlanks, here]
  exact outcome_opened_eq _ _ _

theorem outcome_arrayOf_other (item : Option (Reader α)) (other : ∀ t, skipBlanks s ≠ some '[' :: t) :
    outcome (arrayOf item s) = .error (refusal .sequence (skipBlanks s)) := by
  rw [arrayOf, outcome_afterBlanks]
  generalize skipBlanks s = t at other ⊢
  split
  · exact absurd rfl (other _)
  · rfl

theorem outcome_objectOf_brace (wanted : Wanted) (inside : Option (Reader α)) (here : skipBlanks s = some '\x7b' :: t) :
    outcome (objectOf wanted inside s) = outcome (insideOf inside t) := by
  rw [objectOf, outcome_afterBlanks, here]
  exact outcome_opened_eq _ _ _

theorem outcome_objectOf_other (wanted : Wanted) (inside : Option (Reader α))
    (other : ∀ t, skipBlanks s ≠ some '\x7b' :: t) :
    outcome (objectOf wanted inside s) = .error (refusal wanted (skipBlanks s)) := by
  rw [objectOf, outcome_afterBlanks]
  generalize skipBlanks s = t at other ⊢
  split
  · exact absurd rfl (other _)
  · rfl

theorem ne_of_head {c other : Char} (here : skipBlanks s = some c :: t) (ne : c ≠ other) (u : Input) :
    skipBlanks s ≠ some other :: u := by
  rw [here]
  rintro ⟨⟩
  exact ne rfl

namespace Means

/-- Nothing is read where no more brackets may be opened. -/
theorem tooDeep (phrase : β → Phrase) : Means phrase (insideOf (none : Option (Reader α))) (fun _ => none) where
  sound _ _ := rfl
  complete := by rintro _ _ _ ⟨⟩

/-- A list is read from behind its bracket, everything else is refused. -/
theorem arrayOf {item : Option (Reader α)} {meaning : List Tree → Option (List α)}
    (means : Means (.items true) (insideOf (item.map Json.elements)) meaning) :
    Means .value (arrayOf item) (Tree.arrayOf meaning) where
  sound {tree s r} spelled delimited := by
    rw [result]
    obtain ⟨_, c, t, rfl, here, _, other, _⟩ | ⟨items, t, rfl, here, inside⟩ | ⟨members, t, rfl, here, _⟩ := spelled.seen
    · rw [outcome_arrayOf_other _ (ne_of_head here other)]
      rfl
    · rw [outcome_arrayOf_bracket _ here]
      exact means.sound inside delimited
    · rw [outcome_arrayOf_other _ (ne_of_head here (by decide))]
      rfl
  complete {a s r} found := by
    by_cases bracket : ∃ t, skipBlanks s = some '[' :: t
    · obtain ⟨t, here⟩ := bracket
      rw [outcome_arrayOf_bracket _ here] at found
      obtain ⟨items, inside, meant⟩ := means.complete found
      exact ⟨.array items, .array (blanks_of_skip here) inside, meant⟩
    · rw [outcome_arrayOf_other _ (not_exists.mp bracket)] at found
      cases found

/-- An object is read from behind its brace, everything else is refused. -/
theorem objectOf {wanted : Wanted} {inside : Option (Reader α)} {meaning : List (Option String × Tree) → Option α}
    (means : Means (.members true) (insideOf inside) meaning) :
    Means .value (objectOf wanted inside) (Tree.objectOf meaning) where
  sound {tree s r} spelled delimited := by
    rw [result]
    obtain ⟨_, c, t, rfl, here, _, _, other⟩ | ⟨items, t, rfl, here, _⟩ | ⟨members, t, rfl, here, inside⟩ := spelled.seen
    · rw [outcome_objectOf_other _ _ (ne_of_head here other)]
      rfl
    · rw [outcome_objectOf_other _ _ (ne_of_head here (by decide))]
      rfl
    · rw [outcome_objectOf_brace _ _ here]
      exact means.sound inside delimited
  complete {a s r} found := by
    by_cases brace : ∃ t, skipBlanks s = some '\x7b' :: t
    · obtain ⟨t, here⟩ := brace
      rw [outcome_objectOf_brace _ _ here] at found
      obtain ⟨members, inside, meant⟩ := means.complete found
      exact ⟨.object members, .object (blanks_of_skip here) inside, meant⟩
    · rw [outcome_objectOf_other _ _ (not_exists.mp brace)] at found
      cases found

end Means

end Brackets

section Values

variable {s t r : Input} {part : Reader Value} {meaning : Tree → Option Value}

/-- Putting the entries of members one after the other is putting them in order. -/
theorem foldMembers_putEntry (part : Tree → Option α) (members : List (Option String × Tree)) (entries : List (String × α)) :
    foldMembers (fun entries key tree => (part tree).map fun a => Text.putEntry key a entries) entries members =
      (members.mapM (Tree.entryOf part)).map fun more =>
        more.foldl (fun entries entry => Text.putEntry entry.1 entry.2 entries) entries := by
  induction members generalizing entries with
  | nil => rfl
  | cons member members ih =>
    obtain ⟨key, tree⟩ := member
    rw [foldMembers, List.foldlM_cons, List.mapM_cons, Tree.entryOf]
    cases key with
    | none => rfl
    | some key =>
      cases part tree with
      | none => rfl
      | some a =>
        refine (ih (Text.putEntry key a entries)).trans ?_
        cases members.mapM (Tree.entryOf part) <;> rfl

theorem means_keep (means : Means .value part meaning) :
    MeansMember (keep part) fun fields key tree => (meaning tree).map fun value => Text.putEntry key value fields :=
  fun fields key => means.map fun value => Text.putEntry key value fields

theorem outcome_valueOf_bracket (part : Option (Reader Value)) (here : skipBlanks s = some '[' :: t) :
    outcome (valueOf part s) = (outcome (insideOf (part.map elements) t)).map fun found => (.array found.1, found.2) := by
  rw [valueOf, outcome_afterBlanks, here, ← outcome_opened_eq _ (some '[')]
  exact outcome_map _ _

theorem outcome_valueOf_brace (part : Option (Reader Value)) (here : skipBlanks s = some '\x7b' :: t) :
    outcome (valueOf part s) =
      (outcome (insideOf (part.map fun read => members (keep read) []) t)).map fun found => (.object found.1, found.2) := by
  rw [valueOf, outcome_afterBlanks, here, ← outcome_opened_eq _ (some '\x7b')]
  exact outcome_map _ _

theorem outcome_valueOf_other (part : Option (Reader Value)) (list : ∀ t, skipBlanks s ≠ some '[' :: t)
    (object : ∀ t, skipBlanks s ≠ some '\x7b' :: t) :
    outcome (valueOf part s) = (outcome (scalar (skipBlanks s))).map fun found => (.scalar found.1, found.2) := by
  rw [valueOf, outcome_afterBlanks]
  generalize skipBlanks s = t at list object ⊢
  split
  · exact absurd rfl (list _)
  · exact absurd rfl (object _)
  · exact outcome_map _ _

/-- A value is read whole, whatever its shape. -/
theorem Means.valueOf {part : Option (Reader Value)} {list : List Tree → Option (List Value)}
    {object : List (Option String × Tree) → Option (List (String × Value))}
    (elements : Means (.items true) (insideOf (part.map Json.elements)) list)
    (members : Means (.members true) (insideOf (part.map fun read => Json.members (keep read) [])) object) :
    Means .value (Json.valueOf part) (Tree.valueOf list object) where
  sound {tree s r} spelled delimited := by
    rw [result]
    obtain ⟨x, c, t, rfl, here, literal, noList, noObject⟩ | ⟨trees, t, rfl, here, inside⟩ | ⟨trees, t, rfl, here, inside⟩ :=
      spelled.seen
    · have read := literal.read delimited
      rw [result] at read
      rw [outcome_valueOf_other _ (ne_of_head here noList) (ne_of_head here noObject), toOption_map, here, read]
      cases x <;> rfl
    · have read := elements.sound inside delimited
      rw [result] at read
      rw [outcome_valueOf_bracket _ here, toOption_map, read, Tree.valueOf]
      cases list trees <;> rfl
    · have read := members.sound inside delimited
      rw [result] at read
      rw [outcome_valueOf_brace _ here, toOption_map, read, Tree.valueOf]
      cases object trees <;> rfl
  complete {a s r} found := by
    by_cases bracket : ∃ t, skipBlanks s = some '[' :: t
    · obtain ⟨t, here⟩ := bracket
      rw [outcome_valueOf_bracket _ here] at found
      obtain ⟨⟨values, _⟩, read, ⟨⟩⟩ := ok_of_map found
      obtain ⟨trees, inside, meant⟩ := elements.complete read
      exact ⟨.array trees, .array (blanks_of_skip here) inside, by rw [Tree.valueOf, meant]; rfl⟩
    · by_cases brace : ∃ t, skipBlanks s = some '\x7b' :: t
      · obtain ⟨t, here⟩ := brace
        rw [outcome_valueOf_brace _ here] at found
        obtain ⟨⟨fields, _⟩, read, ⟨⟩⟩ := ok_of_map found
        obtain ⟨trees, inside, meant⟩ := members.complete read
        exact ⟨.object trees, .object (blanks_of_skip here) inside, by rw [Tree.valueOf, meant]; rfl⟩
      · rw [outcome_valueOf_other _ (not_exists.mp bracket) (not_exists.mp brace)] at found
        obtain ⟨⟨x, _⟩, read, ⟨⟩⟩ := ok_of_map found
        exact ⟨.scalar (some x), .scalar (blanks_skipBlanks s) (literal_of_scalar read), rfl⟩

/-- A value is read as what its spelling is kept as, within the depth of its brackets. -/
theorem means_value (depth : Nat) : Means .value (value depth) (Tree.value depth) := by
  induction depth with
  | zero => exact .valueOf (.tooDeep _) (.tooDeep _)
  | succ depth ih =>
    refine .valueOf ih.elements ?_
    have members := Means.members (means_keep ih) []
    rwa [funext fun trees => foldMembers_putEntry (Tree.value depth) trees []] at members

end Values

section Records

variable {σ : Type} {s t r : Input}

/-- What a record means, by its members as an object or by its elements as a list. -/
def Tree.recordOf (list : List Tree → Option α) (object : List (Option String × Tree) → Option α) : Tree → Option α
  | .scalar _ => none
  | .array items => list items
  | .object members => object members

theorem outcome_closeList (blanks : Blanks s (some ']' :: r)) : outcome (closeList s) = .ok ((), r) := by
  rw [closeList]
  split <;> rename_i here
  · cases here.symm.trans (blanks.skip_cons rfl)
  · cases here.symm.trans (blanks.skip_cons rfl)
    rfl
  · cases here.symm.trans (blanks.skip_cons rfl)
  · rename_i other
    exact absurd (blanks.skip_cons rfl) (other _)

theorem closeList_comma (blanks : Blanks s (some ',' :: r)) : ∃ fault, closeList s = .error fault := by
  rw [closeList]
  split <;> rename_i here
  · exact ⟨_, rfl⟩
  · cases here.symm.trans (blanks.skip_cons rfl)
  · split <;> exact ⟨_, rfl⟩
  · exact ⟨_, rfl⟩

theorem blanks_of_closeList (read : outcome (closeList s) = .ok ((), r)) : Blanks s (some ']' :: r) := by
  rw [closeList] at read
  split at read
  · cases read
  · rename_i here
    cases read
    exact blanks_of_skip here
  · split at read <;> cases read
  · cases read

/-- What a list means that has one place, which may be left empty. -/
def Tree.placeOf (blank : σ) (meaning : Tree → Option σ) : List Tree → Option (Nat × σ)
  | [] => some (0, blank)
  | [tree] => (meaning tree).map (1, ·)
  | _ => none

section Place

variable {read : Reader σ} {name : String} {blank state : σ}

theorem outcome_places_end (next : nextElement true s = .ok (false, r)) :
    outcome (Layout.places true 0 blank [(name, fun _ => read)] s) = .ok ((0, blank), r) := by
  rw [Layout.places]
  dsimp only
  split <;> rename_i found <;> cases found.symm.trans next
  rfl

theorem places_fault {fault : Fault} (next : nextElement true s = .ok (true, t)) (found : outcome (read t) = .error fault) :
    Layout.places true 0 blank [(name, fun _ => read)] s = .error fault := by
  rw [Layout.places]
  dsimp only
  split <;> rename_i there <;> cases there.symm.trans next
  rw [of_outcome_error found]

theorem outcome_places_item {u : Input} (next : nextElement true s = .ok (true, t))
    (found : outcome (read t) = .ok (state, u)) :
    outcome (Layout.places true 0 blank [(name, fun _ => read)] s) =
      (outcome (closeList u)).map fun closed => ((1, state), closed.2) := by
  obtain ⟨shorter, found⟩ := of_outcome found
  rw [Layout.places]
  dsimp only
  split <;> rename_i there <;> cases there.symm.trans next
  simp only [found, outcome_widen, Layout.places, outcome_map]

/-- The one place of a list is read if it is there. -/
theorem Means.place {meaning : Tree → Option σ} (means : Means .value read meaning) (name : String) (blank : σ) :
    Means (.items true) (Layout.places true 0 blank [(name, fun _ => read)]) (Tree.placeOf blank meaning) where
  sound {items s r} spelled delimited := by
    rw [result]
    cases spelled with
    | closeArray blanks =>
      rw [outcome_places_end (nextElement_close blanks)]
      rfl
    | @item _ tree items _ t u _ comma value later =>
      have next := nextElement_item comma value
      have here := means.sound value.from_visible later.delimited_items
      cases meant : meaning tree with
      | none =>
        rw [meant] at here
        obtain ⟨fault, here⟩ := toOption_eq_none.mp here
        rw [places_fault next here]
        cases items <;> simp [Tree.placeOf, meant, outcome, Except.map, Except.toOption]
      | some state =>
        rw [meant] at here
        rw [outcome_places_item next (toOption_eq_some.mp here)]
        cases later with
        | closeArray blanks =>
          rw [outcome_closeList blanks]
          simp [Tree.placeOf, meant, Except.map, Except.toOption]
        | item comma _ _ =>
          cases comma with
          | behind blanks =>
            obtain ⟨fault, closed⟩ := closeList_comma blanks
            rw [closed]
            rfl
  complete {a s r} found := by
    cases next : nextElement true s with
    | error fault =>
      rw [Layout.places] at found
      dsimp only at found
      split at found <;> rename_i there <;> cases there.symm.trans next
      cases found
    | ok head =>
      obtain ⟨more, t⟩ := head
      cases more with
      | false =>
        rw [outcome_places_end next] at found
        cases found
        exact ⟨[], .closeArray (blanks_of_nextElement next), rfl⟩
      | true =>
        obtain ⟨u, comma, rfl⟩ := comma_of_nextElement next
        cases here : outcome (read (skipBlanks u)) with
        | error fault =>
          rw [places_fault next here] at found
          cases found
        | ok x =>
          obtain ⟨state, v⟩ := x
          rw [outcome_places_item next here] at found
          obtain ⟨⟨_, _⟩, closed, ⟨⟩⟩ := ok_of_map found
          obtain ⟨tree, value, meant⟩ := means.complete here
          have blanks := blanks_of_closeList closed
          refine ⟨[tree], .item comma (value.behind_blanks (blanks_skipBlanks u)) (.closeArray blanks), ?_⟩
          rw [Tree.placeOf, meant]
          rfl

end Place

section Record

variable {layout : Layout σ} {blank : σ} {byName : σ → Except Fault α} {byPlace : Nat × σ → Except Fault α}

theorem outcome_reader_brace (here : skipBlanks s = some '\x7b' :: t) :
    outcome (layout.reader blank byName byPlace s) =
      outcome (members layout.member ([], blank) t >>= Layout.finishing fun state => byName state.2) := by
  rw [Layout.reader, outcome_afterBlanks, here]
  cases ran : members layout.member ([], blank) t with
  | error fault =>
    simp only [ran]
    rfl
  | ok x =>
    simp only [ran]
    exact outcome_widen _ _

theorem outcome_reader_bracket (here : skipBlanks s = some '[' :: t) :
    outcome (layout.reader blank byName byPlace s) =
      outcome (Layout.places true 0 blank layout.fields t >>= Layout.finishing byPlace) := by
  rw [Layout.reader, outcome_afterBlanks, here]
  cases ran : Layout.places true 0 blank layout.fields t with
  | error fault =>
    simp only [ran]
    rfl
  | ok x =>
    simp only [ran]
    exact outcome_widen _ _

theorem outcome_reader_other (list : ∀ t, skipBlanks s ≠ some '[' :: t) (object : ∀ t, skipBlanks s ≠ some '\x7b' :: t) :
    outcome (layout.reader blank byName byPlace s) = .error (refusal layout.wanted (skipBlanks s)) := by
  rw [Layout.reader, outcome_afterBlanks]
  generalize skipBlanks s = t at list object ⊢
  split
  · exact absurd rfl (object _)
  · exact absurd rfl (list _)
  · rfl

/-- A record is read from behind its bracket. -/
theorem Means.record {list : List Tree → Option α} {object : List (Option String × Tree) → Option α}
    (places : Means (.items true) (fun s => Layout.places true 0 blank layout.fields s >>= Layout.finishing byPlace) list)
    (members : Means (.members true)
      (fun s => Json.members layout.member ([], blank) s >>= Layout.finishing fun state => byName state.2) object) :
    Means .value (layout.reader blank byName byPlace) (Tree.recordOf list object) where
  sound {tree s r} spelled delimited := by
    rw [result]
    obtain ⟨_, c, t, rfl, here, _, noList, noObject⟩ | ⟨trees, t, rfl, here, inside⟩ | ⟨trees, t, rfl, here, inside⟩ :=
      spelled.seen
    · rw [outcome_reader_other (ne_of_head here noList) (ne_of_head here noObject)]
      rfl
    · rw [outcome_reader_bracket here]
      exact places.sound inside delimited
    · rw [outcome_reader_brace here]
      exact members.sound inside delimited
  complete {a s r} found := by
    by_cases bracket : ∃ t, skipBlanks s = some '[' :: t
    · obtain ⟨t, here⟩ := bracket
      rw [outcome_reader_bracket here] at found
      obtain ⟨trees, inside, meant⟩ := places.complete found
      exact ⟨.array trees, .array (blanks_of_skip here) inside, meant⟩
    · by_cases brace : ∃ t, skipBlanks s = some '\x7b' :: t
      · obtain ⟨t, here⟩ := brace
        rw [outcome_reader_brace here] at found
        obtain ⟨trees, inside, meant⟩ := members.complete found
        exact ⟨.object trees, .object (blanks_of_skip here) inside, meant⟩
      · rw [outcome_reader_other (not_exists.mp bracket) (not_exists.mp brace)] at found
        cases found

end Record

end Records

section Whole

variable {read : Reader α} {meaning : Tree → Option α} {tree : Tree} {s : Input}

theorem whole_eq (read : Reader α) (s : Input) :
    read.whole s = (outcome (read s)) >>= fun found =>
      if (skipBlanks found.2).isEmpty then .ok found.1 else .error .trailingCharacters := by
  rw [Reader.whole]
  cases read s <;> rfl

/-- A whole text is read as what the tree means that it spells. -/
theorem Means.whole (means : Means .value read meaning) (spelled : tree.SpelledBy s) :
    (read.whole s).toOption = meaning tree := by
  obtain ⟨r, value, blanks⟩ := spelled
  have found := means.sound value blanks.delimited_nil
  rw [whole_eq]
  cases meant : meaning tree with
  | none =>
    rw [meant] at found
    obtain ⟨fault, found⟩ := toOption_eq_none.mp found
    rw [found]
    rfl
  | some a =>
    rw [meant] at found
    rw [toOption_eq_some.mp found]
    change Except.toOption (if (skipBlanks r).isEmpty then _ else _) = _
    rw [blanks.skip]
    rfl

/-- A text that is read spells a tree that means what is read. -/
theorem Means.of_whole (means : Means .value read meaning) {a : α} (accepted : read.whole s = .ok a) :
    ∃ tree, tree.SpelledBy s ∧ meaning tree = some a := by
  rw [whole_eq] at accepted
  cases found : outcome (read s) with
  | error fault =>
    rw [found] at accepted
    cases accepted
  | ok x =>
    obtain ⟨b, r⟩ := x
    rw [found] at accepted
    change (if (skipBlanks r).isEmpty then _ else _) = _ at accepted
    split at accepted
    · rename_i ended
      cases accepted
      obtain ⟨tree, value, meant⟩ := means.complete found
      exact ⟨tree, ⟨r, value, blanks_of_skip (List.isEmpty_iff.mp ended)⟩, meant⟩
    · cases accepted

/-- By itself, a spelling of the tree is read as this. -/
def ReadsAs (read : Reader α) (tree : Tree) (a : α) : Prop := ∃ s, tree.SpelledBy s ∧ read.whole s = .ok a

theorem Means.of_readsAs (means : Means .value read meaning) {a : α} (reads : ReadsAs read tree a) :
    meaning tree = some a := by
  obtain ⟨s, spelled, accepted⟩ := reads
  rw [← means.whole spelled, accepted]
  rfl

end Whole

end ScriptureMarkup.Json
