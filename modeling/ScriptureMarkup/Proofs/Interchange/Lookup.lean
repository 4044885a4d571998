import Mathlib.Data.List.Nodup
import ScriptureMarkup.Proofs.Interchange.Meaning

/-!
What is found under a key in the fields that are kept of an object: what its last member of that key means.
-/

namespace ScriptureMarkup

open Json (Tree Value)

namespace Text

variable {α : Type}

/-- The last of several values for one key is the one that stays. -/
theorem lookup_inKeyOrder_eq (key : String) (entries : List (String × α)) :
    (inKeyOrder entries).lookup key = entries.reverse.lookup key := by
  suffices ∀ sorted : List (String × α),
      (entries.foldl (fun sorted entry => putEntry entry.1 entry.2 sorted) sorted).lookup key =
        (entries.reverse.lookup key).or (sorted.lookup key) by
    rw [inKeyOrder, this]
    simp
  induction entries with
  | nil => exact fun _ => rfl
  | cons entry entries ih =>
    intro sorted
    obtain ⟨k, v⟩ := entry
    rw [List.foldl_cons, ih, lookup_putEntry, List.reverse_cons, List.lookup_append, lookup_cons_eq, Option.or_assoc]
    split <;> simp

theorem nodup_of_ascend {entries : List (String × α)} (ascend : KeysAscend entries) : (entries.map Prod.fst).Nodup :=
  List.pairwise_map.mpr (ascend.imp fun below => Std.ne_of_lt below)

theorem mem_iff_lookup {entries : List (String × α)} (ascend : KeysAscend entries) {key : String} {value : α} :
    (key, value) ∈ entries ↔ entries.lookup key = some value := by
  refine ⟨lookup_of_mem (nodup_of_ascend ascend), fun found => ?_⟩
  obtain ⟨front, back, rfl, _⟩ := List.lookup_eq_some_iff.mp found
  exact List.mem_append_right _ List.mem_cons_self

/-- Entries in order are known by what is found in them. -/
theorem ext_of_ascend {entries others : List (String × α)} (ascend : KeysAscend entries) (ascends : KeysAscend others)
    (same : ∀ key, entries.lookup key = others.lookup key) : entries = others := by
  have perm : entries.Perm others := by
    refine (List.perm_ext_iff_of_nodup (.of_map _ (nodup_of_ascend ascend)) (.of_map _ (nodup_of_ascend ascends))).mpr ?_
    intro entry
    rw [mem_iff_lookup ascend, mem_iff_lookup ascends, same]
  exact perm.eq_of_pairwise (fun _ _ _ _ below above => absurd above (String.lt_asymm below)) ascend ascends

end Text

section Keys

variable {α β : Type} [BEq α] [LawfulBEq α]

theorem lookup_filter {p : α × β → Bool} {key : α} (kept : ∀ value, p (key, value) = true) (l : List (α × β)) :
    (l.filter p).lookup key = l.lookup key := by
  induction l with
  | nil => rfl
  | cons entry l ih =>
    obtain ⟨k, v⟩ := entry
    rw [List.filter_cons, List.lookup_cons]
    cases same : key == k with
    | true =>
      rw [← eq_of_beq same, if_pos (kept v), List.lookup_cons_self]
    | false =>
      split
      · rw [List.lookup_cons, same, ih]
      · exact ih

/-- Order does not matter to a key that comes at most once. -/
theorem lookup_eq_of_perm {l l' : List (α × β)} {key : α} (once : l.countP (·.1 == key) ≤ 1) (perm : l.Perm l') :
    l.lookup key = l'.lookup key := by
  have kept (l : List (α × β)) : (l.filter (·.1 == key)).lookup key = l.lookup key :=
    lookup_filter (fun _ => beq_self_eq_true key) l
  have filtered := perm.filter (·.1 == key)
  rw [List.countP_eq_length_filter] at once
  rw [← kept l, ← kept l']
  generalize l.filter (·.1 == key) = found at once filtered ⊢
  match found with
  | [] => rw [List.nil_perm.mp filtered]
  | [entry] => rw [List.singleton_perm.mp filtered]
  | _ :: _ :: _ => simp at once

end Keys

namespace Json

/-- The last value that members have for a key. -/
def lastOf (key : String) (members : List (Option String × Tree)) : Option Tree := members.reverse.lookup (some key)

namespace Tree

variable {α : Type} {part : Tree → Option α} {members : List (Option String × Tree)}

theorem lookup_filterMap_entryOf (each : members.all fun member => (entryOf part member).isSome) (key : String) :
    (members.filterMap (entryOf part)).lookup key = (members.lookup (some key)).bind part := by
  induction members with
  | nil => rfl
  | cons member members ih =>
    obtain ⟨name, tree⟩ := member
    obtain ⟨here, later⟩ := Bool.and_eq_true_iff.mp (List.all_cons ▸ each)
    obtain ⟨entry, made⟩ := Option.isSome_iff_exists.mp here
    obtain ⟨k, rfl, found⟩ := Option.bind_eq_some_iff.mp made
    obtain ⟨value, meant, rfl⟩ := Option.map_eq_some_iff.mp found
    rw [List.filterMap_cons_some made, Text.lookup_cons_eq, List.lookup_cons]
    by_cases same : key = k
    · rw [if_pos same, same, beq_self_eq_true]
      exact meant.symm
    · have apart : (some key == some k) = false := by simpa using same
      rw [if_neg same, apart, ih later]

/-- What an object is found to hold under a key. -/
theorem lookup_fieldsOf {fields : List (String × α)} (kept : fieldsOf part members = some fields) (key : String) :
    fields.lookup key = (lastOf key members).bind part := by
  obtain ⟨entries, each, rfl⟩ := Option.map_eq_some_iff.mp kept
  rw [mapM_eq] at each
  split at each <;> cases each
  rename_i each
  rw [Text.lookup_inKeyOrder_eq, ← List.filterMap_reverse, lookup_filterMap_entryOf (by rwa [List.all_reverse]), lastOf]

theorem ascend_fieldsOf {fields : List (String × α)} (kept : fieldsOf part members = some fields) :
    Text.KeysAscend fields := by
  obtain ⟨entries, _, rfl⟩ := Option.map_eq_some_iff.mp kept
  exact Text.keysAscend_inKeyOrder entries

theorem isSome_fieldsOf (part : Tree → Option α) (members : List (Option String × Tree)) :
    (fieldsOf part members).isSome = members.all fun member => (entryOf part member).isSome := by
  rw [fieldsOf, mapM_eq]
  cases members.all fun member => (entryOf part member).isSome <;> rfl

/-- Order does not matter to what is found under a key, and neither do members of other keys. -/
theorem lastOf_rearranged {others added : List (Option String × Tree)} (perm : others.Perm (members ++ added))
    (apart : (members.filterMap Prod.fst).Nodup) {key : String} (other : some key ∉ added.map Prod.fst) :
    lastOf key members = lastOf key others := by
  have absent : added.countP (·.1 == some key) = 0 :=
    List.countP_eq_zero.mpr fun entry inside same => other (List.mem_map.mpr ⟨entry, inside, eq_of_beq same⟩)
  have once : members.countP (·.1 == some key) ≤ 1 := by
    have count := List.nodup_iff_count_le_one.mp apart key
    rw [List.count, List.countP_filterMap] at count
    refine Nat.le_trans (Nat.le_of_eq (List.countP_congr fun member _ => ?_)) count
    obtain ⟨name, tree⟩ := member
    cases name <;> simp
  calc lastOf key members
    _ = (members.reverse ++ added).lookup (some key) := by
      have none : added.lookup (some key) = none :=
        List.lookup_eq_none_iff.mpr fun entry inside =>
          bne_iff_ne.mpr fun same => other (List.mem_map.mpr ⟨entry, inside, same.symm⟩)
      rw [lastOf, List.lookup_append, none, Option.or_none]
    _ = lastOf key others := by
      refine lookup_eq_of_perm ?_ ?_
      · rwa [List.countP_append, absent, List.countP_reverse]
      · exact ((List.reverse_perm members).append_right added).trans (perm.symm.trans (List.reverse_perm others).symm)

/-- Members of one object that stand in another order, among others, are kept alike. -/
theorem fieldsOf_rearranged {others added : List (Option String × Tree)} (perm : others.Perm (members ++ added))
    (apart : (members.filterMap Prod.fst).Nodup) (each : ∀ entry ∈ added, (entryOf part entry).isSome) :
    Option.Rel (fun fields more => ∀ key, some key ∉ added.map Prod.fst → fields.lookup key = more.lookup key)
      (fieldsOf part members) (fieldsOf part others) := by
  have kept : (fieldsOf part members).isSome = (fieldsOf part others).isSome := by
    rw [isSome_fieldsOf, isSome_fieldsOf, perm.all_eq, List.all_append, List.all_eq_true.mpr each, Bool.and_true]
  cases first : fieldsOf part members with
  | none =>
    rw [first] at kept
    rw [Option.isNone_iff_eq_none.mp (Option.isSome_eq_false_iff.mp kept.symm)]
    exact .none
  | some fields =>
    rw [first] at kept
    obtain ⟨more, second⟩ := Option.isSome_iff_exists.mp kept.symm
    rw [second]
    refine .some fun key other => ?_
    rw [lookup_fieldsOf first, lookup_fieldsOf second, lastOf_rearranged perm apart other]

/-- Members of one object that only stand in another order are kept as the same. -/
theorem fieldsOf_perm {others : List (Option String × Tree)} (perm : members.Perm others)
    (apart : (members.filterMap Prod.fst).Nodup) : fieldsOf part members = fieldsOf part others := by
  have agree := @fieldsOf_rearranged _ part _ _ [] ((List.append_nil members).symm ▸ perm.symm) apart (List.forall_mem_nil _)
  generalize kept : fieldsOf part members = before at agree ⊢
  generalize keeps : fieldsOf part others = after at agree ⊢
  cases agree with
  | none => rfl
  | some same =>
    have found := fun key => same key List.not_mem_nil
    rw [Text.ext_of_ascend (ascend_fieldsOf kept) (ascend_fieldsOf keeps) found]

end Tree

end Json

end ScriptureMarkup
