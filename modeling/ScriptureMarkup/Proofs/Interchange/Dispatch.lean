import ScriptureMarkup.Proofs.Interchange.Lookup
import ScriptureMarkup.Proofs.Interchange.Normal
import ScriptureMarkup.Proofs.Json.WrittenTree

/-!
What kind of marker an object is read as, by the name that it gives for its tag.
-/

namespace ScriptureMarkup

open Json (Fault Input Reader Tree Value)

/-- Only a text is kept as a text. -/
theorem Json.Tree.eq_of_value_string {depth : Nat} {tree : Tree} {text : String}
    (kept : tree.value depth = some (.string text)) :
    tree = .scalar (some (.string text)) := by
  obtain ⟨list, object, shape⟩ : ∃ list object, Tree.value depth = Tree.valueOf list object := by
    cases depth <;> exact ⟨_, _, rfl⟩
  rw [shape] at kept
  cases tree with
  | scalar meaning =>
    obtain ⟨x, rfl, ⟨⟩⟩ := Option.map_eq_some_iff.mp kept
    rfl
  | array items => obtain ⟨_, _, ⟨⟩⟩ := Option.map_eq_some_iff.mp kept
  | object members => obtain ⟨_, _, ⟨⟩⟩ := Option.map_eq_some_iff.mp kept

open Json (ReadsAs lastOf)

namespace Kind

theorem lookup_of_obligatory {name text : String} {fields : List (String × Value)}
    (taken : obligatory takeText name fields = .ok text) : fields.lookup name = some (.string text) := by
  obtain ⟨given, found, needed⟩ := ok_of_bind taken
  rw [optional] at found
  split at found
  · cases found
    cases needed
  · rename_i value here
    obtain ⟨content, taken, ⟨⟩⟩ := Json.ok_of_map found
    cases needed
    rw [here]
    cases value with
    | array | object => cases taken
    | scalar x =>
      cases x with
      | string => cases taken; rfl
      | null | bool | number => cases taken

/-- The name that a kind has been told by, and what the kind is by this name. -/
theorem name_of_ofFields {fields : List (String × Value)} {kind : Kind} (told : ofFields fields = .ok kind) :
    ∃ name, fields.lookup "marker" = some (.string name) ∧
      ((∃ identifier, kind = .unknown identifier) ↔ name ∉ Tag.modeledNames ∨ name = "unknown") ∧
      (name ≠ "unknown" → kind.identifier = name) ∧
      (name = "unknown" → fields.lookup "identifier" = some (.string kind.identifier)) := by
  rw [ofFields_eq] at told
  split at told
  · rename_i name marked
    refine ⟨name, marked, ?_⟩
    split at told
    · rename_i tag found
      have named := Tag.name_of_ofName? found
      have modeled : name ∈ Tag.modeledNames := Tag.mem_modeledNames.mpr (by rw [found]; rfl)
      by_cases unknown : tag = .unknown
      · subst unknown
        obtain ⟨identifier, given, rfl⟩ := Json.ok_of_map told
        exact ⟨⟨fun _ => .inr named.symm, fun _ => ⟨identifier, rfl⟩⟩, fun other => absurd named.symm other,
          fun _ => lookup_of_obligatory given⟩
      · have tagged := tag_of_ofTag told
        have other : name ≠ "unknown" := by
          rintro rfl
          have same := Tag.ofName?_name .unknown
          exact unknown (Option.some.inj (found.symm.trans same))
        refine ⟨⟨?_, ?_⟩, fun _ => ?_, fun same => absurd same other⟩
        · rintro ⟨identifier, rfl⟩
          exact absurd tagged.symm unknown
        · rintro (stray | same)
          · exact absurd modeled stray
          · exact absurd same other
        · rw [identifier_eq_name (tagged ▸ unknown), tagged, named]
    · rename_i absent
      cases told
      have stray : name ∉ Tag.modeledNames := by
        rw [Tag.mem_modeledNames, absent]
        exact Bool.false_ne_true
      refine ⟨⟨fun _ => .inl stray, fun _ => ⟨name, rfl⟩⟩, fun _ => rfl, ?_⟩
      rintro rfl
      exact absurd (by decide) stray
  · cases told

end Kind

namespace Marker

/-- What the children of an object are, if it has any, by itself. -/
def LoadsContents (depth : Nat) (members : List (Option String × Tree)) (contents : List Marker) : Prop :=
  match members.filter isContents with
  | [] => contents = []
  | [member] => ReadsAs (listReader depth) member.2 contents
  | _ => False

theorem lookup_kept {field : Tree → Option Value} {members : List (Option String × Tree)} {fields : List (String × Value)}
    (kept : Tree.fieldsOf field (members.filter fun member => !isContents member) = some fields) {key : String}
    (other : key ≠ "contents") : fields.lookup key = (lastOf key members).bind field := by
  rw [Tree.lookup_fieldsOf kept, lastOf, ← List.filter_reverse, lookup_filter, lastOf]
  intro tree
  simpa [isContents] using other

theorem lastOf_of_lookup {depth : Nat} {members : List (Option String × Tree)} {fields : List (String × Value)}
    (kept : Tree.fieldsOf (Tree.value depth) (members.filter fun member => !isContents member) = some fields)
    {key text : String}
    (other : key ≠ "contents") (found : fields.lookup key = some (.string text)) :
    lastOf key members = some (.scalar (some (.string text))) := by
  rw [lookup_kept kept other] at found
  obtain ⟨tree, last, value⟩ := Option.bind_eq_some_iff.mp found
  rw [last, Tree.eq_of_value_string value]

/-- An object whose tag has no known meaning makes up a marker whatever else it holds. -/
theorem ofMembers_stray {depth : Nat} {members : List (Option String × Tree)} {name : String} {contents : List Marker}
    (marked : lastOf "marker" members = some (.scalar (some (.string name)))) (stray : name ∉ Tag.modeledNames)
    (children : LoadsContents depth members contents)
    (others : ∀ member ∈ members, member.1 ≠ some "contents" →
      member.1.isSome ∧ ∃ value, ReadsAs (Json.value depth) member.2 value) :
    ofMembers (listOfTree depth) (Tree.value depth) members = some ⟨.unknown name, contents⟩ := by
  have gathered : childrenOf (listOfTree depth) members = some contents := by
    revert children
    rw [LoadsContents, childrenOf]
    match members.filter isContents with
    | [] => exact fun none => congrArg some none.symm
    | [member] => exact fun reads => (means_listReader depth).of_readsAs reads
    | _ :: _ :: _ => exact False.elim
  obtain ⟨fields, kept⟩ : ∃ fields, Tree.fieldsOf (Tree.value depth) (members.filter fun member => !isContents member) =
      some fields := by
    refine ⟨_, congrArg (Option.map Text.inKeyOrder) ((Json.mapM_eq _ _).trans (if_pos ?_))⟩
    rw [List.all_eq_true]
    intro member inside
    obtain ⟨within, apart⟩ := List.mem_filter.mp inside
    obtain ⟨key, value, reads⟩ := others member within (by simpa [isContents] using apart)
    obtain ⟨key, named⟩ := Option.isSome_iff_exists.mp key
    rw [Tree.entryOf, named, Option.bind_some, (Json.means_value depth).of_readsAs reads]
    rfl
  have told : Kind.ofFields fields = .ok (.unknown name) := by
    have found : fields.lookup "marker" = some (.string name) := by
      rw [lookup_kept kept (by decide), marked]
      cases depth <;> rfl
    simp only [Kind.ofFields, found, dif_neg stray]
  rw [ofMembers, gathered, kept]
  simp only [told, Option.bind_eq_bind, Option.bind_some]
  rfl

/-- What an accepted object loads as is decided by the last text that it gives for its tag: it is of an unknown kind if
this is no modeled name or is `unknown`, it is known by this name, and for `unknown` by the last text that it gives for
`identifier`. An object with any other name loads as soon as its children do, whatever else it holds. A text by itself is
read within a depth of 127, so an object in it holds values of a depth of 126. -/
theorem dispatch_by_name (depth : Nat) (input : Input) :
    (∀ marker, (reader (depth + 1)).whole input = .ok marker →
      (∃ tree : Tree, tree.SpelledBy input) ∧
      ∀ tree : Tree, tree.SpelledBy input →
        ∃ members name, tree = .object members ∧ lastOf "marker" members = some (.scalar (some (.string name))) ∧
          ((∃ identifier, marker.kind = .unknown identifier) ↔ name ∉ Tag.modeledNames ∨ name = "unknown") ∧
          (name ≠ "unknown" → marker.kind.identifier = name) ∧
          (name = "unknown" →
            lastOf "identifier" members = some (.scalar (some (.string marker.kind.identifier))))) ∧
    ∀ members name contents, (Tree.object members).SpelledBy input →
      lastOf "marker" members = some (.scalar (some (.string name))) → name ∉ Tag.modeledNames →
      LoadsContents depth members contents →
      (∀ member ∈ members, member.1 ≠ some "contents" →
        member.1.isSome ∧ ∃ value, ReadsAs (Json.value depth) member.2 value) →
      (reader (depth + 1)).whole input = .ok ⟨.unknown name, contents⟩ := by
  have means := means_reader (depth + 1)
  rw [ofTree_succ] at means
  constructor
  · intro marker accepted
    obtain ⟨tree, spelled, _⟩ := means.of_whole accepted
    refine ⟨⟨tree, spelled⟩, fun tree spelled => ?_⟩
    have meant := means.whole spelled
    rw [accepted] at meant
    cases tree with
    | scalar | array => cases meant
    | object members =>
      obtain ⟨_, fields, kept, told⟩ := parts_of_ofMembers meant.symm
      obtain ⟨name, marked, unknown, identified, unmodeled⟩ := Kind.name_of_ofFields told
      exact ⟨members, name, rfl, lastOf_of_lookup kept (by decide) marked, unknown, identified,
        fun same => lastOf_of_lookup kept (by decide) (unmodeled same)⟩
  · intro members name contents spelled marked stray children others
    refine Json.toOption_eq_some.mp ((means.whole spelled).trans ?_)
    exact ofMembers_stray marked stray children others

/-- The children of an object whose tag has no known meaning. -/
def strayChildren : Value := .array [.object [("marker", .string "c"), ("number", .integer 2)]]

/-- An object whose tag has no known meaning. -/
def stray : Value := .object [("hue", .array [.bool true]), ("marker", .string "zz"), ("contents", strayChildren)]

theorem dispatch_by_name_of_stray :
    "zz" ∉ Tag.modeledNames ∧ (reader 127).whole (.ofString stray.text) = .ok ⟨.unknown "zz", [⟨.chapter 2, []⟩]⟩ ∧
      ∃ members, Tree.ofValue stray = .object members ∧
        lastOf "marker" members = some (.scalar (some (.string "zz"))) := by
  have unknown : "zz" ∉ Tag.modeledNames := by decide
  have children : strayChildren.Exact := ⟨⟨trivial, ⟨2, rfl, by decide⟩, trivial⟩, trivial⟩
  have spelled : (Tree.ofValue stray).SpelledBy (.ofString stray.text) :=
    Json.spelledBy_written ⟨⟨trivial, trivial⟩, trivial, children, trivial⟩
  have accepted : (reader 127).whole (.ofString stray.text) = .ok ⟨.unknown "zz", [⟨.chapter 2, []⟩]⟩ := by
    refine (dispatch_by_name 126 _).2 _ "zz" _ spelled rfl unknown ?_ ?_
    · exact Json.readsAs_written (means_listReader 126) strayChildren children rfl
    · intro member inside other
      rcases List.mem_cons.mp inside with rfl | inside
      · exact ⟨rfl, _, Json.readsAs_written (Json.means_value 126) (.array [.bool true]) ⟨trivial, trivial⟩ rfl⟩
      · rcases List.mem_cons.mp inside with rfl | inside
        · exact ⟨rfl, _, Json.readsAs_written (Json.means_value 126) (.string "zz") trivial rfl⟩
        · rcases List.mem_singleton.mp inside with rfl
          exact absurd rfl other
  obtain ⟨_, told⟩ := (dispatch_by_name 126 _).1 _ accepted
  obtain ⟨members, name, object, marked, _, named, _⟩ := told _ spelled
  obtain rfl : "zz" = name := by
    cases object
    cases marked
    rfl
  exact ⟨unknown, accepted, members, object, marked⟩

end Marker

end ScriptureMarkup
