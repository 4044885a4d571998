import ScriptureMarkup.Proofs.Interchange.Meaning

/-!
Reading brings a document into a form that writing and reading it again leave as it is.
-/

namespace ScriptureMarkup

open Json (Fault Tree Value)

theorem Text.mem_of_mem_inKeyOrder {α : Type} {entries : List (String × α)} {entry : String × α}
    (member : entry ∈ Text.inKeyOrder entries) : entry ∈ entries := by
  suffices ∀ sorted : List (String × α), entry ∈ entries.foldl (fun sorted entry => putEntry entry.1 entry.2 sorted) sorted →
      entry ∈ sorted ∨ entry ∈ entries from (this [] member).resolve_left List.not_mem_nil
  clear member
  induction entries with
  | nil => exact fun sorted member => .inl member
  | cons first entries ih =>
    intro sorted member
    rcases ih _ member with here | later
    · rcases mem_putEntry here with rfl | old
      · exact .inr List.mem_cons_self
      · exact .inl old
    · exact .inr (List.mem_cons_of_mem _ later)

namespace Json

theorem Value.nestingItems_le {items : List Value} {depth : Nat} :
    Value.nestingItems items ≤ depth ↔ ∀ item ∈ items, item.nesting ≤ depth := by
  induction items with
  | nil => simp [Value.nestingItems]
  | cons item items ih => rw [Value.nestingItems, Nat.max_le, List.forall_mem_cons, ih]

theorem Value.nestingFields_le {fields : List (String × Value)} {depth : Nat} :
    Value.nestingFields fields ≤ depth ↔ ∀ field ∈ fields, field.2.nesting ≤ depth := by
  induction fields with
  | nil => simp [Value.nestingFields]
  | cons field fields ih => rw [Value.nestingFields, Nat.max_le, List.forall_mem_cons, ih]

/-- Fields that are kept are parts that are kept. -/
theorem Tree.fieldsOf_part {α : Type} {part : Tree → Option α} {members : List (Option String × Tree)}
    {fields : List (String × α)}
    (kept : Tree.fieldsOf part members = some fields) {field : String × α} (inside : field ∈ fields) :
    ∃ member ∈ members, part member.2 = some field.2 := by
  obtain ⟨entries, each, rfl⟩ := Option.map_eq_some_iff.mp kept
  obtain ⟨member, within, entry⟩ := mem_of_mapM each (Text.mem_of_mem_inKeyOrder inside)
  obtain ⟨key, _, found⟩ := Option.bind_eq_some_iff.mp entry
  obtain ⟨value, meant, rfl⟩ := Option.map_eq_some_iff.mp found
  exact ⟨member, within, meant⟩

/-- A value is nested no deeper than was allowed when it was read. -/
theorem Tree.nesting_value {depth : Nat} {tree : Tree} {value : Value} (kept : tree.value depth = some value) :
    value.nesting ≤ depth := by
  induction depth generalizing tree value with
  | zero =>
    cases tree with
    | scalar meaning =>
      obtain ⟨x, _, rfl⟩ := Option.map_eq_some_iff.mp kept
      exact Nat.le_refl 0
    | array items => cases kept
    | object members => cases kept
  | succ depth ih =>
    cases tree with
    | scalar meaning =>
      obtain ⟨x, _, rfl⟩ := Option.map_eq_some_iff.mp kept
      exact Nat.zero_le _
    | array items =>
      obtain ⟨values, each, rfl⟩ := Option.map_eq_some_iff.mp kept
      refine Nat.succ_le_succ (Value.nestingItems_le.mpr fun value inside => ?_)
      obtain ⟨item, _, part⟩ := mem_of_mapM each inside
      exact ih part
    | object members =>
      obtain ⟨fields, each, rfl⟩ := Option.map_eq_some_iff.mp kept
      refine Nat.succ_le_succ (Value.nestingFields_le.mpr fun field inside => ?_)
      obtain ⟨member, _, part⟩ := Tree.fieldsOf_part each inside
      exact ih part

end Json

namespace Kind

theorem ok_of_bind {α β : Type} {x : Except Fault α} {f : α → Except Fault β} {b : β} (done : (x >>= f) = .ok b) :
    ∃ a, x = .ok a ∧ f a = .ok b := by
  cases x with
  | error fault => cases done
  | ok a => exact ⟨a, rfl, done⟩

/-- A kind that a tag tells has this tag. -/
theorem tag_of_ofTag {tag : Tag} {fields : List (String × Value)} {kind : Kind} (told : ofTag tag fields = .ok kind) :
    kind.tag = tag := by
  cases tag with
  | id | c | v | text | field | unknown =>
    obtain ⟨_, _, rfl⟩ := Json.ok_of_map told
    rfl
  | bare tag =>
    cases told
    rfl
  | w =>
    obtain ⟨attributes, _, told⟩ := ok_of_bind told
    obtain ⟨term, _, ⟨⟩⟩ := ok_of_bind told
    rfl
  | heading tag =>
    obtain ⟨content, _, told⟩ := ok_of_bind told
    obtain ⟨weight, _, told⟩ := ok_of_bind told
    obtain ⟨content, _, ⟨⟩⟩ := ok_of_bind told
    rfl
  | leveled tag =>
    obtain ⟨level, _, ⟨⟩⟩ := ok_of_bind told
    rfl

theorem nesting_attributes (attributes : Attributes) : (attributesValue attributes).nesting = 1 := by
  rw [attributesValue, Value.nesting]
  refine congrArg Nat.succ (Nat.le_zero.mp (Value.nestingFields_le.mpr ?_))
  exact List.forall_mem_map.mpr fun _ _ => Nat.le_refl 0

/-- A word has attributes because an object of them has been read. -/
theorem attributes_of_ofFields {fields : List (String × Value)} {term : String} {attributes : Attributes}
    (told : ofFields fields = .ok (.word term attributes)) (carries : attributes.entries ≠ []) :
    ∃ entries, fields.lookup "attributes" = some (.object entries) := by
  rw [ofFields_eq] at told
  split at told
  · split at told
    · rename_i tag _
      obtain rfl : Tag.w = tag := tag_of_ofTag told
      obtain ⟨read, found, told⟩ := ok_of_bind told
      obtain ⟨_, _, ⟨⟩⟩ := ok_of_bind told
      rw [optional] at found
      split at found
      · cases found
        exact absurd rfl carries
      · rename_i value here
        obtain ⟨attributes, taken, ⟨⟩⟩ := Json.ok_of_map found
        cases value with
        | object entries => exact ⟨entries, here⟩
        | scalar | array => cases taken
    · cases told
  · cases told

/-- The fields of a kind are nested no deeper than those it has been told by. -/
theorem nesting_ofFields {fields : List (String × Value)} {kind : Kind} (told : ofFields fields = .ok kind) :
    Value.nestingFields kind.fields ≤ Value.nestingFields fields := by
  cases kind with
  | word term attributes =>
    rw [fields_word]
    split
    · exact Nat.zero_le _
    · rename_i carries
      obtain ⟨entries, found⟩ := attributes_of_ofFields told fun none => carries (by rw [none]; rfl)
      obtain ⟨front, back, rfl, _⟩ := List.lookup_eq_some_iff.mp found
      simp only [Value.nestingFields_append, Value.nestingFields, nesting_attributes, Value.nesting]
      omega
  | book | chapter | verse | text | field | heading | leveled | bare | unknown => exact Nat.zero_le _

end Kind

namespace Marker

theorem nesting_toValue_le {kind : Kind} {contents : List Marker} {depth : Nat}
    (fields : Value.nestingFields kind.fields ≤ depth)
    (children : contents ≠ [] → Value.nestingItems (toValues contents) < depth) :
    (toValue ⟨kind, contents⟩).nesting ≤ depth + 1 := by
  rw [toValue_eq, Value.nesting, Value.nestingFields_append, contentsFields]
  refine Nat.succ_le_succ (Nat.max_le.mpr ⟨fields, ?_⟩)
  split
  · exact Nat.zero_le _
  · rename_i some
    rw [Value.nestingFields, Value.nesting, Value.nestingFields, Nat.max_zero]
    exact children fun none => some (by rw [none]; rfl)

/-- The parts of a marker that members make up. -/
theorem parts_of_ofMembers {children : Tree → Option (List Marker)} {field : Tree → Option Value}
    {members : List (Option String × Tree)} {marker : Marker} (made : ofMembers children field members = some marker) :
    childrenOf children members = some marker.contents ∧
      ∃ fields, Tree.fieldsOf field (members.filter fun member => !isContents member) = some fields ∧
        Kind.ofFields fields = .ok marker.kind := by
  obtain ⟨contents, gathered, rest⟩ := Option.bind_eq_some_iff.mp made
  obtain ⟨fields, kept, rest⟩ := Option.bind_eq_some_iff.mp rest
  obtain ⟨kind, told, ⟨⟩⟩ := Option.bind_eq_some_iff.mp rest
  exact ⟨gathered, fields, kept, Json.toOption_eq_some.mp told⟩

theorem nesting_kind {depth : Nat} {members : List (Option String × Tree)} {fields : List (String × Value)} {kind : Kind}
    (kept : Tree.fieldsOf (Tree.value depth) members = some fields) (told : Kind.ofFields fields = .ok kind) :
    Value.nestingFields kind.fields ≤ depth := by
  refine Nat.le_trans (Kind.nesting_ofFields told) (Value.nestingFields_le.mpr fun field inside => ?_)
  obtain ⟨member, _, part⟩ := Tree.fieldsOf_part kept inside
  exact Tree.nesting_value part

/-- Children come from a list. -/
theorem children_of_childrenOf {children : Tree → Option (List Marker)} {members : List (Option String × Tree)}
    {contents : List Marker} (gathered : childrenOf children members = some contents) (some : contents ≠ []) :
    ∃ tree, children tree = Option.some contents := by
  unfold childrenOf at gathered
  split at gathered
  · cases gathered
    exact absurd rfl some
  · exact ⟨_, gathered⟩
  · cases gathered

theorem nesting_listOfTree {depth : Nat} {tree : Tree} {contents : List Marker}
    (each : ∀ less < depth, ∀ {tree : Tree} {marker : Marker}, ofTree less tree = some marker →
      marker.toValue.nesting ≤ less)
    (meant : listOfTree depth tree = some contents) : Value.nestingItems (toValues contents) < depth := by
  cases depth with
  | zero => cases tree <;> cases meant
  | succ depth =>
    cases tree with
    | scalar | object => cases meant
    | array items =>
      rw [toValues_eq]
      refine Nat.lt_succ_of_le (Value.nestingItems_le.mpr (List.forall_mem_map.mpr fun marker inside => ?_))
      obtain ⟨item, _, meant⟩ := Json.mem_of_mapM meant inside
      exact each depth (Nat.lt_succ_self depth) meant

/-- Written, a marker is nested no deeper than was allowed when it was read. -/
theorem nesting_ofTree {depth : Nat} {tree : Tree} {marker : Marker} (meant : ofTree depth tree = some marker) :
    marker.toValue.nesting ≤ depth := by
  induction depth using Nat.strongRecOn generalizing tree marker with
  | _ depth ih =>
    obtain ⟨kind, contents⟩ := marker
    cases depth with
    | zero => cases tree <;> cases meant
    | succ depth =>
      rw [ofTree_succ] at meant
      cases tree with
      | scalar | array => cases meant
      | object members =>
        obtain ⟨gathered, fields, kept, told⟩ := parts_of_ofMembers meant
        refine nesting_toValue_le (nesting_kind kept told) fun some => ?_
        obtain ⟨tree, meant⟩ := children_of_childrenOf gathered some
        exact nesting_listOfTree (fun less below => ih less (Nat.lt_succ_of_lt below)) meant

end Marker

namespace Document

/-- Written, a document that has been read is nested no deeper than a text may be. -/
theorem nesting_ofTree {tree : Tree} {document : Document} (meant : ofTree tree = some document) :
    document.toValue.nesting ≤ Json.maxDepth := by
  obtain ⟨contents⟩ := document
  have listed : ∀ {tree : Tree}, markersOf tree = some contents →
      Value.nestingItems (Marker.toValues contents) < Json.maxDepth - 1 :=
    fun meant => Marker.nesting_listOfTree (fun _ _ => Marker.nesting_ofTree) meant
  have markers : Value.nestingItems (Marker.toValues contents) < Json.maxDepth - 1 := by
    cases tree with
    | scalar => cases meant
    | array items =>
      match items with
      | [] =>
        cases meant
        decide
      | [item] =>
        obtain ⟨_, meant, ⟨⟩⟩ := Option.map_eq_some_iff.mp meant
        exact listed meant
      | _ :: _ :: _ => cases meant
    | object members =>
      change (if members.all (·.1.isSome) then _ else _) = _ at meant
      split at meant
      · obtain ⟨_, gathered, ⟨⟩⟩ := Option.map_eq_some_iff.mp meant
        by_cases empty : contents = []
        · rw [empty]
          decide
        · obtain ⟨tree, meant⟩ := Marker.children_of_childrenOf gathered empty
          exact listed meant
      · cases meant
  rw [toValue, Value.nesting, Value.nestingFields, Value.nesting, Value.nestingFields, Nat.max_zero]
  exact Nat.succ_le_succ markers

/-- What has been read once is in its normal form: written, whatever the text was like, it is accepted, read back as the
same document and written as the same text. -/
theorem first_reading_normalises {input : Json.Input} {document : Document} (accepted : ofInput input = .ok document) :
    Json.nesting document.written.toList ≤ 127 ∧ ofText document.written = .ok document ∧
      (ofText document.written).map written = .ok document.written := by
  obtain ⟨tree, _, meant⟩ := means_reader.of_whole accepted
  have shallow := nesting_ofTree meant
  have back := ofText_written shallow
  refine ⟨?_, back, by rw [back]; rfl⟩
  have text : document.written.toList = document.toValue.written := String.toList_ofList
  rw [text, Json.nesting_written document.exact_toValue]
  exact shallow

/-- A text far from what is written: a list with blanks in it, a field that means nothing, one that comes twice, the tag
in the last place, a level that is left out and a tag without a known meaning in its short form. -/
def looseText : String :=
  "[ [\x7b\"hue\":[\"red\"],\"depth\":3,\"contents\" : [\x7b\"marker\":\"zz\"\x7d,\x7b\"marker\":\"th\"\x7d],\"depth\":2,\"marker\":\"q\"\x7d]\n]"

def loose : Document := ⟨[⟨.leveled .q 2, [⟨.unknown "zz", []⟩, ⟨.leveled .th 1, []⟩]⟩]⟩

theorem first_reading_normalises_of_loose :
    ofInput (.ofString looseText) = .ok loose ∧ loose.written ≠ looseText ∧ Json.nesting loose.written.toList ≤ 127 ∧
      ofText loose.written = .ok loose ∧ (ofText loose.written).map written = .ok loose.written := by
  have accepted : ofInput (.ofString looseText) = .ok loose := Json.toOption_eq_some.mp (by decide +kernel)
  exact ⟨accepted, by decide +kernel, first_reading_normalises accepted⟩

end Document

end ScriptureMarkup
