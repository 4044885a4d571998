import ScriptureMarkup.Marker.Fields
import ScriptureMarkup.Proofs.Json.Values

namespace ScriptureMarkup

namespace Text

variable {α : Type}

theorem lookup_cons_eq (key other : String) (value : α) (entries : List (String × α)) :
    ((key, value) :: entries).lookup other = if other = key then some value else entries.lookup other := by
  rw [List.lookup_cons]
  by_cases same : other = key
  · simp [same]
  · rw [beq_eq_false_iff_ne.mpr same, if_neg same]

theorem lookup_of_mem {key : String} {value : α} {entries : List (String × α)} (apart : (entries.map Prod.fst).Nodup)
    (member : (key, value) ∈ entries) : entries.lookup key = some value := by
  induction entries with
  | nil => cases member
  | cons entry entries ih =>
    obtain ⟨k, v⟩ := entry
    obtain ⟨new, others⟩ := List.nodup_cons.mp apart
    rw [lookup_cons_eq]
    rcases List.mem_cons.mp member with same | later
    · cases same
      exact if_pos rfl
    · rw [if_neg fun same => new (List.mem_map.mpr ⟨(key, value), later, same⟩), ih others later]

theorem lookup_putEntry (key other : String) (value : α) (entries : List (String × α)) :
    (putEntry key value entries).lookup other = if other = key then some value else entries.lookup other := by
  induction entries with
  | nil => exact lookup_cons_eq key other value []
  | cons entry entries ih =>
    obtain ⟨k, v⟩ := entry
    rw [putEntry]
    split
    · exact lookup_cons_eq key other value _
    · split
      · rename_i same
        subst same
        rw [lookup_cons_eq, lookup_cons_eq]
        split <;> rfl
      · rename_i differ
        rw [lookup_cons_eq, lookup_cons_eq, ih]
        by_cases here : other = k
        · subst here
          rw [if_pos rfl, if_neg (Ne.symm differ), if_pos rfl]
        · rw [if_neg here, if_neg here]

theorem lookup_foldl_putEntry (key : String) {entries : List (String × α)} (apart : (entries.map Prod.fst).Nodup)
    (sorted : List (String × α)) :
    (entries.foldl (fun sorted entry => putEntry entry.1 entry.2 sorted) sorted).lookup key =
      (entries.lookup key).or (sorted.lookup key) := by
  induction entries generalizing sorted with
  | nil => rfl
  | cons entry entries ih =>
    obtain ⟨k, v⟩ := entry
    obtain ⟨new, others⟩ := List.nodup_cons.mp apart
    rw [List.foldl_cons, ih others, lookup_putEntry, lookup_cons_eq]
    by_cases same : key = k
    · subst same
      have absent : entries.lookup key = none := by
        refine List.lookup_eq_none_iff.mpr fun entry member => ?_
        have differ : key ≠ entry.1 := fun same => new (List.mem_map.mpr ⟨entry, member, same.symm⟩)
        simpa using differ
      rw [absent, if_pos rfl, if_pos rfl]
      rfl
    · rw [if_neg same, if_neg same]

/-- If no key comes twice, order is all that changes. -/
theorem lookup_inKeyOrder (key : String) {entries : List (String × α)} (apart : (entries.map Prod.fst).Nodup) :
    (inKeyOrder entries).lookup key = entries.lookup key := by
  rw [inKeyOrder, lookup_foldl_putEntry key apart]
  simp

theorem putEntry_of_above {key : String} {entries : List (String × α)} (above : ∀ entry ∈ entries, entry.1 < key)
    (value : α) : putEntry key value entries = entries ++ [(key, value)] := by
  induction entries with
  | nil => rfl
  | cons entry entries ih =>
    obtain ⟨k, v⟩ := entry
    obtain ⟨below, others⟩ := List.forall_mem_cons.mp above
    have apart : ¬ key < k ∧ key ≠ k :=
      ⟨String.lt_asymm below, fun same => String.lt_irrefl _ (same ▸ below)⟩
    rw [putEntry, if_neg apart.1, if_neg apart.2, ih others, List.cons_append]

theorem inKeyOrder_of_ascend {entries : List (String × α)} (ascend : KeysAscend entries) : inKeyOrder entries = entries := by
  suffices ∀ sorted : List (String × α), KeysAscend (sorted ++ entries) →
      entries.foldl (fun sorted entry => putEntry entry.1 entry.2 sorted) sorted = sorted ++ entries from
    this [] ascend
  clear ascend
  induction entries with
  | nil => simp
  | cons entry entries ih =>
    intro sorted ascend
    have above : ∀ other ∈ sorted, other.1 < entry.1 :=
      fun other member => (List.pairwise_append.mp ascend).2.2 other member entry List.mem_cons_self
    rw [List.append_cons] at ascend ⊢
    rw [List.foldl_cons, putEntry_of_above above]
    exact ih _ ascend

end Text

theorem TextTag.fieldName_apart (tag : TextTag) : ["marker", tag.fieldName, "contents"].Nodup := by
  cases tag <;> decide

theorem HeadingTag.fieldName_apart (tag : HeadingTag) : ["marker", "weight", tag.fieldName, "contents"].Nodup := by
  cases tag <;> decide

theorem LevelTag.fieldName_apart (tag : LevelTag) : ["marker", tag.fieldName, "contents"].Nodup := by
  cases tag <;> decide

namespace Kind

open Json (Fault Value)

/-- Attributes as they are written. -/
def attributesValue (attributes : Attributes) : Value :=
  .object (attributes.entries.map fun (name, value) => (name, .string value))

theorem fields_word (term : String) (attributes : Attributes) :
    (Kind.word term attributes).fields = ("marker", .string "w") :: ("term", .string term) ::
      if attributes.entries.isEmpty then [] else [("attributes", attributesValue attributes)] := rfl

/-- Of the fields of a kind no two share a key, and none takes that of the children. -/
theorem keys_apart (kind : Kind) : (kind.fields.map Prod.fst ++ ["contents"]).Nodup := by
  cases kind with
  | book identifier => exact (by decide : ["marker", "text_identifier", "contents"].Nodup)
  | chapter number => exact (by decide : ["marker", "number", "contents"].Nodup)
  | verse number => exact (by decide : ["marker", "verse_number", "contents"].Nodup)
  | text content => exact (by decide : ["marker", "text", "contents"].Nodup)
  | word term attributes =>
    rw [fields_word]
    split
    · exact (by decide : ["marker", "term", "contents"].Nodup)
    · exact (by decide : ["marker", "term", "attributes", "contents"].Nodup)
  | field tag content => exact tag.fieldName_apart
  | heading tag weight content => exact tag.fieldName_apart
  | leveled tag level => exact tag.fieldName_apart
  | bare tag => exact (by decide : ["marker", "contents"].Nodup)
  | unknown identifier => exact (by decide : ["marker", "identifier", "contents"].Nodup)

theorem exact_attributesValue (attributes : Attributes) : (attributesValue attributes).Exact := by
  refine Value.exactFields_iff.mpr fun field member => ?_
  obtain ⟨entry, _, rfl⟩ := List.mem_map.mp member
  exact trivial

theorem exact_fields (kind : Kind) : ∀ field ∈ kind.fields, field.2.Exact := by
  have text : ∀ content, (Value.string content).Exact := fun _ => trivial
  have byte : ∀ level : UInt8, (Value.integer level.toNat).Exact :=
    fun level => ⟨level.toNat, rfl, Nat.lt_trans level.toNat_lt (by decide)⟩
  have word : ∀ number : UInt32, (Value.integer number.toNat).Exact :=
    fun number => ⟨number.toNat, rfl, Nat.lt_trans number.toNat_lt (by decide)⟩
  cases kind with
  | word term attributes =>
    rw [fields_word]
    split <;> simp [text, exact_attributesValue]
  | book | chapter | verse | text | field | heading | leveled | bare | unknown => simp [fields, carried, text, byte, word]

theorem sorted_attributesValue (attributes : Attributes) : (attributesValue attributes).sorted = attributesValue attributes := by
  have ascend : Text.KeysAscend (attributes.entries.map fun entry => (entry.1, Value.string entry.2)) :=
    List.pairwise_map.mpr attributes.ascend
  rw [attributesValue, Value.sorted, Value.sortedFields_eq, List.map_map]
  exact congrArg Value.object (Text.inKeyOrder_of_ascend ascend)

/-- The values that a kind carries are written in order. -/
theorem sorted_fields (kind : Kind) : (kind.fields.map fun field => (field.1, field.2.sorted)) = kind.fields := by
  cases kind with
  | word term attributes =>
    rw [fields_word]
    split
    · rfl
    · rw [List.map_cons, List.map_cons, List.map_cons, sorted_attributesValue]
      rfl
  | book | chapter | verse | text | field | heading | leveled | bare | unknown => rfl

theorem ofFields_congr {fields others : List (String × Value)} (same : ∀ key, fields.lookup key = others.lookup key) :
    ofFields fields = ofFields others := by
  simp only [ofFields, ofTag, obligatory, optional, same]

theorem takeAttributes_attributesValue (attributes : Attributes) :
    takeAttributes (attributesValue attributes) = .ok attributes := by
  have texts : ∀ entries : List (String × String),
      ((entries.map fun (name, value) => (name, Value.string value)).mapM fun entry : String × Value =>
        (takeText entry.2).map fun content => (entry.1, content)) = .ok entries := by
    intro entries
    induction entries with
    | nil => rfl
    | cons entry entries ih =>
      rw [List.map_cons, List.mapM_cons, ih]
      rfl
  rw [attributesValue, takeAttributes, texts]
  obtain ⟨entries, ascend⟩ := attributes
  change Except.ok (Attributes.ofList entries) = _
  simp only [Attributes.ofList, Text.inKeyOrder_of_ascend ascend]

theorem below_written {n limit : Nat} (fits : n < limit) (wanted : Json.Wanted) :
    Json.Scalar.below limit wanted (.number (.integer n)) = .ok n := by
  rw [Json.Scalar.below, if_pos ⟨Int.natCast_nonneg n, Int.ofNat_lt.mpr fits⟩, Int.toNat_natCast]

theorem takeLevel_written (level : UInt8) : takeLevel (.integer level.toNat) = .ok level := by
  rw [takeLevel, Value.take, Json.Scalar.byte, below_written level.toNat_lt]
  exact congrArg Except.ok UInt8.ofNat_toNat

theorem takeNumber_written (number : UInt32) : takeNumber (.integer number.toNat) = .ok number := by
  rw [takeNumber, Value.take, Json.Scalar.word, below_written number.toNat_lt]
  exact congrArg Except.ok UInt32.ofNat_toNat

theorem takeText_written (content : String) : takeText (.string content) = .ok content := rfl

theorem optional_of_lookup {α : Type} {fromValue : Value → Except Fault α} {name : String} {fields : List (String × Value)}
    {value : Value} {taken : α} (found : fields.lookup name = some value) (takes : fromValue value = .ok taken) :
    optional fromValue name fields = .ok (some taken) := by
  rw [optional, found]
  simp only [takes]
  rfl

theorem obligatory_of_lookup {α : Type} {fromValue : Value → Except Fault α} {name : String}
    {fields : List (String × Value)} {value : Value} {taken : α} (found : fields.lookup name = some value)
    (takes : fromValue value = .ok taken) : obligatory fromValue name fields = .ok taken := by
  rw [obligatory, optional_of_lookup found takes]
  rfl

theorem lookup_fields (kind : Kind) {name : String} {value : Value} (member : (name, value) ∈ kind.fields) :
    kind.fields.lookup name = some value :=
  Text.lookup_of_mem (List.nodup_append.mp kind.keys_apart).1 member

/-- A tag finds in the fields of a kind what the kind carries. -/
theorem ofTag_fields (kind : Kind) : ofTag kind.tag kind.fields = .ok kind := by
  cases kind with
  | book | verse | text | unknown | bare => rfl
  | chapter number =>
    rw [tag, ofTag, obligatory_of_lookup rfl (takeNumber_written number)]
    rfl
  | word term attributes =>
    have found : (Kind.word term attributes).fields.lookup "term" = some (.string term) := rfl
    rw [tag, ofTag, obligatory_of_lookup found (takeText_written term), fields_word]
    by_cases none : attributes.entries.isEmpty
    · have empty : attributes = .empty := by
        obtain ⟨entries, ascend⟩ := attributes
        cases List.isEmpty_iff.mp none
        rfl
      rw [if_pos none, empty]
      rfl
    · rw [if_neg none, optional_of_lookup rfl (takeAttributes_attributesValue attributes)]
      rfl
  | field tag content =>
    have found := lookup_fields (.field tag content) (List.mem_cons_of_mem _ List.mem_cons_self)
    rw [Kind.tag, ofTag, obligatory_of_lookup found (takeText_written content)]
    rfl
  | heading tag weight content =>
    have weighs := lookup_fields (.heading tag weight content) (List.mem_cons_of_mem _ List.mem_cons_self)
    have told := lookup_fields (.heading tag weight content)
      (List.mem_cons_of_mem _ (List.mem_cons_of_mem _ List.mem_cons_self))
    rw [Kind.tag, ofTag, optional_of_lookup told (takeText_written content),
      optional_of_lookup weighs (takeLevel_written weight)]
    rfl
  | leveled tag level =>
    have found := lookup_fields (.leveled tag level) (List.mem_cons_of_mem _ List.mem_cons_self)
    rw [Kind.tag, ofTag, optional_of_lookup found (takeLevel_written level)]
    rfl

/-- A kind is told by its own fields. -/
theorem ofFields_fields (kind : Kind) : ofFields kind.fields = .ok kind := by
  have marked : kind.fields.lookup "marker" = some (.string kind.tag.name) := by
    rw [fields, Text.lookup_cons_eq, if_pos rfl]
  simp only [ofFields_eq, marked, Tag.ofName?_name, ofTag_fields]

/-- A kind is told by its fields after they have been put in order. -/
theorem ofFields_putEntry (kind : Kind) :
    ofFields (kind.fields.foldl (fun fields field => Text.putEntry field.1 field.2.sorted fields) []) = .ok kind := by
  have read := calc
    kind.fields.foldl (fun fields field => Text.putEntry field.1 field.2.sorted fields) []
    _ = Text.inKeyOrder (kind.fields.map fun field => (field.1, field.2.sorted)) := by rw [Text.inKeyOrder, List.foldl_map]
    _ = Text.inKeyOrder kind.fields := by rw [kind.sorted_fields]
  rw [read, ← ofFields_fields kind]
  exact ofFields_congr fun key => Text.lookup_inKeyOrder key (List.nodup_append.mp kind.keys_apart).1

end Kind

end ScriptureMarkup
