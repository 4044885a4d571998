import ScriptureMarkup.Proofs.Interchange.Dispatch

/-!
Fields in another order, and fields that a kind does not have, leave a document as it is.
-/

namespace ScriptureMarkup

open Json (Input ReadsAs Scalar Tree Value lastOf)

/-- In no object does a key come twice. -/
inductive Json.Tree.KeysApart : Tree → Prop
  | scalar (meaning : Option Scalar) : KeysApart (.scalar meaning)
  | array {items : List Tree} : (∀ item ∈ items, KeysApart item) → KeysApart (.array items)
  | object {members : List (Option String × Tree)} :
      (members.filterMap Prod.fst).Nodup → (∀ member ∈ members, KeysApart member.2) → KeysApart (.object members)

/-- A key that is neither `marker` nor `contents`, nor that of a field of a kind with the tag that the members give. -/
def Marker.Foreign (members : List (Option String × Tree)) (key : String) : Prop :=
  key ≠ "marker" ∧ key ≠ "contents" ∧
    ∀ kind : Kind, lastOf "marker" members = some (.scalar (some (.string kind.tag.name))) → key ∉ kind.fields.map Prod.fst

/-- A place in a document, by what is read there. In a marker, and in a list of them, at most `depth` lists and
objects may lie in each other, itself among them. -/
inductive Place
  | document
  | markers (depth : Nat)
  | marker (depth : Nat)
  | value

namespace Place

/-- The place of the elements of a list. -/
def item : Place → Place
  | .document => .markers (Json.maxDepth - 1)
  | .markers (depth + 1) => .marker depth
  | _ => .value

/-- The place of what an object holds under a key. -/
def field (key : Option String) : Place → Place
  | .document => if key = some "contents" then .markers (Json.maxDepth - 1) else .value
  | .marker (depth + 1) => if key = some "contents" then .markers depth else .value
  | _ => .value

/-- Whether a member may be added to those that an object has. A document takes any that does not hold its markers; a
marker takes a foreign one whose value can be read there. -/
def Admits (members : List (Option String × Tree)) (entry : Option String × Tree) : Place → Prop
  | .document => ∃ key, entry.1 = some key ∧ key ≠ "contents"
  | .marker (depth + 1) =>
    (∃ key, entry.1 = some key ∧ Marker.Foreign members key) ∧ ∃ value, ReadsAs (Json.value depth) entry.2 value
  | _ => False

end Place

/-- A member as it was, among what it was and what it has become. -/
def former (member : Option String × Tree × Tree) : Option String × Tree := (member.1, member.2.1)

/-- A member as it has become. -/
def latter (member : Option String × Tree × Tree) : Option String × Tree := (member.1, member.2.2)

/-- In any number of objects, at any depth, the members have been put in another order, and members that mean nothing
there have been put between them. -/
inductive Rearranged : Place → Tree → Tree → Prop
  | scalar (place : Place) (meaning : Option Scalar) : Rearranged place (.scalar meaning) (.scalar meaning)
  | array {place : Place} {items : List (Tree × Tree)} :
      (∀ item ∈ items, Rearranged place.item item.1 item.2) →
      Rearranged place (.array (items.map Prod.fst)) (.array (items.map Prod.snd))
  | object {place : Place} {members : List (Option String × Tree × Tree)} {added others : List (Option String × Tree)} :
      (∀ member ∈ members, Rearranged (place.field member.1) member.2.1 member.2.2) →
      (∀ entry ∈ added, place.Admits (members.map former) entry) → others.Perm (members.map latter ++ added) →
      Rearranged place (.object (members.map former)) (.object others)

namespace Kind

theorem optional_congr {α : Type} (fromValue : Value → Except Json.Fault α) {name : String}
    {fields others : List (String × Value)} (same : fields.lookup name = others.lookup name) : optional fromValue name fields = optional fromValue name others := by
  rw [optional, optional, same]

theorem obligatory_congr {α : Type} (fromValue : Value → Except Json.Fault α) {name : String}
    {fields others : List (String × Value)} (same : fields.lookup name = others.lookup name) :
    obligatory fromValue name fields = obligatory fromValue name others := by
  rw [obligatory, obligatory, optional_congr fromValue same]

/-- A tag looks at no fields but those that kinds of it have. -/
theorem ofTag_congr {tag : Tag} {fields others : List (String × Value)}
    (same : ∀ kind : Kind, kind.tag = tag → ∀ key ∈ kind.fields.map Prod.fst, fields.lookup key = others.lookup key) :
    ofTag tag fields = ofTag tag others := by
  cases tag with
  | id => rw [ofTag, ofTag, obligatory_congr takeText (same (.book "") rfl "text_identifier" (by decide))]
  | c => rw [ofTag, ofTag, obligatory_congr takeNumber (same (.chapter 0) rfl "number" (by decide))]
  | v => rw [ofTag, ofTag, obligatory_congr takeText (same (.verse "") rfl "verse_number" (by decide))]
  | text => rw [ofTag, ofTag, obligatory_congr takeText (same (.text "") rfl "text" (by decide))]
  | w =>
    have fields := same (.word "" (.ofList [("", "")])) rfl
    rw [ofTag, ofTag, optional_congr takeAttributes (fields "attributes" (by decide)),
      obligatory_congr takeText (fields "term" (by decide))]
  | field tag =>
    rw [ofTag, ofTag, obligatory_congr takeText (same (.field tag "") rfl tag.fieldName (.tail _ (.head _)))]
  | heading tag =>
    have fields := same (.heading tag 0 "") rfl
    rw [ofTag, ofTag, optional_congr takeText (fields tag.fieldName (.tail _ (.tail _ (.head _)))),
      optional_congr takeLevel (fields "weight" (.tail _ (.head _)))]
  | leveled tag =>
    rw [ofTag, ofTag, optional_congr takeLevel (same (.leveled tag 0) rfl tag.fieldName (.tail _ (.head _)))]
  | bare tag => rfl
  | unknown => rw [ofTag, ofTag, obligatory_congr takeText (same (.unknown "") rfl "identifier" (by decide))]

/-- Fields make up the same kind if they agree in the tag and in what kinds of this tag have. -/
theorem ofFields_agree {fields others : List (String × Value)} (marked : fields.lookup "marker" = others.lookup "marker")
    (same : ∀ kind : Kind, fields.lookup "marker" = some (.string kind.tag.name) →
      ∀ key ∈ kind.fields.map Prod.fst, fields.lookup key = others.lookup key) :
    ofFields fields = ofFields others := by
  rw [ofFields_eq, ofFields_eq, ← marked]
  split
  · rename_i name here
    cases found : Tag.ofName? name with
    | none => rfl
    | some tag =>
      refine ofTag_congr fun kind tagged => same kind ?_
      rw [here, tagged, Tag.name_of_ofName? found]
  · rfl

end Kind

section Members

variable {members : List (Option String × Tree × Tree)} {added others : List (Option String × Tree)}

theorem apart_latter (apart : ((members.map former).filterMap Prod.fst).Nodup) :
    ((members.map latter).filterMap Prod.fst).Nodup := by
  rw [List.filterMap_map] at apart ⊢
  exact apart

theorem Json.Tree.fieldsOf_replaced {α : Type} {part : Tree → Option α}
    (each : ∀ member ∈ members, part member.2.1 = part member.2.2) :
    fieldsOf part (members.map former) = fieldsOf part (members.map latter) := by
  rw [fieldsOf, fieldsOf, List.mapM_map, List.mapM_map]
  refine congrArg _ (mapM_congr fun member inside => ?_)
  change member.1.bind (fun key => (part member.2.1).map (key, ·)) = member.1.bind fun key => (part member.2.2).map (key, ·)
  rw [each member inside]

namespace Marker

/-- Where the children of an object stand among its members does not matter. -/
theorem childrenOf_perm (children : Tree → Option (List Marker)) {members others : List (Option String × Tree)}
    (perm : (members.filter isContents).Perm (others.filter isContents)) :
    childrenOf children members = childrenOf children others := by
  rw [childrenOf, childrenOf]
  generalize members.filter isContents = given at perm
  generalize others.filter isContents = again at perm
  rcases given with _ | ⟨member, _ | ⟨_, _⟩⟩
  · rw [List.nil_perm.mp perm]
  · rw [List.singleton_perm.mp perm]
  · -- Of several neither order means anything.
    rcases again with _ | ⟨other, _ | ⟨_, _⟩⟩
    · cases perm.length_eq
    · cases perm.length_eq
    · rfl

theorem childrenOf_replaced {children : Tree → Option (List Marker)}
    (each : ∀ member ∈ members, member.1 = some "contents" → children member.2.1 = children member.2.2) :
    childrenOf children (members.map former) = childrenOf children (members.map latter) := by
  have named : isContents ∘ latter = isContents ∘ former := rfl
  rw [childrenOf, childrenOf, List.filter_map, List.filter_map, named]
  rcases here : members.filter (isContents ∘ former) with _ | ⟨member, _ | ⟨_, _⟩⟩
  · rfl
  · obtain ⟨inside, contents⟩ := List.mem_filter.mp (here ▸ List.mem_singleton_self member)
    exact each member inside (eq_of_beq contents)
  · rfl

theorem childrenOf_rearranged {children : Tree → Option (List Marker)}
    (each : ∀ member ∈ members, member.1 = some "contents" → children member.2.1 = children member.2.2)
    (other : ∀ entry ∈ added, entry.1 ≠ some "contents") (perm : others.Perm (members.map latter ++ added)) :
    childrenOf children (members.map former) = childrenOf children others := by
  have none : added.filter isContents = [] :=
    List.filter_eq_nil_iff.mpr fun entry inside contents => other entry inside (eq_of_beq contents)
  have filtered := perm.filter isContents
  rw [List.filter_append, none, List.append_nil] at filtered
  rw [childrenOf_replaced each, childrenOf_perm children filtered]

/-- All members but the children are kept alike wherever they stand. -/
theorem fieldsOf_others_rearranged {part : Tree → Option Value}
    (each : ∀ member ∈ members, member.1 ≠ some "contents" → part member.2.1 = part member.2.2)
    (apart : ((members.map former).filterMap Prod.fst).Nodup) (kept : ∀ entry ∈ added, (Tree.entryOf part entry).isSome)
    (perm : others.Perm (members.map latter ++ added)) :
    Option.Rel (fun fields more => ∀ key, some key ∉ added.map Prod.fst → fields.lookup key = more.lookup key)
      (Tree.fieldsOf part ((members.map former).filter fun member => !isContents member))
      (Tree.fieldsOf part (others.filter fun member => !isContents member)) := by
  let other (member : Option String × Tree) : Bool := !isContents member
  have replaced :
      Tree.fieldsOf part ((members.map former).filter other) = Tree.fieldsOf part ((members.map latter).filter other) := by
    rw [List.filter_map, List.filter_map]
    refine Tree.fieldsOf_replaced fun member inside => ?_
    obtain ⟨inside, apart⟩ := List.mem_filter.mp inside
    exact each member inside (by simpa [other, isContents, former] using apart)
  have filtered := perm.filter other
  rw [List.filter_append] at filtered
  have agree := Tree.fieldsOf_rearranged filtered ((apart_latter apart).sublist (List.filter_sublist.filterMap _))
    fun entry inside => kept entry (List.mem_of_mem_filter inside)
  rw [← replaced] at agree
  generalize Tree.fieldsOf part ((members.map former).filter other) = before at agree
  generalize Tree.fieldsOf part (others.filter other) = after at agree
  cases agree with
  | none => exact .none
  | some same => exact .some fun key absent => same key fun inside => absent ((List.filter_sublist.map _).subset inside)

/-- The members of an object make up the same marker wherever they stand, whatever foreign ones stand between them. -/
theorem ofMembers_rearranged {depth : Nat}
    (children : ∀ member ∈ members, member.1 = some "contents" → listOfTree depth member.2.1 = listOfTree depth member.2.2)
    (values : ∀ member ∈ members, member.1 ≠ some "contents" → member.2.1.value depth = member.2.2.value depth)
    (apart : ((members.map former).filterMap Prod.fst).Nodup)
    (foreign : ∀ entry ∈ added, (∃ key, entry.1 = some key ∧ Foreign (members.map former) key) ∧
      ∃ value, ReadsAs (Json.value depth) entry.2 value)
    (perm : others.Perm (members.map latter ++ added)) :
    ofMembers (listOfTree depth) (Tree.value depth) (members.map former) =
      ofMembers (listOfTree depth) (Tree.value depth) others := by
  have stray (key : String) (inside : some key ∈ added.map Prod.fst) : Foreign (members.map former) key := by
    obtain ⟨entry, inside, same⟩ := List.mem_map.mp inside
    obtain ⟨⟨_, named, strange⟩, _⟩ := foreign entry inside
    cases named.symm.trans same
    exact strange
  have readable : ∀ entry ∈ added, (Tree.entryOf (Tree.value depth) entry).isSome := by
    intro entry inside
    obtain ⟨⟨key, named, _⟩, value, reads⟩ := foreign entry inside
    rw [Tree.entryOf, named, Option.bind_some, (Json.means_value depth).of_readsAs reads]
    rfl
  have contents : childrenOf (listOfTree depth) (members.map former) = childrenOf (listOfTree depth) others := by
    refine childrenOf_rearranged children (fun entry inside same => ?_) perm
    exact (stray "contents" (List.mem_map.mpr ⟨entry, inside, same⟩)).2.1 rfl
  -- The foreign members stay among the fields that are kept, so the two lists of fields differ; but a kind only looks up
  -- what kinds of its tag have.
  have agree := fieldsOf_others_rearranged values apart readable perm
  rw [ofMembers, ofMembers, contents]
  cases childrenOf (listOfTree depth) others with
  | none => rfl
  | some contents =>
    generalize kept :
      Tree.fieldsOf (Tree.value depth) ((members.map former).filter fun member => !isContents member) = before at agree ⊢
    generalize Tree.fieldsOf (Tree.value depth) (others.filter fun member => !isContents member) = after at agree ⊢
    cases agree with
    | none => rfl
    | @some fields more same =>
      have told : Kind.ofFields fields = Kind.ofFields more := by
        refine Kind.ofFields_agree (same "marker" fun inside => (stray _ inside).1 rfl) fun kind marked key own => ?_
        exact same key fun inside => (stray key inside).2.2 kind (lastOf_of_lookup kept (by decide) marked) own
      simp only [told, Option.bind_eq_bind, Option.bind_some]

end Marker

/-- The values that are kept of an object do not depend on the order of its members. -/
theorem Json.Tree.value_rearranged {depth : Nat} (each : ∀ member ∈ members, member.2.1.value depth = member.2.2.value depth)
    (apart : ((members.map former).filterMap Prod.fst).Nodup) (perm : others.Perm (members.map latter)) :
    fieldsOf (value depth) (members.map former) = fieldsOf (value depth) others := by
  rw [fieldsOf_replaced each, fieldsOf_perm perm.symm (apart_latter apart)]

theorem Document.ofMembers_rearranged
    (each : ∀ member ∈ members, member.1 = some "contents" → markersOf member.2.1 = markersOf member.2.2)
    (foreign : ∀ entry ∈ added, ∃ key, entry.1 = some key ∧ key ≠ "contents")
    (perm : others.Perm (members.map latter ++ added)) : ofMembers (members.map former) = ofMembers others := by
  have named : (members.map former).all (·.1.isSome) = others.all (·.1.isSome) := by
    have added : added.all (·.1.isSome) = true := List.all_eq_true.mpr fun entry inside => by
      obtain ⟨key, named, _⟩ := foreign entry inside
      rw [named]
      rfl
    rw [perm.all_eq, List.all_append, added, Bool.and_true, List.all_map, List.all_map]
    rfl
  have contents : Marker.childrenOf markersOf (members.map former) = Marker.childrenOf markersOf others := by
    refine Marker.childrenOf_rearranged each (fun entry inside same => ?_) perm
    obtain ⟨key, named, other⟩ := foreign entry inside
    exact other (Option.some.inj (named.symm.trans same))
  rw [ofMembers, ofMembers, named, contents]

end Members

namespace Place

/-- What is read in a place is the same of two trees. -/
def Same : Place → Tree → Tree → Prop
  | .document, tree, other => Document.ofTree tree = Document.ofTree other
  | .markers depth, tree, other => Marker.listOfTree depth tree = Marker.listOfTree depth other
  | .marker depth, tree, other => Marker.ofTree depth tree = Marker.ofTree depth other
  | .value, tree, other => ∀ depth, tree.value depth = other.value depth

theorem mapM_replaced {α : Type} {f : Tree → Option α} {items : List (Tree × Tree)}
    (each : ∀ item ∈ items, f item.1 = f item.2) : (items.map Prod.fst).mapM f = (items.map Prod.snd).mapM f := by
  rw [List.mapM_map, List.mapM_map]
  exact Json.mapM_congr each

theorem same_array {place : Place} {items : List (Tree × Tree)} (each : ∀ item ∈ items, place.item.Same item.1 item.2) :
    place.Same (.array (items.map Prod.fst)) (.array (items.map Prod.snd)) := by
  match place with
  | .document =>
    match items with
    | [] => rfl
    | [item] => exact congrArg (Option.map Document.mk) (each item List.mem_cons_self)
    | _ :: _ :: _ => rfl
  | .markers 0 | .marker 0 | .marker (_ + 2) | .marker 1 => rfl
  | .markers (depth + 1) => exact mapM_replaced each
  | .value =>
    intro depth
    cases depth with
    | zero => rfl
    | succ depth => exact congrArg (Option.map Value.array) (mapM_replaced fun item inside => each item inside depth)

theorem same_object {place : Place} {members : List (Option String × Tree × Tree)}
    {added others : List (Option String × Tree)}
    (each : ∀ member ∈ members, (place.field member.1).Same member.2.1 member.2.2)
    (apart : ((members.map former).filterMap Prod.fst).Nodup)
    (admitted : ∀ entry ∈ added, place.Admits (members.map former) entry)
    (perm : others.Perm (members.map latter ++ added)) : place.Same (.object (members.map former)) (.object others) := by
  match place with
  | .document =>
    refine Document.ofMembers_rearranged (fun member inside contents => ?_) admitted perm
    have here := each member inside
    rwa [field, if_pos contents] at here
  | .markers 0 | .markers (_ + 1) | .marker 0 => rfl
  | .marker (depth + 1) =>
    rw [Same, Marker.ofTree_succ]
    refine Marker.ofMembers_rearranged (fun member inside contents => ?_) (fun member inside other => ?_) apart admitted perm
    · have here := each member inside
      rwa [field, if_pos contents] at here
    · have here := each member inside
      rw [field, if_neg other] at here
      exact here depth
  | .value =>
    obtain rfl : added = [] := List.eq_nil_iff_forall_not_mem.mpr admitted
    rw [List.append_nil] at perm
    intro depth
    cases depth with
    | zero => rfl
    | succ depth =>
      refine congrArg (Option.map Value.object) (Tree.value_rearranged (fun member inside => ?_) apart perm)
      exact each member inside depth

end Place

/-- A tree whose members have been rearranged is read as the same. -/
theorem Rearranged.same {place : Place} {tree other : Tree} (rearranged : Rearranged place tree other)
    (apart : tree.KeysApart) : place.Same tree other := by
  induction rearranged with
  | scalar place meaning =>
    cases place with
    | document | markers | marker => rfl
    | value => exact fun _ => rfl
  | array _ ih =>
    cases apart with
    | array apart => exact Place.same_array fun item inside => ih item inside (apart _ (List.mem_map_of_mem inside))
  | object _ admitted perm ih =>
    cases apart with
    | object keys apart =>
      refine Place.same_object (fun member inside => ?_) keys admitted perm
      exact ih member inside (apart _ (List.mem_map_of_mem inside))

namespace Document

/-- Neither the order of fields, at any depth, nor fields that mean nothing where they stand change whether a text is
accepted or which document it loads, if no key comes twice in an object. -/
theorem fields_in_any_order {tree other : Tree} {input otherInput : Input} (apart : tree.KeysApart)
    (rearranged : Rearranged .document tree other) (spelled : tree.SpelledBy input)
    (spelledOther : other.SpelledBy otherInput)
    (document : Document) : ofInput input = .ok document ↔ ofInput otherInput = .ok document := by
  have same : ofTree tree = ofTree other := rearranged.same apart
  have first := means_reader.whole spelled
  have second := means_reader.whole spelledOther
  rw [ofInput, ofInput, ← Json.toOption_eq_some, ← Json.toOption_eq_some, first, second, same]

section Mixed

/-- A document with its fields in the order in which they are written. -/
def tidy : Value :=
  .object [("contents", .array [.object [("marker", .string "q"), ("depth", .integer 2),
    ("contents", .array [.object [("marker", .string "zz")]])]])]

/-- The same document with the tag in the last place, and with fields that other kinds have, or none. -/
def mixed : Value :=
  .object [
    ("contents", .array [.object [("weight", .string "much"),
      ("contents", .array [.object [("hue", .array [.bool true]), ("marker", .string "zz")]]), ("depth", .integer 2),
      ("marker", .string "q")]]),
    ("version", .integer 3)]

theorem foreign_of_tag {members : List (Option String × Tree)} {name key : String}
    (marked : lastOf "marker" members = some (.scalar (some (.string name)))) (other : key ≠ "marker" ∧ key ≠ "contents")
    (absent : ∀ kind : Kind, Tag.ofName? name = some kind.tag → key ∉ kind.fields.map Prod.fst) :
    Marker.Foreign members key := by
  refine ⟨other.1, other.2, fun kind here => absent kind ?_⟩
  cases marked.symm.trans here
  exact Tag.ofName?_name kind.tag

theorem rearranged_mixed : Rearranged .document (.ofValue tidy) (.ofValue mixed) := by
  have unknown : Rearranged (.marker 123) (.ofValue (.object [("marker", .string "zz")]))
      (.ofValue (.object [("hue", .array [.bool true]), ("marker", .string "zz")])) := by
    refine @Rearranged.object _ [(some "marker", .ofValue (.string "zz"), .ofValue (.string "zz"))]
      [(some "hue", .ofValue (.array [.bool true]))] _ ?_ ?_ (List.reverse_perm _).symm
    · exact List.forall_mem_singleton.mpr (.scalar _ _)
    · refine List.forall_mem_singleton.mpr ⟨⟨"hue", rfl, foreign_of_tag rfl (by decide) fun kind found => ?_⟩,
        _, Json.readsAs_written (Json.means_value 122) (.array [.bool true]) ⟨trivial, trivial⟩ rfl⟩
      cases (by decide : Tag.ofName? "zz" = none).symm.trans found
  have children : Rearranged (.markers 124) (.ofValue (.array [.object [("marker", .string "zz")]]))
      (.ofValue (.array [.object [("hue", .array [.bool true]), ("marker", .string "zz")]])) :=
    @Rearranged.array _ [(_, _)] (List.forall_mem_singleton.mpr unknown)
  have leveled : Rearranged (.marker 125)
      (.ofValue (.object [("marker", .string "q"), ("depth", .integer 2),
        ("contents", .array [.object [("marker", .string "zz")]])]))
      (.ofValue (.object [("weight", .string "much"),
        ("contents", .array [.object [("hue", .array [.bool true]), ("marker", .string "zz")]]), ("depth", .integer 2),
        ("marker", .string "q")])) := by
    refine @Rearranged.object _ [(some "marker", .ofValue (.string "q"), .ofValue (.string "q")),
      (some "depth", .ofValue (.integer 2), .ofValue (.integer 2)), (some "contents", _, _)]
      [(some "weight", .ofValue (.string "much"))] _ ?_ ?_ (List.reverse_perm _).symm
    · refine List.forall_mem_cons.mpr ⟨.scalar _ _, List.forall_mem_cons.mpr ⟨.scalar _ _, ?_⟩⟩
      exact List.forall_mem_singleton.mpr children
    · refine List.forall_mem_singleton.mpr ⟨⟨"weight", rfl, foreign_of_tag rfl (by decide) fun kind found => ?_⟩,
        _, Json.readsAs_written (Json.means_value 124) (.string "much") trivial rfl⟩
      have tagged := Option.some.inj ((by decide : Tag.ofName? "q" = some (.leveled .q)).symm.trans found)
      cases kind <;> cases tagged
      exact (by decide : "weight" ∉ ["marker", "depth"])
  refine @Rearranged.object _ [(some "contents", _, _)] [(some "version", .ofValue (.integer 3))] _
    (List.forall_mem_singleton.mpr ?_) (List.forall_mem_singleton.mpr ⟨"version", rfl, by decide⟩) (.refl _)
  exact @Rearranged.array _ [(_, _)] (List.forall_mem_singleton.mpr leveled)

theorem fields_in_any_order_of_mixed :
    ofText tidy.text = .ok ⟨[⟨.leveled .q 2, [⟨.unknown "zz", []⟩]⟩]⟩ ∧
      ofText mixed.text = .ok ⟨[⟨.leveled .q 2, [⟨.unknown "zz", []⟩]⟩]⟩ := by
  have spelled : (Tree.ofValue tidy).SpelledBy (.ofString tidy.text) :=
    Json.spelledBy_written ⟨⟨⟨trivial, ⟨2, rfl, by decide⟩, ⟨⟨trivial, trivial⟩, trivial⟩, trivial⟩, trivial⟩, trivial⟩
  have spelledMixed : (Tree.ofValue mixed).SpelledBy (.ofString mixed.text) := by
    have inner : Value.Exact (.object [("hue", .array [.bool true]), ("marker", .string "zz")]) :=
      ⟨⟨trivial, trivial⟩, trivial, trivial⟩
    exact Json.spelledBy_written ⟨⟨⟨trivial, ⟨inner, trivial⟩, ⟨2, rfl, by decide⟩, trivial, trivial⟩, trivial⟩,
      ⟨3, rfl, by decide⟩, trivial⟩
  have apart : (Tree.ofValue tidy).KeysApart := by
    have unknown : Tree.KeysApart (.ofValue (.object [("marker", .string "zz")])) :=
      .object (by decide : ["marker"].Nodup) (List.forall_mem_singleton.mpr (.scalar _))
    have leveled : Tree.KeysApart (.ofValue (.object [("marker", .string "q"), ("depth", .integer 2),
        ("contents", .array [.object [("marker", .string "zz")]])])) := by
      refine .object (by decide : ["marker", "depth", "contents"].Nodup) (List.forall_mem_cons.mpr ⟨.scalar _, ?_⟩)
      exact List.forall_mem_cons.mpr
        ⟨.scalar _, List.forall_mem_singleton.mpr (.array (List.forall_mem_singleton.mpr unknown))⟩
    exact .object (by decide : ["contents"].Nodup)
      (List.forall_mem_singleton.mpr (.array (List.forall_mem_singleton.mpr leveled)))
  have accepted : ofText tidy.text = .ok ⟨[⟨.leveled .q 2, [⟨.unknown "zz", []⟩]⟩]⟩ :=
    Json.toOption_eq_some.mp ((means_reader.whole spelled).trans rfl)
  exact ⟨accepted, (fields_in_any_order apart rearranged_mixed spelled spelledMixed _).mp accepted⟩

end Mixed

end Document

end ScriptureMarkup
