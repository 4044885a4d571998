import ScriptureMarkup.Marker.Interchange
import ScriptureMarkup.Proofs.Interchange.RoundTrip
import ScriptureMarkup.Proofs.Json.SpelledSkip
import ScriptureMarkup.Proofs.Json.TreeValues

/-!
Markers and documents by what their texts spell. Where the members of an object stand no longer matters
here: `contents` is one of them, and all others make up the kind.
-/

namespace ScriptureMarkup

open Json (Fault Input Means MeansMember Reader Tree Value foldMembers insideOf outcome result)

namespace Marker

/-- Whether a member holds the children of its object. -/
def isContents (member : Option String × Tree) : Bool := member.1 == some "contents"

/-- The children of an object: what its only member of their name means, or none at all. -/
def childrenOf (children : Tree → Option (List Marker)) (members : List (Option String × Tree)) : Option (List Marker) :=
  match members.filter isContents with
  | [] => some []
  | [member] => children member.2
  | _ => none

/-- The marker that members make up. -/
def ofMembers (children : Tree → Option (List Marker)) (field : Tree → Option Value)
    (members : List (Option String × Tree)) :
    Option Marker := do
  let contents ← childrenOf children members
  let fields ← Tree.fieldsOf field (members.filter fun member => !isContents member)
  let kind ← (Kind.ofFields fields).toOption
  pure ⟨kind, contents⟩

/-- The marker that a tree means in which at most `depth` lists and objects lie in each other. -/
def ofTree : Nat → Tree → Option Marker
  | 0 => Tree.objectOf fun _ => none
  | 1 => Tree.objectOf (ofMembers (Tree.arrayOf fun _ => none) (Tree.value 0))
  | depth + 2 => Tree.objectOf (ofMembers (Tree.arrayOf (List.mapM (ofTree depth))) (Tree.value (depth + 1)))

/-- The markers that a list means in which at most `depth` lists and objects lie in each other, itself among them. -/
def listOfTree : Nat → Tree → Option (List Marker)
  | 0 => Tree.arrayOf fun _ => none
  | depth + 1 => Tree.arrayOf (List.mapM (ofTree depth))

theorem ofTree_succ (depth : Nat) :
    ofTree (depth + 1) = Tree.objectOf (ofMembers (listOfTree depth) (Tree.value depth)) := by
  cases depth <;> rfl

/-- Reads a list of markers. -/
def listReader : Nat → Reader (List Marker)
  | 0 => Json.arrayOf none
  | depth + 1 => Json.arrayOf (some (reader depth))

section Members

variable {children : Reader (List Marker)} {field : Reader Value} {childrenOfTree : Tree → Option (List Marker)}
  {fieldOfTree : Tree → Option Value}

/-- What one member does to what has been gathered of a marker. -/
def step (children : Tree → Option (List Marker)) (field : Tree → Option Value)
    (state : Option (List Marker) × List (String × Value)) (key : String) (tree : Tree) :
    Option (Option (List Marker) × List (String × Value)) :=
  if key = "contents" then
    if state.1.isSome then none else (children tree).map fun contents => (some contents, state.2)
  else (field tree).map fun value => (state.1, Text.putEntry key value state.2)

theorem means_member (means : Means .value children childrenOfTree) (meansField : Means .value field fieldOfTree) :
    MeansMember (member children field) (step childrenOfTree fieldOfTree) := by
  intro state key
  unfold member step
  by_cases isContents : key = "contents"
  · simp only [if_pos isContents]
    cases state.1.isSome with
    | true => exact fun _ => rfl
    | false => exact means.map fun contents => (some contents, state.2)
  · simp only [if_neg isContents]
    exact meansField.map fun value => (state.1, Text.putEntry key value state.2)

/-- The children that have been gathered in the end, if there are any. -/
def gatheredChildren (children : Tree → Option (List Marker)) (known : Option (List Marker))
    (members : List (Option String × Tree)) : Option (Option (List Marker)) :=
  match known, members.filter isContents with
  | _, [] => some known
  | none, [member] => (children member.2).map some
  | _, _ => none

/-- What has been gathered in the end: the children, and all other members in order. -/
def gathered (children : Tree → Option (List Marker)) (field : Tree → Option Value)
    (state : Option (List Marker) × List (String × Value)) (members : List (Option String × Tree)) :
    Option (Option (List Marker) × List (String × Value)) := do
  let contents ← gatheredChildren children state.1 members
  let entries ← (members.filter fun member => !isContents member).mapM (Tree.entryOf field)
  pure (contents, entries.foldl (fun fields entry => Text.putEntry entry.1 entry.2 fields) state.2)

section Gathered

variable {children : Tree → Option (List Marker)} {field : Tree → Option Value} {known : Option (List Marker)}
  {fields : List (String × Value)} {members : List (Option String × Tree)} {key : String} {tree : Tree}

theorem gatheredChildren_contents (contents : key = "contents") :
    gatheredChildren children known ((some key, tree) :: members) =
      if known.isSome then none
      else (children tree).bind fun markers => gatheredChildren children (some markers) members := by
  have here : isContents (some key, tree) = true := by rw [contents]; rfl
  simp only [gatheredChildren, List.filter_cons, here, if_true]
  cases known with
  | some _ => simp
  | none =>
    cases members.filter isContents with
    | nil => cases meant : children tree <;> simp [meant]
    | cons _ _ => cases children tree <;> simp

theorem gatheredChildren_other {key : Option String} (other : key ≠ some "contents") :
    gatheredChildren children known ((key, tree) :: members) = gatheredChildren children known members := by
  have apart : isContents (key, tree) = false := by simpa [isContents] using other
  simp only [gatheredChildren, List.filter_cons, apart, Bool.false_eq_true, if_false]

theorem gathered_keyless : gathered children field (known, fields) ((none, tree) :: members) = none := by
  have absent : isContents (none, tree) = false := rfl
  simp [gathered, absent, Tree.entryOf]

theorem gathered_contents (contents : key = "contents") :
    gathered children field (known, fields) ((some key, tree) :: members) =
      if known.isSome then none
      else (children tree).bind fun markers => gathered children field (some markers, fields) members := by
  have here : isContents (some key, tree) = true := by rw [contents]; rfl
  simp only [gathered, gatheredChildren_contents contents, List.filter_cons, here, Bool.not_true, Bool.false_eq_true,
    if_false]
  cases known <;> simp [Option.bind_assoc]

theorem gathered_other (other : key ≠ "contents") :
    gathered children field (known, fields) ((some key, tree) :: members) =
      (field tree).bind fun value => gathered children field (known, Text.putEntry key value fields) members := by
  have apart : isContents (some key, tree) = false := by simpa [isContents] using other
  simp only [gathered, gatheredChildren_other (mt Option.some.inj other), List.filter_cons, apart, Bool.not_false, if_true,
    List.mapM_cons, Tree.entryOf, Option.bind_some]
  cases gatheredChildren children known members <;> cases field tree <;> simp [Option.bind_assoc]

end Gathered

theorem foldMembers_step (state : Option (List Marker) × List (String × Value)) (members : List (Option String × Tree)) :
    foldMembers (step childrenOfTree fieldOfTree) state members = gathered childrenOfTree fieldOfTree state members := by
  induction members generalizing state with
  | nil =>
    obtain ⟨contents, fields⟩ := state
    cases contents <;> rfl
  | cons member members ih =>
    obtain ⟨key, tree⟩ := member
    obtain ⟨known, fields⟩ := state
    rw [foldMembers, List.foldlM_cons]
    cases key with
    | none => exact gathered_keyless.symm
    | some key =>
      rw [Option.bind_some, step]
      by_cases contents : key = "contents"
      · rw [gathered_contents contents, if_pos contents]
        cases known with
        | some _ => rfl
        | none =>
          cases childrenOfTree tree with
          | none => rfl
          | some markers => exact ih (some markers, fields)
      · rw [gathered_other contents, if_neg contents]
        cases fieldOfTree tree with
        | none => rfl
        | some value => exact ih (known, Text.putEntry key value fields)

theorem childrenOf_eq (children : Tree → Option (List Marker)) (members : List (Option String × Tree)) :
    childrenOf children members = (gatheredChildren children none members).map (·.getD []) := by
  unfold childrenOf gatheredChildren
  generalize members.filter isContents = filtered
  match filtered with
  | [] => rfl
  | [member] => simp [Function.comp_def]
  | _ :: _ :: _ => rfl

/-- Behind its brace a marker is what its members make up. -/
theorem means_body (means : Means .value children childrenOfTree) (meansField : Means .value field fieldOfTree) :
    Means (.members true) (body children field) (ofMembers childrenOfTree fieldOfTree) := by
  have read := (Means.members (means_member means meansField) (none, [])).finishing
    fun state => (Kind.ofFields state.2).map fun kind => Marker.mk kind (state.1.getD [])
  rw [← funext (body_eq children field)] at read
  suffices same : ∀ members, ofMembers childrenOfTree fieldOfTree members = _ from funext same ▸ read
  intro members
  rw [foldMembers_step, ofMembers, gathered, childrenOf_eq, Tree.fieldsOf]
  cases gatheredChildren childrenOfTree none members with
  | none => rfl
  | some contents =>
    cases (members.filter fun member => !isContents member).mapM (Tree.entryOf fieldOfTree) with
    | none => rfl
    | some entries =>
      change ((Kind.ofFields (Text.inKeyOrder entries)).toOption.bind _) =
        ((Kind.ofFields (Text.inKeyOrder entries)).map _).toOption
      cases Kind.ofFields (Text.inKeyOrder entries) <;> rfl

end Members

/-- A marker is read as what its spelling means. -/
theorem means_reader : ∀ depth, Means .value (reader depth) (ofTree depth)
  | 0 => .objectOf (.tooDeep _)
  | 1 => .objectOf (means_body (.arrayOf (.tooDeep _)) (Json.means_value 0))
  | depth + 2 => .objectOf (means_body (.arrayOf (means_reader depth).elements) (Json.means_value (depth + 1)))

theorem means_listReader : ∀ depth, Means .value (listReader depth) (listOfTree depth)
  | 0 => .arrayOf (.tooDeep _)
  | depth + 1 => .arrayOf (means_reader depth).elements

end Marker

namespace Document

/-- The topmost markers that a tree means. -/
def markersOf : Tree → Option (List Marker) := Marker.listOfTree (Json.maxDepth - 1)

/-- The document that members make up. All that is asked of the others is that their keys are texts. -/
def ofMembers (members : List (Option String × Tree)) : Option Document :=
  if members.all (·.1.isSome) then (Marker.childrenOf markersOf members).map mk else none

/-- The document that a list means: its topmost markers stand in the only place. -/
def ofItems : List Tree → Option Document
  | [] => some ⟨[]⟩
  | [contents] => (markersOf contents).map mk
  | _ => none

/-- The document that a tree means. -/
def ofTree : Tree → Option Document := Tree.recordOf ofItems ofMembers

theorem means_markers : Means .value (Json.arrayOf (some (Marker.reader (Json.maxDepth - 2)))) markersOf :=
  Marker.means_listReader (Json.maxDepth - 1)

/-- What one member does to what has been gathered of a document. -/
def step (state : List String × Option (List Marker)) (key : String) (tree : Tree) :
    Option (List String × Option (List Marker)) :=
  if key = "contents" then
    if state.1.contains key then none else (markersOf tree).map fun contents => (key :: state.1, some contents)
  else some state

theorem means_member : MeansMember layout.member step := by
  intro state key
  unfold step
  by_cases contents : key = "contents"
  · have found : layout.fields.lookup key = some fun _ s =>
        (Json.arrayOf (some (Marker.reader (Json.maxDepth - 2))) s).map (·.map some) := by
      rw [contents]
      rfl
    simp only [Json.Layout.member, found, if_pos contents]
    cases state.1.contains key with
    | true => exact fun _ => rfl
    | false =>
      have read := (means_markers.map some).map fun contents => (key :: state.1, contents)
      simp only [Option.map_map, Function.comp_def] at read
      exact read
  · have absent : layout.fields.lookup key = none := by
      rw [layout, Text.lookup_cons_eq, if_neg contents]
      rfl
    simp only [Json.Layout.member, absent, if_neg contents]
    exact Json.means_skip.map fun _ => state

/-- What has been gathered of a document in the end. -/
theorem foldMembers_step {keys : List String} {known : Option (List Marker)} (told : keys.contains "contents" = known.isSome)
    (members : List (Option String × Tree)) :
    (foldMembers step (keys, known) members).map (·.2) =
      if members.all (·.1.isSome) then Marker.gatheredChildren markersOf known members else none := by
  induction members generalizing keys known with
  | nil => cases known <;> rfl
  | cons member members ih =>
    obtain ⟨key, tree⟩ := member
    rw [foldMembers, List.foldlM_cons, List.all_cons]
    cases key with
    | none => rfl
    | some key =>
      rw [Option.bind_some, step]
      by_cases contents : key = "contents"
      · rw [if_pos contents, Marker.gatheredChildren_contents contents, contents, told]
        cases known with
        | some _ => simp
        | none =>
          cases meant : markersOf tree with
          | none => simp
          | some markers => exact @ih _ (some markers) (by simp)
      · rw [if_neg contents, Marker.gatheredChildren_other (mt Option.some.inj contents)]
        exact ih told

/-- A document is read as what its spelling means. -/
theorem means_reader : Means .value reader ofTree := by
  have places := (means_markers.map some).place "contents" (none : Option (List Marker))
  have items := places.finishing fun found => (.ok ⟨found.2.getD []⟩ : Except Fault Document)
  have members := (Means.members means_member ([], none)).finishing
    fun state => (.ok ⟨state.2.getD []⟩ : Except Fault Document)
  suffices same : ofItems = _ ∧ ofMembers = _ by
    rw [ofTree, same.1, same.2]
    exact .record items members
  constructor
  · funext trees
    match trees with
    | [] => rfl
    | [tree] =>
      rw [ofItems, Tree.placeOf]
      cases markersOf tree <;> rfl
    | _ :: _ :: _ => rfl
  · funext trees
    have gathered := @foldMembers_step [] none rfl trees
    calc ofMembers trees
      _ = (if trees.all (·.1.isSome) then Marker.gatheredChildren markersOf none trees else none).map
            fun contents => ⟨contents.getD []⟩ := by
        rw [ofMembers, Marker.childrenOf_eq, Option.map_map]
        split <;> rfl
      _ = ((foldMembers step ([], none) trees).map (·.2)).map fun contents => ⟨contents.getD []⟩ := by rw [gathered]
      _ = (foldMembers step ([], none) trees).bind _ := by cases foldMembers step ([], none) trees <;> rfl

end Document

end ScriptureMarkup
