import ScriptureMarkup.Json.Layout
import ScriptureMarkup.Json.Written
import ScriptureMarkup.Marker.Kind

namespace ScriptureMarkup.Kind

open Json (Fault Scalar Value Wanted)

/-- The level of a tag that does not say it. -/
def defaultLevel : UInt8 := 1

/-- What a kind carries, as fields in the order in which they are written. A word without
attributes is written without the field for them; a level is always written. -/
def carried : Kind → List (String × Value)
  | .book identifier => [("text_identifier", .string identifier)]
  | .chapter number => [("number", .integer number.toNat)]
  | .verse number => [("verse_number", .string number)]
  | .text content => [("text", .string content)]
  | .word term attributes =>
    ("term", .string term) ::
      if attributes.entries.isEmpty then []
      else [("attributes", .object (attributes.entries.map fun (name, value) => (name, .string value)))]
  | .field tag content => [(tag.fieldName, .string content)]
  | .heading tag weight content => [("weight", .integer weight.toNat), (tag.fieldName, .string content)]
  | .leveled tag level => [(tag.fieldName, .integer level.toNat)]
  | .bare _ => []
  | .unknown identifier => [("identifier", .string identifier)]

/-- A kind as fields: its tag first, then what it carries. -/
def fields (kind : Kind) : List (String × Value) :=
  ("marker", .string kind.tag.name) :: kind.carried

def takeText : Value → Except Fault String := Value.take .text Scalar.text

def takeLevel : Value → Except Fault UInt8 := Value.take .byte Scalar.byte

def takeNumber : Value → Except Fault UInt32 := Value.take .word Scalar.word

/-- Takes attributes out of an object all of whose values are texts. -/
def takeAttributes : Value → Except Fault Attributes
  | .object entries =>
    (entries.mapM fun entry : String × Value => (takeText entry.2).map fun content => (entry.1, content)).map
      Attributes.ofList
  | .scalar s => .error (.wrongType (.scalar s) .map)
  | .array _ => .error (.wrongType .sequence .map)

/-- Takes a field if it is there; one that is there has to be of the right type. -/
def optional {α : Type} (fromValue : Value → Except Fault α) (name : String) (fields : List (String × Value)) :
    Except Fault (Option α) :=
  match fields.lookup name with
  | none => .ok none
  | some value => (fromValue value).map some

def obligatory {α : Type} (fromValue : Value → Except Fault α) (name : String) (fields : List (String × Value)) :
    Except Fault α := do
  Json.required name (← optional fromValue name fields)

/-- The kind of a known tag. The fields that are there are judged in the order of their
names, and only then is a missing one noticed; all other fields are left alone. -/
def ofTag (tag : Tag) (fields : List (String × Value)) : Except Fault Kind :=
  match tag with
  | .id => (obligatory takeText "text_identifier" fields).map .book
  | .c => (obligatory takeNumber "number" fields).map .chapter
  | .v => (obligatory takeText "verse_number" fields).map .verse
  | .text => (obligatory takeText "text" fields).map .text
  | .w => do
    let attributes ← optional takeAttributes "attributes" fields
    let term ← obligatory takeText "term" fields
    pure (.word term (attributes.getD .empty))
  | .field tag => (obligatory takeText tag.fieldName fields).map (.field tag)
  | .heading tag => do
    let content ← optional takeText tag.fieldName fields
    let weight ← optional takeLevel "weight" fields
    let content ← Json.required tag.fieldName content
    pure (.heading tag (weight.getD defaultLevel) content)
  | .leveled tag => do
    let level ← optional takeLevel tag.fieldName fields
    pure (.leveled tag (level.getD defaultLevel))
  | .bare tag => .ok (.bare tag)
  | .unknown => (obligatory takeText "identifier" fields).map .unknown

/-- The kind that fields describe. A tag under a name that is not listed is kept as it is, whatever
its fields hold. -/
def ofFields (fields : List (String × Value)) : Except Fault Kind :=
  match fields.lookup "marker" with
  | some (.scalar (.string name)) =>
    if listed : name ∈ Tag.modeledNames then
      ofTag ((Tag.ofName? name).get (Tag.mem_modeledNames.mp listed)) fields
    else .ok (.unknown name)
  | _ => .error (.missingField "marker")

/-- Since the list holds the names of the tags, a kind is known exactly if its tag is found. -/
theorem ofFields_eq (fields : List (String × Value)) :
    ofFields fields =
      match fields.lookup "marker" with
      | some (.scalar (.string name)) =>
        match Tag.ofName? name with
        | some tag => ofTag tag fields
        | none => .ok (.unknown name)
      | _ => .error (.missingField "marker") := by
  unfold ofFields
  split
  · rename_i name _
    split
    · rename_i listed
      obtain ⟨tag, found⟩ := Option.isSome_iff_exists.mp (Tag.mem_modeledNames.mp listed)
      simp only [found, Option.get_some]
    · rename_i absent
      rw [Tag.mem_modeledNames, Bool.not_eq_true, Option.isSome_eq_false_iff, Option.isNone_iff_eq_none] at absent
      rw [absent]
  · rfl

/-- The kind that a value describes; a value without fields describes none. -/
def ofValue : Value → Except Fault Kind
  | .object fields => ofFields fields
  | _ => .error (.missingField "marker")

/-- Reads a kind by itself. -/
def reader : Json.Reader Kind := fun s =>
  match Json.value Json.maxDepth s with
  | .error fault => .error fault
  | .ok x => Json.Layout.finishing ofValue x

def ofText (source : String) : Except Fault Kind := Json.Reader.whole reader (.ofString source)

def written (kind : Kind) : String := Value.text (.object kind.fields)

end ScriptureMarkup.Kind
