import ScriptureMarkup.Json.Written
import ScriptureMarkup.Marker.Document
import ScriptureMarkup.Marker.Fields

namespace ScriptureMarkup

open Json (Fault Input Reader Value)

namespace Marker

/-- Reads the members of a marker. Its children are read on the spot, while all other fields
are kept until the marker ends and only then make up its kind. -/
def body (children : Reader (List Marker)) (field : Reader Value) : Reader Marker := fun s =>
  let member (state : Option (List Marker) × List (String × Value)) (key : String) :
      Except Fault (Reader (Option (List Marker) × List (String × Value))) :=
    if key = "contents" then
      if state.1.isSome then .error (.duplicateField key)
      else .ok fun s => (children s).map (·.map fun contents => (some contents, state.2))
    else .ok fun s => (field s).map (·.map fun value => (state.1, Text.putEntry key value state.2))
  match Json.members member (none, []) s with
  | .error fault => .error fault
  | .ok x =>
    Json.Layout.finishing
      (fun state => (Kind.ofFields state.2).map fun kind => ⟨kind, state.1.getD []⟩) x

/-- Reads a marker in which at most `depth` brackets stand open at a time. One level of
markers takes two of them. -/
def reader : Nat → Reader Marker
  | 0 => Json.objectOf .marker none
  | 1 => Json.objectOf .marker (some (body (Json.arrayOf none) (Json.value 0)))
  | depth + 2 =>
    Json.objectOf .marker (some (body (Json.arrayOf (some (reader depth))) (Json.value (depth + 1))))

def ofText (text : String) : Except Fault Marker := (reader Json.maxDepth).whole (.ofString text)

mutual

/-- A marker as an object: the fields of its kind, then its children if it has any. -/
def toValue : Marker → Value
  | ⟨kind, contents⟩ =>
    .object (kind.fields ++ if contents.isEmpty then [] else [("contents", .array (toValues contents))])

def toValues : List Marker → List Value
  | [] => []
  | marker :: markers => marker.toValue :: toValues markers

end

def written (marker : Marker) : String := marker.toValue.text

end Marker

namespace Document

/-- A document has one field, its topmost markers, which may be absent. Written as a list it
holds them in the first place. -/
def layout : Json.Layout (Option (List Marker)) where
  wanted := .document
  fields := [("contents", fun _ s =>
    (Json.arrayOf (some (Marker.reader (Json.maxDepth - 2))) s).map (·.map some))]

def reader : Reader Document :=
  layout.reader none (fun contents => .ok ⟨contents.getD []⟩) (fun contents => .ok ⟨contents.2.getD []⟩)

def ofInput (input : Input) : Except Fault Document := reader.whole input

def ofText (text : String) : Except Fault Document := ofInput (.ofString text)

def toValue (document : Document) : Value := .object [("contents", .array (Marker.toValues document.contents))]

def written (document : Document) : String := document.toValue.text

end Document

end ScriptureMarkup
