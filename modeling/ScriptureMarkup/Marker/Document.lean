import ScriptureMarkup.Marker.Tree

namespace ScriptureMarkup

/-- A marked-up text: its topmost markers in order. -/
structure Document where
  contents : List Marker
  deriving DecidableEq

namespace Document

def isEmpty (document : Document) : Bool := document.contents.isEmpty

/-- Adds a marker behind the last child of the one that `path` leads to, or behind the
topmost markers if the path is empty. -/
def push (document : Document) (path : List Nat) (marker : Marker) : Document :=
  ⟨Marker.pushAt marker path document.contents⟩

/-- All markers of a document in the order of the text. -/
def descendants (document : Document) : List Marker := Marker.descendants document.contents

/-- The character encoding that the first marker of that purpose declares, wherever it
stands. -/
def encoding (document : Document) : Option String :=
  document.descendants.findSome? fun marker =>
    match marker.kind with
    | .field .ide text => some text
    | _ => none

/-- What the first book marker says, wherever it stands. -/
def bookIdentifier (document : Document) : Option String :=
  document.descendants.findSome? fun marker =>
    match marker.kind with
    | .book identifier => some identifier
    | _ => none

/-- The number of markers of the kinds that `chosen` accepts. -/
def countMarkers (document : Document) (chosen : Kind → Bool) : Nat :=
  document.descendants.countP fun marker => chosen marker.kind

end Document

end ScriptureMarkup
