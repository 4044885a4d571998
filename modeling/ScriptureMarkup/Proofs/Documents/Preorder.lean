import ScriptureMarkup.Proofs.Walk.Completeness

namespace ScriptureMarkup

namespace Marker

mutual

/-- A marker and all that is below it, each marker before its children and these before the next
one, whether they are rendered or not. -/
def preorder : Marker → List Marker
  | ⟨kind, contents⟩ => ⟨kind, contents⟩ :: preorderAll contents

def preorderAll : List Marker → List Marker
  | [] => []
  | marker :: markers => marker.preorder ++ preorderAll markers

end

mutual

theorem descendants_eq_preorder (marker : Marker) : descendants [marker] = marker.preorder := by
  obtain ⟨kind, contents⟩ := marker
  rw [descendants_cons, preorder, descendants_eq_preorderAll contents, descendants, List.append_nil]

/-- Taking markers from a list of pending ones gives what recursion over the tree gives. -/
theorem descendants_eq_preorderAll (markers : List Marker) : descendants markers = preorderAll markers := by
  match markers with
  | [] => rw [descendants, preorderAll]
  | marker :: markers =>
    rw [← List.singleton_append, descendants_append, descendants_eq_preorder marker, descendants_eq_preorderAll markers]
    rfl

end

end Marker

/-- The encoding that a marker declares. -/
def Kind.encoding : Kind → Option String
  | .field .ide encoding => some encoding
  | _ => none

namespace Document

/-- The encodings that are declared anywhere in a document, in the order of the text. -/
def encodings (document : Document) : List String :=
  (Marker.preorderAll document.contents).filterMap fun marker => marker.kind.encoding

theorem encoding_eq_head? (document : Document) : document.encoding = document.encodings.head? := by
  rw [encodings, List.head?_filterMap, ← Marker.descendants_eq_preorderAll]
  rfl

end Document

end ScriptureMarkup
