import ScriptureMarkup.Proofs.Walk.Gathering

namespace ScriptureMarkup

open Usx (Dialect Options Position Record RenderResult)
open Marker (arriveAll gather reachedAll)

namespace Usx.Record

def closings (milestones : List (String × String)) : List Record :=
  milestones.map fun milestone => .closing milestone.1 milestone.2

end Usx.Record

namespace Usx.Position

/-- The verse that is open, as it is noted when it is closed. -/
def unclosedVerse (position : Position) : List (String × String) :=
  (position.openVerse.map fun id => ("verse", id)).toList

/-- The milestones that are open, the verse before the chapter. -/
def unclosed (position : Position) : List (String × String) :=
  position.unclosedVerse ++ (position.openChapter.map fun id => ("chapter", id)).toList

end Usx.Position

/-- The milestones that are closed when a marker is entered. -/
def Kind.closes (position : Position) : Kind → List (String × String)
  | .book _ | .chapter _ => position.unclosed
  | .verse _ => position.unclosedVerse
  | _ => []

/-- The names of the attributes that are dropped when a marker is entered. -/
def Kind.drops (dialect : Dialect) : Kind → List String
  | .word _ attributes => dialect.droppedAttributes attributes
  | _ => []

namespace Marker

/-- What is reported of a marker without a form. -/
def skipped (marker : Marker) : List (String × Nat) :=
  if marker.kind.hasForm then [] else [(marker.identifier, marker.contents.length)]

/-- What is noted when a marker is entered. -/
def notes (dialect : Dialect) (position : Position) (marker : Marker) : List Record :=
  Record.closings (marker.kind.closes position) ++ (marker.kind.drops dialect).map .droppingAttribute ++
    marker.skipped.map fun report => .skipping report.1 report.2

variable (dialect : Dialect) (position : Position) (marker : Marker)

end Marker

namespace Usx

variable {dialect : Dialect}

variable {options : Options} {document : Document} {result : RenderResult}
  (rendered : (render options document).2 = .ok result)

include rendered

end Usx

end ScriptureMarkup
