import ScriptureMarkup.Marker.Tree
import ScriptureMarkup.Usx.Rule
import ScriptureMarkup.Usx.Statistics

namespace ScriptureMarkup.Usx

/-- What a walk has brought about so far. -/
structure Progress where
  position : Position
  markup : Array Piece
  journal : Array Record
  unrenderable : List String
  statistics : Statistics

/-- A walk that met a malformed book, with what it had noted until then. -/
structure Stopped where
  malformed : MalformedBook
  journal : Array Record

/-- Adds a tag to a list in which every tag stands where it was first seen. -/
def addUnseen (tags : List String) (tag : String) : List String :=
  if tags.contains tag then tags else tags ++ [tag]

namespace Progress

def start (journal : Array Record) : Progress := ⟨.start, #[], journal, [], .zero⟩

/-- Moves to a position and keeps what has been put out on the way. -/
def move (progress : Progress) (position : Position) (output : Output) : Progress :=
  { progress with
    position := position
    markup := progress.markup ++ output.pieces
    journal := progress.journal ++ output.records }

def put (progress : Progress) (pieces : List Piece) : Progress :=
  { progress with markup := progress.markup ++ pieces }

def count (progress : Progress) (kind : Kind) : Progress :=
  { progress with statistics := progress.statistics.record kind }

/-- Reports a marker that is left out together with its children. -/
def skip (progress : Progress) (marker : Marker) : Progress :=
  { progress with
    journal := progress.journal.push (.skipping marker.identifier marker.contents.length)
    unrenderable := addUnseen progress.unrenderable marker.identifier
    statistics := progress.statistics.recordUnrenderable }

/-- Enters a marker. If its children are to be visited, the markup that follows them is
given as well. -/
def enter (dialect : Dialect) (marker : Marker) (progress : Progress) :
    Except Stopped (Progress × Option (List Piece)) :=
  match Usx.enter dialect marker.kind progress.position with
  | .error malformed => .error ⟨malformed, progress.journal⟩
  | .ok step =>
    let moved := progress.move step.position step.output
    match step.visit with
    | .leaf => .ok (moved.count marker.kind, none)
    | .children close => .ok (moved.count marker.kind, some close)
    | .unrenderable => .ok (moved.skip marker, none)

/-- Closes what is open at the end of a document. -/
def finish (dialect : Dialect) (progress : Progress) : Progress :=
  let (position, closed) := progress.position.closeAll dialect
  progress.move position closed

end Progress

/-- What a walk has still to do: enter a marker, or write what follows its children. -/
inductive Frame
  | enter (marker : Marker)
  | close (pieces : List Piece)

def Frame.weight : Frame → Nat
  | .enter marker => 2 * marker.count
  | .close _ => 1

def weight : List Frame → Nat
  | [] => 0
  | frame :: frames => frame.weight + weight frames

/-- Puts markers to be entered before what is still to be done. -/
def enterAll (markers : List Marker) (frames : List Frame) : List Frame := markers.map .enter ++ frames

theorem weight_enterAll (markers : List Marker) (frames : List Frame) :
    weight (enterAll markers frames) = 2 * Marker.countAll markers + weight frames := by
  induction markers with
  | nil => simp [enterAll, Marker.countAll]
  | cons marker markers ih =>
    simp only [enterAll, weight, Frame.weight, List.map_cons, List.cons_append, Marker.countAll] at *
    omega

/-- Does what is still to be done, from the front. The children of a marker and what
follows them are put before the rest, so the depth of a tree costs nothing. -/
def walk (dialect : Dialect) (frames : List Frame) (progress : Progress) : Except Stopped Progress :=
  match frames with
  | [] => .ok progress
  | .close pieces :: frames => walk dialect frames (progress.put pieces)
  | .enter marker :: frames =>
    match progress.enter dialect marker with
    | .error stopped => .error stopped
    | .ok (progress, none) => walk dialect frames progress
    | .ok (progress, some close) =>
      walk dialect (enterAll marker.contents (.close close :: frames)) progress
  termination_by weight frames
  decreasing_by
    · simp [weight, Frame.weight]
    · have := marker.count_eq
      simp only [weight, Frame.weight]
      omega
    · rw [weight_enterAll]
      have := marker.count_eq
      simp only [weight, Frame.weight]
      omega

end ScriptureMarkup.Usx
