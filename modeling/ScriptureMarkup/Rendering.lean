import ScriptureMarkup.Failure
import ScriptureMarkup.Marker.Interchange
import ScriptureMarkup.Usx.Interchange
import ScriptureMarkup.Usx.Renderer

namespace ScriptureMarkup

/-- The dialect of a version that is named exactly. -/
def Usx.Dialect.ofVersion (version : String) : Except Failure Usx.Dialect :=
  match Usx.Dialect.ofVersion? version with
  | some dialect => .ok dialect
  | none => .error (.unsupportedVersion version)

/-- Loads a document from its text. -/
def Document.load (input : Json.Input) : Except Failure Document := (Document.ofInput input).mapError .json

/-- Renders a document that has been loaded. -/
def Document.render (options : Usx.Options) (document : Document) : Except Failure Usx.RenderResult :=
  (Usx.render options document).2.mapError .malformedBook

/-- Loads a document from its text and renders it. -/
def renderInput (options : Usx.Options) (input : Json.Input) : Except Failure Usx.RenderResult :=
  match Document.load input with
  | .error failure => .error failure
  | .ok document => document.render options

end ScriptureMarkup
