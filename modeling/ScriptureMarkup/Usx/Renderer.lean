import ScriptureMarkup.Usx.Render

namespace ScriptureMarkup.Usx

/-- Options together with the tags that could not be rendered so far, each where it was
first seen. -/
structure Renderer where
  options : Options
  unrenderable : List String
  deriving DecidableEq

namespace Renderer

def new (options : Options) : Renderer := ⟨options, []⟩

/-- Renders a document and remembers its unrenderable tags; a rendering that fails leaves no
trace. -/
def render (renderer : Renderer) (document : Document) : Renderer × Except MalformedBook RenderResult :=
  match (Usx.render renderer.options document).2 with
  | .error malformed => (renderer, .error malformed)
  | .ok result =>
    ({ renderer with unrenderable := result.unrenderable.foldl addUnseen renderer.unrenderable }, .ok result)

def clear (renderer : Renderer) : Renderer := { renderer with unrenderable := [] }

end Renderer

end ScriptureMarkup.Usx
