import ScriptureMarkup.Marker.Document
import ScriptureMarkup.Usx.Walk

namespace ScriptureMarkup.Usx

/-- How documents are to be rendered. -/
structure Options where
  /-- Leaves out the declaration and the root element. -/
  partialOutput : Bool
  dialect : Dialect
  collectStatistics : Bool
  deriving DecidableEq

def Options.default : Options := ⟨false, .usx3_0, false⟩

/-- The markup of a document, the tags for which it holds nothing, and statistics if they
have been asked for. -/
structure RenderResult where
  content : String
  unrenderable : List String
  statistics : Option Statistics
  deriving DecidableEq

/-- Whether every marker in the document was rendered. What is asked is whether a tag has been
reported; markers that are left out below others are not among these. -/
def RenderResult.isComplete (result : RenderResult) : Bool := result.unrenderable.isEmpty

/-- The line that declares the markup, with the encoding that the document names. -/
def declaration : Option String → String
  | none => "<?xml version=\"1.0\"?>\n"
  | some encoding => "<?xml version=\"1.0\" encoding=\"" ++ escapedAttribute encoding ++ "\"?>\n"

/-- Puts a body into the root element, after a declaration. -/
def envelope (dialect : Dialect) (encoding : Option String) (body : String) : String :=
  declaration encoding ++ markupText [.startTag "usx" none [("version", dialect.version)], .lineBreak] ++ body ++
    markupText [.endTag "usx", .lineBreak]

/-- Renders a document. The journal is kept whether or not the rendering succeeds. -/
def render (options : Options) (document : Document) : List Record × Except MalformedBook RenderResult :=
  let encoding := document.encoding
  let opening := Record.rendering document.contents.length options.dialect encoding
  match walk options.dialect (enterAll document.contents []) (.start #[opening]) with
  | .error stopped => (stopped.journal.toList, .error stopped.malformed)
  | .ok progress =>
    let progress := progress.finish options.dialect
    let body := markupText progress.markup.toList
    let content := if options.partialOutput then body else envelope options.dialect encoding body
    let statistics := if options.collectStatistics then some progress.statistics else none
    (progress.journal.toList, .ok ⟨content, progress.unrenderable, statistics⟩)

/-- Renders each of several documents by itself. -/
def renderAll (options : Options) (documents : List Document) : List (Except MalformedBook RenderResult) :=
  documents.map fun document => (render options document).2

/-- The statistics of all documents that have been rendered, taken together. -/
def totalStatistics (results : List (Except MalformedBook RenderResult)) : Statistics :=
  results.foldl (fun total result =>
    match result with
    | .ok ⟨_, _, some counts⟩ => total.merge counts
    | _ => total) .zero

end ScriptureMarkup.Usx
