import ScriptureMarkup.Command.Arguments
import ScriptureMarkup.Command.Host
import ScriptureMarkup.Command.Report

namespace ScriptureMarkup.Command

variable {m : Type → Type} [Monad m]

/-- Prints markup, or keeps it in a file and says so. -/
def deliver (host : Host m) (output : Option String) (content : String) : m (Except FileFault Unit) := do
  match output with
  | none =>
    host.print content
    pure (.ok ())
  | some path =>
    match ← host.write path content with
    | .error fault => pure (.error fault)
    | .ok () =>
      host.print (line ("Saved to " ++ path ++ sizeNote content))
      pure (.ok ())

/-- Renders one document and delivers the markup, followed by what there is to report. -/
def runRender (host : Host m) (input : String) (output : Option String) (options : Usx.Options) :
    m (Except Complaint Unit) := do
  match ← host.read input with
  | .error failure => pure (.error (.document failure))
  | .ok source =>
    match renderInput options source with
    | .error failure => pure (.error (.document failure))
    | .ok result =>
      match ← deliver host output result.content with
      | .error fault => pure (.error (.file fault))
      | .ok () =>
        host.report (warning input result)
        match result.statistics with
        | some counts => host.report (statisticsReport counts)
        | none => pure ()
        pure (.ok ())

/-- Loads documents up to the first that cannot be loaded. -/
def loadAll (host : Host m) : List String → m (Except Failure (List Document))
  | [] => pure (.ok [])
  | input :: inputs => do
    match ← host.load input with
    | .error failure => pure (.error failure)
    | .ok document =>
      match ← loadAll host inputs with
      | .error failure => pure (.error failure)
      | .ok documents => pure (.ok (document :: documents))

/-- Keeps each rendering under the name of its input and reports those that failed, in the
order of the inputs; gives their number. -/
def keepAll (host : Host m) (directory : String) :
    List (String × Except Usx.MalformedBook Usx.RenderResult) → m (Except FileFault Nat)
  | [] => pure (.ok 0)
  | (input, .error malformed) :: outcomes => do
    host.report (line ("  Failed " ++ input ++ ": " ++ (Failure.malformedBook malformed).message))
    match ← keepAll host directory outcomes with
    | .error fault => pure (.error fault)
    | .ok failed => pure (.ok (failed + 1))
  | (input, .ok result) :: outcomes => do
    let path := outputPath input directory
    match ← host.write path result.content with
    | .error fault => pure (.error fault)
    | .ok () =>
      host.print (line ("  ├─ " ++ path ++ sizeNote result.content))
      host.report (warning input result)
      keepAll host directory outcomes

/-- Renders documents into a directory. Nothing is rendered unless all of them load; after
that one that cannot be rendered does not stop the others. -/
def runBatch (host : Host m) (inputs : List String) (directory : String) (options : Usx.Options) :
    m (Except Complaint Unit) := do
  match ← host.makeDirectories (isAbsolute directory) directory (properSteps directory).reverse with
  | .error fault => pure (.error (.file fault))
  | .ok () =>
    match ← loadAll host inputs with
    | .error failure => pure (.error (.document failure))
    | .ok documents =>
      let results := Usx.renderAll options documents
      host.print "\nOutput files:\n"
      match ← keepAll host directory (inputs.zip results) with
      | .error fault => pure (.error (.file fault))
      | .ok failed =>
        if options.collectStatistics then host.report (statisticsReport (Usx.totalStatistics results))
        if failed = 0 then pure (.ok ()) else pure (.error (.unrendered failed inputs.length))

/-- Prints a summary of a document. -/
def runInfo (host : Host m) (input : String) (json : Bool) : m (Except Complaint Unit) := do
  match ← host.load input with
  | .error failure => pure (.error (.document failure))
  | .ok document =>
    match document.render { Usx.Options.default with collectStatistics := true } with
    | .error failure => pure (.error (.document failure))
    | .ok result =>
      let summary := Summary.of input document result
      host.print (if json then line summary.toValue.indentedText else summary.text)
      pure (.ok ())

def Invocation.run (host : Host m) : Invocation → m (Except Complaint Unit)
  | .render input output partialOutput dialect statistics =>
    runRender host input output ⟨partialOutput, dialect, statistics⟩
  | .batch inputs directory dialect statistics => runBatch host inputs directory ⟨false, dialect, statistics⟩
  | .info input json => runInfo host input json
  | .version => do
    host.print versionReport
    pure (.ok ())
  | .release => do
    host.print (line programName)
    pure (.ok ())
  | .help => do
    host.print usage
    pure (.ok ())

/-- The exit code of a program: 0 on success, 1 when a command fails, and 2 when the
arguments cannot be used. -/
abbrev ExitCode := UInt32

/-- Does what the arguments ask for. -/
def run (host : Host m) (environment : Option String) (arguments : List String) : m ExitCode := do
  match Invocation.ofArguments? environment arguments with
  | none => do
    host.report usage
    pure 2
  | some invocation =>
    match ← invocation.run host with
    | .ok () => pure 0
    | .error complaint =>
      host.report (line ("Error: " ++ complaint.message))
      pure 1

end ScriptureMarkup.Command
