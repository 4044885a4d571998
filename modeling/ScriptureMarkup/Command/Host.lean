import ScriptureMarkup.Command.Path
import ScriptureMarkup.Rendering

namespace ScriptureMarkup.Command

/-- What the commands need from where they run: files, directories and two streams. -/
structure Host (m : Type → Type) where
  read : String → m (Except Failure Json.Input)
  write : String → String → m (Except FileFault Unit)
  makeDirectory : String → m (Except FileFault Unit)
  isDirectory : String → m Bool
  print : String → m Unit
  report : String → m Unit

variable {m : Type → Type} [Monad m]

namespace Host

/-- Makes a directory, after the directories above it where they are missing. What is there
already need not be made. The steps of the path are given from its end. -/
def makeDirectories (host : Host m) (absolute : Bool) (path : String) : List String → m (Except FileFault Unit)
  | [] => pure (.ok ())
  | _ :: above => do
    let orPresent (fault : FileFault) : m (Except FileFault Unit) := do
      if ← host.isDirectory path then pure (.ok ()) else pure (.error fault)
    match ← host.makeDirectory path with
    | .ok () => pure (.ok ())
    | .error .notFound =>
      match ← host.makeDirectories absolute (pathOf absolute above.reverse) above with
      | .error fault => pure (.error fault)
      | .ok () =>
        match ← host.makeDirectory path with
        | .ok () => pure (.ok ())
        | .error fault => orPresent fault
    | .error fault => orPresent fault

/-- Loads the document in a file. -/
def load (host : Host m) (path : String) : m (Except Failure Document) := do
  match ← host.read path with
  | .error failure => pure (.error failure)
  | .ok input => pure (Document.load input)

end Host

end ScriptureMarkup.Command
