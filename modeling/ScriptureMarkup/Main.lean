import ScriptureMarkup.Command.Run

namespace ScriptureMarkup

/-- The reason that an error of the file system gives. -/
def FileFault.ofError : IO.Error → FileFault
  | .noFileOrDirectory .. => .notFound
  | .alreadyExists .. => .exists
  | .inappropriateType _ 20 _ => .notDirectory
  | .inappropriateType _ 21 _ => .isDirectory
  | .invalidArgument _ 36 _ => .nameTooLong
  | .permissionDenied _ code details => .other (details ++ " (os error " ++ toString code ++ ")")
  | error => .other (toString error)

/-- Catches errors of the file system. -/
def attempt {α : Type} (action : IO α) : IO (Except FileFault α) := do
  try
    pure (.ok (← action))
  catch error => pure (.error (.ofError error))

def isDirectory (path : String) : IO Bool := do
  try
    (← IO.FS.realPath path).isDir
  catch _ => pure false

/-- The machine that the program runs on. -/
def machine : Command.Host IO where
  read path := do
    if ← ScriptureMarkup.isDirectory path then pure (.error (.unreadable .isDirectory))
    else
      match ← attempt (IO.FS.readBinFile path) with
      | .error fault => pure (.error (.file fault))
      | .ok bytes => pure (.ok (.ofBytes bytes.toList))
  write path text := attempt (IO.FS.writeFile path text)
  makeDirectory path := attempt (IO.FS.createDir path)
  isDirectory := ScriptureMarkup.isDirectory
  print text := IO.print text
  report text := IO.eprint text

end ScriptureMarkup

/-- The program: renders marker trees as its arguments say. -/
def main (arguments : List String) : IO UInt32 := do
  ScriptureMarkup.Command.run ScriptureMarkup.machine (← IO.getEnv "USX_SCHEMA") arguments
