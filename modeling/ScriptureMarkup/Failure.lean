import ScriptureMarkup.Json.Fault
import ScriptureMarkup.Usx.Rule

namespace ScriptureMarkup

/-- Why a file or directory cannot be used. -/
inductive FileFault
  | notFound
  | exists
  | notDirectory
  | isDirectory
  | nameTooLong
  | other (message : String)
  deriving DecidableEq

def FileFault.message : FileFault → String
  | .notFound => "No such file or directory (os error 2)"
  | .exists => "File exists (os error 17)"
  | .notDirectory => "Not a directory (os error 20)"
  | .isDirectory => "Is a directory (os error 21)"
  | .nameTooLong => "File name too long (os error 36)"
  | .other message => message

/-- Why a document cannot be loaded or rendered. A file that can be opened but not read is
found out by the reader of its text. -/
inductive Failure
  | file (fault : FileFault)
  | unreadable (fault : FileFault)
  | json (fault : Json.Fault)
  | unsupportedVersion (version : String)
  | malformedBook (malformed : Usx.MalformedBook)

def Failure.message : Failure → String
  | .file fault => "I/O error: " ++ fault.message
  | .unreadable fault => "Marker tree JSON error: " ++ fault.message
  | .json fault => "Marker tree JSON error: " ++ fault.message
  | .unsupportedVersion version => "Unsupported USX version: " ++ version
  | .malformedBook malformed =>
    "Malformed book identifier: " ++ Text.quoted malformed.identifier ++
      " (expected a 3-letter code, a separator and a label)"

end ScriptureMarkup
