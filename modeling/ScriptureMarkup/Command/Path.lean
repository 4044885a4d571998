namespace ScriptureMarkup.Command

/-- The parts of a text between slashes, empty ones included. -/
def splitSlash : List Char → List (List Char)
  | [] => [[]]
  | c :: text =>
    if c = '/' then [] :: splitSlash text
    else
      match splitSlash text with
      | [] => [[c]]
      | part :: parts => (c :: part) :: parts

/-- The steps of a path: its parts without empty ones. -/
def steps (path : String) : List String :=
  (splitSlash path.toList).filterMap fun part => if part.isEmpty then none else some (String.ofList part)

def isAbsolute (path : String) : Bool := path.toList.head? = some '/'

/-- Whether a path ends in a slash and so can only lead to a directory. -/
def endsInSlash (path : String) : Bool := path.toList.getLast? = some '/'

/-- The steps of a path without those that stay in place. Only a relative path may begin
with such a step. -/
def properSteps (path : String) : List String :=
  match steps path with
  | [] => []
  | first :: others =>
    (if first = "." && isAbsolute path then [] else [first]) ++ others.filter (· ≠ ".")

/-- A path that takes the given steps. -/
def pathOf (absolute : Bool) (steps : List String) : String :=
  (if absolute then "/" else "") ++ "/".intercalate steps

/-- A path to something in a directory. -/
def inDirectory (directory name : String) : String :=
  if endsInSlash directory then directory ++ name else directory ++ "/" ++ name

/-- The name of a file without its extension, which begins at the last dot. A name whose only
dot comes first has no extension. -/
def stem (name : String) : String :=
  let backwards := name.toList.reverse
  match backwards.dropWhile (· ≠ '.') with
  | [] | ['.'] => name
  | _ :: before => String.ofList before.reverse

/-- The stem of the file that a path leads to. A last step in place or upwards names none. -/
def fileStem (path : String) : String :=
  match (properSteps path).getLast? with
  | none | some "." | some ".." => ""
  | some name => stem name

/-- The path under which the rendering of an input is kept in a directory. -/
def outputPath (input directory : String) : String := inDirectory directory (fileStem input ++ ".usx")

end ScriptureMarkup.Command
