import ScriptureMarkup.Command.Host

namespace ScriptureMarkup.Command

/-- A place in a tree of files: the names that lead to it. Places outside the tree begin
with `..` or with `/`. -/
abbrev Place := List String

/-- Files by their places, and directories that have been made. The directories above a
file are there with it. -/
structure FileTree where
  files : List (Place × String)
  directories : List Place

namespace FileTree

/-- Nothing is known of what lies outside the tree but the directories on the way out. -/
def isDirectory (tree : FileTree) (place : Place) : Bool :=
  place.all (· = "..") || place = ["/"] || tree.directories.any (place.isPrefixOf ·) ||
    tree.files.any fun file => place.isPrefixOf file.1 && place ≠ file.1

def above (place : Place) : Place :=
  if place.all (· = "..") then place ++ [".."] else if place = ["/"] then place else place.dropLast

/-- The place that one more step leads to. -/
def next (place : Place) (step : String) : Place :=
  if step = "." then place else if step = ".." then above place else place ++ [step]

/-- The most bytes that one name may take up. -/
def maxNameSize : Nat := 255

/-- The most bytes that a path may take up. -/
def maxPathSize : Nat := 4095

/-- One step from a directory, which may lead to something that is not there. -/
def step (place : Place) (name : String) : Except FileFault Place :=
  if maxNameSize < name.utf8ByteSize then .error .nameTooLong else .ok (next place name)

/-- Goes from directory to directory. -/
def enter (tree : FileTree) (place : Place) : List String → Except FileFault Place
  | [] => .ok place
  | name :: names =>
    match step place name with
    | .error fault => .error fault
    | .ok place =>
      if tree.isDirectory place then tree.enter place names
      else if (tree.files.lookup place).isSome then .error .notDirectory
      else .error .notFound

/-- The directory in which the last step of a path is taken. -/
def directoryOf (tree : FileTree) (path : String) : Except FileFault Place :=
  if maxPathSize < path.utf8ByteSize then .error .nameTooLong
  else tree.enter (if isAbsolute path then ["/"] else []) (steps path).dropLast

/-- The place that a path leads to. All steps but the last have to lead to directories. -/
def locate (tree : FileTree) (path : String) : Except FileFault Place :=
  match tree.directoryOf path with
  | .error fault => .error fault
  | .ok directory =>
    match (steps path).getLast? with
    | none => .ok directory
    | some name => step directory name

/-- The text of a file. A directory can be opened, and only reading it fails. -/
def read (tree : FileTree) (path : String) : Except Failure Json.Input :=
  match tree.locate path with
  | .error fault => .error (.file fault)
  | .ok place =>
    if tree.isDirectory place then .error (.unreadable .isDirectory)
    else match tree.files.lookup place with
      | none => .error (.file .notFound)
      | some text => if endsInSlash path then .error (.file .notDirectory) else .ok (.ofString text)

/-- Puts a text into a file, in place of what was there. -/
def put (tree : FileTree) (place : Place) (text : String) : FileTree :=
  { tree with files := (place, text) :: tree.files.filter fun file => file.1 ≠ place }

/-- Writes a file. A path that ends in a slash is taken for a directory, whatever its last
step leads to. -/
def write (tree : FileTree) (path text : String) : Except FileFault FileTree :=
  if endsInSlash path then
    match tree.directoryOf path with
    | .error fault => .error fault
    | .ok _ => .error .isDirectory
  else
    match tree.locate path with
    | .error fault => .error fault
    | .ok place => if tree.isDirectory place then .error .isDirectory else .ok (tree.put place text)

def makeDirectory (tree : FileTree) (path : String) : Except FileFault FileTree :=
  match tree.locate path with
  | .error fault => .error fault
  | .ok place =>
    if tree.isDirectory place || (tree.files.lookup place).isSome then .error .exists
    else .ok { tree with directories := place :: tree.directories }

end FileTree

/-- A tree of files with what has been printed and reported on it. -/
structure Desk where
  tree : FileTree
  printed : String
  reported : String

namespace Desk

/-- Takes the new tree of a change that may fail. -/
def change (change : FileTree → Except FileFault FileTree) : StateM Desk (Except FileFault Unit) := fun desk =>
  match change desk.tree with
  | .error fault => (.error fault, desk)
  | .ok tree => (.ok (), { desk with tree := tree })

/-- A host whose files are a tree. -/
def host : Host (StateM Desk) where
  read path := fun desk => (desk.tree.read path, desk)
  write path text := change (·.write path text)
  makeDirectory path := change (·.makeDirectory path)
  isDirectory path := fun desk =>
    (match desk.tree.locate path with
      | .ok place => desk.tree.isDirectory place
      | .error _ => false, desk)
  print text := fun desk => ((), { desk with printed := desk.printed ++ text })
  report text := fun desk => ((), { desk with reported := desk.reported ++ text })

end Desk

end ScriptureMarkup.Command
