import ScriptureMarkup.Text.Quoted
import ScriptureMarkup.Usx.Dialect

namespace ScriptureMarkup.Usx

/-- Something noted while a document is rendered. -/
inductive Record
  | rendering (markers : Nat) (dialect : Dialect) (encoding : Option String)
  | skipping (identifier : String) (children : Nat)
  | droppingAttribute (name : String)
  | closing (element id : String)
  deriving DecidableEq

inductive Severity
  | debug
  | warning
  | trace
  deriving DecidableEq

def Severity.name : Severity → String
  | .debug => "DEBUG"
  | .warning => "WARN"
  | .trace => "TRACE"

namespace Record

def severity : Record → Severity
  | .rendering .. => .debug
  | .skipping .. => .warning
  | .droppingAttribute _ => .warning
  | .closing .. => .trace

def message : Record → String
  | .rendering markers dialect encoding =>
    let declared := match encoding with
      | none => "None"
      | some encoding => "Some(" ++ Text.quoted encoding ++ ")"
    "rendering " ++ toString markers ++ " top-level markers as USX " ++ dialect.version ++
      " (encoding: " ++ declared ++ ")"
  | .skipping identifier children =>
    "no USX rendering for \\" ++ identifier ++ "; skipping it and " ++ toString children ++ " child marker(s)"
  | .droppingAttribute name => "dropping \\w attribute " ++ Text.quoted name ++ ": not a usable XML name"
  | .closing element id => "closing " ++ element ++ " milestone " ++ id

end Record

/-- What one step adds to the markup and to the journal. -/
structure Output where
  pieces : List Piece
  records : List Record
  deriving DecidableEq

namespace Output

def nothing : Output := ⟨[], []⟩

def append (first second : Output) : Output :=
  ⟨first.pieces ++ second.pieces, first.records ++ second.records⟩

instance : Append Output := ⟨append⟩

end Output

end ScriptureMarkup.Usx
