import ScriptureMarkup.Marker.Kind
import ScriptureMarkup.Unicode.Alphabetic
import ScriptureMarkup.Unicode.Numeric
import ScriptureMarkup.Usx.Markup

namespace ScriptureMarkup.Usx

/-- The two published versions of the language. In 2.5 a chapter or verse is one tag; in 3.0
it is a pair of milestones that share an id. -/
inductive Dialect
  | usx2_5
  | usx3_0
  deriving DecidableEq

/-- A name that may be given to an attribute of a word: no part of a qualified name, and not
the style, which every word has already. -/
def isWordAttributeName (name : String) : Bool :=
  match name.toList with
  | [] => false
  | first :: others =>
    (Unicode.isAlphabetic first || first = '_') &&
      others.all (fun c =>
        Unicode.isAlphabetic c || Unicode.isNumeric c || c = '_' || c = '-' || c = '.') &&
      name != "style"

namespace Dialect

def version : Dialect → String
  | .usx2_5 => "2.5"
  | .usx3_0 => "3.0"

/-- The dialect of a version, which has to be named exactly. -/
def ofVersion? (version : String) : Option Dialect :=
  if version = "2.5" then some .usx2_5 else if version = "3.0" then some .usx3_0 else none

def pairsMilestones : Dialect → Bool
  | .usx2_5 => false
  | .usx3_0 => true

/-- The attribute by which the start of a milestone names its id. -/
def startId (dialect : Dialect) (id : String) : List (String × String) :=
  if dialect.pairsMilestones then [("sid", id)] else []

def chapterStart (dialect : Dialect) (style : String) (number : UInt32) (id : String) : List Piece :=
  [.emptyTag "chapter" (some style) (("number", toString number.toNat) :: dialect.startId id), .lineBreak]

def verseStart (dialect : Dialect) (style number id : String) : List Piece :=
  [.emptyTag "verse" (some style) (("number", number) :: dialect.startId id)]

/-- The end of a milestone, in a dialect that has one. A chapter ends its line. -/
def milestoneEnd (dialect : Dialect) (element id : String) : Option (List Piece) :=
  if dialect.pairsMilestones then
    some (.emptyTag element none [("eid", id)] :: if element = "chapter" then [.lineBreak] else [])
  else none

/-- The attributes written with a word, in ascending order of their names. -/
def wordAttributes (dialect : Dialect) (attributes : Attributes) : List (String × String) :=
  if dialect.pairsMilestones then attributes.entries.filter fun entry => isWordAttributeName entry.1 else []

/-- The names of the attributes that a dialect with word attributes leaves out. -/
def droppedAttributes (dialect : Dialect) (attributes : Attributes) : List String :=
  if dialect.pairsMilestones then
    (attributes.entries.filter fun entry => !isWordAttributeName entry.1).map Prod.fst
  else []

end Dialect

end ScriptureMarkup.Usx
