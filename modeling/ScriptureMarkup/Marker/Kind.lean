import ScriptureMarkup.Marker.Tag
import ScriptureMarkup.Text.KeyOrder

namespace ScriptureMarkup

/-- The attributes of a word, in ascending order of their names. Each name comes once, so
two lists of attributes that hold the same entries are equal. -/
structure Attributes where
  entries : List (String × String)
  ascend : Text.KeysAscend entries
  deriving DecidableEq

namespace Attributes

def ofList (entries : List (String × String)) : Attributes :=
  ⟨Text.inKeyOrder entries, Text.keysAscend_inKeyOrder entries⟩

def empty : Attributes := ⟨[], List.Pairwise.nil⟩

end Attributes

/-- A tag together with what it carries beside its children. -/
inductive Kind
  | book (identifier : String)
  | chapter (number : UInt32)
  | verse (number : String)
  | text (text : String)
  | word (term : String) (attributes : Attributes)
  | field (tag : TextTag) (text : String)
  | heading (tag : HeadingTag) (weight : UInt8) (text : String)
  | leveled (tag : LevelTag) (level : UInt8)
  | bare (tag : BareTag)
  | unknown (identifier : String)
  deriving DecidableEq

namespace Kind

def tag : Kind → Tag
  | .book _ => .id
  | .chapter _ => .c
  | .verse _ => .v
  | .text _ => .text
  | .word .. => .w
  | .field tag _ => .field tag
  | .heading tag .. => .heading tag
  | .leveled tag _ => .leveled tag
  | .bare tag => .bare tag
  | .unknown _ => .unknown

/-- The name of the tag, without a level; for an unknown tag the name it came with. -/
def identifier : Kind → String
  | .book _ => "id"
  | .chapter _ => "c"
  | .verse _ => "v"
  | .text _ => "text"
  | .word .. => "w"
  | .field tag _ => tag.identifier
  | .heading tag .. => tag.identifier
  | .leveled tag _ => tag.identifier
  | .bare tag => tag.identifier
  | .unknown identifier => identifier

theorem identifier_eq_name {kind : Kind} (known : kind.tag ≠ .unknown) : kind.identifier = kind.tag.name := by
  cases kind with
  | field tag => exact tag.identifier_eq_name
  | heading tag => exact tag.identifier_eq_name
  | leveled tag => exact tag.identifier_eq_name
  | bare tag => exact tag.identifier_eq_name
  | unknown => exact absurd rfl known
  | book | chapter | verse | text | word => rfl

end Kind

end ScriptureMarkup
