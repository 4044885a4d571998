import Mathlib.Data.List.Basic

namespace ScriptureMarkup.Xml

/-- The characters that no name holds. White space, an equals sign, a slash or a bracket ends a
name; after an opening bracket the last two begin what is not a tag. -/
def delimiters : List Char := [' ', '\t', '\n', '\r', '<', '>', '/', '=', '"', '\'', '&', '?', '!']

def isNameCharacter (c : Char) : Bool := !delimiters.contains c

/-- What stands in angle brackets: the start of an element, an element without content, or the
end of an element. -/
inductive Tag
  | opening (name : String) (attributes : List (String × String))
  | empty (name : String) (attributes : List (String × String))
  | closing (name : String)
  deriving DecidableEq

namespace Tag

def name : Tag → String
  | .opening name _ | .empty name _ | .closing name => name

def attributes : Tag → List (String × String)
  | .opening _ attributes | .empty _ attributes => attributes
  | .closing _ => []

def names (tag : Tag) : List String := tag.attributes.map Prod.fst

end Tag

/-- A text as tags and character data: the data before the first tag, and each tag with the
data between it and the next one. -/
structure Content where
  lead : String
  parts : List (Tag × String)
  deriving DecidableEq

def attributeText (entry : String × String) : List Char :=
  ' ' :: (entry.1.toList ++ '=' :: '"' :: (entry.2.toList ++ ['"']))

def Tag.text : Tag → List Char
  | .opening name attributes => name.toList ++ attributes.flatMap attributeText ++ ['>']
  | .empty name attributes => name.toList ++ attributes.flatMap attributeText ++ [' ', '/', '>']
  | .closing name => '/' :: name.toList ++ ['>']

def partText (part : Tag × String) : List Char := part.1.text ++ part.2.toList

namespace Content

def text (content : Content) : List Char :=
  content.lead.toList ++ content.parts.flatMap fun part => '<' :: partText part

def tags (content : Content) : List Tag := content.parts.map Prod.fst

end Content

def LegalName (name : String) : Prop := name ≠ "" ∧ ∀ c ∈ name.toList, isNameCharacter c = true

instance (name : String) : Decidable (LegalName name) :=
  decidable_of_iff (name ≠ "" ∧ name.toList.all isNameCharacter = true) (by rw [LegalName, List.all_eq_true])

/-- A value stands in double quotes as it is, so it cannot hold one. -/
def LegalAttribute (entry : String × String) : Prop :=
  LegalName entry.1 ∧ '"' ∉ entry.2.toList ∧ '<' ∉ entry.2.toList

def Tag.Legal (tag : Tag) : Prop := LegalName tag.name ∧ ∀ entry ∈ tag.attributes, LegalAttribute entry

/-- Names are names, values keep to their quotes, and an opening bracket always begins a tag. -/
def Content.Legal (content : Content) : Prop :=
  '<' ∉ content.lead.toList ∧ ∀ part ∈ content.parts, part.1.Legal ∧ '<' ∉ part.2.toList

theorem LegalName.not_delimiter {name : String} (legal : LegalName name) {c : Char} (delimits : c ∈ delimiters) :
    c ∉ name.toList := by
  intro member
  have inside := legal.2 c member
  simp [isNameCharacter, delimits] at inside

theorem LegalAttribute.no_bracket {entry : String × String} (legal : LegalAttribute entry) :
    '<' ∉ attributeText entry := by
  have name := legal.1.not_delimiter (c := '<') (by decide)
  simp [attributeText, name, legal.2.2]

theorem Tag.Legal.no_bracket {tag : Tag} (legal : tag.Legal) : '<' ∉ tag.text := by
  obtain ⟨named, attributes⟩ := legal
  have name := named.not_delimiter (c := '<') (by decide)
  have clean : '<' ∉ tag.attributes.flatMap attributeText := by
    intro member
    obtain ⟨entry, inside, bracket⟩ := List.mem_flatMap.mp member
    exact (attributes entry inside).no_bracket bracket
  cases tag with
  | opening | empty | closing =>
    simp only [Tag.text, Tag.name, Tag.attributes] at *
    simp only [List.mem_append, List.mem_cons, not_or]
    simp [name, clean]

end ScriptureMarkup.Xml
