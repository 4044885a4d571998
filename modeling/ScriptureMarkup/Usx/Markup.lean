namespace ScriptureMarkup.Usx

/-- One character of a text between tags. Quotes mean nothing there and stay. -/
def textCharacter (c : Char) : List Char :=
  if c = '&' then ['&', 'a', 'm', 'p', ';']
  else if c = '<' then ['&', 'l', 't', ';']
  else if c = '>' then ['&', 'g', 't', ';']
  else [c]

/-- One character of an attribute value, which stands in double quotes. -/
def attributeCharacter (c : Char) : List Char :=
  if c = '"' then ['&', 'q', 'u', 'o', 't', ';']
  else if c = '\'' then ['&', 'a', 'p', 'o', 's', ';']
  else textCharacter c

def escapedText (text : String) : String := String.ofList (text.toList.flatMap textCharacter)

def escapedAttribute (value : String) : String := String.ofList (value.toList.flatMap attributeCharacter)

/-- A piece of markup. The name of an element and its style come from the tags of the
language and are written as they are; the values of the other attributes and the text
between tags come from a document and are escaped. -/
inductive Piece
  | startTag (element : String) (style : Option String) (attributes : List (String × String))
  | emptyTag (element : String) (style : Option String) (attributes : List (String × String))
  | endTag (element : String)
  | characters (text : String)
  deriving DecidableEq

/-- Attributes as they follow the name of an element, each after a space. -/
def attributeText (attributes : List (String × String)) : String :=
  String.join (attributes.map fun (name, value) => " " ++ name ++ "=\"" ++ escapedAttribute value ++ "\"")

def styleText : Option String → String
  | none => ""
  | some style => " style=\"" ++ style ++ "\""

def Piece.text : Piece → String
  | .startTag element style attributes =>
    "<" ++ element ++ styleText style ++ attributeText attributes ++ ">"
  | .emptyTag element style attributes =>
    "<" ++ element ++ styleText style ++ attributeText attributes ++ " />"
  | .endTag element => "</" ++ element ++ ">"
  | .characters text => escapedText text

/-- A line break between elements. -/
def Piece.lineBreak : Piece := .characters "\n"

def markupText (pieces : List Piece) : String := String.join (pieces.map Piece.text)

end ScriptureMarkup.Usx
