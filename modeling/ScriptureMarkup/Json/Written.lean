import ScriptureMarkup.Decimal.Shortest
import ScriptureMarkup.Json.Value

namespace ScriptureMarkup.Json

def lowerHexDigit (n : Nat) : Char := Char.ofNat (if n < 10 then 48 + n else 87 + n)

/-- One character inside a written string. Only the quote, the backslash and the controls
below the space are escaped. -/
def writtenCharacter (c : Char) : List Char :=
  if c = '"' then ['\\', '"']
  else if c = '\\' then ['\\', '\\']
  else if c = '\x08' then ['\\', 'b']
  else if c = '\t' then ['\\', 't']
  else if c = '\n' then ['\\', 'n']
  else if c = '\x0c' then ['\\', 'f']
  else if c = '\r' then ['\\', 'r']
  else if c.toNat < 0x20 then
    ['\\', 'u', '0', '0', lowerHexDigit (c.toNat / 16), lowerHexDigit (c.toNat % 16)]
  else [c]

def writtenString (text : String) : List Char :=
  '"' :: text.toList.flatMap writtenCharacter ++ ['"']

def Number.written : Number → List Char
  | .integer n => (toString n).toList
  | .real x => (Decimal.floatText x).toList

def Scalar.written : Scalar → List Char
  | .null => ['n', 'u', 'l', 'l']
  | .bool true => ['t', 'r', 'u', 'e']
  | .bool false => ['f', 'a', 'l', 's', 'e']
  | .number n => n.written
  | .string text => writtenString text

namespace Value

mutual

/-- A value on one line without blanks. -/
def written : Value → List Char
  | .scalar s => s.written
  | .array items => '[' :: writtenItems items ++ [']']
  | .object fields => '\x7b' :: writtenFields fields ++ ['\x7d']

def writtenItems : List Value → List Char
  | [] => []
  | [item] => item.written
  | item :: items => item.written ++ ',' :: writtenItems items

def writtenFields : List (String × Value) → List Char
  | [] => []
  | [(key, value)] => writtenString key ++ ':' :: value.written
  | (key, value) :: fields => writtenString key ++ ':' :: value.written ++ ',' :: writtenFields fields

end

def text (value : Value) : String := String.ofList value.written

/-- A new line, indented by two spaces for each bracket that stands open. -/
def newLine (depth : Nat) : List Char := '\n' :: List.replicate (2 * depth) ' '

mutual

/-- A value with each part on a line of its own; a list or an object without parts stays
closed. -/
def indented (depth : Nat) : Value → List Char
  | .scalar s => s.written
  | .array [] => ['[', ']']
  | .array items => '[' :: indentedItems (depth + 1) items ++ newLine depth ++ [']']
  | .object [] => ['\x7b', '\x7d']
  | .object fields => '\x7b' :: indentedFields (depth + 1) fields ++ newLine depth ++ ['\x7d']

def indentedItems (depth : Nat) : List Value → List Char
  | [] => []
  | [item] => newLine depth ++ item.indented depth
  | item :: items => newLine depth ++ item.indented depth ++ ',' :: indentedItems depth items

def indentedFields (depth : Nat) : List (String × Value) → List Char
  | [] => []
  | [(key, value)] => newLine depth ++ writtenString key ++ [':', ' '] ++ value.indented depth
  | (key, value) :: fields =>
    newLine depth ++ writtenString key ++ [':', ' '] ++ value.indented depth ++ ',' :: indentedFields depth fields

end

def indentedText (value : Value) : String := String.ofList (value.indented 0)

end Value

end ScriptureMarkup.Json
