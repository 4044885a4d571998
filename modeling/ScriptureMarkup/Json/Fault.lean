import ScriptureMarkup.Decimal.Shortest
import ScriptureMarkup.Json.Value
import ScriptureMarkup.Text.Quoted

namespace ScriptureMarkup.Json

/-- What a reader asks for at a place. -/
inductive Wanted
  | text
  | byte
  | word
  | boolean
  | sequence
  | map
  | marker
  | document
  | options
  | result
  | statistics
  deriving DecidableEq

def Wanted.name : Wanted → String
  | .text => "a string"
  | .byte => "u8"
  | .word => "u32"
  | .boolean => "a boolean"
  | .sequence => "a sequence"
  | .map => "a map"
  | .marker => "struct Marker"
  | .document => "struct Document"
  | .options => "struct UsxConfig"
  | .result => "struct RenderResult"
  | .statistics => "struct RenderStats"

def Found.name : Found → String
  | .scalar .null => "null"
  | .scalar (.bool b) => "boolean `" ++ (if b then "true" else "false") ++ "`"
  | .scalar (.number (.integer n)) => "integer `" ++ toString n ++ "`"
  | .scalar (.number (.real x)) => "floating point `" ++ Decimal.floatText x ++ "`"
  | .scalar (.string text) => "string " ++ Text.quoted text
  | .sequence => "sequence"
  | .map => "map"

/-- What was being read when the input ended. -/
inductive Unfinished
  | value
  | list
  | object
  | string

def Unfinished.name : Unfinished → String
  | .value => "a value"
  | .list => "a list"
  | .object => "an object"
  | .string => "a string"

/-- Why a text cannot be read. The first group is about form, the second about what the
form holds. -/
inductive Fault
  | endOfInput (inside : Unfinished)
  | expectedValue
  | expectedWord
  | expectedColon
  | expectedCommaOrBracket
  | expectedCommaOrBrace
  | keyMustBeString
  | trailingComma
  | trailingCharacters
  | invalidNumber
  | numberOutOfRange
  | controlCharacter
  | invalidEscape
  | unfinishedSurrogatePair
  | loneSurrogate
  | invalidCodePoint
  | tooDeep
  | wrongType (found : Found) (wanted : Wanted)
  | outOfRange (n : Int) (wanted : Wanted)
  | tooShort (length : Nat) (wanted : Wanted) (full : Nat)
  | tooLong (length : Nat)
  | missingField (name : String)
  | duplicateField (name : String)
  | unsupportedVersion (version : String)

/-- A number at the end of a text that is given backwards, with a word before it. -/
def endingNumber? (word : String) (backwards : List Char) : Option (Nat × List Char) :=
  let digits := backwards.takeWhile Char.isDigit
  let before := backwards.dropWhile Char.isDigit
  if digits.isEmpty || !word.toList.reverse.isPrefixOf before then none
  else some (digits.foldr (fun c n => 10 * n + (c.toNat - '0'.toNat)) 0, before.drop word.length)

/-- A position such as ` at line 3 column 14` at the end of a message. -/
structure EndingPosition where
  /-- What stands before it. -/
  message : String
  line : Nat
  column : Nat

def EndingPosition.of? (message : String) : Option EndingPosition := do
  let (column, backwards) ← endingNumber? " column " message.toList.reverse
  let (line, backwards) ← endingNumber? " at line " backwards
  pure ⟨String.ofList backwards.reverse, line, column⟩

/-- Whether both numbers fit 64 bits. -/
def EndingPosition.fits (position : EndingPosition) : Bool :=
  position.line < UInt64.size && position.column < UInt64.size

/-- Drops a position at the end of a message, which is no part of what is said. -/
def withoutPosition (message : String) : String :=
  match EndingPosition.of? message with
  | some position => if position.fits then position.message else message
  | none => message

def Fault.message : Fault → String
  | .endOfInput inside => "EOF while parsing " ++ inside.name
  | .expectedValue => "expected value"
  | .expectedWord => "expected ident"
  | .expectedColon => "expected `:`"
  | .expectedCommaOrBracket => "expected `,` or `]`"
  | .expectedCommaOrBrace => "expected `,` or `\x7d`"
  | .keyMustBeString => "key must be a string"
  | .trailingComma => "trailing comma"
  | .trailingCharacters => "trailing characters"
  | .invalidNumber => "invalid number"
  | .numberOutOfRange => "number out of range"
  | .controlCharacter => "control character (\\u0000-\\u001F) found while parsing a string"
  | .invalidEscape => "invalid escape"
  | .unfinishedSurrogatePair => "unexpected end of hex escape"
  | .loneSurrogate => "lone leading surrogate in hex escape"
  | .invalidCodePoint => "invalid unicode code point"
  | .tooDeep => "recursion limit exceeded"
  | .wrongType found wanted => "invalid type: " ++ found.name ++ ", expected " ++ wanted.name
  | .outOfRange n wanted => "invalid value: integer `" ++ toString n ++ "`, expected " ++ wanted.name
  | .tooShort length wanted full =>
    "invalid length " ++ toString length ++ ", expected " ++ wanted.name ++ " with " ++ toString full ++ " elements"
  | .tooLong length => "invalid length " ++ toString length ++ ", expected fewer elements in array"
  | .missingField name => "missing field `" ++ name ++ "`"
  | .duplicateField name => "duplicate field `" ++ name ++ "`"
  | .unsupportedVersion version => withoutPosition ("Unsupported USX version: " ++ version)

end ScriptureMarkup.Json
