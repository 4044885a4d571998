import ScriptureMarkup.Unicode.GraphemeExtend
import ScriptureMarkup.Unicode.Ignorable
import ScriptureMarkup.Unicode.Unprintable

namespace ScriptureMarkup.Text

/-- The voiced sound marks of half width. They extend graphemes by their property alone;
on the page each takes a place of its own. -/
def isHalfwidthSoundMark (c : Char) : Bool := c = '\uff9e' || c = '\uff9f'

/-- Characters that would join what stands before them, or would leave nothing to see. -/
def isElusive (c : Char) : Bool :=
  (Unicode.extendsGrapheme c && !isHalfwidthSoundMark c) || Unicode.isUnprintable c || Unicode.isIgnorable c

/-- How one character stands in a quoted text. An elusive one is shown by its code point. -/
def quotedCharacter (c : Char) : List Char :=
  if c = '\x00' then ['\\', '0']
  else if c = '\t' then ['\\', 't']
  else if c = '\n' then ['\\', 'n']
  else if c = '\r' then ['\\', 'r']
  else if c = '"' then ['\\', '"']
  else if c = '\\' then ['\\', '\\']
  else if isElusive c then
    ['\\', 'u', '{'] ++ Nat.toDigits 16 c.toNat ++ ['}']
  else [c]

/-- A text as messages show it: in double quotes, on one line, with nothing invisible. -/
def quoted (text : String) : String :=
  String.ofList ('"' :: text.toList.flatMap quotedCharacter ++ ['"'])

end ScriptureMarkup.Text
