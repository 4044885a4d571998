import ScriptureMarkup.Unicode.WhiteSpace

namespace ScriptureMarkup.Text

/-- The number of words that begin in `text`; `inside` says whether the character
before it already belongs to a word. -/
def wordStarts (inside : Bool) : List Char → Nat
  | [] => 0
  | c :: text =>
    if Unicode.isWhiteSpace c then wordStarts false text
    else if inside then wordStarts true text
    else wordStarts true text + 1

/-- A word is a longest run of characters without white space, so there are as many
words as places where such a run begins. -/
def wordCount (text : String) : Nat := wordStarts false text.toList

end ScriptureMarkup.Text
