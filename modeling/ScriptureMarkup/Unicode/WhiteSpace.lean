import ScriptureMarkup.Unicode.Boundaries

namespace ScriptureMarkup.Unicode

/-- Where membership in `isWhiteSpace` changes. -/
def whiteSpaceBoundaries : List Nat :=
  [
    0x9, 0xe, 0x20, 0x21, 0x85, 0x86, 0xa0, 0xa1, 0x1680, 0x1681, 0x2000, 0x200b, 0x2028, 0x202a, 0x202f,
    0x2030, 0x205f, 0x2060, 0x3000, 0x3001
  ]

/-- Characters that separate words: those with the Unicode property White_Space. The zero
width space and the byte order mark are not among them. -/
def isWhiteSpace (c : Char) : Bool := within whiteSpaceBoundaries c.toNat

end ScriptureMarkup.Unicode
