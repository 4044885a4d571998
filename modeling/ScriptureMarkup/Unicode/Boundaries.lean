namespace ScriptureMarkup.Unicode

/-- A set of characters, given by the ascending code points at which membership
changes: the first one is in the set, the second is out again, and so on. -/
def within : List Nat → Nat → Bool
  | [], _ => false
  | first :: later, n => decide (first ≤ n) && !within later n

end ScriptureMarkup.Unicode
