import ScriptureMarkup.Unicode.Boundaries

namespace ScriptureMarkup

namespace Unicode

/-- Whether a code point lies in one of some ranges, their ends included. -/
def inRanges (ranges : List (Nat × Nat)) (n : Nat) : Bool :=
  ranges.any fun range => decide (range.1 ≤ n) && decide (n ≤ range.2)

theorem inRanges_iff {ranges : List (Nat × Nat)} {n : Nat} :
    inRanges ranges n = true ↔ ∃ range ∈ ranges, range.1 ≤ n ∧ n ≤ range.2 := by
  simp [inRanges]

theorem inRanges_append (front back : List (Nat × Nat)) (n : Nat) :
    inRanges (front ++ back) n = (inRanges front n || inRanges back n) := List.any_append

def apart (ranges others : List (Nat × Nat)) : Bool :=
  ranges.all fun range => others.all fun other => decide (range.2 < other.1) || decide (other.2 < range.1)

theorem not_inRanges_of_apart {ranges others : List (Nat × Nat)} (separate : apart ranges others = true) {n : Nat}
    (inside : inRanges ranges n = true) : inRanges others n = false := by
  obtain ⟨range, member, low, high⟩ := inRanges_iff.mp inside
  rw [← Bool.not_eq_true, inRanges_iff]
  rintro ⟨other, otherMember, otherLow, otherHigh⟩
  have beside := List.all_eq_true.mp (List.all_eq_true.mp separate range member) other otherMember
  simp only [Bool.or_eq_true, decide_eq_true_eq] at beside
  omega

/-- Where one gets from a code point by going through each range that one meets, in the order in
which the ranges are listed. -/
def leave (ranges : List (Nat × Nat)) (n : Nat) : Nat :=
  ranges.foldl (fun next range => bif range.1.ble next && next.ble range.2 then range.2 + 1 else next) n

theorem inRanges_of_lt_leave {ranges : List (Nat × Nat)} {start n : Nat} (above : start ≤ n)
    (below : n < leave ranges start) : inRanges ranges n = true := by
  induction ranges generalizing start with
  | nil =>
    simp only [leave, List.foldl_nil] at below
    omega
  | cons range ranges ih =>
    rw [inRanges, List.any_cons, Bool.or_eq_true, Bool.and_eq_true, decide_eq_true_eq, decide_eq_true_eq]
    have step : leave (range :: ranges) start =
        leave ranges (bif range.1.ble start && start.ble range.2 then range.2 + 1 else start) := rfl
    rw [step] at below
    cases met : range.1.ble start && start.ble range.2 with
    | true =>
      rw [met, cond_true] at below
      rw [Bool.and_eq_true, Nat.ble_eq, Nat.ble_eq] at met
      by_cases within : n ≤ range.2
      · exact .inl ⟨by omega, within⟩
      · exact .inr (ih (by omega) below)
    | false =>
      rw [met, cond_false] at below
      exact .inr (ih above below)

/-- Whether ranges leave out nothing that a table holds: each time it is entered, they lead to where
it is left. -/
def covers (ranges : List (Nat × Nat)) : List Nat → Bool
  | [] => true
  | [_] => false
  | first :: bound :: later => bound.ble (leave ranges first) && covers ranges later

theorem inRanges_of_within {ranges : List (Nat × Nat)} {table : List Nat} (covered : covers ranges table = true)
    {n : Nat} (inside : within table n = true) : inRanges ranges n = true := by
  induction table using covers.induct with
  | case1 => cases inside
  | case2 => cases covered
  | case3 first bound later ih =>
    rw [covers, Bool.and_eq_true, Nat.ble_eq] at covered
    simp only [within, Bool.and_eq_true, Bool.not_eq_true', decide_eq_true_eq] at inside
    obtain ⟨above, inside⟩ := inside
    by_cases below : n < bound
    · exact inRanges_of_lt_leave above (by omega)
    · refine ih covered.2 ?_
      simpa [Nat.not_lt.mp below] using inside

/-- Whether a table holds a whole range, from where it is entered to where it is next left. -/
def spans (range : Nat × Nat) : List Nat → Bool
  | first :: bound :: later =>
    first.ble range.1 && (range.2.blt bound || (bound.ble range.1 && spans range later))
  | _ => false

theorem within_of_spans {range : Nat × Nat} {table : List Nat} (spanned : spans range table = true) {n : Nat}
    (low : range.1 ≤ n) (high : n ≤ range.2) : within table n = true := by
  induction table using spans.induct with
  | case1 first bound later ih =>
    simp only [spans, Bool.and_eq_true, Bool.or_eq_true, Nat.ble_eq, Nat.blt_eq] at spanned
    simp only [within, Bool.and_eq_true, Bool.not_eq_true', decide_eq_true_eq, Bool.and_eq_false_iff,
      decide_eq_false_iff_not, Bool.not_eq_false']
    obtain ⟨above, below | ⟨_, later⟩⟩ := spanned
    · exact ⟨by omega, .inl (by omega)⟩
    · exact ⟨by omega, .inr (ih later)⟩
  | case2 table short => simp [spans] at spanned

end Unicode

namespace Xml

/-- The code points that a name may begin with, in XML 1.0; the colon is left out, since it parts a
name from its prefix. -/
def nameStartRanges : List (Nat × Nat) :=
  [(0x41, 0x5a), (0x5f, 0x5f), (0x61, 0x7a), (0xc0, 0xd6), (0xd8, 0xf6), (0xf8, 0x2ff), (0x370, 0x37d),
    (0x37f, 0x1fff), (0x200c, 0x200d), (0x2070, 0x218f), (0x2c00, 0x2fef), (0x3001, 0xd7ff), (0xf900, 0xfdcf),
    (0xfdf0, 0xfffd), (0x10000, 0xeffff)]

/-- Those that may stand in a name behind the first: hyphen, full stop, digits, the middle dot,
combining marks and ties as well. -/
def nameRanges : List (Nat × Nat) :=
  [(0x2d, 0x2e), (0x30, 0x39), (0xb7, 0xb7), (0x300, 0x36f), (0x203f, 0x2040)] ++ nameStartRanges

def startsName (c : Char) : Bool := Unicode.inRanges nameStartRanges c.toNat

def continuesName (c : Char) : Bool := Unicode.inRanges nameRanges c.toNat

/-- Whether a text is a name of XML 1.0 that belongs to no namespace. -/
def isUnprefixedName (name : String) : Bool :=
  match name.toList with
  | [] => false
  | first :: others => startsName first && others.all continuesName

theorem isUnprefixedName_iff {name : String} :
    isUnprefixedName name = true ↔ name ≠ "" ∧ (∀ c ∈ name.toList.head?, startsName c = true) ∧
      ∀ c ∈ name.toList.tail, continuesName c = true := by
  rw [isUnprefixedName, Ne, ← String.toList_eq_nil_iff]
  cases name.toList <;> simp

end Xml

end ScriptureMarkup
