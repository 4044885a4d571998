import Mathlib.Tactic.SplitIfs
import ScriptureMarkup.Text.KeyOrder

namespace ScriptureMarkup.Text

/-- A text as it is stored in UTF-8. -/
def bytes (text : String) : List UInt8 := text.toUTF8.data.toList

theorem bytes_eq_flatMap (text : String) : bytes text = text.toList.flatMap String.utf8EncodeChar := by
  rw [bytes, String.toUTF8_eq_toByteArray, ← String.utf8Encode_toList]
  simp [List.utf8Encode]

/-- A smaller code point has smaller bytes, whatever follows them: the first byte grows with the
number of bytes, and those of one number hold the code point from its top down. -/
theorem encode_append_lt {c d : Char} (below : c < d) (rest other : List UInt8) :
    String.utf8EncodeChar c ++ rest < String.utf8EncodeChar d ++ other := by
  have points : c.val.toNat < d.val.toNat := below
  have bound : d.val.toNat < 0x110000 := by
    have valid := d.valid
    simp only [UInt32.isValidChar, Nat.isValidChar] at valid
    omega
  unfold String.utf8EncodeChar
  generalize c.val.toNat = m at points
  generalize d.val.toNat = n at points bound
  dsimp only
  -- one case for each two numbers of bytes; the first has no more of them
  split_ifs <;>
    simp only [List.cons_append, List.nil_append, List.cons_lt_cons_iff, UInt8.lt_iff_toNat_lt, ← UInt8.toNat_inj,
      UInt8.toNat_ofNat'] <;>
    simp (disch := omega) only [Nat.mod_eq_of_lt] <;>
    omega

theorem bytes_lt_bytes {a b : String} (below : a < b) : bytes a < bytes b := by
  rw [String.lt_iff] at below
  rw [bytes_eq_flatMap, bytes_eq_flatMap]
  generalize a.toList = front at below
  generalize b.toList = back at below
  induction front generalizing back with
  | nil =>
    cases back with
    | nil => simp at below
    | cons d back =>
      obtain ⟨byte, more, encoded⟩ := List.exists_cons_of_ne_nil (String.utf8EncodeChar_ne_nil (c := d))
      simp [List.flatMap_cons, encoded]
  | cons c front ih =>
    cases back with
    | nil => simp at below
    | cons d back =>
      rw [List.flatMap_cons, List.flatMap_cons]
      rcases List.cons_lt_cons_iff.mp below with first | ⟨rfl, later⟩
      · exact encode_append_lt first _ _
      · exact List.append_left_lt (ih back later)

/-- Keys that ascend by code points ascend by their bytes in UTF-8. -/
theorem KeysAscend.bytes {α : Type} {entries : List (String × α)} (ascend : KeysAscend entries) :
    entries.Pairwise fun a b => Text.bytes a.1 < Text.bytes b.1 :=
  List.Pairwise.imp bytes_lt_bytes ascend

end ScriptureMarkup.Text
