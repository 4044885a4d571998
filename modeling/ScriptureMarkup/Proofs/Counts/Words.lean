import ScriptureMarkup.Text.Words

namespace ScriptureMarkup.Text

/-- The words of a text: what stands between white space, where something does. -/
def words (text : String) : List (List Char) := (text.toList.splitOnP Unicode.isWhiteSpace).filter (!·.isEmpty)

/-- Inside a word the first part of what follows belongs to that word, and only the others begin anew. -/
theorem wordStarts_eq (text : List Char) :
    wordStarts false text = ((text.splitOnP Unicode.isWhiteSpace).filter (!·.isEmpty)).length ∧
      wordStarts true text = ((text.splitOnP Unicode.isWhiteSpace).tail.filter (!·.isEmpty)).length := by
  induction text with
  | nil => simp [wordStarts]
  | cons c text ih =>
    obtain ⟨outside, inside⟩ := ih
    rw [List.splitOnP_cons_eq_if_modifyHead, wordStarts, wordStarts]
    by_cases white : Unicode.isWhiteSpace c
    · simp [white, outside]
    · obtain ⟨first, later, parts⟩ := List.exists_cons_of_ne_nil (List.splitOnP_ne_nil Unicode.isWhiteSpace text)
      rw [parts] at inside
      simp [white, inside, parts]

theorem wordCount_eq_length_words (text : String) : wordCount text = (words text).length :=
  (wordStarts_eq text.toList).1

end ScriptureMarkup.Text
