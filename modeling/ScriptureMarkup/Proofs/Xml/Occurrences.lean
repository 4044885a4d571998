import Mathlib.Data.List.Infix
import ScriptureMarkup.Proofs.Xml.Declaration

namespace ScriptureMarkup.Xml

/-- The number of places in a text at which a part of it begins. -/
def occurrences (part whole : List Char) : Nat := whole.tails.countP part.isPrefixOf

theorem occurrences_cons (part : List Char) (c : Char) (whole : List Char) :
    occurrences part (c :: whole) = occurrences part whole + if part.isPrefixOf (c :: whole) then 1 else 0 := by
  rw [occurrences, List.tails_cons, List.countP_cons, occurrences]

variable {opener : List Char}

/-- Where there is no bracket, nothing begins that begins with one. -/
theorem occurrences_append {front : List Char} (clean : '<' ∉ front) (whole : List Char) :
    occurrences ('<' :: opener) (front ++ whole) = occurrences ('<' :: opener) whole := by
  induction front with
  | nil => rfl
  | cons c front ih =>
    obtain ⟨other, later⟩ := not_or.mp (List.mem_cons.not.mp clean)
    rw [List.cons_append, occurrences_cons, ih later, List.isPrefixOf_cons_cons, beq_false_of_ne other]
    rfl

theorem Tag.bracket_mem_text (tag : Tag) : '>' ∈ tag.text := by
  cases tag <;> simp [Tag.text]

/-- A tag ends with a bracket, so what has none before its own end cannot reach beyond the tag. -/
theorem Tag.isPrefixOf_text_append (within : '>' ∉ opener.dropLast) (tag : Tag) (rest : List Char) :
    opener.isPrefixOf (tag.text ++ rest) = opener.isPrefixOf tag.text := by
  rw [Bool.eq_iff_iff, List.isPrefixOf_iff_prefix, List.isPrefixOf_iff_prefix]
  constructor
  · intro begins
    rcases List.prefix_or_prefix_of_prefix begins (List.prefix_append tag.text rest) with inside | ⟨beyond, rfl⟩
    · exact inside
    · by_cases ends : beyond = []
      · rw [ends, List.append_nil]
      · rw [List.dropLast_append_of_ne_nil ends] at within
        exact (within (List.mem_append_left _ tag.bracket_mem_text)).elim
  · exact fun begins => begins.trans (List.prefix_append tag.text rest)

/-- Where tags and data are told apart, what begins like a tag is a tag. -/
theorem Content.Legal.occurrences_eq {content : Content} (legal : content.Legal) (within : '>' ∉ opener.dropLast) :
    occurrences ('<' :: opener) content.text = content.tags.countP (opener.isPrefixOf ·.text) := by
  obtain ⟨lead, parts⟩ := content
  obtain ⟨cleanLead, clean⟩ := legal
  dsimp only at cleanLead clean
  rw [text, occurrences_append cleanLead, tags, List.countP_map]
  dsimp only
  induction parts with
  | nil => rfl
  | cons part parts ih =>
    obtain ⟨⟨tag, data⟩, later⟩ := List.forall_mem_cons.mp clean
    have inside : '<' ∉ partText part := by
      rw [partText, List.mem_append, not_or]
      exact ⟨tag.no_bracket, data⟩
    have begins (rest : List Char) :
        ('<' :: opener).isPrefixOf ('<' :: (partText part ++ rest)) = opener.isPrefixOf part.1.text := by
      rw [List.isPrefixOf_cons_cons, beq_self_eq_true, Bool.true_and, partText, List.append_assoc,
        part.1.isPrefixOf_text_append within]
    rw [List.flatMap_cons, List.cons_append, occurrences_cons, occurrences_append inside, ih later, begins,
      List.countP_cons]
    rfl

/-- A declaration begins with a mark that no tag begins with, and holds no other bracket. -/
theorem occurrences_body {c : Char} {name text : List Char} (other : c ≠ '?')
    (clean : '<' ∉ (splitDeclaration text).1.tail) :
    occurrences ('<' :: c :: name) text = occurrences ('<' :: c :: name) (body text) := by
  unfold body
  unfold splitDeclaration at clean ⊢
  split at clean
  · rename_i text
    rw [List.tail_cons] at clean
    have joined : '<' :: '?' :: 'x' :: 'm' :: 'l' :: text =
        '<' :: (('?' :: 'x' :: 'm' :: 'l' :: (untilEnd text).1) ++ (untilEnd text).2) := by
      simp only [List.cons_append, untilEnd_eq]
    rw [joined, occurrences_cons, occurrences_append clean, List.cons_append, List.isPrefixOf_cons_cons,
      List.isPrefixOf_cons_cons, beq_false_of_ne other]
    rfl
  · rfl

end ScriptureMarkup.Xml
