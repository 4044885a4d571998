import ScriptureMarkup.Proofs.Xml.Entity

namespace ScriptureMarkup.Xml

def untilEnd : List Char → List Char × List Char
  | [] => ([], [])
  | '?' :: '>' :: text => (['?', '>'], text)
  | c :: text => (c :: (untilEnd text).1, (untilEnd text).2)

/-- A text as its declaration, which ends where it first can, and its body. Without a
declaration the whole text is the body. -/
def splitDeclaration : List Char → List Char × List Char
  | '<' :: '?' :: 'x' :: 'm' :: 'l' :: text =>
    ('<' :: '?' :: 'x' :: 'm' :: 'l' :: (untilEnd text).1, (untilEnd text).2)
  | text => ([], text)

def body (text : List Char) : List Char := (splitDeclaration text).2

theorem untilEnd_eq (text : List Char) : (untilEnd text).1 ++ (untilEnd text).2 = text := by
  induction text using untilEnd.induct with
  | case1 => rfl
  | case2 text => rfl
  | case3 c text noEnd ih =>
    rw [untilEnd, List.cons_append, ih]
    exact noEnd

theorem splitDeclaration_eq (text : List Char) : (splitDeclaration text).1 ++ (splitDeclaration text).2 = text := by
  unfold splitDeclaration
  split
  · rename_i text
    simp only [List.cons_append, untilEnd_eq]
  · rfl

theorem untilEnd_append {front : List Char} (open' : '>' ∉ front) (text : List Char) :
    untilEnd (front ++ '?' :: '>' :: text) = (front ++ ['?', '>'], text) := by
  induction front with
  | nil => rfl
  | cons c front ih =>
    obtain ⟨_, later⟩ := not_or.mp (List.mem_cons.not.mp open')
    rw [List.cons_append, untilEnd, ih later]
    · rfl
    · intro rest _ same
      rcases List.append_eq_cons_iff.mp same with ⟨_, ends⟩ | ⟨others, begins, _⟩
      · simp at ends
      · simp [begins] at later

/-- Behind its bracket a tag begins with a name or a slash. -/
theorem Tag.Legal.no_question {tag : Tag} (legal : tag.Legal) (rest text : List Char) :
    tag.text ++ rest ≠ '?' :: text := by
  obtain ⟨named, _⟩ := legal
  have mark := named.not_delimiter (c := '?') (by decide)
  have nonempty : tag.name.toList ≠ [] := fun empty => named.1 (String.toList_eq_nil_iff.mp empty)
  intro same
  cases tag with
  | opening | empty =>
    simp only [Tag.text, Tag.name, List.append_assoc] at *
    rcases List.append_eq_cons_iff.mp same with ⟨empty, _⟩ | ⟨others, begins, _⟩
    · exact nonempty empty
    · simp [begins] at mark
  | closing => simp [Tag.text] at same

/-- What consists of tags and character data alone begins with no declaration. -/
theorem Content.Legal.splitDeclaration_eq {content : Content} (legal : content.Legal) :
    splitDeclaration content.text = ([], content.text) := by
  obtain ⟨lead, parts⟩ := legal
  have outside (text : List Char) (same : content.text = '<' :: '?' :: text) : False := by
    rcases List.append_eq_cons_iff.mp same with ⟨_, tagged⟩ | ⟨rest, begins, _⟩
    · cases atParts : content.parts with
      | nil => simp [atParts] at tagged
      | cons part others =>
        obtain ⟨tag, _⟩ := parts part (by simp [atParts])
        simp only [atParts, List.flatMap_cons, List.cons_append, List.cons.injEq, true_and, partText,
          List.append_assoc] at tagged
        exact tag.no_question _ _ tagged
    · simp [begins] at lead
  unfold splitDeclaration
  split
  · rename_i text same
    exact (outside _ same).elim
  · rfl

end ScriptureMarkup.Xml
