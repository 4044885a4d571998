import ScriptureMarkup.Proofs.Markup.Written
import ScriptureMarkup.Proofs.Walk.Stopping

namespace ScriptureMarkup

namespace Text

/-- The offsets in bytes at which characters begin that stand one behind the other, the first of them
at a given offset. -/
def offsetsFrom (offset : Nat) : List Char → List Nat
  | [] => []
  | c :: characters => offset :: offsetsFrom (offset + c.utf8Size) characters

/-- The offsets at which the characters of a text begin, and behind them that of its end. -/
def boundaries (text : String) : List Nat := offsetsFrom 0 text.toList ++ [text.utf8ByteSize]

/-- The bytes before an offset. There is no such part if the offset lies inside of a character or behind
the end of the text. -/
def before? (text : String) (offset : Nat) : Option String :=
  if valid : String.Pos.Raw.IsValid text ⟨offset⟩ then some (text.sliceTo (text.pos ⟨offset⟩ valid)).copy else none

/-- The bytes from an offset on, under the same condition. -/
def from? (text : String) (offset : Nat) : Option String :=
  if valid : String.Pos.Raw.IsValid text ⟨offset⟩ then some (text.sliceFrom (text.pos ⟨offset⟩ valid)).copy else none

theorem length_offsetsFrom (offset : Nat) (characters : List Char) :
    (offsetsFrom offset characters).length = characters.length := by
  induction characters generalizing offset with
  | nil => rfl
  | cons c characters ih => rw [offsetsFrom, List.length_cons, ih, List.length_cons]

theorem getElem?_offsetsFrom {characters : List Char} {n : Nat} (inside : n < characters.length) (offset : Nat) :
    (offsetsFrom offset characters)[n]? = some (offset + (String.ofList (characters.take n)).utf8ByteSize) := by
  induction characters generalizing offset n with
  | nil => simp at inside
  | cons c characters ih =>
    cases n with
    | zero => simp [offsetsFrom]
    | succ n =>
      have later := ih (Nat.lt_of_succ_lt_succ inside) (offset + c.utf8Size)
      rw [offsetsFrom, List.getElem?_cons_succ, later, List.take_succ_cons, String.ofList_cons]
      simp [Nat.add_assoc]

/-- The boundary with a given number is where that many characters end, if there are so many. -/
theorem getElem?_boundaries (text : String) (n : Nat) :
    (boundaries text)[n]? =
      if n ≤ text.length then some (String.ofList (text.toList.take n)).utf8ByteSize else none := by
  have length : (offsetsFrom 0 text.toList).length = text.length := by
    rw [length_offsetsFrom, String.length_toList]
  rw [boundaries]
  rcases Nat.lt_trichotomy n text.length with inside | atEnd | beyond
  · rw [List.getElem?_append_left (by omega), if_pos (Nat.le_of_lt inside),
      getElem?_offsetsFrom (by rwa [String.length_toList]), Nat.zero_add]
  · rw [List.getElem?_append_right (by omega), length, atEnd, Nat.sub_self, if_pos (Nat.le_refl _),
      List.take_of_length_le (Nat.le_of_eq String.length_toList), String.ofList_toList]
    rfl
  · rw [if_neg (by omega), List.getElem?_eq_none]
    rw [List.length_append, length, List.length_singleton]
    omega

theorem getElem?_boundaries_append (front back : String) :
    (boundaries (front ++ back))[front.length]? = some front.utf8ByteSize := by
  have inside : front.length ≤ (front ++ back).length := by
    rw [String.length_append]
    omega
  rw [getElem?_boundaries, if_pos inside, String.toList_append, ← String.length_toList, List.take_left,
    String.ofList_toList]

/-- No boundary lies inside of a character. -/
theorem isValid_of_mem_boundaries {text : String} {offset : Nat} (member : offset ∈ boundaries text) :
    String.Pos.Raw.IsValid text ⟨offset⟩ := by
  obtain ⟨n, found⟩ := List.mem_iff_getElem?.mp member
  rw [getElem?_boundaries] at found
  split_ifs at found
  cases found
  exact String.Pos.Raw.isValid_iff_exists_take_toList.mpr ⟨n, rfl⟩

/-- Between two texts that stand one behind the other there is a boundary. -/
theorem exists_splits_append (front back : String) :
    ∃ valid, ((front ++ back).pos ⟨front.utf8ByteSize⟩ valid).Splits front back :=
  ⟨String.Pos.Raw.isValid_iff_exists_append.mpr ⟨front, back, rfl, rfl⟩, rfl, rfl⟩

theorem before?_append (front back : String) : before? (front ++ back) front.utf8ByteSize = some front := by
  obtain ⟨valid, splits⟩ := exists_splits_append front back
  rw [before?, dif_pos valid, splits.copy_sliceTo_eq]

theorem from?_append (front back : String) : from? (front ++ back) front.utf8ByteSize = some back := by
  obtain ⟨valid, splits⟩ := exists_splits_append front back
  rw [from?, dif_pos valid, splits.copy_sliceFrom_eq]

end Text

namespace Usx

/-- Splits the text that names a book by offsets. The boundaries are gone through once: three are passed
over, the code ends at the next one and the label begins at the one behind it. No outcome at all stands
for a cut through a character. -/
def splitAtBoundaries? (identifier : String) : Option (Except MalformedBook (String × String)) :=
  let remaining := (Text.boundaries identifier).drop 3
  match remaining.head?, remaining.tail.head? with
  | some codeEnd, some labelStart =>
    match Text.before? identifier codeEnd, Text.from? identifier labelStart with
    | some code, some label => some (.ok (code, label))
    | _, _ => none
  | _, _ => some (.error ⟨identifier⟩)

theorem splitBookIdentifier_eq_ok_iff {identifier code label : String} :
    splitBookIdentifier identifier = .ok (code, label) ↔
      code.length = 3 ∧ ∃ separator : Char, identifier = code ++ String.singleton separator ++ label := by
  constructor
  · intro split
    unfold splitBookIdentifier at split
    split at split
    · rename_i a b c separator rest characters
      cases split
      refine ⟨String.length_ofList, separator, ?_⟩
      rw [← String.toList_inj, characters]
      simp
    · cases split
  · rintro ⟨three, separator, rfl⟩
    rw [← String.length_toList, List.length_eq_three] at three
    obtain ⟨a, b, c, characters⟩ := three
    have whole : (code ++ String.singleton separator ++ label).toList = a :: b :: c :: separator :: label.toList := by
      simp [characters]
    rw [splitBookIdentifier, whole]
    simp only [← characters, String.ofList_toList]

theorem splitBookIdentifier_eq_error_iff {identifier : String} {malformed : MalformedBook} :
    splitBookIdentifier identifier = .error malformed ↔ identifier.length < 4 ∧ malformed = ⟨identifier⟩ := by
  have succeeds := @splitBookIdentifier_ok_iff identifier
  constructor
  · intro failed
    refine ⟨Nat.lt_of_not_le fun long => ?_, ?_⟩
    · obtain ⟨parts, split⟩ := succeeds.mpr long
      rw [split] at failed
      cases failed
    · unfold splitBookIdentifier at failed
      split at failed <;> cases failed
      rfl
  · rintro ⟨short, rfl⟩
    rw [splitBookIdentifier]
    split
    · rename_i characters
      rw [← String.length_toList, characters] at short
      simp only [List.length_cons] at short
      omega
    · rfl

/-- A code of three characters and one more character end where the fourth and the fifth boundary are. -/
theorem boundaries_of_code {code label : String} {separator : Char} (three : code.length = 3) :
    (Text.boundaries (code ++ String.singleton separator ++ label))[3]? = some code.utf8ByteSize ∧
      (Text.boundaries (code ++ String.singleton separator ++ label))[4]? =
        some (code ++ String.singleton separator).utf8ByteSize := by
  have four : (code ++ String.singleton separator).length = 4 := by simp [three]
  have first := Text.getElem?_boundaries_append code (String.singleton separator ++ label)
  have second := Text.getElem?_boundaries_append (code ++ String.singleton separator) label
  rw [three, ← String.append_assoc] at first
  rw [four] at second
  exact ⟨first, second⟩

/-- No cut goes through a character, and the cuts give what the characters give. -/
theorem splitAtBoundaries?_eq (identifier : String) :
    splitAtBoundaries? identifier = some (splitBookIdentifier identifier) := by
  cases split : splitBookIdentifier identifier with
  | ok parts =>
    obtain ⟨code, label⟩ := parts
    obtain ⟨three, separator, rfl⟩ := splitBookIdentifier_eq_ok_iff.mp split
    obtain ⟨codeEnd, labelStart⟩ := @boundaries_of_code code label separator three
    have front : Text.before? (code ++ String.singleton separator ++ label) code.utf8ByteSize = some code := by
      rw [String.append_assoc]
      exact Text.before?_append code _
    have back : Text.from? (code ++ String.singleton separator ++ label)
        (code ++ String.singleton separator).utf8ByteSize = some label := Text.from?_append _ label
    simp only [splitAtBoundaries?, List.tail_drop, List.head?_drop, codeEnd, labelStart, front, back]
  | error malformed =>
    obtain ⟨short, same⟩ := splitBookIdentifier_eq_error_iff.mp split
    have missing : (Text.boundaries identifier)[4]? = none := by
      rw [Text.getElem?_boundaries, if_neg (by omega)]
    simp only [splitAtBoundaries?, List.tail_drop, List.head?_drop, missing, same]
    cases (Text.boundaries identifier)[3]? <;> rfl

/-- A text names a book exactly if it has four characters or more: the first three are the code and those
behind the fourth the label. The two are found by their offsets in bytes, and these lie between characters,
however many bytes the characters have. A text that is too short is told as it is. -/
theorem identifier_splits_between_characters (identifier : String) :
    splitAtBoundaries? identifier = some (splitBookIdentifier identifier) ∧
      (∀ offset ∈ Text.boundaries identifier, String.Pos.Raw.IsValid identifier ⟨offset⟩) ∧
      ((∃ parts, splitBookIdentifier identifier = .ok parts) ↔ 4 ≤ identifier.length) ∧
      (∀ code label, splitBookIdentifier identifier = .ok (code, label) ↔
        code.length = 3 ∧ ∃ separator : Char, identifier = code ++ String.singleton separator ++ label) ∧
      (∀ code label, splitBookIdentifier identifier = .ok (code, label) →
        ∃ codeEnd labelStart,
          (Text.boundaries identifier)[3]? = some codeEnd ∧ (Text.boundaries identifier)[4]? = some labelStart ∧
            code.toByteArray = identifier.toByteArray.extract 0 codeEnd ∧
            label.toByteArray = identifier.toByteArray.extract labelStart identifier.utf8ByteSize) ∧
      ∀ malformed, splitBookIdentifier identifier = .error malformed ↔
        identifier.length < 4 ∧ malformed = ⟨identifier⟩ := by
  refine ⟨splitAtBoundaries?_eq identifier, fun offset => Text.isValid_of_mem_boundaries, splitBookIdentifier_ok_iff,
    fun code label => splitBookIdentifier_eq_ok_iff, fun code label split => ?_,
    fun malformed => splitBookIdentifier_eq_error_iff⟩
  obtain ⟨three, separator, rfl⟩ := splitBookIdentifier_eq_ok_iff.mp split
  obtain ⟨codeEnd, labelStart⟩ := @boundaries_of_code code label separator three
  obtain ⟨_, front⟩ := Text.exists_splits_append code (String.singleton separator ++ label)
  obtain ⟨_, back⟩ := Text.exists_splits_append (code ++ String.singleton separator) label
  refine ⟨_, _, codeEnd, labelStart, ?_, back.toByteArray_right_eq⟩
  rw [String.append_assoc]
  exact front.toByteArray_left_eq

/-- Three characters of two, three and four bytes, and the same with one more behind them. -/
theorem identifier_splits_between_characters_of_wide :
    splitAtBoundaries? "é€😀" = some (.error ⟨"é€😀"⟩) ∧
      splitAtBoundaries? "é€😀-" = some (.ok ("é€😀", "")) ∧ String.Pos.Raw.IsValid "é€😀-" ⟨9⟩ := by
  obtain ⟨short, _⟩ := identifier_splits_between_characters "é€😀"
  obtain ⟨long, valid, _⟩ := identifier_splits_between_characters "é€😀-"
  have inside : 9 ∈ Text.boundaries "é€😀-" := by decide
  exact ⟨short.trans rfl, long.trans rfl, valid 9 inside⟩

end Usx

end ScriptureMarkup
