import ScriptureMarkup.Proofs.Markup.Forms
import ScriptureMarkup.Proofs.Text.ByteOrder
import ScriptureMarkup.Proofs.Xml.Name

namespace ScriptureMarkup.Usx

open Xml (startsName continuesName isUnprefixedName)

/-- Letters that Unicode counts as alphabetic although no name may begin with them. -/
def strayStartRanges : List (Nat × Nat) :=
  [(0xaa, 0xaa), (0xb5, 0xb5), (0xba, 0xba), (0x345, 0x345), (0x363, 0x36f), (0x24b6, 0x24e9)]

/-- Letters and numbers that may stand nowhere in a name: signs set above the line, fractions, and
letters and numbers in circles or brackets. -/
def strayRanges : List (Nat × Nat) :=
  [(0xaa, 0xaa), (0xb2, 0xb3), (0xb5, 0xb5), (0xb9, 0xba), (0xbc, 0xbe), (0x2460, 0x249b), (0x24b6, 0x24ff),
    (0x2776, 0x2793)]

def straysAtStart (c : Char) : Bool := Unicode.inRanges strayStartRanges c.toNat

def straysBehind (c : Char) : Bool := Unicode.inRanges strayRanges c.toNat

/-- All letters that may begin the name of an attribute may begin a name, but for the stray ones. -/
theorem startsName_iff {c : Char} (starts : startsWordName c = true) :
    startsName c = true ↔ straysAtStart c = false := by
  have covered : straysAtStart c = true ∨ startsName c = true := by
    rw [straysAtStart, startsName, ← Bool.or_eq_true, ← Unicode.inRanges_append]
    rcases Bool.or_eq_true_iff.mp starts with letter | mark
    · exact Unicode.inRanges_of_within (by decide +kernel) letter
    · cases of_decide_eq_true mark
      decide
  have separate : Unicode.apart Xml.nameStartRanges strayStartRanges = true := by decide +kernel
  exact ⟨Unicode.not_inRanges_of_apart separate, fun clean => covered.resolve_left (by simp [clean])⟩

theorem continuesName_iff {c : Char} (continues : continuesWordName c = true) :
    continuesName c = true ↔ straysBehind c = false := by
  have covered : straysBehind c = true ∨ continuesName c = true := by
    rw [straysBehind, continuesName, ← Bool.or_eq_true, ← Unicode.inRanges_append]
    simp only [continuesWordName, Bool.or_eq_true, decide_eq_true_eq] at continues
    rcases continues with (((letter | number) | rfl) | rfl) | rfl
    · exact Unicode.inRanges_of_within (by decide +kernel) letter
    · exact Unicode.inRanges_of_within (by decide +kernel) number
    · decide
    · decide
    · decide
  have separate : Unicode.apart Xml.nameRanges strayRanges = true := by decide +kernel
  exact ⟨Unicode.not_inRanges_of_apart separate, fun clean => covered.resolve_left (by simp [clean])⟩

/-- A name that is written is a name of XML unless a stray letter or number is in it. -/
theorem isUnprefixedName_of_written {name : String} (written : isWordAttributeName name = true) :
    isUnprefixedName name = true ↔
      (∀ c ∈ name.toList.head?, straysAtStart c = false) ∧ ∀ c ∈ name.toList.tail, straysBehind c = false := by
  obtain ⟨nonempty, _, starts, continues⟩ := isWordAttributeName_iff.mp written
  rw [Xml.isUnprefixedName_iff]
  constructor
  · rintro ⟨_, begins, follows⟩
    exact ⟨fun c first => (startsName_iff (starts c first)).mp (begins c first),
      fun c later => (continuesName_iff (continues c later)).mp (follows c later)⟩
  · rintro ⟨begins, follows⟩
    exact ⟨nonempty, fun c first => (startsName_iff (starts c first)).mpr (begins c first),
      fun c later => (continuesName_iff (continues c later)).mpr (follows c later)⟩

/-- The letters below U+02C2, those with diacritics included. -/
def latinRanges : List (Nat × Nat) := [(0x41, 0x5a), (0x61, 0x7a), (0xc0, 0xd6), (0xd8, 0xf6), (0xf8, 0x2c1)]

theorem isAlphabetic_of_latin {c : Char} (latin : Unicode.inRanges latinRanges c.toNat = true) :
    Unicode.isAlphabetic c = true := by
  have spanned : ∀ range ∈ latinRanges, Unicode.spans range Unicode.alphabeticBoundaries = true := by decide +kernel
  obtain ⟨range, member, low, high⟩ := Unicode.inRanges_iff.mp latin
  exact Unicode.within_of_spans (spanned range member) low high

theorem startsWordName_of_latin {c : Char} (latin : c.toNat < 0x2c2) (starts : startsName c = true) :
    startsWordName c = true := by
  have known : Unicode.inRanges latinRanges c.toNat = true ∨ c.toNat = '_'.toNat := by
    rw [startsName] at starts
    simp only [Unicode.inRanges, Xml.nameStartRanges, latinRanges, List.any_cons, List.any_nil, Bool.or_eq_true,
      Bool.and_eq_true, decide_eq_true_eq, Bool.false_eq_true, or_false] at starts ⊢
    have mark : '_'.toNat = 0x5f := rfl
    omega
  rcases known with letter | mark
  · simp [startsWordName, isAlphabetic_of_latin letter]
  · simp [startsWordName, Char.toNat_inj.mp mark]

/-- Among Latin letters, digits and the signs beside them there is one sign that a name of XML may
hold and the name of an attribute may not: the middle dot. -/
theorem continuesWordName_of_latin {c : Char} (latin : c.toNat < 0x2c2) (noDot : c ≠ '·')
    (continues : continuesName c = true) : continuesWordName c = true := by
  have other : c.toNat ≠ '·'.toNat := fun same => noDot (Char.toNat_inj.mp same)
  have known : Unicode.inRanges latinRanges c.toNat = true ∨ (0x30 ≤ c.toNat ∧ c.toNat ≤ 0x39) ∨
      c.toNat = '_'.toNat ∨ c.toNat = '-'.toNat ∨ c.toNat = '.'.toNat := by
    rw [continuesName] at continues
    simp only [Unicode.inRanges, Xml.nameRanges, Xml.nameStartRanges, latinRanges, List.cons_append, List.nil_append,
      List.any_cons, List.any_nil, Bool.or_eq_true, Bool.and_eq_true, decide_eq_true_eq, Bool.false_eq_true,
      or_false] at continues ⊢
    have marks : '_'.toNat = 0x5f ∧ '-'.toNat = 0x2d ∧ '.'.toNat = 0x2e ∧ '·'.toNat = 0xb7 := ⟨rfl, rfl, rfl, rfl⟩
    omega
  rcases known with letter | ⟨low, high⟩ | mark | mark | mark
  · simp [continuesWordName, isAlphabetic_of_latin letter]
  · have spanned : Unicode.spans (0x30, 0x39) Unicode.numericBoundaries = true := by decide +kernel
    have digit : Unicode.isNumeric c = true := Unicode.within_of_spans spanned low high
    simp [continuesWordName, digit]
  all_goals simp [continuesWordName, Char.toNat_inj.mp mark]

/-- What is written of the attributes of a word, by the rules that write any. -/
def writtenAttributes (attributes : Attributes) : List (String × String) := Dialect.wordAttributes .usx3_0 attributes

theorem writtenAttributes_sublist (attributes : Attributes) :
    (writtenAttributes attributes).Sublist attributes.entries := List.filter_sublist

theorem mem_writtenAttributes {attributes : Attributes} {entry : String × String} :
    entry ∈ writtenAttributes attributes ↔ entry ∈ attributes.entries ∧ isWordAttributeName entry.1 = true :=
  List.mem_filter

/-- The start tag of a word reads back as its style and the attributes that are written, their values
unescaped. -/
theorem scan_wordTag (attributes : Attributes) :
    (Xml.scan (Piece.startTag "char" (some "w") (writtenAttributes attributes)).text.toList).bind Xml.Content.decode =
      some ⟨"", [(.opening "char" (("style", "w") :: writtenAttributes attributes), "")]⟩ := by
  have tag : (Piece.startTag "char" (some "w") (writtenAttributes attributes)).Sound :=
    sound_word .usx3_0 (by decide) attributes
  have sound := List.forall_mem_singleton.mpr tag
  have alone : markupText [.startTag "char" (some "w") (writtenAttributes attributes)] =
      (Piece.startTag "char" (some "w") (writtenAttributes attributes)).text := by simp [markupText]
  rw [← alone, scan_markupText sound, Option.bind_some, Xml.Content.decode_escaped]
  rfl

theorem continuesWordName_of_mem {name : String} (written : isWordAttributeName name = true) {c : Char}
    (member : c ∈ name.toList) : continuesWordName c = true := by
  obtain ⟨_, _, starts, continues⟩ := isWordAttributeName_iff.mp written
  cases spelled : name.toList with
  | nil => simp [spelled] at member
  | cons first others =>
    rw [spelled] at member starts continues
    rcases List.mem_cons.mp member with rfl | later
    · have begins := starts c rfl
      rw [startsWordName, Bool.or_eq_true] at begins
      rcases begins with letter | mark
      · simp [continuesWordName, letter]
      · simp [continuesWordName, mark]
    · exact continues c later

theorem isWordAttributeName_of_latin {name : String} (named : isUnprefixedName name = true) (other : name ≠ "style")
    (latin : ∀ c ∈ name.toList, c.toNat < 0x2c2) : isWordAttributeName name = true ↔ '·' ∉ name.toList := by
  obtain ⟨nonempty, starts, continues⟩ := Xml.isUnprefixedName_iff.mp named
  constructor
  · intro written member
    have dot : continuesWordName '·' = true := continuesWordName_of_mem written member
    revert dot
    decide +kernel
  · intro noDot
    refine isWordAttributeName_iff.mpr ⟨nonempty, other, fun c first => ?_, fun c later => ?_⟩
    · exact startsWordName_of_latin (latin c (List.mem_of_mem_head? first)) (starts c first)
    · have member := List.mem_of_mem_tail later
      exact continuesWordName_of_latin (latin c member) (fun same => noDot (same ▸ member)) (continues c later)

/-- Attributes of a word are written in the order of the bytes of their names, no name twice and none
of them `style`, which stands before them, nor with a prefix. All are names of XML but for those with
one of the stray letters and numbers in them; and a name of XML is left out if it is `style` or holds
what Unicode counts neither as a letter nor as a number, which in Latin script is the middle dot
alone. -/
theorem word_attributes_keep_apart (attributes : Attributes) :
    (Xml.scan (Piece.startTag "char" (some "w") (writtenAttributes attributes)).text.toList).bind Xml.Content.decode =
        some ⟨"", [(.opening "char" (("style", "w") :: writtenAttributes attributes), "")]⟩ ∧
      (writtenAttributes attributes).Sublist attributes.entries ∧
      ((writtenAttributes attributes).Pairwise fun a b => Text.bytes a.1 < Text.bytes b.1) ∧
      ((writtenAttributes attributes).map Prod.fst).Nodup ∧
      (∀ entry ∈ writtenAttributes attributes,
        entry.1 ≠ "style" ∧ ':' ∉ entry.1.toList ∧
          (isUnprefixedName entry.1 = true ↔
            (∀ c ∈ entry.1.toList.head?, straysAtStart c = false) ∧
              ∀ c ∈ entry.1.toList.tail, straysBehind c = false)) ∧
      ∀ entry ∈ attributes.entries, isUnprefixedName entry.1 = true → entry.1 ≠ "style" →
        (entry ∈ writtenAttributes attributes ↔
          (∀ c ∈ entry.1.toList.head?, startsWordName c = true) ∧
            ∀ c ∈ entry.1.toList.tail, continuesWordName c = true) ∧
        ((∀ c ∈ entry.1.toList, c.toNat < 0x2c2) → (entry ∈ writtenAttributes attributes ↔ '·' ∉ entry.1.toList)) := by
  have ascend : Text.KeysAscend (writtenAttributes attributes) :=
    attributes.ascend.sublist (writtenAttributes_sublist attributes)
  refine ⟨scan_wordTag attributes, writtenAttributes_sublist attributes, ascend.bytes, ?_, ?written, ?named⟩
  · exact List.Pairwise.map Prod.fst (fun a b below => String.ne_of_lt below) ascend
  case written =>
    intro entry member
    obtain ⟨_, word⟩ := mem_writtenAttributes.mp member
    refine ⟨(isWordAttributeName_iff.mp word).2.1, fun colon => ?_, isUnprefixedName_of_written word⟩
    have continues : continuesWordName ':' = true := continuesWordName_of_mem word colon
    revert continues
    decide +kernel
  case named =>
    intro entry member named other
    rw [mem_writtenAttributes, and_iff_right member]
    refine ⟨?_, isWordAttributeName_of_latin named other⟩
    rw [isWordAttributeName_iff]
    exact ⟨fun word => word.2.2, fun letters => ⟨(Xml.isUnprefixedName_iff.mp named).1, other, letters⟩⟩

/-- A name with a raised number in it, one with a middle dot, and one that is disputed by no one. -/
def disputedNames : Attributes := .ofList [("lemma", "grace"), ("a²", "1"), ("l·l", "2")]

theorem word_attributes_keep_apart_of_disputed_names :
    ("lemma", "grace") ∈ writtenAttributes disputedNames ∧ isUnprefixedName "lemma" = true ∧
      ¬ (∀ c ∈ "a²".toList.tail, straysBehind c = false) := by
  obtain ⟨_, _, _, _, written, named⟩ := word_attributes_keep_apart disputedNames
  have lemmaNamed : isUnprefixedName "lemma" = true := by decide
  have latin : ∀ c ∈ "lemma".toList, c.toNat < 0x2c2 := by simp
  have begins : ∀ c ∈ "a²".toList.head?, straysAtStart c = false := by
    rintro c ⟨rfl⟩
    decide
  refine ⟨((named ("lemma", "grace") (by decide) lemmaNamed (by decide)).2 latin).mpr (by decide), lemmaNamed, ?_⟩
  intro clean
  have stray := (written ("a²", "1") (by decide +kernel)).2.2.mpr ⟨begins, clean⟩
  revert stray
  decide

/-- A word whose attributes are written with a name that is none, while a name is left out. -/
theorem word_attribute_with_raised_number_is_written :
    ∃ result, (render ⟨true, .usx3_0, false⟩ ⟨[⟨.word "t" disputedNames, []⟩]⟩).2 = .ok result ∧
      result.content = "<char style=\"w\" a²=\"1\" lemma=\"grace\">t</char>" ∧
      isUnprefixedName "a²" = false ∧
      ("l·l", "2") ∈ disputedNames.entries ∧ isUnprefixedName "l·l" = true ∧ "l·l" ≠ "style" ∧
      ("l·l", "2") ∉ writtenAttributes disputedNames := by
  obtain ⟨progress, ran, content⟩ : ∃ progress, visitAll .usx3_0 [⟨.word "t" disputedNames, []⟩]
      (.start #[openingRecord ⟨true, .usx3_0, false⟩ ⟨[⟨.word "t" disputedNames, []⟩]⟩]) = .ok progress ∧
      (Options.result ⟨true, .usx3_0, false⟩ ⟨[⟨.word "t" disputedNames, []⟩]⟩ progress).content =
        "<char style=\"w\" a²=\"1\" lemma=\"grace\">t</char>" := by
    simp only [visitAll, visit, Progress.enter, enter]
    exact ⟨_, rfl, by decide +kernel⟩
  exact ⟨_, render_ok_iff.mpr ⟨progress, ran, rfl⟩, content, by decide +kernel⟩

end ScriptureMarkup.Usx
