import Mathlib.Computability.Language

namespace ScriptureMarkup.Xml.Grammar

def isSpace (c : Char) : Bool := c = ' ' || c = '\t' || c = '\r' || c = '\n'

/-- White space, which is never empty where it is asked for. -/
def space : Language Char := {text : List Char | text ≠ [] ∧ ∀ c ∈ text, isSpace c = true}

def literal (text : String) : Language Char := {text.toList}

def equals : Language Char := (space + 1) * literal "=" * (space + 1)

def quoted (values : Language Char) : Language Char :=
  literal "\"" * values * literal "\"" + literal "'" * values * literal "'"

/-- What stands in a declaration as an attribute does in a tag. Its value is not text: it may hold no
reference. -/
def pseudoAttribute (name : String) (values : Language Char) : Language Char :=
  space * literal name * equals * quoted values

def digits : Language Char := {text : List Char | text ≠ [] ∧ ∀ c ∈ text, c.isDigit = true}

def versionNumber : Language Char := literal "1." * digits

def isEncodingCharacter (c : Char) : Bool := c.isAlphanum || c = '.' || c = '_' || c = '-'

/-- Whether a text can be the name of an encoding: a letter of the Latin alphabet, and behind it more
of them, digits, full stops, low lines and hyphens. -/
def isEncodingName : List Char → Bool
  | [] => false
  | first :: others => first.isAlpha && others.all isEncodingCharacter

def encodingName : Language Char := {name : List Char | isEncodingName name = true}

/-- The declarations of XML 1.0. The version comes first; the other two may be left out. -/
def declaration : Language Char :=
  literal "<?xml" * pseudoAttribute "version" versionNumber * (pseudoAttribute "encoding" encodingName + 1) *
    (pseudoAttribute "standalone" (literal "yes" + literal "no") + 1) * (space + 1) * literal "?>"

variable {language values : Language Char} {c d : Char} {text rest value : List Char}

theorem mem_literal_mul (word : String) : word.toList ++ rest ∈ literal word * language ↔ rest ∈ language := by
  constructor
  · rintro ⟨_, rfl, later, member, same⟩
    exact List.append_cancel_left same ▸ member
  · exact fun member => ⟨word.toList, rfl, rest, member, rfl⟩

theorem not_mem_literal_mul {word : String} (begins : word.toList.head? = some d) (other : c ≠ d) :
    c :: rest ∉ literal word * language := by
  rintro ⟨_, rfl, later, _, same⟩
  obtain ⟨others, spelled⟩ := List.head?_eq_some_iff.mp begins
  rw [spelled] at same
  exact other (List.cons.inj same).1.symm

theorem mem_optional_mul : text ∈ (values + 1) * language ↔ text ∈ values * language ∨ text ∈ language := by
  rw [add_mul, one_mul, Language.mem_add]

theorem mem_space_mul (blank : isSpace c = true) :
    c :: rest ∈ space * language ↔ rest ∈ (space + 1) * language := by
  rw [mem_optional_mul]
  constructor
  · rintro ⟨blanks, ⟨nonempty, all⟩, later, member, same⟩
    obtain ⟨first, others, rfl⟩ := List.exists_cons_of_ne_nil nonempty
    obtain ⟨_, rfl⟩ := List.cons.inj same
    cases others with
    | nil => exact .inr member
    | cons second others =>
      exact .inl ⟨second :: others, ⟨List.cons_ne_nil _ _, (List.forall_mem_cons.mp all).2⟩, later, member, rfl⟩
  · rintro (⟨blanks, ⟨_, all⟩, later, member, rfl⟩ | member)
    · exact ⟨c :: blanks, ⟨List.cons_ne_nil _ _, List.forall_mem_cons.mpr ⟨blank, all⟩⟩, later, member, rfl⟩
    · exact ⟨[c], ⟨List.cons_ne_nil _ _, List.forall_mem_singleton.mpr blank⟩, rest, member, rfl⟩

theorem not_mem_space_mul (mark : isSpace c = false) : c :: rest ∉ space * language := by
  rintro ⟨blanks, ⟨nonempty, all⟩, later, _, same⟩
  obtain ⟨first, others, rfl⟩ := List.exists_cons_of_ne_nil nonempty
  obtain ⟨rfl, _⟩ := List.cons.inj same
  simp [mark] at all

theorem mem_optionalSpace_mul (mark : isSpace c = false) :
    c :: rest ∈ (space + 1) * language ↔ c :: rest ∈ language := by
  rw [mem_optional_mul, or_iff_right (not_mem_space_mul mark)]

/-- Two values that hold no quote are the same once each is followed by one. -/
theorem append_quote_inj {other last : List Char} (clean : '"' ∉ value) (unquoted : '"' ∉ other) :
    other ++ '"' :: last = value ++ '"' :: rest → other = value ∧ last = rest := by
  intro same
  have lengths : other.length = value.length := by
    have found := congrArg (List.idxOf '"') same
    simpa [List.idxOf_append, clean, unquoted] using found
  obtain ⟨rfl, ends⟩ := List.append_inj same lengths
  exact ⟨rfl, (List.cons.inj ends).2⟩

/-- In double quotes a value ends at the first of them that follows. -/
theorem mem_quoted_mul (clean : '"' ∉ value) (unquoted : ∀ other ∈ values, '"' ∉ other) :
    '"' :: (value ++ '"' :: rest) ∈ quoted values * language ↔ value ∈ values ∧ rest ∈ language := by
  rw [quoted, add_mul, Language.mem_add, mul_assoc, mul_assoc, mul_assoc, mul_assoc,
    or_iff_left (not_mem_literal_mul rfl (by decide))]
  -- the value may not be cut elsewhere: the quote behind it is the first
  refine (mem_literal_mul "\"").trans ⟨?_, ?_⟩
  · rintro ⟨other, known, _, ⟨_, rfl, later, member, rfl⟩, same⟩
    obtain ⟨rfl, rfl⟩ := append_quote_inj clean (unquoted other known) same
    exact ⟨known, member⟩
  · rintro ⟨known, member⟩
    exact ⟨value, known, _, (mem_literal_mul "\"").mpr member, rfl⟩

variable {name : String} (begins : name.toList.head? = some c)
include begins

/-- A pseudo-attribute as it is written with one space before its name and none around its equals
sign. -/
theorem mem_pseudoAttribute_mul (mark : isSpace c = false) (clean : '"' ∉ value)
    (unquoted : ∀ other ∈ values, '"' ∉ other) :
    ' ' :: (name.toList ++ '=' :: '"' :: (value ++ '"' :: rest)) ∈ pseudoAttribute name values * language ↔
      value ∈ values ∧ rest ∈ language := by
  obtain ⟨others, spelled⟩ := List.head?_eq_some_iff.mp begins
  have named : name.toList ++ '=' :: '"' :: (value ++ '"' :: rest) ∈
      (space + 1) * (literal name * (equals * (quoted values * language))) ↔
        '=' :: '"' :: (value ++ '"' :: rest) ∈ equals * (quoted values * language) := by
    refine Iff.trans ?_ (mem_literal_mul name)
    rw [spelled, List.cons_append, mem_optionalSpace_mul mark]
  have equal : '=' :: '"' :: (value ++ '"' :: rest) ∈ equals * (quoted values * language) ↔
      '"' :: (value ++ '"' :: rest) ∈ quoted values * language := by
    rw [equals, mul_assoc, mul_assoc, mem_optionalSpace_mul (by decide)]
    exact (mem_literal_mul "=").trans (mem_optionalSpace_mul (by decide))
  rw [pseudoAttribute, mul_assoc, mul_assoc, mul_assoc, mem_space_mul (by decide), named, equal,
    mem_quoted_mul clean unquoted]

/-- A pseudo-attribute stands only where its name does. -/
theorem not_mem_pseudoAttribute_mul (blank : isSpace d = true) {other : Char} (visible : isSpace other = false)
    (differs : other ≠ c) : d :: other :: rest ∉ pseudoAttribute name values * language := by
  rw [pseudoAttribute, mul_assoc, mul_assoc, mul_assoc, mem_space_mul blank, mem_optionalSpace_mul visible]
  exact not_mem_literal_mul begins differs

omit begins

theorem isEncodingCharacter_of_mem {name : List Char} (named : isEncodingName name = true) :
    ∀ c ∈ name, isEncodingCharacter c = true := by
  cases name with
  | nil => simp
  | cons first others =>
    simp only [isEncodingName, Bool.and_eq_true, List.all_eq_true] at named
    have begins : isEncodingCharacter first = true := by simp [isEncodingCharacter, Char.isAlphanum, named.1]
    exact List.forall_mem_cons.mpr ⟨begins, named.2⟩

theorem quote_not_mem_encodingName : ∀ name ∈ encodingName, '"' ∉ name := fun _ named quote =>
  absurd (isEncodingCharacter_of_mem named _ quote) (by decide)

theorem quote_not_mem_versionNumber : ∀ version ∈ versionNumber, '"' ∉ version := by
  rintro _ ⟨_, rfl, later, ⟨_, all⟩, rfl⟩ quote
  rcases List.mem_append.mp quote with front | back
  · exact absurd front (by decide)
  · exact absurd (all _ back) (by decide)

/-- What may stand in a declaration behind the encoding. -/
def declarationEnd : Language Char :=
  (pseudoAttribute "standalone" (literal "yes" + literal "no") + 1) * ((space + 1) * literal "?>")

theorem mem_declarationEnd : "?>".toList ∈ declarationEnd :=
  mem_optional_mul.mpr (.inr ((mem_optionalSpace_mul (by decide)).mpr rfl))

theorem not_mem_declarationEnd {other : Char} (visible : isSpace other = false) (standalone : other ≠ 's')
    (mark : other ≠ '?') : ' ' :: other :: rest ∉ declarationEnd := by
  have ends : other :: rest ∉ literal "?>" := fun same => mark (List.cons.inj same).1
  rw [declarationEnd, mem_optional_mul, mem_optional_mul, mem_space_mul (by decide), mem_optionalSpace_mul visible]
  rintro (named | spaced | bare)
  · exact not_mem_pseudoAttribute_mul (c := 's') rfl (by decide) visible standalone named
  · exact ends spaced
  · exact absurd (List.cons.inj bare).1 (by decide)

/-- What follows the version is an encoding with the rest behind it, or the rest alone. -/
theorem mem_declaration {back : List Char} :
    "<?xml version=\"1.0\"".toList ++ back ∈ declaration ↔
      back ∈ pseudoAttribute "encoding" encodingName * declarationEnd ∨ back ∈ declarationEnd := by
  have version : "1.0".toList ∈ versionNumber := ⟨"1.".toList, rfl, ['0'], ⟨by decide, by simp⟩, rfl⟩
  rw [declaration, ← mem_optional_mul, declarationEnd]
  simp only [mul_assoc]
  refine (mem_literal_mul "<?xml").trans ?_
  exact (mem_pseudoAttribute_mul rfl (by decide) (by decide) quote_not_mem_versionNumber).trans
    (and_iff_right version)

theorem declaration_without_encoding : "<?xml version=\"1.0\"?>".toList ∈ declaration := by
  have split : "<?xml version=\"1.0\"?>".toList = "<?xml version=\"1.0\"".toList ++ "?>".toList := rfl
  rw [split, mem_declaration]
  exact .inr mem_declarationEnd

/-- Where an encoding is written there is no other way to read it than as the name of one. -/
theorem declaration_with_encoding {name : List Char} (clean : '"' ∉ name) :
    "<?xml version=\"1.0\" encoding=\"".toList ++ (name ++ "\"?>".toList) ∈ declaration ↔
      isEncodingName name = true := by
  have front : "<?xml version=\"1.0\" encoding=\"".toList =
      "<?xml version=\"1.0\"".toList ++ ' ' :: ("encoding".toList ++ ['=', '"']) := rfl
  have back : "\"?>".toList = '"' :: "?>".toList := rfl
  have noEnd : ' ' :: ("encoding".toList ++ '=' :: '"' :: (name ++ '"' :: "?>".toList)) ∉ declarationEnd :=
    not_mem_declarationEnd (by decide) (by decide) (by decide)
  have opens : "encoding".toList.head? = some 'e' := rfl
  rw [front, back, List.append_assoc, mem_declaration, List.cons_append, List.append_assoc]
  refine (or_iff_left noEnd).trans ?_
  exact (mem_pseudoAttribute_mul opens (by decide) clean quote_not_mem_encodingName).trans
    (and_iff_left mem_declarationEnd)

end ScriptureMarkup.Xml.Grammar
