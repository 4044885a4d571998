import ScriptureMarkup.Proofs.Xml.Scan
import ScriptureMarkup.Usx.Markup

namespace ScriptureMarkup.Xml

open Usx (textCharacter attributeCharacter escapedText escapedAttribute)

/-- The characters that a text stands for. An ampersand has to begin a reference to one of the
five entities; each of them is replaced once, whatever stands around it. -/
def decode : List Char → Option (List Char)
  | [] => some []
  | '&' :: 'a' :: 'm' :: 'p' :: ';' :: text => (decode text).map ('&' :: ·)
  | '&' :: 'l' :: 't' :: ';' :: text => (decode text).map ('<' :: ·)
  | '&' :: 'g' :: 't' :: ';' :: text => (decode text).map ('>' :: ·)
  | '&' :: 'a' :: 'p' :: 'o' :: 's' :: ';' :: text => (decode text).map ('\'' :: ·)
  | '&' :: 'q' :: 'u' :: 'o' :: 't' :: ';' :: text => (decode text).map ('"' :: ·)
  | c :: text => if c = '&' then none else (decode text).map (c :: ·)

theorem decode_attributeCharacter (c : Char) (text : List Char) :
    decode (attributeCharacter c ++ text) = (decode text).map (c :: ·) := by
  unfold attributeCharacter textCharacter
  split_ifs with quote apostrophe ampersand less greater
  · simp [decode, quote]
  · simp [decode, apostrophe]
  · simp [decode, ampersand]
  · simp [decode, less]
  · simp [decode, greater]
  · simp [decode, ampersand]

theorem decode_textCharacter (c : Char) (text : List Char) :
    decode (textCharacter c ++ text) = (decode text).map (c :: ·) := by
  unfold textCharacter
  split_ifs with ampersand less greater
  · simp [decode, ampersand]
  · simp [decode, less]
  · simp [decode, greater]
  · simp [decode, ampersand]

theorem decode_flatMap {escape : Char → List Char} (text : List Char)
    (one : ∀ c text, decode (escape c ++ text) = (decode text).map (c :: ·)) :
    decode (text.flatMap escape) = some text := by
  induction text with
  | nil => simp [decode]
  | cons c text ih => rw [List.flatMap_cons, one, ih, Option.map_some]

def decodeString (text : String) : Option String := (decode text.toList).map String.ofList

theorem decodeString_escapedText (text : String) : decodeString (escapedText text) = some text := by
  rw [decodeString, escapedText, String.toList_ofList, decode_flatMap _ decode_textCharacter]
  simp

theorem decodeString_escapedAttribute (value : String) : decodeString (escapedAttribute value) = some value := by
  rw [decodeString, escapedAttribute, String.toList_ofList, decode_flatMap _ decode_attributeCharacter]
  simp

theorem bracket_not_mem_textCharacter (c : Char) : '<' ∉ textCharacter c := by
  unfold textCharacter
  split_ifs with ampersand less greater
  · decide
  · decide
  · decide
  · simpa using Ne.symm less

theorem bracket_not_mem_attributeCharacter (c : Char) : '<' ∉ attributeCharacter c := by
  unfold attributeCharacter
  split_ifs
  · decide
  · decide
  · exact bracket_not_mem_textCharacter c

theorem quote_not_mem_attributeCharacter (c : Char) : '"' ∉ attributeCharacter c := by
  unfold attributeCharacter textCharacter
  split_ifs with quote apostrophe ampersand less greater
  · decide
  · decide
  · decide
  · decide
  · decide
  · simpa using Ne.symm quote

theorem not_mem_escaped {escape : Char → List Char} {mark : Char} (none : ∀ c, mark ∉ escape c) (text : String) :
    mark ∉ (String.ofList (text.toList.flatMap escape)).toList := by
  rw [String.toList_ofList]
  intro member
  obtain ⟨c, _, inside⟩ := List.mem_flatMap.mp member
  exact none c inside

theorem bracket_not_mem_escapedText (text : String) : '<' ∉ (escapedText text).toList :=
  not_mem_escaped bracket_not_mem_textCharacter text

theorem quote_bracket_not_mem_escapedAttribute (value : String) :
    '"' ∉ (escapedAttribute value).toList ∧ '<' ∉ (escapedAttribute value).toList :=
  ⟨not_mem_escaped quote_not_mem_attributeCharacter value, not_mem_escaped bracket_not_mem_attributeCharacter value⟩

def decodeEntry (entry : String × String) : Option (String × String) :=
  (decodeString entry.2).map fun value => (entry.1, value)

namespace Tag

def escaped : Tag → Tag
  | .opening name attributes => .opening name (attributes.map fun entry => (entry.1, escapedAttribute entry.2))
  | .empty name attributes => .empty name (attributes.map fun entry => (entry.1, escapedAttribute entry.2))
  | .closing name => .closing name

def decode : Tag → Option Tag
  | .opening name attributes => (attributes.mapM decodeEntry).map (.opening name)
  | .empty name attributes => (attributes.mapM decodeEntry).map (.empty name)
  | .closing name => some (.closing name)

theorem decode_escaped (tag : Tag) : tag.escaped.decode = some tag := by
  have entries (attributes : List (String × String)) :
      (attributes.map fun entry => (entry.1, escapedAttribute entry.2)).mapM decodeEntry = some attributes := by
    rw [mapM_eq_some_iff, List.forall₂_map_left_iff, List.forall₂_same]
    intro entry _
    simp [decodeEntry, decodeString_escapedAttribute]
  cases tag with
  | opening | empty => simp [escaped, decode, entries]
  | closing => rfl

theorem names_escaped (tag : Tag) : tag.escaped.names = tag.names := by
  cases tag <;> simp [escaped, names, attributes]

/-- Whether the names in a tag are names; what its values are does not matter. -/
def WellNamed (tag : Tag) : Prop := LegalName tag.name ∧ ∀ entry ∈ tag.attributes, LegalName entry.1

theorem legal_escaped {tag : Tag} (named : tag.WellNamed) : tag.escaped.Legal := by
  obtain ⟨name, entries⟩ := named
  have legal (attributes : List (String × String)) (names : ∀ entry ∈ attributes, LegalName entry.1) :
      ∀ entry ∈ attributes.map (fun entry => (entry.1, escapedAttribute entry.2)), LegalAttribute entry := by
    intro entry member
    obtain ⟨original, inside, rfl⟩ := List.mem_map.mp member
    exact ⟨names original inside, quote_bracket_not_mem_escapedAttribute original.2⟩
  cases tag with
  | opening | empty => exact ⟨name, legal _ entries⟩
  | closing => exact ⟨name, by simp [escaped, attributes]⟩

end Tag

def decodePart (part : Tag × String) : Option (Tag × String) :=
  match part.1.decode, decodeString part.2 with
  | some tag, some data => some (tag, data)
  | _, _ => none

namespace Content

def escaped (content : Content) : Content :=
  ⟨escapedText content.lead, content.parts.map fun part => (part.1.escaped, escapedText part.2)⟩

theorem tags_escaped (content : Content) : content.escaped.tags = content.tags.map Tag.escaped := by
  simp [tags, escaped]

def decode (content : Content) : Option Content :=
  match decodeString content.lead, content.parts.mapM decodePart with
  | some lead, some parts => some ⟨lead, parts⟩
  | _, _ => none

theorem decode_escaped (content : Content) : content.escaped.decode = some content := by
  have parts : (content.escaped.parts.mapM decodePart) = some content.parts := by
    rw [escaped, mapM_eq_some_iff, List.forall₂_map_left_iff, List.forall₂_same]
    intro part _
    simp [decodePart, Tag.decode_escaped, decodeString_escapedText]
  rw [decode, parts]
  simp [escaped, decodeString_escapedText]

theorem legal_escaped {content : Content} (named : ∀ tag ∈ content.tags, tag.WellNamed) :
    content.escaped.Legal := by
  refine ⟨bracket_not_mem_escapedText content.lead, fun part member => ?_⟩
  obtain ⟨original, inside, rfl⟩ := List.mem_map.mp member
  exact ⟨Tag.legal_escaped (named original.1 (List.mem_map_of_mem inside)), bracket_not_mem_escapedText original.2⟩

end Content

end ScriptureMarkup.Xml
