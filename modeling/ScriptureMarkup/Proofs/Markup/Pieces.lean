import ScriptureMarkup.Proofs.Walk.Simulation
import ScriptureMarkup.Proofs.Xml.Tree

namespace ScriptureMarkup.Usx

open Xml (LegalName Token)

def Plain (text : String) : Prop := ∀ c ∈ text.toList, attributeCharacter c = [c]

instance (text : String) : Decidable (Plain text) :=
  decidable_of_iff ((text.toList.all fun c => attributeCharacter c = [c]) = true) (by simp [Plain])

theorem Plain.escapedAttribute_eq {text : String} (plain : Plain text) : escapedAttribute text = text := by
  rw [escapedAttribute, ← String.toList_inj, String.toList_ofList]
  unfold Plain at plain
  generalize text.toList = characters at plain
  induction characters with
  | nil => rfl
  | cons c rest ih =>
    obtain ⟨first, later⟩ := List.forall_mem_cons.mp plain
    rw [List.flatMap_cons, first, ih later, List.singleton_append]

theorem TextTag.plain_identifier (tag : TextTag) : Plain tag.identifier := by cases tag <;> decide

theorem HeadingTag.plain_identifier (tag : HeadingTag) : Plain tag.identifier := by cases tag <;> decide

theorem LevelTag.plain_identifier (tag : LevelTag) : Plain tag.identifier := by cases tag <;> decide

theorem BareTag.plain_identifier (tag : BareTag) : Plain tag.identifier := by cases tag <;> decide

theorem attributeCharacter_of_isDigit {c : Char} (digit : c.isDigit = true) : attributeCharacter c = [c] := by
  unfold attributeCharacter textCharacter
  split_ifs with quote apostrophe ampersand less greater
  · simp [quote] at digit
  · simp [apostrophe] at digit
  · simp [ampersand] at digit
  · simp [less] at digit
  · simp [greater] at digit
  · rfl

theorem plain_leveledStyle {tag : String} (plain : Plain tag) (level : UInt8) : Plain (leveledStyle tag level) := by
  intro c member
  rw [leveledStyle, String.toList_append, List.mem_append] at member
  rcases member with inTag | inLevel
  · exact plain c inTag
  · have digit : c ∈ Nat.toDigits 10 level.toNat := by simpa using inLevel
    exact attributeCharacter_of_isDigit (Nat.isDigit_of_mem_toDigits (by decide) (by decide) digit)

def styleEntry : Option String → List (String × String)
  | none => []
  | some style => [("style", style)]

/-- A piece of markup as a tag or as character data, in which the style is an attribute like
any other. -/
def Piece.token : Piece → Token
  | .startTag element style attributes => .tag (.opening element (styleEntry style ++ attributes))
  | .emptyTag element style attributes => .tag (.empty element (styleEntry style ++ attributes))
  | .endTag element => .tag (.closing element)
  | .characters text => .data text

def SoundNames (names : List String) : Prop := names.Nodup ∧ ∀ name ∈ names, LegalName name

/-- An element and its attributes have names, no two attributes share one, and the style can
be written as it is. -/
structure SoundTag (element : String) (style : Option String) (attributes : List (String × String)) : Prop where
  named : LegalName element
  plain : ∀ name ∈ style, Plain name
  names : SoundNames ((styleEntry style ++ attributes).map Prod.fst)

def Piece.Sound : Piece → Prop
  | .startTag element style attributes | .emptyTag element style attributes => SoundTag element style attributes
  | .endTag element => LegalName element
  | .characters _ => True

theorem Piece.Sound.wellNamed {piece : Piece} (sound : piece.Sound) {tag : Xml.Tag}
    (found : piece.token.tag? = some tag) : tag.WellNamed ∧ tag.names.Nodup := by
  cases piece with
  | startTag | emptyTag =>
    cases found
    exact ⟨⟨sound.named, fun entry member => sound.names.2 entry.1 (List.mem_map_of_mem member)⟩, sound.names.1⟩
  | endTag =>
    cases found
    exact ⟨⟨sound, by simp [Xml.Tag.attributes]⟩, by simp [Xml.Tag.names, Xml.Tag.attributes]⟩
  | characters => cases found

theorem attributeText_toList (attributes : List (String × String)) :
    (attributeText attributes).toList =
      (attributes.map fun entry => (entry.1, escapedAttribute entry.2)).flatMap Xml.attributeText := by
  induction attributes with
  | nil => rfl
  | cons entry attributes ih =>
    rw [List.map_cons, List.flatMap_cons, ← ih]
    simp [attributeText, Xml.attributeText]

theorem SoundTag.styleText_toList {element : String} {style : Option String} {attributes : List (String × String)}
    (sound : SoundTag element style attributes) :
    (styleText style).toList =
      ((styleEntry style).map fun entry => (entry.1, escapedAttribute entry.2)).flatMap Xml.attributeText := by
  cases style with
  | none => rfl
  | some style => simp [styleText, styleEntry, Xml.attributeText, (sound.plain style rfl).escapedAttribute_eq]

theorem Piece.Sound.text_token {piece : Piece} (sound : piece.Sound) : piece.text.toList = piece.token.text := by
  cases piece with
  | startTag | emptyTag =>
    simp only [text, String.toList_append, sound.styleText_toList, attributeText_toList]
    simp [token, Token.text, Xml.Tag.escaped, Xml.Tag.text]
  | endTag element => simp [text, token, Token.text, Xml.Tag.escaped, Xml.Tag.text]
  | characters text => rfl

theorem markupText_toList {pieces : List Piece} (sound : ∀ piece ∈ pieces, piece.Sound) :
    (markupText pieces).toList = (Xml.Content.ofTokens (pieces.map Piece.token)).escaped.text := by
  rw [Xml.Content.text_ofTokens, markupText, String.toList_join]
  induction pieces with
  | nil => rfl
  | cons piece pieces ih =>
    obtain ⟨first, later⟩ := List.forall_mem_cons.mp sound
    simp only [List.map_cons, List.flatMap_cons, first.text_token, ih later]

/-- The tag that a piece is written as, if it is one. -/
def Piece.writtenTag? (piece : Piece) : Option Xml.Tag := piece.token.tag?.map Xml.Tag.escaped

theorem tags_written (pieces : List Piece) :
    (Xml.Content.ofTokens (pieces.map Piece.token)).escaped.tags = pieces.filterMap Piece.writtenTag? := by
  rw [Xml.Content.tags_escaped, Xml.Content.tags_ofTokens, List.filterMap_map, List.map_filterMap]
  rfl

end ScriptureMarkup.Usx
