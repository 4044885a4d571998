import Mathlib.Data.List.Forall2
import ScriptureMarkup.Proofs.Xml.Reader

namespace ScriptureMarkup.Xml

theorem mapM_eq_some_iff {α β : Type} {f : α → Option β} {xs : List α} {ys : List β} :
    xs.mapM f = some ys ↔ List.Forall₂ (fun x y => f x = some y) xs ys := by
  induction xs generalizing ys with
  | nil => simp [eq_comm]
  | cons x xs ih =>
    simp only [List.mapM_cons, bind, Option.bind_eq_some_iff, ih, List.forall₂_cons_left_iff]
    constructor
    · rintro ⟨y, atHead, ys, later, same⟩
      cases same
      exact ⟨y, ys, atHead, later, rfl⟩
    · rintro ⟨y, ys, atHead, later, rfl⟩
      exact ⟨y, atHead, ys, later, rfl⟩

theorem not_mem_of_mem_splitOn {a : Char} {text part : List Char} (member : part ∈ text.splitOn a) : a ∉ part := by
  induction text generalizing part with
  | nil => simp_all
  | cons c text ih =>
    rw [List.splitOn_cons_eq_if_modifyHead] at member
    split at member
    · rcases List.mem_cons.mp member with rfl | later
      · exact List.not_mem_nil
      · exact ih later
    · rename_i other
      cases split : text.splitOn a with
      | nil => simp [split] at member
      | cons first others =>
        rw [split, List.modifyHead_cons] at member
        rcases List.mem_cons.mp member with rfl | later
        · have inFirst := @ih first (by simp [split])
          rw [List.mem_cons, not_or]
          exact ⟨fun same => other (by simp [same]), inFirst⟩
        · exact ih (by simp [split, later])

/-- A text falls into the parts between given marks in one way only. -/
theorem splitOn_iff {a : Char} {text : List Char} {parts : List (List Char)} :
    text.splitOn a = parts ↔ parts ≠ [] ∧ (∀ part ∈ parts, a ∉ part) ∧ [a].intercalate parts = text := by
  constructor
  · rintro rfl
    exact ⟨List.splitOn_ne_nil a text, fun part member => not_mem_of_mem_splitOn member,
      List.intercalate_splitOn a⟩
  · rintro ⟨nonempty, clean, rfl⟩
    exact List.splitOn_intercalate a clean nonempty

def scanEnd (name : String) (entries : List (String × String)) : List Char → Option (Tag × String)
  | '>' :: data => some (.opening name entries, String.ofList data)
  | ' ' :: '/' :: '>' :: data => some (.empty name entries, String.ofList data)
  | _ => none

def scanElement (text : List Char) : Option (Tag × String) :=
  match scanName text with
  | none => none
  | some (name, rest) => scanEnd name (scanEntries rest).1 (scanEntries rest).2

/-- What stands between an opening bracket and the next one: the rest of a tag, and character
data. -/
def scanPart : List Char → Option (Tag × String)
  | '/' :: text =>
    match scanName text with
    | some (name, '>' :: data) => some (.closing name, String.ofList data)
    | _ => none
  | text => scanElement text

/-- The tags and the character data of a text, if it holds nothing else. An opening bracket
begins a tag wherever it stands, so the brackets are where the text falls into parts. -/
def scan (text : List Char) : Option Content :=
  match text.splitOn '<' with
  | [] => none
  | lead :: parts => (parts.mapM scanPart).map (Content.mk (String.ofList lead))

theorem scanEnd_sound {name : String} {entries : List (String × String)} {text : List Char} {part : Tag × String}
    (read : scanEnd name entries text = some part) :
    part.1.name = name ∧ part.1.attributes = entries ∧
      name.toList ++ (entries.flatMap attributeText ++ text) = partText part := by
  unfold scanEnd at read
  split at read
  · cases read
    simp [Tag.name, Tag.attributes, partText, Tag.text]
  · cases read
    simp [Tag.name, Tag.attributes, partText, Tag.text]
  · cases read

theorem scanElement_sound {text : List Char} {part : Tag × String} (read : scanElement text = some part) :
    text = partText part ∧ LegalName part.1.name ∧
      ∀ entry ∈ part.1.attributes, LegalName entry.1 ∧ '"' ∉ entry.2.toList := by
  unfold scanElement at read
  split at read
  · cases read
  · rename_i name rest named
    obtain ⟨rfl, legal, _⟩ := scanName_iff.mp named
    obtain ⟨same, entries, _⟩ := scanEntries_iff.mp (Prod.eta (scanEntries rest)).symm
    obtain ⟨sameName, sameEntries, written⟩ := scanEnd_sound read
    rw [sameName, sameEntries, ← written, ← same]
    exact ⟨rfl, legal, entries⟩

theorem scanPart_sound {text : List Char} {part : Tag × String} (read : scanPart text = some part) :
    text = partText part ∧ LegalName part.1.name ∧
      ∀ entry ∈ part.1.attributes, LegalName entry.1 ∧ '"' ∉ entry.2.toList := by
  unfold scanPart at read
  split at read
  · split at read
    · rename_i name data named
      cases read
      obtain ⟨rfl, legal, _⟩ := scanName_iff.mp named
      exact ⟨by simp [partText, Tag.text], legal, by simp [Tag.attributes]⟩
    · cases read
  · exact scanElement_sound read

/-- A name does not begin with a slash, so what begins with one is no end tag. -/
theorem scanPart_eq_scanElement {name : String} (legal : LegalName name) (rest : List Char) :
    scanPart (name.toList ++ rest) = scanElement (name.toList ++ rest) := by
  unfold scanPart
  split
  · rename_i text same
    rcases List.append_eq_cons_iff.mp same with ⟨empty, _⟩ | ⟨later, begins, _⟩
    · exact absurd (String.toList_eq_nil_iff.mp empty) legal.1
    · exact absurd (begins ▸ List.mem_cons_self) (legal.not_delimiter (c := '/') (by decide))
  · rfl

theorem scanElement_entries {name : String} {entries : List (String × String)} {rest : List Char}
    (named : LegalName name) (legal : ∀ entry ∈ entries, LegalAttribute entry)
    (stops : ∀ c ∈ rest.head?, isNameCharacter c = false) (ends : scanEntry rest = none) :
    scanElement (name.toList ++ (entries.flatMap attributeText ++ rest)) = scanEnd name entries rest := by
  have delimited : ∀ c ∈ (entries.flatMap attributeText ++ rest).head?, isNameCharacter c = false := by
    cases entries with
    | nil => simpa using stops
    | cons entry entries => simp [attributeText, isNameCharacter, delimiters]
  have read := scanName_iff.mpr ⟨rfl, named, delimited⟩
  have found : scanEntries (entries.flatMap attributeText ++ rest) = (entries, rest) :=
    scanEntries_iff.mpr ⟨rfl, fun entry member => ⟨(legal entry member).1, (legal entry member).2.1⟩, ends⟩
  rw [scanElement, read]
  simp only [found]

theorem scanPart_partText {part : Tag × String} (legal : part.1.Legal) : scanPart (partText part) = some part := by
  obtain ⟨tag, data⟩ := part
  obtain ⟨named, entries⟩ := legal
  cases tag with
  | closing name =>
    simp only [Tag.name] at named
    have read : scanName (name.toList ++ '>' :: data.toList) = some (name, '>' :: data.toList) :=
      scanName_iff.mpr ⟨rfl, named, by simp [isNameCharacter, delimiters]⟩
    simp [scanPart, partText, Tag.text, read]
  | opening name attributes =>
    simp only [Tag.name, Tag.attributes] at named entries
    simp only [partText, Tag.text, List.append_assoc]
    rw [scanPart_eq_scanElement named, scanElement_entries named entries]
    · simp [scanEnd]
    · simp [isNameCharacter, delimiters]
    · simp [scanEntry]
  | empty name attributes =>
    simp only [Tag.name, Tag.attributes] at named entries
    simp only [partText, Tag.text, List.append_assoc]
    rw [scanPart_eq_scanElement named, scanElement_entries named entries]
    · simp [scanEnd]
    · simp [isNameCharacter, delimiters]
    · simp [scanEntry, scanName, isNameCharacter, delimiters]

theorem text_eq_intercalate (content : Content) :
    content.text = ['<'].intercalate (content.lead.toList :: content.parts.map partText) := by
  obtain ⟨lead, parts⟩ := content
  simp only [Content.text]
  generalize lead.toList = front
  induction parts generalizing front with
  | nil => simp
  | cons part parts ih =>
    rw [List.map_cons, List.intercalate_cons_cons, ← ih]
    simp

theorem Tag.values_no_bracket {tag : Tag} (clean : '<' ∉ tag.text) {entry : String × String}
    (member : entry ∈ tag.attributes) : '<' ∉ entry.2.toList := by
  intro bracket
  have written : '<' ∈ tag.attributes.flatMap attributeText :=
    List.mem_flatMap.mpr ⟨entry, member, by simp [attributeText, bracket]⟩
  cases tag with
  | opening | empty =>
    simp only [Tag.attributes] at written
    simp [Tag.text, written] at clean
  | closing => simp [Tag.attributes] at member

/-- Reading a text gives tags and data that are written as this text, and there are no others:
what a text consists of is determined by its characters. -/
theorem scan_iff {text : List Char} {content : Content} :
    scan text = some content ↔ content.Legal ∧ content.text = text := by
  unfold scan
  constructor
  · intro read
    split at read
    · cases read
    · rename_i lead texts split
      obtain ⟨parts, found, rfl⟩ := Option.map_eq_some_iff.mp read
      obtain ⟨_, clean, joined⟩ := splitOn_iff.mp split
      obtain ⟨cleanLead, cleanTexts⟩ := List.forall_mem_cons.mp clean
      have sound := mapM_eq_some_iff.mp found
      have written : texts = parts.map partText := by
        rw [← List.forall₂_eq_eq_eq, List.forall₂_map_right_iff]
        exact sound.imp fun text part read => (scanPart_sound read).1
      rw [written, List.forall₂_map_left_iff, List.forall₂_same] at sound
      refine ⟨⟨by simpa using cleanLead, fun part member => ?_⟩, ?_⟩
      · obtain ⟨_, named, entries⟩ := scanPart_sound (sound part member)
        -- no value holds a bracket, since the text was parted at every one
        have cleanPart := cleanTexts (partText part) (written ▸ List.mem_map_of_mem member)
        rw [partText, List.mem_append, not_or] at cleanPart
        refine ⟨⟨named, fun entry inside => ?_⟩, cleanPart.2⟩
        exact ⟨(entries entry inside).1, (entries entry inside).2, Tag.values_no_bracket cleanPart.1 inside⟩
      · rw [text_eq_intercalate, String.toList_ofList, ← written, joined]
  · rintro ⟨⟨lead, legal⟩, rfl⟩
    have clean : ∀ part ∈ content.parts, '<' ∉ partText part := by
      intro part member
      rw [partText, List.mem_append, not_or]
      exact ⟨(legal part member).1.no_bracket, (legal part member).2⟩
    have split : content.text.splitOn '<' = content.lead.toList :: content.parts.map partText :=
      splitOn_iff.mpr ⟨List.cons_ne_nil _ _, List.forall_mem_cons.mpr ⟨lead, List.forall_mem_map.mpr clean⟩,
        (text_eq_intercalate content).symm⟩
    have found : (content.parts.map partText).mapM scanPart = some content.parts := by
      rw [mapM_eq_some_iff, List.forall₂_map_left_iff, List.forall₂_same]
      exact fun part member => scanPart_partText (legal part member).1
    rw [split]
    simp [found]

end ScriptureMarkup.Xml
