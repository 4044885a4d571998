import ScriptureMarkup.Proofs.Xml.Content

namespace ScriptureMarkup.Xml

/-- The start or the end of a chapter or a verse, with its id. -/
inductive Milestone
  | start (id : String)
  | finish (id : String)
  deriving DecidableEq

/-- What a tag is by its attributes. It names either the id that it starts or the one that it ends. -/
def Tag.milestone? (tag : Tag) : Option Milestone :=
  match tag.attributes.lookup "sid", tag.attributes.lookup "eid" with
  | some id, none => some (.start id)
  | none, some id => some (.finish id)
  | _, _ => none

/-- The ids of the chapter and the verse that are open while tags are read from left to right. -/
structure Slots where
  chapter : Option String
  verse : Option String
  deriving DecidableEq

namespace Slots

def empty : Slots := ⟨none, none⟩

/-- Reads one tag, if it may stand here. A book or a chapter starts only where nothing is open, a
verse where no verse is open; what ends is what is open, and no chapter ends before its last verse. -/
def advance (slots : Slots) (tag : Tag) : Option Slots :=
  if tag.name = "book" then if slots = empty then some empty else none
  else if tag.name = "chapter" then
    match tag.milestone? with
    | some (.start id) => if slots = empty then some ⟨some id, none⟩ else none
    | some (.finish id) => if slots = ⟨some id, none⟩ then some empty else none
    | none => none
  else if tag.name = "verse" then
    match tag.milestone? with
    | some (.start id) => if slots.verse = none then some ⟨slots.chapter, some id⟩ else none
    | some (.finish id) => if slots.verse = some id then some ⟨slots.chapter, none⟩ else none
    | none => none
  else some slots

def read (slots : Slots) : List Tag → Option Slots
  | [] => some slots
  | tag :: tags =>
    match slots.advance tag with
    | none => none
    | some later => later.read tags

theorem read_append {slots between : Slots} {front : List Tag} (first : slots.read front = some between)
    (back : List Tag) : slots.read (front ++ back) = between.read back := by
  induction front generalizing slots with
  | nil =>
    cases first
    rfl
  | cons tag front ih =>
    simp only [List.cons_append, read] at first ⊢
    cases step : slots.advance tag with
    | none => simp [step] at first
    | some later =>
      simp only [step] at first ⊢
      exact ih first

/-- Tags of other elements leave everything open that is open. -/
theorem read_others {tags : List Tag} (others : ∀ tag ∈ tags, tag.name ∉ ["book", "chapter", "verse"])
    (slots : Slots) : slots.read tags = some slots := by
  induction tags with
  | nil => rfl
  | cons tag tags ih =>
    obtain ⟨first, later⟩ := List.forall_mem_cons.mp others
    simp only [List.mem_cons, List.not_mem_nil, or_false, not_or] at first
    simp only [read, advance, first.1, first.2.1, first.2.2, if_false]
    exact ih later

/-- The slot of one of the two elements. -/
def of (element : String) (slots : Slots) : Option String :=
  if element = "chapter" then slots.chapter else slots.verse

/-- A tag of another element leaves the slot alone; one of this element fills it if it is empty
or empties it of the id that is in it. -/
theorem advance_of {element : String} (known : element ∈ ["chapter", "verse"]) {slots later : Slots} {tag : Tag}
    (advanced : slots.advance tag = some later) :
    tag.name ≠ element ∧ later.of element = slots.of element ∨
      ∃ id, tag.name = element ∧
        (tag.milestone? = some (.start id) ∧ slots.of element = none ∧ later.of element = some id ∨
          tag.milestone? = some (.finish id) ∧ slots.of element = some id ∧ later.of element = none) := by
  simp only [List.mem_cons, List.not_mem_nil, or_false] at known
  unfold advance at advanced
  by_cases book : tag.name = "book"
  · left
    rw [if_pos book] at advanced
    split_ifs at advanced with nothing
    cases advanced
    rcases known with rfl | rfl <;> simp [book, nothing]
  by_cases chapter : tag.name = "chapter"
  · rw [if_neg book, if_pos chapter] at advanced
    split at advanced
    · rename_i id starts
      split_ifs at advanced with nothing
      cases advanced
      rcases known with rfl | rfl <;> simp [of, chapter, starts, nothing, empty]
    · rename_i id ends
      split_ifs at advanced with full
      cases advanced
      rcases known with rfl | rfl <;> simp [of, chapter, ends, full, empty]
    · cases advanced
  by_cases verse : tag.name = "verse"
  · rw [if_neg book, if_neg chapter, if_pos verse] at advanced
    split at advanced
    · rename_i id starts
      split_ifs at advanced with nothing
      cases advanced
      rcases known with rfl | rfl <;> simp [of, verse, starts, nothing]
    · rename_i id ends
      split_ifs at advanced with full
      cases advanced
      rcases known with rfl | rfl <;> simp [of, verse, ends, full]
    · cases advanced
  · left
    rw [if_neg book, if_neg chapter, if_neg verse] at advanced
    cases advanced
    rcases known with rfl | rfl <;> simp [chapter, verse]

/-- What is read until nothing is open is one milestone after the other, each with its end next
to its start among the tags of its element. -/
theorem alternate {element : String} (known : element ∈ ["chapter", "verse"]) {slots : Slots} {tags : List Tag}
    (accepted : slots.read tags = some empty) :
    ∃ ids : List String, (tags.filter fun tag => tag.name = element).map Tag.milestone? =
      (slots.of element).toList.map (fun id => some (.finish id)) ++
        ids.flatMap fun id => [some (.start id), some (.finish id)] := by
  induction tags generalizing slots with
  | nil =>
    cases accepted
    exact ⟨[], by simp [of, empty]⟩
  | cons tag tags ih =>
    rw [read] at accepted
    split at accepted
    · cases accepted
    · rename_i later advanced
      obtain ⟨ids, pairs⟩ := ih accepted
      rcases advance_of known advanced with ⟨apart, same⟩ | ⟨id, named, starts | ends⟩
      · exact ⟨ids, by simpa [apart, same] using pairs⟩
      · obtain ⟨here, nothing, filled⟩ := starts
        exact ⟨id :: ids, by simpa [named, here, nothing, filled] using pairs⟩
      · obtain ⟨here, full, emptied⟩ := ends
        exact ⟨ids, by simpa [named, here, full, emptied] using pairs⟩

end Slots

end ScriptureMarkup.Xml
