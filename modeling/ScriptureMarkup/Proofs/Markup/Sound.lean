import ScriptureMarkup.Proofs.Markup.Pieces
import ScriptureMarkup.Proofs.Walk.Entered

namespace ScriptureMarkup.Usx

open Xml (LegalName)

/-- A property of all pieces that a step writes, those behind the children included. -/
def Step.Every (holds : Piece → Prop) (step : Step) : Prop :=
  (∀ piece ∈ step.output.pieces, holds piece) ∧
    ∀ close, step.visit = .children close → ∀ piece ∈ close, holds piece

/-- A step that closes what was open before it writes its own pieces. -/
theorem Step.every_closed {holds : Piece → Prop} {position : Position} {closed : Output} {pieces : List Piece}
    {visit : Visit} (before : ∀ piece ∈ closed.pieces, holds piece) (own : ∀ piece ∈ pieces, holds piece)
    (behind : ∀ close, visit = .children close → ∀ piece ∈ close, holds piece) :
    Step.Every holds ⟨position, closed ++ ⟨pieces, []⟩, visit⟩ := by
  refine ⟨fun piece member => ?_, behind⟩
  rcases List.mem_append.mp member with old | new
  · exact before piece old
  · exact own piece new

/-- What holds of every piece of every step holds of all markup. -/
theorem kept_every {dialect : Dialect} {holds : Piece → Prop}
    (every : ∀ {kind position step}, enter dialect kind position = .ok step → step.Every holds) :
    Kept dialect fun progress => ∀ piece ∈ progress.markup.toList, holds piece where
  enter entered before := by
    obtain ⟨step, stepped, _, markup, _⟩ := Progress.enter_ok entered
    intro piece member
    rw [markup, Array.toList_appendList, List.mem_append] at member
    rcases member with old | new
    · exact before piece old
    · exact (every stepped).1 piece new
  close entered inner := by
    obtain ⟨step, stepped, _, _, closes⟩ := Progress.enter_ok entered
    intro piece member
    rw [Progress.put, Array.toList_appendList, List.mem_append] at member
    rcases member with old | new
    · exact inner piece old
    · exact (every stepped).2 _ ((closes _).mp rfl) piece new

instance (names : List String) : Decidable (SoundNames names) := inferInstanceAs (Decidable (_ ∧ _))

/-- A letter or a digit of any script delimits no name. -/
theorem not_delimits_of_letter {c : Char} (letter : (Unicode.isAlphabetic c || Unicode.isNumeric c) = true) :
    c ∉ Xml.delimiters := by
  have apart : (Xml.delimiters.all fun d => !(Unicode.isAlphabetic d || Unicode.isNumeric d)) = true := by decide
  intro member
  have outside := List.all_eq_true.mp apart c member
  rw [letter] at outside
  cases outside

theorem legalName_of_isWordAttributeName {name : String} (word : isWordAttributeName name = true) :
    LegalName name ∧ name ≠ "style" := by
  unfold isWordAttributeName at word
  split at word
  · cases word
  · rename_i first others split
    simp only [Bool.and_eq_true, Bool.or_eq_true, decide_eq_true_eq, List.all_eq_true, bne_iff_ne] at word
    obtain ⟨⟨begins, continues⟩, notStyle⟩ := word
    refine ⟨⟨?_, ?_⟩, notStyle⟩
    · rintro rfl
      cases split
    · intro c member
      rw [split] at member
      have apart : c ∉ Xml.delimiters := by
        rcases List.mem_cons.mp member with rfl | later
        · rcases begins with letter | rfl
          · exact not_delimits_of_letter (by simp [letter])
          · decide
        · rcases continues c later with (((letter | digit) | rfl) | rfl) | rfl
          · exact not_delimits_of_letter (by simp [letter])
          · exact not_delimits_of_letter (by simp [digit])
          · decide
          · decide
          · decide
      simpa [Xml.isNameCharacter] using apart

theorem Shape.sound_enter (shape : Shape) {style : String} (plain : Plain style) (text : String) (position : Position) :
    (Step.still position (shape.enter style text)).Every Piece.Sound := by
  have styled : ∀ name ∈ some style, Plain name := by simpa using plain
  have paragraph : SoundTag "para" (some style) [] := ⟨by decide, styled, (by decide : SoundNames ["style"])⟩
  have span : SoundTag "char" (some style) [] := ⟨by decide, styled, (by decide : SoundNames ["style"])⟩
  have row : SoundTag "row" (some style) [] := ⟨by decide, styled, (by decide : SoundNames ["style"])⟩
  have note : SoundTag "note" (some style) [("caller", text)] :=
    ⟨by decide, styled, (by decide : SoundNames ["style", "caller"])⟩
  have cell (side : String) : SoundTag "cell" (some style) [("align", side)] :=
    ⟨by decide, styled, (by decide : SoundNames ["style", "align"])⟩
  have table : SoundTag "table" none [] := ⟨by decide, by simp, (by decide : SoundNames [])⟩
  have ends : ∀ element ∈ ["para", "char", "row", "note", "cell", "table"], LegalName element := by decide
  cases shape <;>
    simp_all [Step.Every, Step.still, Shape.enter, Shape.enter.wholeParagraph, Piece.Sound, Piece.lineBreak]

theorem sound_milestoneEnd (dialect : Dialect) {element : String} (named : LegalName element) (id : Option String) :
    ∀ piece ∈ (Position.milestoneEnd dialect element id).pieces, piece.Sound := by
  have ends (id : String) : SoundTag element none [("eid", id)] :=
    ⟨named, by simp, (by decide : SoundNames ["eid"])⟩
  cases id with
  | none => simp [Position.milestoneEnd, Output.nothing]
  | some id =>
    unfold Position.milestoneEnd Dialect.milestoneEnd
    split_ifs <;> simp [Piece.Sound, Piece.lineBreak, ends]

theorem sound_closeVerse (dialect : Dialect) (position : Position) :
    ∀ piece ∈ (position.closeVerse dialect).2.pieces, piece.Sound :=
  sound_milestoneEnd dialect (by decide) position.openVerse

theorem sound_closeAll (dialect : Dialect) (position : Position) :
    ∀ piece ∈ (position.closeAll dialect).2.pieces, piece.Sound := by
  intro piece member
  rcases List.mem_append.mp member with ofVerse | ofChapter
  · exact sound_closeVerse dialect position piece ofVerse
  · exact sound_milestoneEnd dialect (by decide) position.openChapter piece ofChapter

theorem sound_start (dialect : Dialect) {element style : String} (named : LegalName element) (plain : Plain style)
    (number id : String) : SoundTag element (some style) (("number", number) :: dialect.startId id) := by
  refine ⟨named, by simpa using plain, ?_⟩
  unfold Dialect.startId
  split_ifs
  · exact (by decide : SoundNames ["style", "number", "sid"])
  · exact (by decide : SoundNames ["style", "number"])

theorem sound_word (dialect : Dialect) {style : String} (plain : Plain style) (attributes : Attributes) :
    SoundTag "char" (some style) (dialect.wordAttributes attributes) := by
  refine ⟨by decide, by simpa using plain, ?_⟩
  unfold Dialect.wordAttributes
  split_ifs
  · have ascend : (attributes.entries.filter fun entry => isWordAttributeName entry.1).Pairwise fun a b => a.1 < b.1 :=
      attributes.ascend.filter _
    have words : ∀ name ∈ (attributes.entries.filter fun entry => isWordAttributeName entry.1).map Prod.fst,
        LegalName name ∧ name ≠ "style" := by
      intro name member
      obtain ⟨entry, kept, rfl⟩ := List.mem_map.mp member
      exact legalName_of_isWordAttributeName (List.mem_filter.mp kept).2
    refine ⟨List.nodup_cons.mpr ⟨fun member => (words _ member).2 rfl, ?_⟩, ?_⟩
    · exact List.Pairwise.map Prod.fst (fun a b below => String.ne_of_lt below) ascend
    · exact List.forall_mem_cons.mpr ⟨(by decide : LegalName "style"), fun name member => (words name member).1⟩
  · exact (by decide : SoundNames ["style"])

theorem plain_form {kind : Kind} {shape : Shape} {style text : String}
    (formed : kind.form? = some (shape, style, text)) : Plain style := by
  cases kind with
  | field tag =>
    cases formed
    exact TextTag.plain_identifier tag
  | heading tag level =>
    cases formed
    exact plain_leveledStyle (HeadingTag.plain_identifier tag) level
  | leveled tag level =>
    cases formed
    exact plain_leveledStyle (LevelTag.plain_identifier tag) level
  | bare tag =>
    cases formed
    exact BareTag.plain_identifier tag
  | _ => cases formed

theorem sound_enter {dialect : Dialect} {kind : Kind} {position : Position} {step : Step}
    (stepped : enter dialect kind position = .ok step) : step.Every Piece.Sound := by
  cases entered_of_enter stepped with
  | text | unknown => simp [Step.Every, Step.still, Piece.Sound]
  | @book _ code label =>
    have book : SoundTag "book" (some "id") [("code", code)] :=
      ⟨by decide, by simpa using (by decide : Plain "id"), (by decide : SoundNames ["style", "code"])⟩
    have named : LegalName "book" := by decide
    exact Step.every_closed (sound_closeAll dialect position)
      (by simp [bookPieces, Piece.Sound, Piece.lineBreak, book, named]) (by simp)
  | chapter number =>
    have start := sound_start dialect (by decide : LegalName "chapter") (by decide : Plain "c")
    exact Step.every_closed (sound_closeAll dialect position)
      (by simp [Dialect.chapterStart, Piece.Sound, Piece.lineBreak, start]) (by simp)
  | verse number =>
    have start := sound_start dialect (by decide : LegalName "verse") (by decide : Plain "v")
    exact Step.every_closed (sound_closeVerse dialect position)
      (by simp [Dialect.verseStart, Piece.Sound, start]) (by simp)
  | word term attributes =>
    have span := sound_word dialect (by decide : Plain "w") attributes
    have named : LegalName "char" := by decide
    exact ⟨by simp [Piece.Sound, span], by simp [Piece.Sound, named]⟩
  | @form _ shape style text formed => exact shape.sound_enter (plain_form formed) text position

end ScriptureMarkup.Usx
