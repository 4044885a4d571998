import ScriptureMarkup.Proofs.Dialects.Downgrade
import ScriptureMarkup.Proofs.Markup.Body

namespace ScriptureMarkup.Usx

/-- A piece that both dialects have alike: no milestone, no word with attributes, not the root. -/
def Piece.Shared : Piece → Prop
  | .startTag element _ attributes =>
    element ≠ "usx" ∧ (element = "char" → attributes = []) ∧
      "sid" ∉ attributes.map Prod.fst ∧ "eid" ∉ attributes.map Prod.fst
  | .emptyTag .. => False
  | .endTag _ | .characters _ => True

namespace Reduces

variable {left right : List Piece}

theorem cons_shared {piece : Piece} (shared : piece.Shared) (later : Reduces left right) :
    Reduces (piece :: left) (piece :: right) := by
  cases piece with
  | startTag element style attributes =>
    obtain ⟨noRoot, whole, noIds⟩ := shared
    have same : (Xml.Tag.opening element (styleEntry style ++ attributes)).escaped.downgraded =
        (Xml.Tag.opening element (styleEntry style ++ attributes)).escaped := by
      simp only [Xml.Tag.escaped, Xml.Tag.downgraded, if_neg noRoot]
      split_ifs with word
      · rw [whole word.1]
        cases style <;> rfl
      · rfl
    refine .tag rfl rfl rfl (by rw [same]; rfl) ?_ later
    rw [same, Xml.Tag.WithoutIds, Xml.Tag.names_escaped]
    cases style <;> simpa [Xml.Tag.names, Xml.Tag.attributes, styleEntry] using noIds
  | emptyTag => exact shared.elim
  | endTag element => exact .tag rfl rfl rfl rfl ⟨List.not_mem_nil, List.not_mem_nil⟩ later
  | characters text => exact .data text later

theorem shared {pieces : List Piece} (all : ∀ piece ∈ pieces, piece.Shared) : Reduces pieces pieces := by
  induction pieces with
  | nil => exact .nil
  | cons piece pieces ih =>
    obtain ⟨first, later⟩ := List.forall_mem_cons.mp all
    exact cons_shared first (ih later)

theorem milestone {element : String} (known : element = "chapter" ∨ element = "verse") (style number id : String)
    (later : Reduces left right) :
    Reduces (.emptyTag element (some style) (("number", number) :: Dialect.startId .usx3_0 id) :: left)
      (.emptyTag element (some style) (("number", number) :: Dialect.startId .usx2_5 id) :: right) := by
  have rewritten : (Xml.Tag.empty element [("style", style), ("number", number), ("sid", id)]).escaped.downgraded =
      (Xml.Tag.empty element [("style", style), ("number", number)]).escaped := by
    simp [Xml.Tag.escaped, Xml.Tag.downgraded, known]
  refine .tag rfl rfl rfl (congrArg some rewritten.symm) ?_ later
  change (Xml.Tag.escaped (.empty element [("style", style), ("number", number), ("sid", id)])).downgraded.WithoutIds
  rw [rewritten, Xml.Tag.WithoutIds, Xml.Tag.names_escaped]
  simp [Xml.Tag.names, Xml.Tag.attributes]

/-- A word keeps its style, whatever attributes it has. -/
theorem word (attributes : Attributes) (later : Reduces left right) :
    Reduces (.startTag "char" (some "w") (Dialect.wordAttributes .usx3_0 attributes) :: left)
      (.startTag "char" (some "w") (Dialect.wordAttributes .usx2_5 attributes) :: right) := by
  have clean : (Xml.Tag.opening "char" [("style", "w")]).WithoutIds := by
    simp [Xml.Tag.WithoutIds, Xml.Tag.names, Xml.Tag.attributes]
  exact .tag rfl rfl rfl rfl clean later

theorem root (later : Reduces left right) :
    Reduces (.startTag "usx" none [("version", Dialect.version .usx3_0)] :: left)
      (.startTag "usx" none [("version", Dialect.version .usx2_5)] :: right) := by
  have clean : (Xml.Tag.opening "usx" [("version", "2.5")]).WithoutIds := by
    simp [Xml.Tag.WithoutIds, Xml.Tag.names, Xml.Tag.attributes]
  exact .tag rfl rfl rfl rfl clean later

theorem closeVerse (position : Position) : Reduces (position.closeVerse .usx3_0).2.pieces [] := by
  obtain ⟨book, chapter, verse, openChapter, openVerse⟩ := position
  cases openVerse with
  | none => exact .nil
  | some id => exact .verseEnd id .nil

theorem closeAll (position : Position) : Reduces (position.closeAll .usx3_0).2.pieces [] := by
  have chapter : Reduces (Position.milestoneEnd .usx3_0 "chapter" position.openChapter).pieces [] := by
    cases position.openChapter with
    | none => exact .nil
    | some id => exact .chapterEnd id .nil
  exact (closeVerse position).append chapter

end Reduces

theorem Shape.shared_enter (shape : Shape) (style text : String) (position : Position) :
    (Step.still position (shape.enter style text)).Every Piece.Shared := by
  cases shape <;>
    simp [Step.Every, Step.still, Shape.enter, Shape.enter.wholeParagraph, Piece.Shared, Piece.lineBreak]

/-- The position with nothing open, which is how the earlier dialect always has it. -/
def Position.closed (position : Position) : Position := { position with openChapter := none, openVerse := none }

/-- A step in the later dialect beside the one that the earlier has for it. -/
structure Step.Reduces (step other : Step) : Prop where
  position : other.position = step.position.closed
  pieces : Usx.Reduces step.output.pieces other.output.pieces
  visit : other.visit = step.visit
  close : ∀ close, step.visit = .children close → ∀ piece ∈ close, piece.Shared

theorem Step.reduces_still (position : Position) {entered : List Piece × Visit}
    (shared : (Step.still position entered).Every Piece.Shared) :
    (Step.still position entered).Reduces (Step.still position.closed entered) :=
  ⟨rfl, .shared shared.1, rfl, shared.2⟩

theorem reduces_enter (kind : Kind) (position : Position) :
    (∃ malformed, enter .usx3_0 kind position = .error malformed ∧
        enter .usx2_5 kind position.closed = .error malformed) ∨
      ∃ step other, enter .usx3_0 kind position = .ok step ∧ enter .usx2_5 kind position.closed = .ok other ∧
        step.Reduces other := by
  have still (shape : Shape) (style text : String) := Step.reduces_still position
    (shape.shared_enter style text position)
  cases kind with
  | text content =>
    refine .inr ⟨_, _, rfl, rfl, Step.reduces_still position ?_⟩
    simp [Step.Every, Step.still, Piece.Shared]
  | book identifier =>
    simp only [enter]
    cases splitBookIdentifier identifier with
    | error malformed => exact .inl ⟨malformed, rfl, rfl⟩
    | ok parts =>
      obtain ⟨code, label⟩ := parts
      have book : ∀ piece ∈ [.startTag "book" (some "id") [("code", code)], .characters label, .endTag "book", .lineBreak],
          Piece.Shared piece := by simp [Piece.Shared, Piece.lineBreak]
      exact .inr ⟨_, _, rfl, rfl, rfl, (Reduces.closeAll position).append (.shared book), rfl, by simp⟩
  | chapter number =>
    have start := Reduces.milestone (.inl rfl : "chapter" = "chapter" ∨ "chapter" = "verse") "c"
      (toString number.toNat) (position.enterChapter .usx3_0 number).2.2 (.data "\n" .nil)
    exact .inr ⟨_, _, rfl, rfl, rfl, (Reduces.closeAll position).append start, rfl, by simp⟩
  | verse number =>
    have start := Reduces.milestone (.inr rfl : "verse" = "chapter" ∨ "verse" = "verse") "v" number
      (position.enterVerse .usx3_0 number).2.2 .nil
    exact .inr ⟨_, _, rfl, rfl, rfl, (Reduces.closeVerse position).append start, rfl, by simp⟩
  | word term attributes =>
    have start := Reduces.word attributes (.data term .nil)
    exact .inr ⟨_, _, rfl, rfl, rfl, start, rfl, by simp [Piece.Shared]⟩
  | field tag content => exact .inr ⟨_, _, rfl, rfl, still tag.shape tag.identifier content⟩
  | heading tag weight content => exact .inr ⟨_, _, rfl, rfl, still tag.shape (leveledStyle tag.identifier weight) content⟩
  | leveled tag level => exact .inr ⟨_, _, rfl, rfl, still tag.shape (leveledStyle tag.identifier level) ""⟩
  | bare tag => exact .inr ⟨_, _, rfl, rfl, still tag.shape tag.identifier ""⟩
  | unknown identifier =>
    refine .inr ⟨_, _, rfl, rfl, Step.reduces_still position ?_⟩
    simp [Step.Every, Step.still]

/-- What two walks have brought about when the second is in the earlier dialect. -/
structure Progress.Reduces (left right : Progress) : Prop where
  position : right.position = left.position.closed
  markup : Usx.Reduces left.markup.toList right.markup.toList
  unrenderable : right.unrenderable = left.unrenderable
  statistics : right.statistics = left.statistics

theorem Progress.Reduces.put {left right : Progress} (related : left.Reduces right) {pieces : List Piece}
    (shared : ∀ piece ∈ pieces, piece.Shared) : (left.put pieces).Reduces (right.put pieces) where
  position := related.position
  markup := by
    simp only [Progress.put, Array.toList_appendList]
    exact related.markup.append (.shared shared)
  unrenderable := related.unrenderable
  statistics := related.statistics

theorem Progress.Reduces.move {left right : Progress} (related : left.Reduces right) {step other : Step}
    (both : step.Reduces other) :
    (left.move step.position step.output).Reduces (right.move other.position other.output) where
  position := both.position
  markup := by
    simp only [Progress.move, Array.toList_appendList]
    exact related.markup.append both.pieces
  unrenderable := related.unrenderable
  statistics := related.statistics

theorem simulates_reduces : Simulates .usx3_0 .usx2_5 Progress.Reduces where
  enter marker left right related := by
    rw [Progress.enter, Progress.enter, related.position]
    rcases reduces_enter marker.kind left.position with ⟨malformed, failed, failed'⟩ | ⟨step, other, done, done', both⟩
    · rw [failed, failed']
      exact .error rfl
    · obtain ⟨position, markup, unrenderable, statistics⟩ := related.move both
      rw [done, done']
      simp only [both.visit]
      cases step.visit with
      | leaf | children =>
        refine .ok ⟨⟨position, markup, unrenderable, ?_⟩, rfl⟩
        simp only [Progress.count, statistics]
      | unrenderable =>
        refine .ok ⟨⟨position, markup, ?_, ?_⟩, rfl⟩
        · simp only [Progress.skip, unrenderable]
        · simp only [Progress.skip, statistics]
  close {marker before opened left right pieces} entered related := by
    -- what closes a marker was settled when it was entered, wherever its children have led since
    obtain ⟨step, done, _, _, closes⟩ := Progress.enter_ok entered
    rcases reduces_enter marker.kind before.position with ⟨malformed, failed, _⟩ | ⟨same, other, done', _, both⟩
    · rw [failed] at done
      cases done
    · rw [done'] at done
      cases done
      exact related.put (both.close pieces ((closes pieces).mp rfl))

theorem reduces_wrap (partialOutput collectStatistics : Bool) {left right : List Piece} (reduces : Reduces left right) :
    Reduces (Options.wrap ⟨partialOutput, .usx3_0, collectStatistics⟩ left)
      (Options.wrap ⟨partialOutput, .usx2_5, collectStatistics⟩ right) := by
  unfold Options.wrap
  cases partialOutput with
  | true => exact reduces
  | false =>
    have closes : ∀ piece ∈ [.endTag "usx", .lineBreak], Piece.Shared piece := by simp [Piece.Shared, Piece.lineBreak]
    exact .data "\n" (.root (.data "\n" (reduces.append (.shared closes))))

theorem Progress.Reduces.pieces {left right : Progress} (related : left.Reduces right) :
    Usx.Reduces (left.pieces .usx3_0) (right.pieces .usx2_5) := by
  have nothing : (right.position.closeAll .usx2_5).2.pieces = [] := by
    rw [related.position]
    rfl
  rw [Progress.pieces_eq, Progress.pieces_eq, nothing]
  exact related.markup.append (.closeAll left.position)

/-- Rewriting what the later dialect writes gives what the earlier one writes, in which there
are no ids. -/
theorem downgraded_result (partialOutput collectStatistics : Bool) {document : Document} {journal journal' : Array Record}
    {left right : Progress} (ran : visitAll .usx3_0 document.contents (.start journal) = .ok left)
    (ran' : visitAll .usx2_5 document.contents (.start journal') = .ok right) (related : left.Reduces right) :
    downgraded (Options.result ⟨partialOutput, .usx3_0, collectStatistics⟩ document left).content.toList =
        some (Options.result ⟨partialOutput, .usx2_5, collectStatistics⟩ document right).content.toList ∧
      ∃ content, Xml.scan (Xml.body
          (Options.result ⟨partialOutput, .usx2_5, collectStatistics⟩ document right).content.toList) = some content ∧
        ∀ tag ∈ content.tags, tag.WithoutIds := by
  have whole := reduces_wrap partialOutput collectStatistics related.pieces
  have later := @splitDeclaration_result ⟨partialOutput, .usx3_0, collectStatistics⟩ _ _ _ ran
  have earlier := @splitDeclaration_result ⟨partialOutput, .usx2_5, collectStatistics⟩ _ _ _ ran'
  obtain ⟨_, scanned⟩ := @scan_body ⟨partialOutput, .usx3_0, collectStatistics⟩ _ _ _ ran
  obtain ⟨sound, scanned'⟩ := @scan_body ⟨partialOutput, .usx2_5, collectStatistics⟩ _ _ _ ran'
  refine ⟨?_, _, scanned', ?_⟩
  · rw [downgraded, scanned, Option.map_some, later, whole.downgradedContent_eq, ← markupText_toList sound]
    have joined := Xml.splitDeclaration_eq
      (Options.result ⟨partialOutput, .usx2_5, collectStatistics⟩ document right).content.toList
    rw [earlier] at joined
    exact congrArg some joined
  · rw [tags_written]
    exact whole.withoutIds

/-- Both dialects fail at the same book, or both succeed, report the same and count the same, and
what the earlier one writes is what the later one writes without its ids, its ends of milestones
and its attributes of words. -/
theorem dialects_agree (partialOutput collectStatistics : Bool) (document : Document) :
    (∃ malformed, (render ⟨partialOutput, .usx2_5, collectStatistics⟩ document).2 = .error malformed ∧
        (render ⟨partialOutput, .usx3_0, collectStatistics⟩ document).2 = .error malformed) ∨
      ∃ earlier later, (render ⟨partialOutput, .usx2_5, collectStatistics⟩ document).2 = .ok earlier ∧
        (render ⟨partialOutput, .usx3_0, collectStatistics⟩ document).2 = .ok later ∧
        earlier.unrenderable = later.unrenderable ∧ earlier.statistics = later.statistics ∧
        downgraded later.content.toList = some earlier.content.toList ∧
        ∃ content, Xml.scan (Xml.body earlier.content.toList) = some content ∧
          ∀ tag ∈ content.tags, tag.WithoutIds := by
  have start : Progress.Reduces (.start #[openingRecord ⟨partialOutput, .usx3_0, collectStatistics⟩ document])
      (.start #[openingRecord ⟨partialOutput, .usx2_5, collectStatistics⟩ document]) := ⟨rfl, .nil, rfl, rfl⟩
  have alike := simulates_reduces.visitAll document.contents start
  rw [render_outcome, render_outcome]
  generalize atLater : visitAll .usx3_0 document.contents _ = outcome at alike ⊢
  generalize atEarlier : visitAll .usx2_5 document.contents _ = outcome' at alike ⊢
  cases alike with
  | @error stopped stopped' same => exact .inl ⟨stopped.malformed, congrArg Except.error same.symm, rfl⟩
  | @ok left right related =>
    obtain ⟨rewritten, clean⟩ := downgraded_result partialOutput collectStatistics atLater atEarlier related
    refine .inr ⟨_, _, rfl, rfl, related.unrenderable, ?_, rewritten, clean⟩
    simp only [Options.result, related.statistics]

end ScriptureMarkup.Usx
