import ScriptureMarkup.Proofs.Counts.Tally
import ScriptureMarkup.Proofs.Counts.Words
import ScriptureMarkup.Proofs.Xml.Occurrences

namespace ScriptureMarkup.Usx

open Xml (occurrences)

/-- What is counted while a document is rendered and can be counted again in the markup. -/
inductive Counted
  | book
  | chapter
  | verse
  | paragraph
  | note
  | table

namespace Counted

def count : Counted → Statistics → UInt32
  | book, counts => counts.books
  | chapter, counts => counts.chapters
  | verse, counts => counts.verses
  | paragraph, counts => counts.paragraphs
  | note, counts => counts.notes
  | table, counts => counts.tables

/-- How the tag begins, behind its bracket. The end of a milestone is an element of the same name,
but it has an id where the start has a style. -/
def stem : Counted → String
  | book => "book "
  | chapter => "chapter style="
  | verse => "verse style="
  | paragraph => "para "
  | note => "note "
  | table => "table>"

def opens (counted : Counted) (piece : Piece) : Bool :=
  (piece.writtenTag?.map (counted.stem.toList.isPrefixOf ·.text)).getD false

theorem count_merge (counted : Counted) (counts more : Statistics) :
    counted.count (counts.merge more) = counted.count counts + counted.count more := by
  cases counted <;> rfl

/-- How often a marker is counted: once if it is of the kind that is counted, and otherwise not at all. -/
def times (counted : Counted) (marker : Marker) : Nat := (counted.count (Statistics.zero.record marker.kind)).toNat

/-- A marker without a form is none of those that are counted. -/
theorem count_share (counted : Counted) (marker : Marker) :
    counted.count marker.share = UInt32.ofNat (counted.times marker) := by
  obtain ⟨kind, contents⟩ := marker
  rw [times, UInt32.ofNat_toNat]
  cases kind with
  | field tag | heading tag | leveled tag | bare tag =>
    rw [Marker.share_form rfl, Statistics.record_form rfl]
    cases tag.shape <;> cases counted <;> rfl
  | unknown => cases counted <;> rfl
  | book | chapter | verse | text | word => rfl

theorem count_tally (counted : Counted) (markers : List Marker) :
    counted.count (Marker.tally markers) = UInt32.ofNat (markers.map counted.times).sum := by
  induction markers with
  | nil => cases counted <;> rfl
  | cons marker markers ih =>
    rw [Marker.tally_cons, count_merge, count_share, ih, List.map_cons, List.sum_cons, UInt32.ofNat_add]

theorem sameIn32Bits_tally (counted : Counted) (markers : List Marker) :
    SameIn32Bits (markers.map counted.times).sum (counted.count (Marker.tally markers)).toNat := by
  rw [count_tally]
  exact sameIn32Bits_ofNat _

end Counted

theorem words_tally_eq (markers : List Marker) : (Marker.tally markers).words =
    UInt32.ofNat ((Marker.texts markers).map fun text => (Text.words text).length).sum := by
  have words : Text.wordCount = fun text => (Text.words text).length := funext Text.wordCount_eq_length_words
  rw [Marker.words_tally, words]

variable {counted : Counted}

theorem opens_lineBreak : counted.opens .lineBreak = false := rfl

theorem opens_milestoneEnd (dialect : Dialect) {element : String} (milestone : element ∈ ["chapter", "verse"])
    (id : Option String) : (Position.milestoneEnd dialect element id).pieces.countP counted.opens = 0 := by
  have ends (id : String) : counted.opens (.emptyTag element none [("eid", id)]) = false := by
    have text : (Xml.Tag.empty element [("eid", escapedAttribute id)]).text =
        element.toList ++ ' ' :: 'e' :: 'i' :: 'd' :: '=' :: '"' ::
          ((escapedAttribute id).toList ++ ['"', ' ', '/', '>']) := by
      simp [Xml.Tag.text, Xml.attributeText]
    change counted.stem.toList.isPrefixOf (Xml.Tag.empty element [("eid", escapedAttribute id)]).text = false
    rw [text]
    simp only [List.mem_cons, List.not_mem_nil, or_false] at milestone
    rcases milestone with rfl | rfl <;> cases counted <;> rfl
  cases id with
  | none => rfl
  | some id =>
    unfold Position.milestoneEnd Dialect.milestoneEnd
    split_ifs <;> simp [ends, opens_lineBreak]

theorem opens_closeVerse (dialect : Dialect) (position : Position) :
    (position.closeVerse dialect).2.pieces.countP counted.opens = 0 :=
  opens_milestoneEnd dialect (by decide) position.openVerse

theorem opens_closeAll (dialect : Dialect) (position : Position) :
    (position.closeAll dialect).2.pieces.countP counted.opens = 0 := by
  change ((position.closeVerse dialect).2.pieces ++
    (Position.milestoneEnd dialect "chapter" position.openChapter).pieces).countP counted.opens = 0
  rw [List.countP_append, opens_closeVerse, opens_milestoneEnd dialect (by decide)]

/-- The form of a marker decides both what is written and what is counted. -/
theorem opens_form {kind : Kind} {shape : Shape} {style text : String}
    (formed : kind.form? = some (shape, style, text)) :
    (shape.enter style text).1.countP counted.opens = (counted.count (Statistics.zero.record kind)).toNat ∧
      ∀ close, (shape.enter style text).2 = .children close → close.countP counted.opens = 0 := by
  rw [Statistics.record_form formed]
  constructor
  · cases shape <;> cases counted <;> rfl
  · rintro close visited
    cases shape <;> cases visited <;> cases counted <;> rfl

theorem opens_enter {dialect : Dialect} {kind : Kind} {position : Position} {step : Step}
    (stepped : enter dialect kind position = .ok step) :
    step.output.pieces.countP counted.opens = (counted.count (Statistics.zero.record kind)).toNat ∧
      ∀ close, step.visit = .children close → close.countP counted.opens = 0 := by
  have closed {before : Output} (pieces : List Piece) (nothing : before.pieces.countP counted.opens = 0) :
      (before ++ ⟨pieces, []⟩ : Output).pieces.countP counted.opens = pieces.countP counted.opens := by
    change (before.pieces ++ pieces).countP counted.opens = _
    rw [List.countP_append, nothing, Nat.zero_add]
  cases entered_of_enter stepped with
  | text | unknown => exact ⟨by cases counted <;> rfl, by simp [Step.still]⟩
  | book split =>
    rw [closed _ (opens_closeAll dialect position)]
    exact ⟨by cases counted <;> rfl, by simp⟩
  | chapter number =>
    rw [closed _ (opens_closeAll dialect position)]
    exact ⟨by cases counted <;> rfl, by simp⟩
  | verse number =>
    rw [closed _ (opens_closeVerse dialect position)]
    exact ⟨by cases counted <;> rfl, by simp⟩
  | word term attributes =>
    refine ⟨by cases counted <;> rfl, ?_⟩
    rintro close ⟨rfl⟩
    cases counted <;> rfl
  | form formed => exact opens_form formed

/-- A marker is written with as many tags of a kind as it is counted for. -/
theorem grows_opens (dialect : Dialect) (counted : Counted) :
    Grows dialect fun markers pieces => pieces.countP counted.opens = (markers.map counted.times).sum where
  nil := rfl
  append front back := by rw [List.countP_append, front, back, List.map_append, List.sum_append]
  own stepped := by
    rw [(opens_enter stepped).1]
    rfl
  close stepped visited := (opens_enter stepped).2 _ visited

theorem bracket_not_mem_front (options : Options) (document : Document) : '<' ∉ (options.front document).tail := by
  unfold Options.front
  split
  · exact List.not_mem_nil
  · rw [List.tail_dropLast]
    refine fun inside => absurd (List.mem_of_mem_dropLast inside) ?_
    cases document.encoding with
    | none =>
      change '<' ∉ "<?xml version=\"1.0\"?>\n".toList.tail
      decide
    | some encoding =>
      have opens : "<?xml version=\"1.0\" encoding=\"".toList = '<' :: "?xml version=\"1.0\" encoding=\"".toList := rfl
      have clean := (Xml.quote_bracket_not_mem_escapedAttribute encoding).2
      change '<' ∉ ("<?xml version=\"1.0\" encoding=\"" ++ escapedAttribute encoding ++ "\"?>\n").toList.tail
      simp only [String.toList_append, opens, List.cons_append, List.tail_cons, List.mem_append, not_or]
      exact ⟨⟨by decide, clean⟩, by decide⟩

theorem opens_wrap (options : Options) (pieces : List Piece) :
    (options.wrap pieces).countP counted.opens = pieces.countP counted.opens := by
  unfold Options.wrap
  split
  · rfl
  · have root (version : String) : counted.opens (.startTag "usx" none [("version", version)]) = false := by
      cases counted <;> rfl
    have ends : counted.opens (.endTag "usx") = false := by
      cases counted <;> rfl
    simp [root, ends, opens_lineBreak]

/-- In the content, each tag of a kind begins once, and nothing else begins like it. -/
theorem occurrences_result {options : Options} {document : Document} {journal : Array Record} {progress : Progress}
    (ran : visitAll options.dialect document.contents (.start journal) = .ok progress) (counted : Counted) :
    occurrences ('<' :: counted.stem.toList) (options.result document progress).content.toList =
      ((Marker.reachedAll document.contents).map counted.times).sum := by
  obtain ⟨added, grown, opened⟩ := (grows_opens options.dialect counted).visitAll document.contents ran
  have start : (Progress.start journal).markup.toList = [] := rfl
  rw [start, List.nil_append] at grown
  have split := splitDeclaration_result ran
  obtain ⟨sound, scanned⟩ := scan_body ran
  obtain ⟨legal, text⟩ := Xml.scan_iff.mp scanned
  have within : '>' ∉ counted.stem.toList.dropLast := by
    cases counted <;> decide
  obtain ⟨c, name, stem, other⟩ : ∃ c name, counted.stem.toList = c :: name ∧ c ≠ '?' := by
    cases counted <;> exact ⟨_, _, rfl, by decide⟩
  have clean : '<' ∉ (Xml.splitDeclaration (options.result document progress).content.toList).1.tail := by
    rw [split]
    exact bracket_not_mem_front options document
  rw [stem, Xml.occurrences_body other clean, ← stem, ← text, legal.occurrences_eq within, tags_written,
    List.countP_filterMap]
  change (options.wrap (progress.pieces options.dialect)).countP counted.opens = _
  rw [opens_wrap, Progress.pieces_eq, List.countP_append, opens_closeAll, grown, opened, Nat.add_zero]

/-- The statistics of a rendering agree with its content: there are as many books, chapters, verses,
paragraphs, notes and tables as tags that begin one, wherever their openers could stand in the
content. The words are those of the plain texts that the loop has entered, and every marker without a
form that it has entered is counted, however often the same one comes. Each of these numbers is told by
a counter of 32 bits. -/
theorem statistics_agree_with_content {partialOutput : Bool} {dialect : Dialect} {document : Document}
    {result : RenderResult} (rendered : (render ⟨partialOutput, dialect, true⟩ document).2 = .ok result) :
    ∃ counts entered, result.statistics = some counts ∧
      (∀ n, 2 * Marker.countAll document.contents ≤ n →
        trail dialect n (enterAll document.contents [])
          (.start #[openingRecord ⟨partialOutput, dialect, true⟩ document]) = entered) ∧
      SameIn32Bits (occurrences "<book ".toList result.content.toList) counts.books.toNat ∧
      SameIn32Bits (occurrences "<chapter style=".toList result.content.toList) counts.chapters.toNat ∧
      SameIn32Bits (occurrences "<verse style=".toList result.content.toList) counts.verses.toNat ∧
      SameIn32Bits (occurrences "<para ".toList result.content.toList) counts.paragraphs.toNat ∧
      SameIn32Bits (occurrences "<note ".toList result.content.toList) counts.notes.toNat ∧
      SameIn32Bits (occurrences "<table>".toList result.content.toList) counts.tables.toNat ∧
      SameIn32Bits ((Marker.texts entered).map fun text => (Text.words text).length).sum counts.words.toNat ∧
      SameIn32Bits (entered.countP (!·.kind.hasForm)) counts.unrenderable.toNat := by
  have statistics := statistics_render rendered
  obtain ⟨progress, ran, rfl⟩ := render_ok_iff.mp rendered
  have told (counted : Counted) : SameIn32Bits
      (occurrences ('<' :: counted.stem.toList)
        (Options.result ⟨partialOutput, dialect, true⟩ document progress).content.toList)
      (counted.count (Marker.tally (Marker.reachedAll document.contents))).toNat := by
    rw [occurrences_result ran counted]
    exact counted.sameIn32Bits_tally _
  refine ⟨Marker.tally (Marker.reachedAll document.contents), Marker.reachedAll document.contents, statistics,
    fun n bound => trail_eq_reachedAll ran bound, told .book, told .chapter, told .verse, told .paragraph, told .note,
    told .table, ?_, ?_⟩
  · rw [words_tally_eq]
    exact sameIn32Bits_ofNat _
  · rw [Marker.unrenderable_tally, Marker.missing, List.length_map, ← List.countP_eq_length_filter]
    exact sameIn32Bits_ofNat _

/-- Every opener stands in some text, where it opens nothing, and one tag without a form comes twice. -/
def openersInTexts : Document :=
  ⟨[⟨.book "GEN <book <chapter style=", []⟩,
    ⟨.chapter 1, [⟨.verse "<verse style=", []⟩, ⟨.unknown "zz", [.text "left out"]⟩]⟩,
    ⟨.bare .p, [.text " the  <table> <para ", ⟨.field .f "<note ", [⟨.unknown "zz", []⟩]⟩]⟩,
    ⟨.bare .table, []⟩]⟩

theorem statistics_agree_with_content_of_openers_in_texts :
    ∃ result, (render ⟨false, .usx3_0, true⟩ openersInTexts).2 = .ok result ∧
      result.statistics = some ⟨1, 1, 1, 1, 1, 1, 2, 3⟩ ∧
      ∀ opener ∈ ["<book ", "<chapter style=", "<verse style=", "<para ", "<note ", "<table>"],
        SameIn32Bits (occurrences opener.toList result.content.toList) 1 := by
  obtain ⟨result, rendered⟩ : ∃ result, (render ⟨false, .usx3_0, true⟩ openersInTexts).2 = .ok result :=
    render_ok_iff_nameable.mpr (by decide)
  obtain ⟨counts, entered, given, _, books, chapters, verses, paragraphs, notes, tables, _⟩ :=
    statistics_agree_with_content rendered
  have tally : result.statistics = some ⟨1, 1, 1, 1, 1, 1, 2, 3⟩ := by
    rw [statistics_render rendered]
    decide
  rw [tally, Option.some.injEq] at given
  rw [← given] at books chapters verses paragraphs notes tables
  refine ⟨result, rendered, tally, ?_⟩
  simp only [List.forall_mem_cons]
  exact ⟨books, chapters, verses, paragraphs, notes, tables, List.forall_mem_nil _⟩

end ScriptureMarkup.Usx
