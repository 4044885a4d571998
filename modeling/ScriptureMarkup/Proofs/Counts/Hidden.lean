import ScriptureMarkup.Proofs.Command.Batch
import ScriptureMarkup.Proofs.Counts.Openers
import ScriptureMarkup.Proofs.Documents.Preorder
import ScriptureMarkup.Proofs.Interchange.RoundTrip

namespace ScriptureMarkup

namespace Marker

mutual

/-- The markers of a tree in the order of the text, each with the kinds of all markers above it, the
nearest first. -/
def placed (above : List Kind) : Marker → List (List Kind × Marker)
  | ⟨kind, contents⟩ => (above, ⟨kind, contents⟩) :: placedAll (kind :: above) contents

def placedAll (above : List Kind) : List Marker → List (List Kind × Marker)
  | [] => []
  | marker :: markers => marker.placed above ++ placedAll above markers

end

/-- Whether a walk does not descend into some marker of those above a place. -/
def isHidden (above : List Kind) : Bool := above.any (!·.descends)

mutual

theorem map_placed (above : List Kind) (marker : Marker) : (marker.placed above).map Prod.snd = marker.preorder := by
  obtain ⟨kind, contents⟩ := marker
  rw [placed, List.map_cons, map_placedAll (kind :: above) contents, preorder]

theorem map_placedAll (above : List Kind) (markers : List Marker) :
    (placedAll above markers).map Prod.snd = preorderAll markers := by
  match markers with
  | [] => rfl
  | marker :: markers =>
    rw [placedAll, List.map_append, map_placed above marker, map_placedAll above markers, preorderAll]

end

mutual

theorem map_filter_placed (above : List Kind) (marker : Marker) :
    ((marker.placed above).filter fun place => !isHidden place.1).map Prod.snd =
      if isHidden above then [] else marker.reached := by
  obtain ⟨kind, contents⟩ := marker
  have inside : isHidden (kind :: above) = (!kind.descends || isHidden above) := List.any_cons
  have below := map_filter_placedAll (kind :: above) contents
  rw [inside] at below
  rw [placed, List.filter_cons, reached]
  cases hidden : isHidden above with
  | true =>
    rw [hidden, Bool.or_true, if_pos rfl] at below
    simpa [hidden] using below
  | false =>
    rw [hidden, Bool.or_false] at below
    cases descends : kind.descends <;> simpa [descends] using below

/-- A walk reaches the markers below which it has descended all the way, and no others. -/
theorem map_filter_placedAll (above : List Kind) (markers : List Marker) :
    ((placedAll above markers).filter fun place => !isHidden place.1).map Prod.snd =
      if isHidden above then [] else reachedAll markers := by
  match markers with
  | [] => simp [placedAll, reachedAll]
  | marker :: markers =>
    rw [placedAll, List.filter_append, List.map_append, map_filter_placed above marker,
      map_filter_placedAll above markers, reachedAll]
    cases isHidden above <;> simp

end

end Marker

namespace Document

/-- The number of chosen markers below some marker into which a walk does not descend, each counted
once, however many such markers it lies below. -/
def hidden (document : Document) (chosen : Kind → Bool) : Nat :=
  (Marker.placedAll [] document.contents).countP fun place => chosen place.2.kind && Marker.isHidden place.1

theorem countMarkers_eq_preorder (document : Document) (chosen : Kind → Bool) :
    document.countMarkers chosen = (Marker.preorderAll document.contents).countP fun marker => chosen marker.kind := by
  rw [countMarkers, descendants, Marker.descendants_eq_preorderAll]

/-- Of the markers in the whole tree a walk reaches all that are not hidden. -/
theorem countMarkers_eq (document : Document) (chosen : Kind → Bool) :
    document.countMarkers chosen =
      ((Marker.reachedAll document.contents).countP fun marker => chosen marker.kind) + document.hidden chosen := by
  have shown := Marker.map_filter_placedAll [] document.contents
  have top : Marker.isHidden [] = false := rfl
  rw [top, if_neg Bool.false_ne_true] at shown
  rw [countMarkers_eq_preorder, ← Marker.map_placedAll [], ← shown, List.countP_map, List.countP_map,
    List.countP_eq_countP_filter_add _ _ fun place => !Marker.isHidden place.1, hidden]
  simp only [List.countP_filter, Function.comp_def, Bool.not_not]

end Document

namespace Command

open Usx (Options RenderResult)

variable {environment : Option String} {arguments : List String} {input : String} {json : Bool} {desk : Desk}

/-- A summary is printed for every document that can be rendered. -/
theorem run_info {document : Document} {result : RenderResult}
    (asked : Invocation.ofArguments? environment arguments = some (.info input json))
    (loaded : desk.tree.load input = .ok document)
    (rendered : document.render { Options.default with collectStatistics := true } = .ok result) :
    run Desk.host environment arguments desk =
      (0, { desk with printed := desk.printed ++ if json then (Summary.of input document result).object
        else (Summary.of input document result).lines }) := by
  rw [run_eq asked]
  simp only [Invocation.run, runInfo, Desk.bind_apply, Desk.host_load, loaded, rendered, Summary.line_toValue_eq_object,
    Summary.text_eq_lines]
  rfl

end Command

namespace Usx

open Command (Desk Invocation Summary)
open Marker (reachedAll tally texts)
open Xml (occurrences)

namespace Counted

/-- Of the counts of books, chapters and verses, a marker adds to that of its own kind alone. -/
theorem times_places (marker : Marker) :
    book.times marker = (if marker.kind matches .book _ then 1 else 0) ∧
      chapter.times marker = (if marker.kind matches .chapter _ then 1 else 0) ∧
      verse.times marker = if marker.kind matches .verse _ then 1 else 0 := by
  obtain ⟨kind, contents⟩ := marker
  cases kind with
  | field tag | heading tag | leveled tag | bare tag =>
    simp only [times]
    rw [Statistics.record_form rfl]
    cases tag.shape <;> exact ⟨rfl, rfl, rfl⟩
  | book | chapter | verse | text | word | unknown => exact ⟨rfl, rfl, rfl⟩

theorem sum_times {counted : Counted} {chosen : Kind → Bool}
    (own : ∀ marker, counted.times marker = if chosen marker.kind then 1 else 0) (markers : List Marker) :
    (markers.map counted.times).sum = markers.countP fun marker => chosen marker.kind := by
  induction markers with
  | nil => rfl
  | cons marker markers ih => rw [List.map_cons, List.sum_cons, own, ih, List.countP_cons, Nat.add_comm]

end Counted

/-- The whole tree holds the books, chapters and verses that are reached, and those that are hidden. -/
theorem countMarkers_places (document : Document) :
    document.countMarkers (· matches .book _) =
        ((reachedAll document.contents).map Counted.book.times).sum + document.hidden (· matches .book _) ∧
      document.countMarkers (· matches .chapter _) =
        ((reachedAll document.contents).map Counted.chapter.times).sum + document.hidden (· matches .chapter _) ∧
      document.countMarkers (· matches .verse _) =
        ((reachedAll document.contents).map Counted.verse.times).sum + document.hidden (· matches .verse _) := by
  have books := @Counted.sum_times .book (· matches .book _) fun marker => (Counted.times_places marker).1
  have chapters := @Counted.sum_times .chapter (· matches .chapter _) fun marker => (Counted.times_places marker).2.1
  have verses := @Counted.sum_times .verse (· matches .verse _) fun marker => (Counted.times_places marker).2.2
  rw [books, chapters, verses]
  exact ⟨document.countMarkers_eq _, document.countMarkers_eq _, document.countMarkers_eq _⟩

/-- In the whole tree there are as many books, chapters and verses as a rendering counts and as are
hidden from it, where a marker hides all that is below it if it is written or skipped without its
children; the counters of a rendering have 32 bits. A summary tells the chapters and verses of the
whole tree; there are never fewer of them than a rendering writes, and just as many if none is hidden. -/
theorem whole_tree_counts_rendered_and_hidden {options : Options} {document : Document} {result : RenderResult}
    (rendered : (render options document).2 = .ok result) :
    (∀ kind position step, enter options.dialect kind position = .ok step →
      (kind.descends = false ↔ step.visit = .leaf ∨ step.visit = .unrenderable)) ∧
      (options.collectStatistics = true → ∃ counts, result.statistics = some counts ∧
        SameIn32Bits (document.countMarkers (· matches .chapter _))
          (counts.chapters.toNat + document.hidden (· matches .chapter _)) ∧
        SameIn32Bits (document.countMarkers (· matches .verse _))
          (counts.verses.toNat + document.hidden (· matches .verse _)) ∧
        SameIn32Bits (document.countMarkers (· matches .book _))
          (counts.books.toNat + document.hidden (· matches .book _))) ∧
      (∀ environment arguments input json (desk : Desk),
        Invocation.ofArguments? environment arguments = some (.info input json) →
        desk.tree.load input = .ok document →
        let summary : Summary := {
          file := input
          book := document.bookIdentifier.map fun identifier => String.ofList (identifier.toList.take 3)
          encoding := document.encoding
          chapters := document.countMarkers (· matches .chapter _)
          verses := document.countMarkers (· matches .verse _)
          words := ((texts (reachedAll document.contents)).map fun text => (Text.words text).length).sum % 2 ^ 32
          unrenderable := result.unrenderable }
        Command.run Desk.host environment arguments desk =
          (0, { desk with printed := desk.printed ++ if json then summary.object else summary.lines })) ∧
      occurrences "<chapter style=".toList result.content.toList ≤ document.countMarkers (· matches .chapter _) ∧
      (occurrences "<chapter style=".toList result.content.toList = document.countMarkers (· matches .chapter _) ↔
        document.hidden (· matches .chapter _) = 0) ∧
      occurrences "<verse style=".toList result.content.toList ≤ document.countMarkers (· matches .verse _) ∧
      (occurrences "<verse style=".toList result.content.toList = document.countMarkers (· matches .verse _) ↔
        document.hidden (· matches .verse _) = 0) := by
  obtain ⟨books, chapters, verses⟩ := countMarkers_places document
  refine ⟨fun kind position step stepped => ?_, fun collects => ?_,
    fun environment arguments input json desk asked loaded => ?_, ?_⟩
  · obtain ⟨descends, _⟩ := visit_iff stepped
    rw [← Bool.not_eq_true, descends]
    cases step.visit <;> simp
  · have told (counted : Counted) := counted.sameIn32Bits_tally (reachedAll document.contents)
    refine ⟨tally (reachedAll document.contents), ?_, ?_, ?_, ?_⟩
    · rw [statistics_render rendered, if_pos collects]
    · exact chapters ▸ (told .chapter).add _
    · exact verses ▸ (told .verse).add _
    · exact books ▸ (told .book).add _
  · let options := { Options.default with collectStatistics := true }
    obtain ⟨shown, again⟩ :=
      (@render_ok_iff_nameable options document).mpr (render_ok_iff_nameable.mp ⟨result, rendered⟩)
    have summarised : document.render options = .ok shown := by
      rw [Document.render, again]
      rfl
    have tags : shown.unrenderable = result.unrenderable := by
      rw [unrenderable_render again, unrenderable_render rendered]
    have counted : (tally (reachedAll document.contents)).words.toNat =
        ((texts (reachedAll document.contents)).map fun text => (Text.words text).length).sum % 2 ^ 32 := by
      rw [words_tally_eq]
      exact UInt32.toNat_ofNat'
    have summary := Command.run_info asked loaded summarised
    rw [Summary.of, tags, statistics_render again, if_pos rfl, Option.elim_some, counted] at summary
    exact summary
  · obtain ⟨progress, ran, rfl⟩ := render_ok_iff.mp rendered
    have writtenChapters : occurrences "<chapter style=".toList _ = _ := occurrences_result ran .chapter
    have writtenVerses : occurrences "<verse style=".toList _ = _ := occurrences_result ran .verse
    rw [writtenChapters, writtenVerses, chapters, verses]
    omega

/-- Chapters and verses below a book, below an unknown tag within another, and below a speaker. -/
def scattered : Document :=
  ⟨[⟨.book "GEN 1", [⟨.chapter 7, []⟩]⟩,
    ⟨.chapter 1, [⟨.verse "1", [.text "in the"]⟩,
      ⟨.unknown "zz", [⟨.unknown "yy", [⟨.chapter 2, [⟨.verse "2", []⟩]⟩]⟩]⟩]⟩,
    ⟨.field .sp "Job", [⟨.book "X", []⟩, ⟨.verse "3", []⟩]⟩]⟩

/-- A desk with these in a file. -/
def scatteredDesk : Desk := ⟨⟨[(["book.json"], scattered.written)], []⟩, "", ""⟩

/-- What is told of them line by line. -/
def scatteredSummary : String :=
  "Document Information\n────────────────────────────────────────\nFile: book.json\nBook: GEN\n" ++
  "Encoding: (not declared)\nChapters: 3\nVerses: 3\nWords: 2\nUnrenderable: \\zz\n"

theorem whole_tree_counts_rendered_and_hidden_of_scattered :
    ∃ result counts, (render ⟨true, .usx2_5, true⟩ scattered).2 = .ok result ∧ result.statistics = some counts ∧
      counts.books.toNat = 1 ∧ counts.chapters.toNat = 1 ∧ counts.verses.toNat = 1 ∧
      Command.run Desk.host none ["info", "book.json"] scatteredDesk =
        (0, { scatteredDesk with printed := scatteredSummary }) ∧
      occurrences "<chapter style=".toList result.content.toList ≠ 3 := by
  obtain ⟨result, rendered⟩ : ∃ result, (render ⟨true, .usx2_5, true⟩ scattered).2 = .ok result :=
    render_ok_iff_nameable.mpr (by decide)
  have chapters : scattered.countMarkers (· matches .chapter _) = 3 := by
    rw [Document.countMarkers_eq_preorder]
    decide
  have verses : scattered.countMarkers (· matches .verse _) = 3 := by
    rw [Document.countMarkers_eq_preorder]
    decide
  have books : scattered.countMarkers (· matches .book _) = 2 := by
    rw [Document.countMarkers_eq_preorder]
    decide
  have hiddenChapters : scattered.hidden (· matches .chapter _) = 2 := by decide
  have hiddenVerses : scattered.hidden (· matches .verse _) = 2 := by decide
  have hiddenBooks : scattered.hidden (· matches .book _) = 1 := by decide
  have asked : Invocation.ofArguments? none ["info", "book.json"] = some (.info "book.json" false) := by decide +kernel
  have loaded : scatteredDesk.tree.load "book.json" = .ok scattered := by
    have located : scatteredDesk.tree.place? "book.json" = some ["book.json"] := by decide +kernel
    have file : scatteredDesk.tree.isDirectory ["book.json"] = false ∧ Command.endsInSlash "book.json" = false := by
      decide +kernel
    have found : scatteredDesk.tree.files.lookup ["book.json"] = some scattered.written := by simp [scatteredDesk]
    rw [Command.FileTree.load, Command.FileTree.read, Command.FileTree.place?_eq_some.mp located]
    simp only [file, found, Bool.false_eq_true, if_false]
    exact congrArg (Except.mapError Failure.json) (@Document.ofText_written scattered (by decide))
  have book : scattered.bookIdentifier = some "GEN 1" := by
    rw [Document.bookIdentifier, Document.descendants, Marker.descendants_eq_preorderAll]
    decide
  have encoding : scattered.encoding = none := by
    rw [Document.encoding, Document.descendants, Marker.descendants_eq_preorderAll]
    decide
  have words : ((texts (reachedAll scattered.contents)).map fun text => (Text.words text).length).sum = 2 := by
    decide +kernel
  have tags : result.unrenderable = ["zz"] := by
    rw [unrenderable_render rendered]
    decide
  obtain ⟨_, counted, info, _, fewer, _⟩ := whole_tree_counts_rendered_and_hidden rendered
  obtain ⟨counts, given, wholeChapters, wholeVerses, wholeBooks⟩ := counted rfl
  have told := info none _ _ _ scatteredDesk asked loaded
  rw [chapters, verses, book, encoding, words, tags] at told
  rw [chapters, hiddenChapters] at fewer wholeChapters
  rw [verses, hiddenVerses] at wholeVerses
  rw [books, hiddenBooks] at wholeBooks
  have countedChapters := wholeChapters.2 (by decide)
  have countedVerses := wholeVerses.2 (by decide)
  have countedBooks := wholeBooks.2 (by decide)
  have text : "" ++ Summary.lines ⟨"book.json", some "GEN", none, 3, 3, 2, ["zz"]⟩ = scatteredSummary := by
    decide +kernel
  exact ⟨result, counts, rendered, given, by omega, by omega, by omega,
    told.trans (congrArg (fun printed => (0, { scatteredDesk with printed := printed })) text),
    fun same => absurd (fewer.mp same) (by decide)⟩

end Usx

end ScriptureMarkup
