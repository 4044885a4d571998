import ScriptureMarkup.Proofs.Books.Near
import ScriptureMarkup.Proofs.Books.Starts
import ScriptureMarkup.Proofs.Markup.ReadBack

namespace ScriptureMarkup

open Xml (Node Token)
open Xml.Node (tokensAll)
open Usx (Dialect Options Position RenderResult)
open Marker (nodesAll reachedAll)

/-- Texts that are the same have the same tags, as they are meant. -/
theorem Xml.tags_of_text_eq {tokens others : List Token} (named : ∀ tag ∈ tokens.filterMap Token.tag?, tag.WellNamed)
    (otherNamed : ∀ tag ∈ others.filterMap Token.tag?, tag.WellNamed)
    (same : tokens.flatMap Token.text = others.flatMap Token.text) :
    tokens.filterMap Token.tag? = others.filterMap Token.tag? := by
  rw [← Content.tags_ofTokens] at named otherNamed
  have first := scan_iff.mpr ⟨Content.legal_escaped named, Content.text_ofTokens tokens⟩
  have second := scan_iff.mpr ⟨Content.legal_escaped otherNamed, Content.text_ofTokens others⟩
  have escaped := Option.some.inj (first.symm.trans ((congrArg scan same).trans second))
  have meant := congrArg Content.decode escaped
  rw [Content.decode_escaped, Content.decode_escaped, Option.some.injEq] at meant
  rw [← Content.tags_ofTokens, meant, Content.tags_ofTokens]

namespace Usx

/-- Without an envelope the content is the tree that the document dictates, piece by piece. -/
theorem content_eq_tokens {collectStatistics : Bool} {dialect : Dialect} {document : Document} {result : RenderResult}
    (rendered : (render ⟨true, dialect, collectStatistics⟩ document).2 = .ok result) :
    result.content.toList =
        (tokensAll (document.nodes ⟨true, dialect, collectStatistics⟩)).flatMap Token.text ∧
      ∀ tag ∈ (tokensAll (document.nodes ⟨true, dialect, collectStatistics⟩)).filterMap Token.tag?, tag.WellNamed := by
  obtain ⟨progress, ran, rfl⟩ := render_ok_iff.mp rendered
  have sound := @sound_pieces ⟨true, dialect, collectStatistics⟩ document _ progress ran
  rw [← tokens_pieces ran, ← Xml.Content.text_ofTokens, ← Xml.Content.tags_ofTokens]
  exact ⟨markupText_toList sound, fun tag member => (sound_tags sound tag member).1⟩

theorem anchored_behind_book {identifier : String} {contents rest : List Marker} :
    Anchored (reachedAll (⟨.book identifier, contents⟩ :: rest)) ↔ Anchored (reachedAll rest) := by
  rw [reachedAll, Marker.reached, List.cons_append, anchored_cons]
  simp [Kind.isChapter, Kind.chapter?, Kind.isVerse, Kind.descends]

/-- What a book with all that follows it dictates does not depend on where it is met, but for the
chapter that was entered last. -/
theorem nodes_append_book {options : Options} (part : options.partialOutput = true) {first second : Document}
    (begins : ∃ identifier contents rest, second.contents = ⟨.book identifier, contents⟩ :: rest)
    (settled : lastChapter 1 (reachedAll first.contents) = 1 ∨ Anchored (reachedAll second.contents)) :
    Document.nodes options ⟨first.contents ++ second.contents⟩ = first.nodes options ++ second.nodes options := by
  obtain ⟨identifier, contents, rest, begins⟩ := begins
  have near (position : Position) : ((Kind.book identifier).arrive options.dialect position).Near
      ((Kind.book identifier).arrive options.dialect .start) := ⟨rfl, rfl, rfl⟩
  have later : (nodesAll options.dialect first.contents .start).2.chapter = 1 ∨ Anchored (reachedAll rest) := by
    rw [begins, anchored_behind_book] at settled
    rw [Marker.nodesAll_position, Marker.chapter_arriveAll]
    exact settled
  obtain ⟨same, ended⟩ := Marker.nodesAll_of_near options.dialect rest (near _) later
  have nothing : Position.start.ends options.dialect = [] := by
    cases options.dialect <;> rfl
  simp only [Document.nodes_eq, part, if_true, Marker.nodesAll_append, begins, nodesAll, Marker.nodes, Kind.descends,
    Kind.nodes, Bool.false_eq_true, if_false, same, ended.ends, nothing, List.nil_append, List.append_assoc]

/-- If the same chapters and verses start, no verse is counted to a chapter of another book. -/
theorem settled_of_starts {collectStatistics : Bool} {first second : Document}
    (begins : ∃ identifier contents rest, second.contents = ⟨.book identifier, contents⟩ :: rest)
    (same : Node.starts (Document.nodes ⟨true, .usx3_0, collectStatistics⟩ ⟨first.contents ++ second.contents⟩) =
      Node.starts (first.nodes ⟨true, .usx3_0, collectStatistics⟩ ++ second.nodes ⟨true, .usx3_0, collectStatistics⟩)) :
    lastChapter 1 (reachedAll first.contents) = 1 ∨ Anchored (reachedAll second.contents) := by
  obtain ⟨identifier, contents, rest, begins⟩ := begins
  -- a book starts no milestone, so what differs starts behind it
  have behind (position : Position) : Marker.starts position (reachedAll second.contents) =
      Marker.starts ((Kind.book identifier).arrive .usx3_0 position) (reachedAll rest) := by
    rw [begins, reachedAll, Marker.reached]
    rfl
  rw [Node.starts_append, Document.starts_nodes, Document.starts_nodes, Document.starts_nodes,
    Marker.reachedAll_append, Marker.starts_append, List.append_cancel_left_eq, behind, behind] at same
  rw [begins, anchored_behind_book]
  by_contra unsettled
  obtain ⟨chapter, loose⟩ := not_or.mp unsettled
  refine Marker.starts_ne loose ?_ ?_ same
  · rfl
  · change (Marker.arriveAll .usx3_0 .start (reachedAll first.contents)).chapter ≠ 1
    rw [Marker.chapter_arriveAll]
    exact chapter

/-- Books that are rendered as one document come out as they do one by one exactly if the verses
of the second document come after a chapter of its own. The chapter that was entered last is the one
thing that a new book takes over, so it does no harm if it is the first. -/
theorem books_render_one_by_one {collectStatistics : Bool} {first second : Document} {one other : RenderResult}
    (renderedFirst : (render ⟨true, .usx3_0, collectStatistics⟩ first).2 = .ok one)
    (renderedSecond : (render ⟨true, .usx3_0, collectStatistics⟩ second).2 = .ok other)
    (begins : ∃ identifier contents rest, second.contents = ⟨.book identifier, contents⟩ :: rest) :
    ∃ both, (render ⟨true, .usx3_0, collectStatistics⟩ ⟨first.contents ++ second.contents⟩).2 = .ok both ∧
      (both.content = one.content ++ other.content ↔
        lastChapter 1 (reachedAll first.contents) = 1 ∨ Anchored (reachedAll second.contents)) := by
  obtain ⟨both, rendered⟩ : ∃ both,
      (render ⟨true, .usx3_0, collectStatistics⟩ ⟨first.contents ++ second.contents⟩).2 = .ok both := by
    rw [render_ok_iff_nameable, Marker.reachedAll_append, List.forall_mem_append]
    exact ⟨render_ok_iff_nameable.mp ⟨one, renderedFirst⟩, render_ok_iff_nameable.mp ⟨other, renderedSecond⟩⟩
  obtain ⟨text, named⟩ := content_eq_tokens rendered
  obtain ⟨textFirst, namedFirst⟩ := content_eq_tokens renderedFirst
  obtain ⟨textSecond, namedSecond⟩ := content_eq_tokens renderedSecond
  refine ⟨both, rendered, ?_⟩
  rw [← String.toList_inj, String.toList_append, text, textFirst, textSecond, ← List.flatMap_append,
    ← Node.tokensAll_append]
  constructor
  · intro same
    have together := List.forall_mem_append.mpr ⟨namedFirst, namedSecond⟩
    rw [← List.filterMap_append, ← Node.tokensAll_append] at together
    have tags := Xml.tags_of_text_eq named together same
    exact settled_of_starts begins (congrArg (List.filterMap Xml.Tag.start?) tags)
  · intro settled
    rw [nodes_append_book rfl begins settled]

/-- A book that ends in its fourth chapter. -/
def ruth : Document := ⟨[⟨.book "RUT Ruth", []⟩, ⟨.chapter 4, [⟨.verse "22", []⟩]⟩]⟩

def samuel (contents : List Marker) : Document := ⟨⟨.book "1SA 1 Samuel", []⟩ :: contents⟩

theorem books_render_one_by_one_of_ruth_and_samuel :
    ∃ one other both, (render ⟨true, .usx3_0, false⟩ ruth).2 = .ok one ∧
      (render ⟨true, .usx3_0, false⟩ (samuel [⟨.chapter 1, [⟨.verse "1", []⟩]⟩])).2 = .ok other ∧
      (∃ identifier contents rest,
        (samuel [⟨.chapter 1, [⟨.verse "1", []⟩]⟩]).contents = ⟨.book identifier, contents⟩ :: rest) ∧
      (render ⟨true, .usx3_0, false⟩
        ⟨ruth.contents ++ (samuel [⟨.chapter 1, [⟨.verse "1", []⟩]⟩]).contents⟩).2 = .ok both ∧
      both.content = one.content ++ other.content := by
  obtain ⟨one, rendered⟩ : ∃ one, (render ⟨true, .usx3_0, false⟩ ruth).2 = .ok one :=
    render_ok_iff_nameable.mpr (by decide)
  obtain ⟨other, rendered'⟩ : ∃ other,
      (render ⟨true, .usx3_0, false⟩ (samuel [⟨.chapter 1, [⟨.verse "1", []⟩]⟩])).2 = .ok other :=
    render_ok_iff_nameable.mpr (by decide)
  have anchored : Anchored (reachedAll (samuel [⟨.chapter 1, [⟨.verse "1", []⟩]⟩]).contents) := by
    unfold Anchored
    decide
  obtain ⟨both, together, joined⟩ := books_render_one_by_one rendered rendered' ⟨_, _, _, rfl⟩
  exact ⟨one, other, both, rendered, rendered', ⟨_, _, _, rfl⟩, together, joined.mpr (.inr anchored)⟩

/-- A verse that stands before the first chapter of its book is counted to the last chapter of the
book before. -/
theorem verse_takes_chapter_of_book_before :
    ∃ one other both, (render ⟨true, .usx3_0, false⟩ ruth).2 = .ok one ∧
      (render ⟨true, .usx3_0, false⟩ (samuel [⟨.verse "1", []⟩])).2 = .ok other ∧
      (render ⟨true, .usx3_0, false⟩ ⟨ruth.contents ++ (samuel [⟨.verse "1", []⟩]).contents⟩).2 = .ok both ∧
      both.content ≠ one.content ++ other.content := by
  obtain ⟨one, rendered⟩ : ∃ one, (render ⟨true, .usx3_0, false⟩ ruth).2 = .ok one :=
    render_ok_iff_nameable.mpr (by decide)
  obtain ⟨other, rendered'⟩ : ∃ other, (render ⟨true, .usx3_0, false⟩ (samuel [⟨.verse "1", []⟩])).2 = .ok other :=
    render_ok_iff_nameable.mpr (by decide)
  obtain ⟨both, together⟩ : ∃ both,
      (render ⟨true, .usx3_0, false⟩ ⟨ruth.contents ++ (samuel [⟨.verse "1", []⟩]).contents⟩).2 = .ok both :=
    render_ok_iff_nameable.mpr (by decide)
  refine ⟨one, other, both, rendered, rendered', together, fun same => ?_⟩
  have texts := congrArg String.toList same
  rw [String.toList_append, (content_eq_tokens rendered).1, (content_eq_tokens rendered').1,
    (content_eq_tokens together).1] at texts
  revert texts
  decide +kernel

end Usx

end ScriptureMarkup
