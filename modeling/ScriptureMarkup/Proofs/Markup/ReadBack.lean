import ScriptureMarkup.Proofs.Markup.Skeleton
import ScriptureMarkup.Proofs.Markup.Written

namespace ScriptureMarkup

open Xml (Balanced Content Node Tag Token)
open Xml.Node (tokensAll)

theorem Xml.Tag.bare_escaped (tag : Tag) : tag.escaped.bare = tag.bare := by cases tag <;> rfl

namespace Usx

/-- The markup of a whole walk is the tree that its document dictates. -/
theorem tokens_pieces {options : Options} {document : Document} {journal : Array Record} {progress : Progress}
    (ran : visitAll options.dialect document.contents (.start journal) = .ok progress) :
    (options.wrap (progress.pieces options.dialect)).map Piece.token = tokensAll (document.nodes options) := by
  obtain ⟨ended, written⟩ := visitAll_writes document.contents ran
  have start : (Progress.start journal).position = .start := rfl
  have empty : (Progress.start journal).markup.toList = [] := rfl
  rw [start] at ended written
  rw [empty, List.map_nil, List.nil_append] at written
  have inner : (progress.pieces options.dialect).map Piece.token =
      tokensAll (Marker.nodesAll options.dialect document.contents .start).1 ++
        tokensAll ((Marker.nodesAll options.dialect document.contents .start).2.ends options.dialect) := by
    rw [Progress.pieces_eq, List.map_append, written, ended, tokensAll_ends]
  rw [Options.wrap, Document.nodes_eq]
  dsimp only
  split
  · rw [inner, Node.tokensAll_append]
  · simp [inner, tokensAll, Node.tokens, Node.tokensAll_append, Piece.token, Piece.lineBreak, Node.lineBreak, styleEntry]

/-- What a rendering writes can be read in one way only, and gives back the tree that the document
dictates, its texts and values unescaped. No text can add, remove or close a tag, since the tags
are those of the same document with all texts and values left empty. -/
theorem content_reads_back {options : Options} {document : Document} {result : RenderResult}
    (rendered : (render options document).2 = .ok result) :
    ∃ content, Xml.scan (Xml.body result.content.toList) = some content ∧
      (∀ other : Content, other.Legal ∧ other.text = Xml.body result.content.toList ↔ other = content) ∧
      Balanced content.tags ∧
      (∀ tag ∈ content.tags, tag.names.Nodup) ∧
      content.decode = some (.ofTokens (tokensAll (document.nodes options))) ∧
      content.tags.map Xml.Tag.bare = Node.skeleton (document.blank.nodes options) := by
  obtain ⟨progress, ran, rfl⟩ := render_ok_iff.mp rendered
  obtain ⟨sound, scanned⟩ := scan_body ran
  have names := sound_tags sound
  rw [tokens_pieces ran] at scanned names
  have tags : (Content.ofTokens (tokensAll (document.nodes options))).escaped.tags =
      ((tokensAll (document.nodes options)).filterMap Token.tag?).map Tag.escaped := by
    rw [Content.tags_escaped, Content.tags_ofTokens]
  refine ⟨_, scanned, fun other => ?_, ?_, fun tag member => ?_, Content.decode_escaped _, ?_⟩
  · rw [← Xml.scan_iff, scanned, Option.some.injEq, eq_comm]
  · rw [tags]
    exact (Node.balancedAll (document.nodes options)).escaped
  · rw [Content.tags_escaped] at member
    obtain ⟨original, inside, rfl⟩ := List.mem_map.mp member
    rw [original.names_escaped]
    exact (names original inside).2
  · rw [tags, List.map_map, ← document.skeleton_nodes, Node.skeleton]
    exact List.map_congr_left fun tag _ => tag.bare_escaped

/-- A book's label, the caller of a note and the number of a verse that would all be markup. -/
theorem content_reads_back_of_markup_in_texts :
    ∃ result, (render ⟨false, .usx3_0, true⟩
        ⟨[⟨.book "GEN </book><para>", []⟩, ⟨.field .f "\"><verse/>", [⟨.verse "&lt;", []⟩]⟩]⟩).2 = .ok result ∧
      ∃ content, Xml.scan (Xml.body result.content.toList) = some content ∧
        content.tags.map Xml.Tag.bare =
          [.opening "usx" [], .opening "book" [], .closing "book", .opening "note" [], .empty "verse" [],
            .closing "note", .empty "verse" [], .closing "usx"] := by
  have split : splitBookIdentifier "GEN </book><para>" = .ok ("GEN", "</book><para>") := rfl
  obtain ⟨result, rendered⟩ : ∃ result, (render ⟨false, .usx3_0, true⟩
      ⟨[⟨.book "GEN </book><para>", []⟩, ⟨.field .f "\"><verse/>", [⟨.verse "&lt;", []⟩]⟩]⟩).2 = .ok result := by
    refine render_succeeds fun journal => ?_
    simp only [visitAll, visit, Progress.enter, enter, split]
    exact ⟨_, rfl⟩
  obtain ⟨content, scanned, _, _, _, _, tags⟩ := content_reads_back rendered
  exact ⟨result, rendered, content, scanned, tags⟩

end Usx

end ScriptureMarkup
