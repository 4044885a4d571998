import ScriptureMarkup.Proofs.Markup.Sound
import ScriptureMarkup.Proofs.Xml.Declaration

namespace ScriptureMarkup.Usx

/-- What stands around the pieces of a document: the root element, unless only a part is wanted. -/
def Options.wrap (options : Options) (pieces : List Piece) : List Piece :=
  if options.partialOutput then pieces
  else
    .lineBreak :: .startTag "usx" none [("version", options.dialect.version)] :: .lineBreak ::
      (pieces ++ [.endTag "usx", .lineBreak])

def Progress.pieces (dialect : Dialect) (progress : Progress) : List Piece := (progress.finish dialect).markup.toList

/-- What a walk through all markers of a document comes to. -/
def Options.result (options : Options) (document : Document) (progress : Progress) : RenderResult :=
  let body := markupText (progress.pieces options.dialect)
  ⟨if options.partialOutput then body else envelope options.dialect document.encoding body,
    progress.unrenderable, if options.collectStatistics then some progress.statistics else none⟩

theorem render_outcome (options : Options) (document : Document) :
    (render options document).2 =
      match visitAll options.dialect document.contents (.start #[openingRecord options document]) with
      | .error stopped => .error stopped.malformed
      | .ok progress => .ok (options.result document progress) := by
  rw [render_eq_renderByRecursion, renderByRecursion]
  cases visitAll options.dialect document.contents (.start #[openingRecord options document]) <;> rfl

/-- A rendering succeeds if it walks through all markers, and its result is what the walk has
brought about. -/
theorem render_ok_iff {options : Options} {document : Document} {result : RenderResult} :
    (render options document).2 = .ok result ↔
      ∃ progress, visitAll options.dialect document.contents (.start #[openingRecord options document]) = .ok progress ∧
        options.result document progress = result := by
  rw [render_outcome]
  cases visitAll options.dialect document.contents (.start #[openingRecord options document]) <;> simp

theorem render_succeeds {options : Options} {document : Document}
    (walks : ∀ journal, ∃ progress, visitAll options.dialect document.contents (.start journal) = .ok progress) :
    ∃ result, (render options document).2 = .ok result := by
  obtain ⟨progress, ran⟩ := walks #[openingRecord options document]
  exact ⟨options.result document progress, render_ok_iff.mpr ⟨progress, ran, rfl⟩⟩

theorem greater_not_mem_attributeCharacter (c : Char) : '>' ∉ attributeCharacter c := by
  unfold attributeCharacter textCharacter
  split_ifs with quote apostrophe ampersand less greater
  · decide
  · decide
  · decide
  · decide
  · decide
  · simpa using Ne.symm greater

/-- The declaration ends with the first `?>`, whatever encoding a document names. -/
theorem splitDeclaration_declaration (encoding : Option String) (text : List Char) :
    Xml.splitDeclaration ((declaration encoding).toList ++ text) =
      ((declaration encoding).toList.dropLast, '\n' :: text) := by
  have written : ∃ middle, '>' ∉ middle ∧
      (declaration encoding).toList = '<' :: '?' :: 'x' :: 'm' :: 'l' :: (middle ++ ['?', '>', '\n']) := by
    cases encoding with
    | none => exact ⟨" version=\"1.0\"".toList, by simp, rfl⟩
    | some encoding =>
      have clean := Xml.not_mem_escaped greater_not_mem_attributeCharacter encoding
      refine ⟨(" version=\"1.0\" encoding=\"" ++ escapedAttribute encoding ++ "\"").toList, ?_, ?_⟩
      · simpa [escapedAttribute] using clean
      · have opens : "<?xml version=\"1.0\" encoding=\"".toList =
            '<' :: '?' :: 'x' :: 'm' :: 'l' :: " version=\"1.0\" encoding=\"".toList := rfl
        have closes : "\"?>\n".toList = "\"".toList ++ ['?', '>', '\n'] := rfl
        change ("<?xml version=\"1.0\" encoding=\"" ++ escapedAttribute encoding ++ "\"?>\n").toList = _
        simp only [String.toList_append, opens, closes, List.cons_append, List.append_assoc]
  obtain ⟨middle, clean, same⟩ := written
  have ends := Xml.untilEnd_append clean ('\n' :: text)
  have front : ('<' :: '?' :: 'x' :: 'm' :: 'l' :: (middle ++ ['?', '>', '\n'])).dropLast =
      '<' :: '?' :: 'x' :: 'm' :: 'l' :: (middle ++ ['?', '>']) := by
    simp [List.dropLast_cons_of_ne_nil, List.dropLast_append_of_ne_nil]
  rw [same, front]
  simp [Xml.splitDeclaration, ends]

theorem sound_wrap {options : Options} {pieces : List Piece} (sound : ∀ piece ∈ pieces, piece.Sound) :
    ∀ piece ∈ options.wrap pieces, piece.Sound := by
  have root : SoundTag "usx" none [("version", options.dialect.version)] :=
    ⟨by decide, by simp, (by decide : SoundNames ["version"])⟩
  have named : Xml.LegalName "usx" := by decide
  unfold Options.wrap
  split
  · exact sound
  · simpa [or_imp, forall_and, Piece.Sound, Piece.lineBreak, root, named] using sound

theorem sound_tags {pieces : List Piece} (sound : ∀ piece ∈ pieces, piece.Sound) :
    ∀ tag ∈ (Xml.Content.ofTokens (pieces.map Piece.token)).tags,
      tag.WellNamed ∧ tag.names.Nodup := by
  intro tag member
  rw [Xml.Content.tags_ofTokens, List.filterMap_map] at member
  obtain ⟨piece, inside, found⟩ := List.mem_filterMap.mp member
  exact (sound piece inside).wellNamed found

/-- Markup reads as its pieces, each a tag or data. -/
theorem scan_markupText {pieces : List Piece} (sound : ∀ piece ∈ pieces, piece.Sound) :
    Xml.scan (markupText pieces).toList = some (Xml.Content.ofTokens (pieces.map Piece.token)).escaped :=
  Xml.scan_iff.mpr
    ⟨Xml.Content.legal_escaped fun tag member => (sound_tags sound tag member).1, (markupText_toList sound).symm⟩

theorem Progress.pieces_eq (dialect : Dialect) (progress : Progress) :
    progress.pieces dialect = progress.markup.toList ++ (progress.position.closeAll dialect).2.pieces :=
  Array.toList_appendList

theorem sound_pieces {options : Options} {document : Document} {journal : Array Record} {progress : Progress}
    (ran : visitAll options.dialect document.contents (.start journal) = .ok progress) :
    ∀ piece ∈ progress.pieces options.dialect, piece.Sound := by
  have walked := (kept_every sound_enter).visitAll ran (by simp [Progress.start])
  intro piece member
  rw [Progress.pieces_eq, List.mem_append] at member
  rcases member with old | closing
  · exact walked piece old
  · exact sound_closeAll options.dialect progress.position piece closing

def Options.front (options : Options) (document : Document) : List Char :=
  if options.partialOutput then [] else (declaration document.encoding).toList.dropLast

variable {options : Options} {document : Document} {journal : Array Record} {progress : Progress}

/-- Behind its declaration the content of a result is the text of the pieces with what stands
around them. -/
theorem splitDeclaration_result
    (ran : visitAll options.dialect document.contents (.start journal) = .ok progress) :
    Xml.splitDeclaration (options.result document progress).content.toList =
      (options.front document, (markupText (options.wrap (progress.pieces options.dialect))).toList) := by
  have sound := sound_pieces ran
  unfold Options.wrap Options.result Options.front
  by_cases part : options.partialOutput
  · have named := fun tag member => (sound_tags sound tag member).1
    simp only [part, if_true]
    rw [markupText_toList sound, (Xml.Content.legal_escaped named).splitDeclaration_eq]
  · have around : envelope options.dialect document.encoding (markupText (progress.pieces options.dialect)) =
        declaration document.encoding ++
          markupText (.startTag "usx" none [("version", options.dialect.version)] :: .lineBreak ::
            (progress.pieces options.dialect ++ [.endTag "usx", .lineBreak])) := by
      simp [envelope, markupText, String.append_assoc]
    simp only [part, Bool.false_eq_true, if_false]
    rw [around, String.toList_append, splitDeclaration_declaration]
    simp [markupText, Piece.text, Piece.lineBreak, escapedText, textCharacter]

/-- The body of a rendering reads as the pieces that the walk has written, each a tag or data. -/
theorem scan_body (ran : visitAll options.dialect document.contents (.start journal) = .ok progress) :
    (∀ piece ∈ options.wrap (progress.pieces options.dialect), piece.Sound) ∧
      Xml.scan (Xml.body (options.result document progress).content.toList) =
        some (Xml.Content.ofTokens ((options.wrap (progress.pieces options.dialect)).map Piece.token)).escaped := by
  have sound : ∀ piece ∈ options.wrap (progress.pieces options.dialect), piece.Sound := sound_wrap (sound_pieces ran)
  refine ⟨sound, ?_⟩
  rw [Xml.body, splitDeclaration_result ran]
  exact scan_markupText sound

end ScriptureMarkup.Usx
