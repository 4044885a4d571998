import ScriptureMarkup.Proofs.Documents.Preorder
import ScriptureMarkup.Proofs.Markup.Body
import ScriptureMarkup.Proofs.Xml.Grammar

namespace ScriptureMarkup.Usx

open Xml.Grammar (isEncodingCharacter isEncodingName isEncodingCharacter_of_mem)

theorem attributeCharacter_of_isEncodingCharacter {c : Char} (known : isEncodingCharacter c = true) :
    attributeCharacter c = [c] := by
  unfold attributeCharacter textCharacter
  split_ifs with quote apostrophe ampersand less greater
  · simp [quote, isEncodingCharacter] at known
  · simp [apostrophe, isEncodingCharacter] at known
  · simp [ampersand, isEncodingCharacter] at known
  · simp [less, isEncodingCharacter] at known
  · simp [greater, isEncodingCharacter] at known
  · rfl

/-- What no name of an encoding may hold is not hidden by a reference, which begins with an ampersand. -/
theorem exists_mem_attributeCharacter {c : Char} (unknown : isEncodingCharacter c = false) :
    ∃ d ∈ attributeCharacter c, isEncodingCharacter d = false := by
  unfold attributeCharacter textCharacter
  split_ifs
  · exact ⟨'&', by decide, by decide⟩
  · exact ⟨'&', by decide, by decide⟩
  · exact ⟨'&', by decide, by decide⟩
  · exact ⟨'&', by decide, by decide⟩
  · exact ⟨'&', by decide, by decide⟩
  · exact ⟨c, List.mem_singleton_self c, unknown⟩

theorem isEncodingName_escapedAttribute (encoding : String) :
    isEncodingName (escapedAttribute encoding).toList = isEncodingName encoding.toList := by
  by_cases known : ∀ c ∈ encoding.toList, isEncodingCharacter c = true
  · have plain : Plain encoding := fun c member => attributeCharacter_of_isEncodingCharacter (known c member)
    rw [plain.escapedAttribute_eq]
  · obtain ⟨c, member, unknown⟩ : ∃ c ∈ encoding.toList, isEncodingCharacter c = false := by simpa using known
    obtain ⟨d, inside, shown⟩ := exists_mem_attributeCharacter unknown
    have written : d ∈ (escapedAttribute encoding).toList := by
      rw [escapedAttribute, String.toList_ofList]
      exact List.mem_flatMap.mpr ⟨c, member, inside⟩
    have noName {name : List Char} {e : Char} (member : e ∈ name) (unknown : isEncodingCharacter e = false) :
        isEncodingName name = false :=
      Bool.eq_false_iff.mpr fun named => by simp [isEncodingCharacter_of_mem named e member] at unknown
    rw [noName written shown, noName member unknown]

theorem declaration_dropLast (encoding : String) :
    (declaration (some encoding)).toList.dropLast =
      "<?xml version=\"1.0\" encoding=\"".toList ++ ((escapedAttribute encoding).toList ++ "\"?>".toList) := by
  have ends : "\"?>\n".toList = "\"?>".toList ++ ['\n'] := rfl
  have written : (declaration (some encoding)).toList =
      "<?xml version=\"1.0\" encoding=\"".toList ++ ((escapedAttribute encoding).toList ++ "\"?>".toList) ++
        ['\n'] := by
    change ("<?xml version=\"1.0\" encoding=\"" ++ escapedAttribute encoding ++ "\"?>\n").toList = _
    rw [String.toList_append, String.toList_append, ends, List.append_assoc, List.append_assoc, List.append_assoc]
  rw [written, List.dropLast_concat]

theorem declaration_mem_grammar_iff (encoding : Option String) :
    (declaration encoding).toList.dropLast ∈ Xml.Grammar.declaration ↔
      ∀ name ∈ encoding, isEncodingName name.toList = true := by
  cases encoding with
  | none =>
    have written : (declaration none).toList.dropLast = "<?xml version=\"1.0\"?>".toList := by decide
    rw [written]
    exact iff_of_true Xml.Grammar.declaration_without_encoding (by simp)
  | some encoding =>
    have clean := (Xml.quote_bracket_not_mem_escapedAttribute encoding).1
    rw [declaration_dropLast, Xml.Grammar.declaration_with_encoding clean, isEncodingName_escapedAttribute]
    simp

variable {options : Options} {document : Document} {result : RenderResult}

theorem splitDeclaration_render (whole : options.partialOutput = false)
    (rendered : (render options document).2 = .ok result) :
    (Xml.splitDeclaration result.content.toList).1 = (declaration document.encodings.head?).toList.dropLast := by
  obtain ⟨progress, ran, rfl⟩ := render_ok_iff.mp rendered
  rw [splitDeclaration_result ran, Options.front, whole, document.encoding_eq_head?]
  rfl

/-- A whole output begins with a declaration of XML exactly if the first encoding that is named anywhere
in the tree has a name that an encoding may have. Nothing else is checked of it: it is escaped like an
attribute of a tag, although a declaration may hold no references. -/
theorem declaration_legal_iff_encoding_named (whole : options.partialOutput = false)
    (rendered : (render options document).2 = .ok result) :
    (Xml.splitDeclaration result.content.toList).1 ∈ Xml.Grammar.declaration ↔
      ∀ encoding ∈ document.encodings.head?, isEncodingName encoding.toList = true := by
  rw [splitDeclaration_render whole rendered, declaration_mem_grammar_iff]

theorem declaration_legal_iff_encoding_named_of_utf8 :
    ∃ result, (render ⟨false, .usx3_0, false⟩ ⟨[⟨.field .ide "UTF-8", []⟩]⟩).2 = .ok result ∧
      (Xml.splitDeclaration result.content.toList).1 ∈ Xml.Grammar.declaration := by
  obtain ⟨result, rendered⟩ : ∃ result,
      (render ⟨false, .usx3_0, false⟩ ⟨[⟨.field .ide "UTF-8", []⟩]⟩).2 = .ok result :=
    render_ok_iff_nameable.mpr (by decide)
  have legal := declaration_legal_iff_encoding_named rfl rendered
  exact ⟨result, rendered, legal.mpr (by decide)⟩

/-- What files that name their code page have as their encoding. -/
theorem declaration_with_code_page_is_illegal :
    ∃ result, (render ⟨false, .usx3_0, false⟩ ⟨[⟨.field .ide "65001 - Unicode (UTF-8)", []⟩]⟩).2 = .ok result ∧
      (Xml.splitDeclaration result.content.toList).1 =
        "<?xml version=\"1.0\" encoding=\"65001 - Unicode (UTF-8)\"?>".toList ∧
      (Xml.splitDeclaration result.content.toList).1 ∉ Xml.Grammar.declaration := by
  obtain ⟨result, rendered⟩ : ∃ result,
      (render ⟨false, .usx3_0, false⟩ ⟨[⟨.field .ide "65001 - Unicode (UTF-8)", []⟩]⟩).2 = .ok result :=
    render_ok_iff_nameable.mpr (by decide)
  have front : (Xml.splitDeclaration result.content.toList).1 =
      (declaration (some "65001 - Unicode (UTF-8)")).toList.dropLast := splitDeclaration_render rfl rendered
  refine ⟨result, rendered, front.trans (by decide), fun legal => ?_⟩
  rw [front, declaration_mem_grammar_iff] at legal
  exact absurd (legal _ rfl) (by decide)

end ScriptureMarkup.Usx
