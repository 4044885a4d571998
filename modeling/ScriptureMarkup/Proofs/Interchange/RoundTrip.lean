import ScriptureMarkup.Marker.Interchange
import ScriptureMarkup.Proofs.Interchange.Kinds
import ScriptureMarkup.Proofs.Json.Nesting
import ScriptureMarkup.Proofs.Json.ReadBack

namespace ScriptureMarkup

open Json (Answers Fault Input Reader Reads Value outcome within)

namespace Marker

/-- What holds of a marker if it holds of all its children, holds of every marker. -/
theorem induction {motive : Marker → Prop}
    (step : ∀ kind contents, (∀ child ∈ contents, motive child) → motive ⟨kind, contents⟩) (marker : Marker) :
    motive marker := by
  refine @Marker.rec motive (fun children => ∀ child ∈ children, motive child) step ?_ ?_ marker
  · simp
  · exact fun child children here others => List.forall_mem_cons.mpr ⟨here, others⟩

theorem toValues_eq (markers : List Marker) : toValues markers = markers.map toValue := by
  induction markers with
  | nil => rfl
  | cons marker markers ih => rw [toValues, ih, List.map_cons]

/-- The field for the children of a marker, which is there if there are any. -/
def contentsFields (contents : List Marker) : List (String × Value) :=
  if contents.isEmpty then [] else [("contents", .array (toValues contents))]

theorem toValue_eq (kind : Kind) (contents : List Marker) :
    toValue ⟨kind, contents⟩ = .object (kind.fields ++ contentsFields contents) := by
  rw [toValue, contentsFields]

theorem exact_toValue (marker : Marker) : marker.toValue.Exact := by
  induction marker using Marker.induction with
  | step kind contents ih =>
    rw [toValue_eq]
    refine Value.exactFields_iff.mpr (List.forall_mem_append.mpr ⟨kind.exact_fields, ?_⟩)
    unfold contentsFields
    split
    · simp
    · rw [List.forall_mem_singleton, toValues_eq]
      exact Value.exactItems_iff.mpr (List.forall_mem_map.mpr ih)

theorem exact_toValues (markers : List Marker) : Value.ExactItems (toValues markers) := by
  rw [toValues_eq]
  exact Value.exactItems_iff.mpr (List.forall_mem_map.mpr fun marker _ => marker.exact_toValue)

/-- One member of a marker: its children are read on the spot, all other fields are kept. -/
def member (children : Reader (List Marker)) (field : Reader Value) (state : Option (List Marker) × List (String × Value))
    (key : String) : Except Fault (Reader (Option (List Marker) × List (String × Value))) :=
  if key = "contents" then
    if state.1.isSome then .error (.duplicateField key)
    else .ok fun s => (children s).map (·.map fun contents => (some contents, state.2))
  else .ok fun s => (field s).map (·.map fun value => (state.1, Text.putEntry key value state.2))

/-- What a marker with some children has of its members where so many brackets may be open. -/
def answer (depth : Nat) (contents : List Marker) (state : Option (List Marker) × List (String × Value))
    (field : String × Value) : Except Fault (Option (List Marker) × List (String × Value)) :=
  if field.1 = "contents" then
    if state.1.isSome then .error (.duplicateField field.1)
    else within depth field.2.nesting (some contents, state.2)
  else within depth field.2.nesting (state.1, Text.putEntry field.1 field.2.sorted state.2)

/-- Children are read back by a reader, if there are any. -/
def ReadsChildren (children : Reader (List Marker)) (depth : Nat) (contents : List Marker) : Prop :=
  contents ≠ [] → Reads children (Value.array (toValues contents)).written
    (within depth (Value.array (toValues contents)).nesting contents)

theorem ne_contents {kind : Kind} {field : String × Value} (inside : field ∈ kind.fields) : field.1 ≠ "contents" := by
  have apart := (List.nodup_append.mp kind.keys_apart).2.2
  exact apart field.1 (List.mem_map_of_mem inside) "contents" List.mem_cons_self

theorem answers_member {children : Reader (List Marker)} {depth : Nat} {contents : List Marker}
    (reads : ReadsChildren children depth contents) (kind : Kind) (state : Option (List Marker) × List (String × Value)) :
    ∀ field ∈ kind.fields ++ contentsFields contents,
      Answers (member children (Json.value depth)) state field (answer depth contents state field) := by
  refine List.forall_mem_append.mpr ⟨fun field inside => ?_, ?_⟩
  · have other := ne_contents inside
    have kept := (Json.reads_value (kind.exact_fields field inside) depth).map fun value =>
      (state.1, Text.putEntry field.1 value state.2)
    rw [Json.within_map] at kept
    simp only [Answers, member, answer, if_neg other]
    exact kept
  · unfold contentsFields
    split
    · simp
    · rename_i notEmpty
      have read := (reads fun none => notEmpty (by rw [none]; rfl)).map fun contents => (some contents, state.2)
      rw [Json.within_map] at read
      rw [List.forall_mem_singleton]
      cases known : state.1.isSome with
      | true => simp only [Answers, member, answer, known, if_true]
      | false =>
        simp only [Answers, member, answer, known, if_true, Bool.false_eq_true, if_false]
        exact read

/-- The members of a marker come to its children and the fields of its kind. -/
theorem foldlM_answer (depth : Nat) (kind : Kind) (contents : List Marker) :
    ∃ children, children.getD [] = contents ∧
      (kind.fields ++ contentsFields contents).foldlM (answer depth contents) (none, []) =
        within depth (Value.nestingFields (kind.fields ++ contentsFields contents))
          (children, kind.fields.foldl (fun fields field => Text.putEntry field.1 field.2.sorted fields) []) := by
  have kept : kind.fields.foldlM (answer depth contents) (none, []) =
      within depth (Value.nestingFields kind.fields)
        (none, kind.fields.foldl (fun fields field => Text.putEntry field.1 field.2.sorted fields) []) := by
    have each : ∀ state, ∀ field ∈ kind.fields, answer depth contents state field =
        within depth field.2.nesting (state.1, Text.putEntry field.1 field.2.sorted state.2) :=
      fun state field inside => if_neg (ne_contents inside)
    rw [Json.foldlM_within each, ← Value.nestingFields_eq]
    exact congrArg _ (List.foldl_hom (fun fields => (none, fields)) fun _ _ => rfl)
  unfold contentsFields
  split
  · rename_i empty
    exact ⟨none, (List.isEmpty_iff.mp empty).symm, by rw [List.append_nil, kept]⟩
  · refine ⟨some contents, rfl, ?_⟩
    rw [List.foldlM_append, kept, Value.nestingFields_append]
    refine Json.within_bind ?_
    rw [List.foldlM_cons]
    have alone : Value.nestingFields [("contents", Value.array (toValues contents))] =
        (Value.array (toValues contents)).nesting := Nat.max_zero _
    rw [alone]
    change (within depth _ _ >>= pure) = _
    exact bind_pure _

theorem body_eq (children : Reader (List Marker)) (field : Reader Value) (s : Input) :
    body children field s = (Json.members (member children field) (none, []) s >>= Json.Layout.finishing
      fun state => (Kind.ofFields state.2).map fun kind => ⟨kind, state.1.getD []⟩) := by
  unfold body member
  dsimp only
  generalize Json.members _ _ s = ran
  cases ran <;> rfl

/-- Behind its bracket a marker is read back, where its nesting is allowed. -/
theorem outcome_body {children : Reader (List Marker)} {depth : Nat} {kind : Kind} {contents : List Marker}
    (reads : ReadsChildren children depth contents) (rest : Input) :
    outcome (body children (Json.value depth)
        ((Json.separated ((kind.fields ++ contentsFields contents).map Json.writtenField)).map some ++ some '\x7d' :: rest)) =
      (within depth (Value.nestingFields (kind.fields ++ contentsFields contents)) ⟨kind, contents⟩).map (·, rest) := by
  obtain ⟨state, same, run⟩ := foldlM_answer depth kind contents
  have members := Json.outcome_members (none, []) (answers_member reads kind) rest
  rw [run] at members
  refine body_eq children _ _ ▸ Json.outcome_finishing _ ?_ members
  simp only [kind.ofFields_putEntry, same]
  rfl

theorem reads_markers {depth : Nat} {markers : List Marker}
    (each : ∀ marker ∈ markers, Reads (reader depth) marker.toValue.written (within depth marker.toValue.nesting marker)) :
    Reads (Json.arrayOf (some (reader depth))) (Value.array (toValues markers)).written
      (within (depth + 1) (Value.array (toValues markers)).nesting markers) := by
  have read := Json.reads_arrayOf each
  rw [List.map_id'] at read
  rw [Value.written, Value.nesting, Value.writtenItems_eq, Value.nestingItems_eq, toValues_eq, List.map_map, List.map_map]
  exact read

/-- A written marker is read back, where its nesting is allowed. -/
theorem reads_marker (marker : Marker) (depth : Nat) :
    Reads (reader depth) marker.toValue.written (within depth marker.toValue.nesting marker) := by
  refine ⟨Json.begins_written marker.exact_toValue, fun rest ends => ?_⟩
  induction marker using Marker.induction generalizing depth rest with
  | step kind contents ih =>
    rw [toValue_eq, Value.written, Json.bracketed, Value.nesting, Value.writtenFields_eq]
    rcases depth with _ | _ | depth
    · rfl
    · have reads : ReadsChildren (Json.arrayOf none) 0 contents :=
        fun _ => ⟨⟨'[', _, rfl, rfl, by decide⟩, fun rest ends => rfl⟩
      rw [reader, Json.outcome_objectOf, outcome_body reads, Json.within_succ]
    · have reads : ReadsChildren (Json.arrayOf (some (reader depth))) (depth + 1) contents :=
        fun _ => reads_markers fun child inside =>
          ⟨Json.begins_written child.exact_toValue, fun rest ends => ih child inside depth rest ends⟩
      rw [reader, Json.outcome_objectOf, outcome_body reads, Json.within_succ]

end Marker

namespace Document

theorem exact_toValue (document : Document) : document.toValue.Exact :=
  Value.exactFields_iff.mpr (List.forall_mem_singleton.mpr (Marker.exact_toValues document.contents))

/-- What a document has of its members. -/
def answer (contents : List Marker) (state : List String × Option (List Marker)) (field : String × Value) :
    Except Fault (List String × Option (List Marker)) :=
  if state.1.contains field.1 then .error (.duplicateField field.1)
  else within (Json.maxDepth - 1) field.2.nesting (field.1 :: state.1, some contents)

theorem answers_member (contents : List Marker) (state : List String × Option (List Marker)) :
    Answers layout.member state ("contents", .array (Marker.toValues contents))
      (answer contents state ("contents", .array (Marker.toValues contents))) := by
  have read := Marker.reads_markers fun marker (_ : marker ∈ contents) => marker.reads_marker (Json.maxDepth - 2)
  have found : layout.fields.lookup "contents" = some fun _ s =>
      (Json.arrayOf (some (Marker.reader (Json.maxDepth - 2))) s).map (·.map some) := rfl
  cases known : state.1.contains "contents" with
  | true => simp only [Answers, Json.Layout.member, found, answer, known, if_true]
  | false =>
    simp only [Answers, Json.Layout.member, found, answer, known, Bool.false_eq_true, if_false]
    have put := (read.map some).map fun value => ("contents" :: state.1, value)
    rw [Json.within_map, Json.within_map] at put
    exact put

theorem foldlM_answer (contents : List Marker) (key : String) (value : Value) :
    [(key, value)].foldlM (answer contents) ([], none) =
      within (Json.maxDepth - 1) (Value.nestingFields [(key, value)]) ([key], some contents) := by
  have alone : Value.nestingFields [(key, value)] = value.nesting := Nat.max_zero _
  rw [alone, List.foldlM_cons]
  change (within (Json.maxDepth - 1) _ _ >>= pure) = _
  exact bind_pure _

/-- A written document is read back, where its nesting is allowed. -/
theorem outcome_reader (document : Document) :
    outcome (reader (document.toValue.written.map some)) =
      (within Json.maxDepth document.toValue.nesting document).map (·, []) := by
  obtain ⟨contents⟩ := document
  have each : ∀ state, ∀ field ∈ [("contents", Value.array (Marker.toValues contents))],
      Answers layout.member state field (answer contents state field) :=
    fun state => List.forall_mem_singleton.mpr (answers_member contents state)
  have members := Json.outcome_members ([], none) each []
  rw [foldlM_answer, ← Value.writtenFields_eq] at members
  have opens := Json.bracketed '\x7b' '\x7d' (Value.writtenFields [("contents", .array (Marker.toValues contents))]) []
  rw [List.append_nil] at opens
  rw [toValue, Value.written, opens, Value.nesting, reader]
  rw [Json.outcome_layoutReader (fun contents : Option (List Marker) => .ok (mk (contents.getD []))) _ rfl members]
  exact congrArg _ (Json.within_succ (Json.maxDepth - 1) _ _).symm

/-- A document whose nesting is allowed is read back from its own text. -/
theorem ofText_written {document : Document} (shallow : document.toValue.nesting ≤ Json.maxDepth) :
    ofText document.written = .ok document := by
  have text : document.written.toList = document.toValue.written := String.toList_ofList
  have read := outcome_reader document
  rw [within, if_pos shallow] at read
  obtain ⟨shorter, read⟩ := Json.of_outcome read
  rw [ofText, ofInput, Reader.whole, Input.ofString, text, read]
  rfl

/-- Every document is read back from its own text, unless more than 127 arrays and objects of the text
lie in each other; then the reader says so. -/
theorem document_reads_back (document : Document) :
    (ofText document.written =
      if Json.nesting document.written.toList ≤ 127 then .ok document else .error .tooDeep) ∧
      Fault.message .tooDeep = "recursion limit exceeded" := by
  refine ⟨?_, rfl⟩
  have text : document.written.toList = document.toValue.written := String.toList_ofList
  have read : outcome (reader (document.toValue.written.map some)) =
      (within 127 document.toValue.nesting document).map (·, []) := outcome_reader document
  rw [text, Json.nesting_written document.exact_toValue, ofText, ofInput, Reader.whole, Input.ofString, text]
  unfold within at read
  by_cases shallow : document.toValue.nesting ≤ 127
  · rw [if_pos shallow] at read ⊢
    obtain ⟨shorter, read⟩ := Json.of_outcome read
    rw [read]
    rfl
  · rw [if_neg shallow] at read ⊢
    rw [Json.of_outcome_error read]

end Document

end ScriptureMarkup
