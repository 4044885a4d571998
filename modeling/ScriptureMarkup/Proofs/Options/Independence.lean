import ScriptureMarkup.Proofs.Counts.Tally
import ScriptureMarkup.Proofs.Documents.Preorder

namespace ScriptureMarkup.Usx

namespace Progress

/-- The same progress behind something that had been written and counted before it began. -/
def behind (written : Array Piece) (counts : Statistics) (progress : Progress) : Progress :=
  { progress with
    markup := written ++ progress.markup
    statistics := counts.merge progress.statistics }

variable (written : Array Piece) (counts : Statistics)

theorem put_behind (progress : Progress) (pieces : List Piece) :
    (progress.behind written counts).put pieces = (progress.put pieces).behind written counts := by
  have joined : written ++ progress.markup ++ pieces = written ++ (progress.markup ++ pieces) := by
    simp [← Array.toList_inj]
  simp only [put, behind, joined]

theorem move_behind (progress : Progress) (position : Position) (output : Output) :
    (progress.behind written counts).move position output = (progress.move position output).behind written counts := by
  have joined : written ++ progress.markup ++ output.pieces = written ++ (progress.markup ++ output.pieces) := by
    simp [← Array.toList_inj]
  simp only [move, behind, joined]

theorem enter_behind (dialect : Dialect) (marker : Marker) (progress : Progress) :
    (progress.behind written counts).enter dialect marker =
      (progress.enter dialect marker).map fun entered => (entered.1.behind written counts, entered.2) := by
  have same : (progress.behind written counts).position = progress.position := rfl
  unfold enter
  rw [same]
  cases Usx.enter dialect marker.kind progress.position with
  | error malformed => rfl
  | ok step =>
    dsimp only
    rw [move_behind]
    have counted (moved : Progress) :
        (moved.behind written counts).count marker.kind = (moved.count marker.kind).behind written counts := by
      simp only [count, behind, Statistics.record_merge]
    have skipped (moved : Progress) :
        (moved.behind written counts).skip marker = (moved.skip marker).behind written counts := by
      simp only [skip, behind, Statistics.recordUnrenderable_merge]
    cases step.visit <;> simp only [counted, skipped, Except.map]

end Progress

/-- Neither what has been written nor what has been counted bears on a walk. -/
theorem walk_behind (dialect : Dialect) (written : Array Piece) (counts : Statistics) (frames : List Frame)
    (progress : Progress) :
    walk dialect frames (progress.behind written counts) =
      (walk dialect frames progress).map (Progress.behind written counts) := by
  induction frames, progress using walk.induct dialect with
  | case1 progress => rw [walk, walk]; rfl
  | case2 progress pieces frames ih => rw [walk, walk, Progress.put_behind, ih]
  | case3 progress marker frames stopped entered =>
    rw [walk, walk, Progress.enter_behind, entered]
    rfl
  | case4 progress marker frames opened entered ih =>
    rw [walk, walk, Progress.enter_behind, entered]
    exact ih
  | case5 progress marker frames opened close entered ih =>
    rw [walk, walk, Progress.enter_behind, entered]
    exact ih

/-- The line that a whole output begins with: it names the first of the encodings that are declared,
if there is one. -/
def openingLine (encodings : List String) : String :=
  "<?xml version=\"1.0\"" ++
    (match encodings with
      | [] => ""
      | encoding :: _ => " encoding=\"" ++ escapedAttribute encoding ++ "\"") ++
    "?>\n"

theorem declaration_eq (document : Document) : declaration document.encoding = openingLine document.encodings := by
  rw [document.encoding_eq_head?]
  cases document.encodings with
  | nil =>
    change "<?xml version=\"1.0\"?>\n" = "<?xml version=\"1.0\"" ++ "" ++ "?>\n"
    decide
  | cons encoding later =>
    have front : "<?xml version=\"1.0\" encoding=\"" = "<?xml version=\"1.0\"" ++ " encoding=\"" := by decide
    have back : "\"?>\n" = "\"" ++ "?>\n" := by decide
    change "<?xml version=\"1.0\" encoding=\"" ++ escapedAttribute encoding ++ "\"?>\n" =
      "<?xml version=\"1.0\"" ++ (" encoding=\"" ++ escapedAttribute encoding ++ "\"") ++ "?>\n"
    simp only [front, back, String.append_assoc]

theorem envelope_eq (dialect : Dialect) (document : Document) (body : String) :
    envelope dialect document.encoding body =
      openingLine document.encodings ++ "<usx version=\"" ++ dialect.version ++ "\">\n" ++ body ++ "</usx>\n" := by
  have root : markupText [.startTag "usx" none [("version", dialect.version)], .lineBreak] =
      "<usx version=\"" ++ dialect.version ++ "\">\n" := by
    cases dialect <;> decide
  have closed : markupText [.endTag "usx", .lineBreak] = "</usx>\n" := by decide
  simp only [envelope, declaration_eq, root, closed, String.append_assoc]

/-- Whatever else is asked for, a dialect has one walk through a document. -/
theorem render_from_one_walk (dialect : Dialect) (document : Document) :
    ∃ walked, ∀ partialOutput collectStatistics, render ⟨partialOutput, dialect, collectStatistics⟩ document =
      conclude ⟨partialOutput, dialect, collectStatistics⟩ document walked :=
  ⟨visitAll dialect document.contents (.start #[.rendering document.contents.length dialect document.encoding]),
    fun _ _ => render_eq_renderByRecursion _ document⟩

/-- The options do not meddle with each other. A whole output is the part of it that may be asked for
alone, within the root element and behind a line that declares the first encoding that is named
anywhere in the tree. Statistics come with the same result or are left out of it. What is noted and
how a rendering fails depend on neither, since a walk goes on in one way whatever has been written
and counted before. -/
theorem options_keep_apart (dialect : Dialect) (document : Document) :
    (∀ collectStatistics, (render ⟨false, dialect, collectStatistics⟩ document).2 =
        (render ⟨true, dialect, collectStatistics⟩ document).2.map fun part =>
          { part with content :=
              openingLine document.encodings ++ "<usx version=\"" ++ dialect.version ++ "\">\n" ++ part.content ++
                "</usx>\n" }) ∧
      (∀ partialOutput, (render ⟨partialOutput, dialect, false⟩ document).2 =
        (render ⟨partialOutput, dialect, true⟩ document).2.map fun counted =>
          { counted with statistics := none }) ∧
      (∃ counts, ∀ partialOutput, (render ⟨partialOutput, dialect, true⟩ document).2 =
        (render ⟨partialOutput, dialect, false⟩ document).2.map fun plain =>
          { plain with statistics := some counts }) ∧
      (∀ partialOutput collectStatistics, (render ⟨partialOutput, dialect, collectStatistics⟩ document).1 =
        (render ⟨true, dialect, false⟩ document).1) ∧
      ∀ frames progress written counts,
        walk dialect frames (progress.behind written counts) =
          (walk dialect frames progress).map (Progress.behind written counts) := by
  obtain ⟨walked, renders⟩ := render_from_one_walk dialect document
  simp only [renders]
  refine ⟨fun collectStatistics => ?whole, fun partialOutput => ?plain, ?counted,
    fun partialOutput collectStatistics => ?noted,
    fun frames progress written counts => walk_behind dialect written counts frames progress⟩
  case whole =>
    cases walked with
    | error stopped => rfl
    | ok progress =>
      simp only [conclude, Except.map, if_true, Bool.false_eq_true, if_false, envelope_eq]
  case plain =>
    cases walked <;> rfl
  case counted =>
    cases walked with
    | error stopped => exact ⟨.zero, fun _ => rfl⟩
    | ok progress => exact ⟨progress.statistics, fun _ => rfl⟩
  case noted =>
    cases walked <;> rfl

end ScriptureMarkup.Usx
