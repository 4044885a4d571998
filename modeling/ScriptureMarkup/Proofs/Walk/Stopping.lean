import ScriptureMarkup.Proofs.Walk.Trail

namespace ScriptureMarkup

open Usx (Dialect MalformedBook Options Progress Stopped)

/-- What a marker makes a rendering fail with: a book whose text is too short for a code and what
separates it from a label. -/
def Kind.malformed? : Kind → Option MalformedBook
  | .book identifier => if identifier.length < 4 then some ⟨identifier⟩ else none
  | _ => none

theorem Kind.isNameable_eq (kind : Kind) : kind.isNameable = kind.malformed?.isNone := by
  cases kind with
  | book identifier =>
    by_cases short : identifier.length < 4
    · simp [isNameable, malformed?, short, Nat.not_le.mpr short]
    · simp [isNameable, malformed?, short, Nat.not_lt.mp short]
  | text | chapter | verse | word | field | heading | leveled | bare | unknown => rfl

theorem Kind.malformed?_eq_some {kind : Kind} {malformed : MalformedBook} :
    kind.malformed? = some malformed ↔ kind = .book malformed.identifier ∧ malformed.identifier.length < 4 := by
  cases kind with
  | book identifier =>
    obtain ⟨text⟩ := malformed
    by_cases short : identifier.length < 4
    · simp only [malformed?, short, if_true, Option.some.injEq, MalformedBook.mk.injEq, book.injEq]
      exact ⟨fun same => ⟨same, same ▸ short⟩, And.left⟩
    · simp only [malformed?, short, if_false, book.injEq, reduceCtorEq, false_iff, not_and]
      exact fun same => same ▸ short
  | text | chapter | verse | word | field | heading | leveled | bare | unknown => simp [malformed?]

namespace Marker

def firstMalformed (markers : List Marker) : Option MalformedBook :=
  markers.findSome? fun marker => marker.kind.malformed?

theorem firstMalformed_append (front back : List Marker) :
    firstMalformed (front ++ back) = (firstMalformed front).or (firstMalformed back) :=
  List.findSome?_append

theorem nameable_iff_malformed? {markers : List Marker} :
    (∀ marker ∈ markers, marker.kind.isNameable = true) ↔ ∀ marker ∈ markers, marker.kind.malformed? = none := by
  simp only [Kind.isNameable_eq, Option.isNone_iff_eq_none]

theorem nameable_iff_books {markers : List Marker} :
    (∀ marker ∈ markers, marker.kind.isNameable = true) ↔
      ∀ identifier inner, ⟨.book identifier, inner⟩ ∈ markers → 4 ≤ identifier.length := by
  constructor
  · intro nameable identifier inner member
    simpa [Kind.isNameable] using nameable _ member
  · rintro named ⟨kind, contents⟩ member
    cases kind with
    | book identifier => simpa [Kind.isNameable] using named identifier contents member
    | text | chapter | verse | word | field | heading | leveled | bare | unknown => rfl

end Marker

namespace Usx

open Marker (firstMalformed reachedAll tried tried_append)

theorem enter_error {dialect : Dialect} {kind : Kind} {position : Position} {malformed : MalformedBook}
    (failed : enter dialect kind position = .error malformed) : kind.malformed? = some malformed := by
  cases kind with
  | book identifier =>
    have short : ¬4 ≤ identifier.length := by
      rw [← splitBookIdentifier_ok_iff]
      rintro ⟨⟨code, label⟩, split⟩
      simp [enter, split] at failed
    have same : malformed = ⟨identifier⟩ := by
      simp only [enter] at failed
      split at failed
      · rename_i told split
        cases failed
        unfold splitBookIdentifier at split
        split at split <;> cases split
        rfl
      · cases failed
    rw [Kind.malformed?, if_pos (Nat.not_le.mp short), same]
  | text | chapter | verse | word | field | heading | leveled | bare | unknown => cases failed

theorem Progress.enter_error {dialect : Dialect} {marker : Marker} {before : Progress} {stopped : Stopped}
    (failed : before.enter dialect marker = .error stopped) : marker.kind.malformed? = some stopped.malformed := by
  unfold Progress.enter at failed
  split at failed
  · rename_i malformed told
    cases failed
    exact Usx.enter_error told
  · split at failed <;> cases failed

/-- The book at which a walk has failed, if it has. -/
def failure? {α : Type} : Except Stopped α → Option MalformedBook
  | .error stopped => some stopped.malformed
  | .ok _ => none

theorem failure?_map {α β : Type} (f : α → β) (outcome : Except Stopped α) :
    failure? (outcome.map f) = failure? outcome := by
  cases outcome <;> rfl

/-- When markers are entered one after the other, the first that cannot be decides. -/
theorem failure?_foldlM (dialect : Dialect) (markers : List Marker) (before : Progress) :
    failure? (markers.foldlM (Progress.pass dialect) before) = firstMalformed markers := by
  induction markers generalizing before with
  | nil => rfl
  | cons marker markers ih =>
    rw [List.foldlM_cons, firstMalformed, List.findSome?_cons, Progress.pass]
    cases entered : before.enter dialect marker with
    | error stopped =>
      rw [Progress.enter_error entered]
      rfl
    | ok outcome =>
      have named := Progress.enter_nameable entered
      rw [Kind.isNameable_eq, Option.isNone_iff_eq_none] at named
      rw [named]
      exact ih outcome.1.withoutMarkup

theorem failure?_visitAll (dialect : Dialect) (markers : List Marker) (before : Progress) :
    failure? (visitAll dialect markers before) = firstMalformed (reachedAll markers) := by
  rw [← failure?_map Progress.withoutMarkup, visitAll_withoutMarkup, failure?_foldlM]

theorem render_error_iff {options : Options} {document : Document} {malformed : MalformedBook} :
    (render options document).2 = .error malformed ↔
      firstMalformed (reachedAll document.contents) = some malformed := by
  rw [render_outcome, ← failure?_visitAll options.dialect _ (.start #[openingRecord options document])]
  cases visitAll options.dialect document.contents (.start #[openingRecord options document]) with
  | error stopped => simp [failure?]
  | ok progress => simp [failure?]

theorem render_ok_iff_firstMalformed {options : Options} {document : Document} :
    (∃ result, (render options document).2 = .ok result) ↔ firstMalformed (reachedAll document.contents) = none := by
  rw [render_ok_iff_nameable, Marker.nameable_iff_malformed?, firstMalformed, List.findSome?_eq_none_iff]

/-- A rendering fails exactly if a book is reached whose text is too short to name it, and then at
the first one in the order of the text, whatever the options are. The loop has entered what is
reached before that book and the book itself, and nothing behind it. In every other case the
rendering succeeds, whatever the tree is. -/
theorem rendering_fails_at_first_unnamed_book (options : Options) (document : Document) :
    (∀ malformed, (render options document).2 = .error malformed ↔
        ∃ before contents after,
          reachedAll document.contents = before ++ ⟨.book malformed.identifier, contents⟩ :: after ∧
          malformed.identifier.length < 4 ∧
          (∀ identifier inner, ⟨.book identifier, inner⟩ ∈ before → 4 ≤ identifier.length) ∧
          ∀ n, 2 * Marker.countAll document.contents ≤ n →
            trail options.dialect n (enterAll document.contents []) (.start #[openingRecord options document]) =
              before ++ [⟨.book malformed.identifier, contents⟩]) ∧
      ((∃ result, (render options document).2 = .ok result) ↔
        ∀ identifier inner, ⟨.book identifier, inner⟩ ∈ reachedAll document.contents → 4 ≤ identifier.length) ∧
      ∀ (other : Options) (malformed : MalformedBook),
        (render other document).2 = .error malformed ↔ (render options document).2 = .error malformed := by
  refine ⟨fun malformed => ?_, ?_, fun other malformed => ?_⟩
  · rw [render_error_iff, firstMalformed, List.findSome?_eq_some_iff]
    constructor
    · rintro ⟨before, ⟨kind, contents⟩, after, split, found, clean⟩
      obtain ⟨rfl, short⟩ := Kind.malformed?_eq_some.mp found
      have named := Marker.nameable_iff_malformed?.mpr clean
      refine ⟨before, contents, after, split, short, Marker.nameable_iff_books.mp named, fun n bound => ?_⟩
      have unnamed : (Kind.book malformed.identifier).isNameable = false := by
        rw [Kind.isNameable_eq, found]
        rfl
      rw [trail_enterAll _ _ bound, split, tried_append named, tried, unnamed]
      rfl
    · rintro ⟨before, contents, after, split, short, clean, _⟩
      have named := Marker.nameable_iff_books.mpr clean
      exact ⟨before, _, after, split, Kind.malformed?_eq_some.mpr ⟨rfl, short⟩,
        Marker.nameable_iff_malformed?.mp named⟩
  · exact render_ok_iff_nameable.trans Marker.nameable_iff_books
  · rw [render_error_iff, render_error_iff]

end Usx

end ScriptureMarkup
