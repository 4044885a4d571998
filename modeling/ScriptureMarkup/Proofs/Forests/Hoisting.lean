import Mathlib.Logic.Relation
import ScriptureMarkup.Proofs.Documents.Preorder
import ScriptureMarkup.Proofs.Forests.Interchangeable
import ScriptureMarkup.Proofs.Walk.Completeness

namespace ScriptureMarkup

open Relation (ReflTransGen)
open Usx (Dialect Interchangeable Options Progress Step render)

/-- Chapters, verses, titles and headings, whose markup is complete before that of their children. -/
def Kind.standsAlone : Kind → Bool
  | .chapter _ | .verse _ => true
  | .field tag _ => [TextTag.toc1, .toc2, .toc3, .d].contains tag
  | .heading tag .. => [HeadingTag.mt, .ms, .s].contains tag
  | .text _ | .book _ | .word .. | .leveled .. | .bare _ | .unknown _ => false

/-- The children of one marker that stands alone are put behind it, wherever it stands. -/
inductive Hoists : List Marker → List Marker → Prop
  | here {kind : Kind} (alone : kind.standsAlone = true) (contents rest : List Marker) :
      Hoists (⟨kind, contents⟩ :: rest) (⟨kind, []⟩ :: (contents ++ rest))
  | inside (kind : Kind) {contents others : List Marker} (rest : List Marker) :
      Hoists contents others → Hoists (⟨kind, contents⟩ :: rest) (⟨kind, others⟩ :: rest)
  | behind (marker : Marker) {rest others : List Marker} :
      Hoists rest others → Hoists (marker :: rest) (marker :: others)

namespace Marker

mutual

/-- A marker and its children, behind it if it stands alone, with the same done to all below. -/
def hoisted : Marker → List Marker
  | ⟨kind, contents⟩ =>
    if kind.standsAlone then ⟨kind, []⟩ :: hoistedAll contents else [⟨kind, hoistedAll contents⟩]

def hoistedAll : List Marker → List Marker
  | [] => []
  | marker :: markers => marker.hoisted ++ hoistedAll markers

end

end Marker

open Marker (descendants hoistedAll)

namespace Hoists

theorem lift_inside (kind : Kind) (rest : List Marker) {contents others : List Marker}
    (hoists : ReflTransGen Hoists contents others) :
    ReflTransGen Hoists (⟨kind, contents⟩ :: rest) (⟨kind, others⟩ :: rest) :=
  hoists.lift (fun contents => ⟨kind, contents⟩ :: rest) fun _ _ => .inside kind rest

theorem lift_behind (front : List Marker) {rest others : List Marker} (hoists : ReflTransGen Hoists rest others) :
    ReflTransGen Hoists (front ++ rest) (front ++ others) := by
  induction front with
  | nil => exact hoists
  | cons marker front ih => exact ih.lift (marker :: ·) fun _ _ => .behind marker

mutual

theorem marker (marker : Marker) (rest : List Marker) :
    ReflTransGen Hoists (marker :: rest) (marker.hoisted ++ rest) := by
  obtain ⟨kind, contents⟩ := marker
  have below := Hoists.lift_inside kind rest (Hoists.all contents)
  rw [Marker.hoisted]
  cases alone : kind.standsAlone with
  | true => exact below.tail (.here alone _ _)
  | false => exact below

/-- All that can be hoisted is, one marker after the other. -/
theorem all (markers : List Marker) : ReflTransGen Hoists markers (hoistedAll markers) := by
  match markers with
  | [] => exact .refl
  | marker :: markers =>
    exact (Hoists.marker marker markers).trans (Hoists.lift_behind marker.hoisted (Hoists.all markers))

end

theorem kinds_eq {markers others : List Marker} (hoists : Hoists markers others) :
    (descendants others).map Marker.kind = (descendants markers).map Marker.kind := by
  induction hoists with
  | here alone contents rest =>
    simp only [Marker.descendants_cons, Marker.descendants_append, descendants, List.nil_append, List.map_cons]
  | inside kind rest _ ih => simp only [Marker.descendants_cons, List.map_cons, List.map_append, ih]
  | behind marker _ ih => simp only [Marker.descendants_cons, List.map_cons, List.map_append, ih]

end Hoists

namespace Marker

mutual

theorem childless_hoisted (marker : Marker) :
    ∀ other ∈ descendants marker.hoisted, other.kind.standsAlone = true → other.contents = [] := by
  obtain ⟨kind, contents⟩ := marker
  have inside := childless_hoistedAll contents
  rw [hoisted]
  cases alone : kind.standsAlone with
  | true => simpa [descendants_cons, descendants] using inside
  | false => simpa [descendants_cons, descendants, alone] using inside

/-- Nothing is left to be hoisted. -/
theorem childless_hoistedAll (markers : List Marker) :
    ∀ other ∈ descendants (hoistedAll markers), other.kind.standsAlone = true → other.contents = [] := by
  match markers with
  | [] => simp [hoistedAll, descendants]
  | marker :: markers =>
    rw [hoistedAll, descendants_append]
    exact List.forall_mem_append.mpr ⟨childless_hoisted marker, childless_hoistedAll markers⟩

end

end Marker

namespace Usx

theorem Progress.put_nil (progress : Progress) : progress.put [] = progress := by
  have same : progress.markup ++ ([] : List Piece) = progress.markup := by simp
  rw [Progress.put, same]

/-- Behind the children of a marker that stands alone there is nothing to be closed. -/
theorem Progress.next_of_standsAlone {dialect : Dialect} {kind : Kind} {contents : List Marker}
    {before opened : Progress} {next : Option (List Piece)} (alone : kind.standsAlone = true)
    (entered : before.enter dialect ⟨kind, contents⟩ = .ok (opened, next)) : next = some [] := by
  obtain ⟨step, stepped, _, _, closes⟩ := Progress.enter_ok entered
  refine (closes []).mpr ?_
  cases kind with
  | chapter | verse =>
    cases stepped
    rfl
  | field tag =>
    cases stepped
    cases tag <;> first | rfl | cases alone
  | heading tag =>
    cases stepped
    cases tag <;> first | rfl | cases alone
  | text | book | word | leveled | bare | unknown => cases alone

theorem Interchangeable.hoist {dialect : Dialect} {kind : Kind} (alone : kind.standsAlone = true)
    (contents : List Marker) : Interchangeable dialect [⟨kind, contents⟩] (⟨kind, []⟩ :: contents) := by
  intro left right agrees
  simp only [visitAll, visit]
  rcases (agrees.enter dialect kind contents []).outcomes with
    ⟨_, _, atLeft, atRight, same⟩ | ⟨⟨opened, next⟩, ⟨opened', _⟩, atLeft, atRight, kept, rfl⟩
  · rw [atLeft, atRight]
    exact .error same
  cases Progress.next_of_standsAlone alone atLeft
  rw [atLeft, atRight]
  simp only [Progress.put_nil]
  rcases (@Interchangeable.refl dialect contents _ _ kept).outcomes with
    ⟨_, _, inLeft, inRight, same⟩ | ⟨_, _, inLeft, inRight, inner⟩
  · rw [inLeft, inRight]
    exact .error same
  · rw [inLeft, inRight]
    exact .ok inner

theorem interchangeable_of_hoists (dialect : Dialect) {markers others : List Marker} (hoists : Hoists markers others) :
    Interchangeable dialect markers others := by
  induction hoists with
  | here alone contents rest => exact (Interchangeable.hoist alone contents).append (.refl rest)
  | inside kind rest _ ih => exact (Interchangeable.below kind fun _ => ih).append (.refl rest)
  | behind marker _ ih => exact (Interchangeable.refl [marker]).append ih

end Usx

theorem Document.encoding_of_kinds {document other : Document}
    (same : other.descendants.map Marker.kind = document.descendants.map Marker.kind) :
    other.encoding = document.encoding := by
  have told (document : Document) :
      document.encoding = (document.descendants.map Marker.kind).findSome? Kind.encoding := by
    rw [List.findSome?_map]
    rfl
  rw [told, told, same]

/-- A document in which all markers that stand alone come before their children. -/
def Document.hoisted (document : Document) : Document := ⟨hoistedAll document.contents⟩

namespace Usx

theorem render_of_hoists (options : Options) {markers others : List Marker} (hoists : Hoists markers others) :
    (render options ⟨others⟩).2 = (render options ⟨markers⟩).2 := by
  have encoding : Document.encoding ⟨others⟩ = Document.encoding ⟨markers⟩ :=
    Document.encoding_of_kinds hoists.kinds_eq
  have alike : Interchangeable options.dialect (Document.mk markers).contents (Document.mk others).contents :=
    interchangeable_of_hoists options.dialect hoists
  rcases alike.render with ⟨_, failed, failedToo⟩ | ⟨_, _, _, rendered, renderedToo⟩
  · rw [failed, failedToo]
  · rw [rendered, renderedToo, encoding]

/-- Chapters, verses and headings may stand before their children or around them: neither one of
them that is put before its children nor all of them, at every level, change what a document is
rendered to. -/
theorem hoisting_changes_nothing (options : Options) (document : Document) :
    (∀ others, Hoists document.contents others → (render options ⟨others⟩).2 = (render options document).2) ∧
      (render options document.hoisted).2 = (render options document).2 ∧
      ReflTransGen Hoists document.contents document.hoisted.contents ∧
      ∀ marker ∈ document.hoisted.descendants, marker.kind.standsAlone = true → marker.contents = [] := by
  have steps := Hoists.all document.contents
  refine ⟨fun others => render_of_hoists options, ?_, steps, Marker.childless_hoistedAll document.contents⟩
  change (render options ⟨hoistedAll document.contents⟩).2 = (render options ⟨document.contents⟩).2
  -- along the single steps by which everything is hoisted, each of which changes nothing
  generalize hoistedAll document.contents = others at steps
  induction steps with
  | refl => rfl
  | tail _ last ih => rw [render_of_hoists options last, ih]

/-- A verse in a chapter within a paragraph, and the same behind it. -/
theorem hoisting_changes_nothing_in_paragraph :
    (render .default ⟨[⟨.bare .p, [⟨.chapter 2, []⟩, ⟨.verse "1", []⟩]⟩]⟩).2 =
      (render .default ⟨[⟨.bare .p, [⟨.chapter 2, [⟨.verse "1", []⟩]⟩]⟩]⟩).2 :=
  (hoisting_changes_nothing .default ⟨[⟨.bare .p, [⟨.chapter 2, [⟨.verse "1", []⟩]⟩]⟩]⟩).1 _
    (.inside _ _ (.here rfl _ _))

end Usx

end ScriptureMarkup
