import ScriptureMarkup.Proofs.Markup.ReadBack
import ScriptureMarkup.Proofs.Walk.Gathering
import ScriptureMarkup.Proofs.Walk.Trail

namespace ScriptureMarkup

open Xml (Content Node Token)
open Xml.Node (tokensAll)
open Usx (Dialect Options Position RenderResult Shape)
open Marker (arriveAll gather nodesAll reachedAll)

variable {α : Type} {select : Xml.Tag → Option α}

/-- What is picked from the tags of a forest, from left to right. -/
def Xml.Node.picked (select : Xml.Tag → Option α) (nodes : List Node) : List α :=
  ((tokensAll nodes).filterMap Token.tag?).filterMap select

/-- No end of an element is picked. -/
def Xml.PicksNoEnd (select : Xml.Tag → Option α) : Prop := ∀ name, select (.closing name) = none

/-- No tag is picked that is not the start or the end of a chapter or a verse, each a tag by itself. -/
structure Xml.PicksMilestones (select : Xml.Tag → Option α) : Prop where
  noEnd : PicksNoEnd select
  others : ∀ tag : Xml.Tag, tag.name ∉ ["chapter", "verse"] → select tag = none

theorem Xml.PicksMilestones.root (picks : Xml.PicksMilestones select) (attributes : List (String × String)) :
    select (.opening "usx" attributes) = none := picks.others _ (by simp [Xml.Tag.name])

namespace Xml.Node

@[simp]
theorem picked_nil : picked select [] = [] := rfl

@[simp]
theorem picked_append (front back : List Node) :
    picked select (front ++ back) = picked select front ++ picked select back := by
  simp [picked, tokensAll_append]

@[simp]
theorem picked_data (text : String) (later : List Node) :
    picked select (.data text :: later) = picked select later := rfl

@[simp]
theorem picked_empty (name : String) (attributes : List (String × String)) (later : List Node) :
    picked select (.empty name attributes :: later) = (select (.empty name attributes)).toList ++ picked select later := by
  cases found : select (.empty name attributes) <;> simp [picked, tokensAll, tokens, Token.tag?, found]

theorem picked_element (noEnd : PicksNoEnd select) (name : String) (attributes : List (String × String))
    (children later : List Node) : picked select (.element name attributes children :: later) =
      (select (.opening name attributes)).toList ++ (picked select children ++ picked select later) := by
  cases found : select (.opening name attributes) <;>
    simp [picked, tokensAll, tokens, Token.tag?, found, noEnd name]

end Xml.Node

theorem Usx.Shape.picked_nodes (noEnd : Xml.PicksNoEnd select) (shape : Shape) (style text : String)
    (children : List Node) :
    Node.picked select (shape.nodes style text children) = Node.picked select (shape.nodes style text []) ++
      if shape.descends then Node.picked select children else [] := by
  cases shape <;>
    simp [Shape.nodes, Node.paragraph, Node.lineBreak, Node.picked_element noEnd, Shape.descends]

/-- A marker that is told by its tag alone is no milestone. -/
theorem Xml.PicksMilestones.nodes_formed (picks : Xml.PicksMilestones select) {kind : Kind}
    (formed : kind.form?.isSome = true) (dialect : Dialect) (position : Position) :
    Node.picked select (kind.nodes dialect position []) = [] := by
  obtain ⟨⟨shape, style, text⟩, form⟩ := Option.isSome_iff_exists.mp formed
  rw [Kind.nodes_form form]
  cases shape <;>
    simp [Shape.nodes, Node.paragraph, Node.lineBreak, Node.picked_element picks.noEnd, picks.others, Xml.Tag.name]

theorem Usx.Position.picked_ends (noFinish : ∀ element id, select (.empty element [("eid", id)]) = none)
    (dialect : Dialect) (position : Position) :
    Node.picked select (position.verseEnd dialect) = [] ∧ Node.picked select (position.ends dialect) = [] := by
  have verse : Node.picked select (position.verseEnd dialect) = [] := by
    unfold verseEnd
    cases dialect <;> cases position.openVerse <;> simp [noFinish]
  have chapter : Node.picked select (position.chapterEnd dialect) = [] := by
    unfold chapterEnd
    cases dialect <;> cases position.openChapter <;> simp [noFinish, Node.lineBreak]
  exact ⟨verse, by rw [ends, Node.picked_append, verse, chapter, List.append_nil]⟩

/-- The tags of a marker stand before those of its children, but for the ends. -/
theorem Kind.picked_nodes (noEnd : Xml.PicksNoEnd select) (dialect : Dialect) (position : Position)
    (children : List Node) (kind : Kind) :
    Node.picked select (kind.nodes dialect position children) = Node.picked select (kind.nodes dialect position []) ++
      if kind.descends then Node.picked select children else [] := by
  cases formed : kind.form? with
  | some form =>
    obtain ⟨shape, style, text⟩ := form
    rw [nodes_form formed, nodes_form formed, descends_form formed]
    exact shape.picked_nodes noEnd style text children
  | none =>
    cases kind with
    | field | heading | leveled | bare => cases formed
    | text | word | book | chapter | verse | unknown =>
      simp [nodes, Node.lineBreak, Node.picked_element noEnd, descends]

namespace Marker

mutual

theorem picked_nodes (noEnd : Xml.PicksNoEnd select) (dialect : Dialect) (marker : Marker) (position : Position) :
    Node.picked select (marker.nodes dialect position).1 =
      gather dialect (fun position marker => Node.picked select (marker.kind.nodes dialect position [])) position
        marker.reached := by
  obtain ⟨kind, contents⟩ := marker
  rw [reached, nodes, kind.picked_nodes noEnd, gather]
  cases descends : kind.descends with
  | false => rfl
  | true =>
    simp only [if_true]
    rw [picked_nodesAll noEnd dialect contents]

/-- What is picked from the tree is what each of the reached markers brings for itself. -/
theorem picked_nodesAll (noEnd : Xml.PicksNoEnd select) (dialect : Dialect) (markers : List Marker)
    (position : Position) :
    Node.picked select (nodesAll dialect markers position).1 =
      gather dialect (fun position marker => Node.picked select (marker.kind.nodes dialect position [])) position
        (reachedAll markers) := by
  match markers with
  | [] => rfl
  | marker :: markers =>
    rw [reachedAll, gather_append, ← nodes_position, ← picked_nodes noEnd dialect marker position,
      ← picked_nodesAll noEnd dialect markers, ← Node.picked_append]
    rfl

end

end Marker

theorem Document.picked_nodes (noEnd : Xml.PicksNoEnd select)
    (root : ∀ attributes, select (.opening "usx" attributes) = none) (options : Options) (document : Document) :
    Node.picked select (document.nodes options) =
      gather options.dialect (fun position marker => Node.picked select (marker.kind.nodes options.dialect position []))
          .start (reachedAll document.contents) ++
        Node.picked select
          ((arriveAll options.dialect .start (reachedAll document.contents)).ends options.dialect) := by
  rw [← Marker.picked_nodesAll noEnd, ← Marker.nodesAll_position, ← Node.picked_append, nodes_eq]
  dsimp only
  split
  · rfl
  · simp [Node.lineBreak, Node.picked_element noEnd, root]

namespace Usx

variable {options : Options} {document : Document} {result : RenderResult}

/-- A rendering reads as the tree that the document dictates, and the loop has entered what is reached
in the document. -/
theorem render_reads_as_nodes (rendered : (render options document).2 = .ok result) :
    ∃ content, Xml.scan (Xml.body result.content.toList) = some content ∧
      content.decode = some (.ofTokens (tokensAll (document.nodes options))) ∧
      ∀ n, 2 * Marker.countAll document.contents ≤ n →
        trail options.dialect n (enterAll document.contents []) (.start #[openingRecord options document]) =
          reachedAll document.contents := by
  obtain ⟨progress, ran, rfl⟩ := render_ok_iff.mp rendered
  obtain ⟨_, scanned⟩ := scan_body ran
  rw [tokens_pieces ran] at scanned
  exact ⟨_, scanned, Content.decode_escaped _, fun n bound => trail_eq_reachedAll ran bound⟩

end Usx

end ScriptureMarkup
