import ScriptureMarkup.Proofs.Markup.Forms

namespace ScriptureMarkup

open Xml (Node Tag Token)
open Xml.Node (tokensAll)
open Usx (Shape Dialect Position Options)

def Xml.Tag.bare : Tag → Tag
  | .opening name _ => .opening name []
  | .empty name _ => .empty name []
  | .closing name => .closing name

/-- The tags of a forest without their attributes, from left to right. -/
def Xml.Node.skeleton (nodes : List Node) : List Tag := ((tokensAll nodes).filterMap Token.tag?).map Tag.bare

namespace Xml.Node

@[simp]
theorem skeleton_nil : skeleton [] = [] := rfl

@[simp]
theorem skeleton_append (front back : List Node) : skeleton (front ++ back) = skeleton front ++ skeleton back := by
  simp [skeleton, tokensAll_append]

@[simp]
theorem skeleton_data (text : String) (later : List Node) : skeleton (.data text :: later) = skeleton later := rfl

@[simp]
theorem skeleton_empty (name : String) (attributes : List (String × String)) (later : List Node) :
    skeleton (.empty name attributes :: later) = .empty name [] :: skeleton later := rfl

@[simp]
theorem skeleton_element (name : String) (attributes : List (String × String)) (children later : List Node) :
    skeleton (.element name attributes children :: later) =
      .opening name [] :: (skeleton children ++ .closing name :: skeleton later) := by
  simp [skeleton, tokensAll, tokens, Token.tag?, Tag.bare]

end Xml.Node

/-- A marker's kind with nothing in any of its texts and values. -/
def Kind.blank : Kind → Kind
  | .book _ => .book ""
  | .chapter number => .chapter number
  | .verse _ => .verse ""
  | .text _ => .text ""
  | .word .. => .word "" .empty
  | .field tag _ => .field tag ""
  | .heading tag weight _ => .heading tag weight ""
  | .leveled tag level => .leveled tag level
  | .bare tag => .bare tag
  | .unknown _ => .unknown ""

namespace Marker

mutual

def blank : Marker → Marker
  | ⟨kind, contents⟩ => ⟨kind.blank, blankAll contents⟩

def blankAll : List Marker → List Marker
  | [] => []
  | marker :: markers => marker.blank :: blankAll markers

end

end Marker

def Document.blank (document : Document) : Document := ⟨Marker.blankAll document.contents⟩

/-- Two positions at which the same milestones are open, with whatever ids. -/
structure Usx.Position.OpenAlike (position other : Position) : Prop where
  chapter : position.openChapter.isSome = other.openChapter.isSome
  verse : position.openVerse.isSome = other.openVerse.isSome

namespace Usx.Position.OpenAlike

variable {position other : Position}

theorem skeleton_verseEnd (dialect : Dialect) (alike : OpenAlike position other) :
    Node.skeleton (position.verseEnd dialect) = Node.skeleton (other.verseEnd dialect) := by
  have verse := alike.verse
  unfold verseEnd
  cases dialect <;> cases here : position.openVerse <;> cases there : other.openVerse <;> simp_all

theorem skeleton_ends (dialect : Dialect) (alike : OpenAlike position other) :
    Node.skeleton (position.ends dialect) = Node.skeleton (other.ends dialect) := by
  have chapter := alike.chapter
  have last : Node.skeleton (position.chapterEnd dialect) = Node.skeleton (other.chapterEnd dialect) := by
    unfold chapterEnd
    cases dialect <;> cases here : position.openChapter <;> cases there : other.openChapter <;> simp_all
  simp only [ends, Node.skeleton_append, alike.skeleton_verseEnd dialect, last]

theorem arrive (dialect : Dialect) (alike : OpenAlike position other) (kind : Kind) :
    OpenAlike (kind.arrive dialect position) (kind.blank.arrive dialect other) := by
  obtain ⟨chapter, verse⟩ := alike
  cases kind with
  | chapter => cases dialect <;> exact ⟨rfl, rfl⟩
  | verse => cases dialect <;> exact ⟨chapter, rfl⟩
  | book => exact ⟨rfl, rfl⟩
  | text | word | field | heading | leveled | bare | unknown => exact ⟨chapter, verse⟩

end Usx.Position.OpenAlike

theorem Usx.Shape.skeleton_nodes (shape : Shape) {style other text blank : String} {children blanks : List Node}
    (same : Node.skeleton children = Node.skeleton blanks) :
    Node.skeleton (shape.nodes style text children) = Node.skeleton (shape.nodes other blank blanks) := by
  cases shape <;> simp [Shape.nodes, Node.paragraph, Node.lineBreak, same]

theorem Kind.skeleton_nodes (kind : Kind) {dialect : Dialect} {position other : Position}
    {children blanks : List Node} (alike : position.OpenAlike other)
    (same : Node.skeleton children = Node.skeleton blanks) :
    Node.skeleton (kind.nodes dialect position children) = Node.skeleton (kind.blank.nodes dialect other blanks) := by
  have verse := alike.skeleton_verseEnd dialect
  have ends := alike.skeleton_ends dialect
  cases kind with
  | field tag text =>
    rw [blank, nodes_field, nodes_field]
    exact tag.shape.skeleton_nodes same
  | heading tag weight text =>
    rw [blank, nodes_heading, nodes_heading]
    exact tag.shape.skeleton_nodes same
  | leveled tag level =>
    rw [blank, nodes_leveled, nodes_leveled]
    exact tag.shape.skeleton_nodes same
  | bare tag =>
    rw [blank, nodes_bare, nodes_bare]
    exact tag.shape.skeleton_nodes same
  | text | book | chapter | verse | word | unknown => simp [blank, nodes, Node.lineBreak, verse, ends, same]

theorem Kind.descends_blank (kind : Kind) : kind.blank.descends = kind.descends := by cases kind <;> rfl

mutual

/-- Which tags a marker dictates, and in which order, is a matter of its shape alone. -/
theorem Marker.skeleton_nodes (dialect : Dialect) (marker : Marker) {position other : Position}
    (alike : position.OpenAlike other) :
    Node.skeleton (marker.nodes dialect position).1 = Node.skeleton (marker.blank.nodes dialect other).1 ∧
      (marker.nodes dialect position).2.OpenAlike (marker.blank.nodes dialect other).2 := by
  obtain ⟨kind, contents⟩ := marker
  have arrived := alike.arrive dialect kind
  obtain ⟨inside, ended⟩ := Marker.skeleton_nodesAll dialect contents arrived
  simp only [nodes, blank, kind.descends_blank]
  cases kind.descends with
  | true => exact ⟨kind.skeleton_nodes alike inside, ended⟩
  | false => exact ⟨kind.skeleton_nodes alike rfl, arrived⟩

theorem Marker.skeleton_nodesAll (dialect : Dialect) (markers : List Marker) {position other : Position}
    (alike : position.OpenAlike other) :
    Node.skeleton (nodesAll dialect markers position).1 =
        Node.skeleton (nodesAll dialect (blankAll markers) other).1 ∧
      (nodesAll dialect markers position).2.OpenAlike (nodesAll dialect (blankAll markers) other).2 := by
  match markers with
  | [] => exact ⟨rfl, alike⟩
  | marker :: markers =>
    obtain ⟨first, between⟩ := Marker.skeleton_nodes dialect marker alike
    obtain ⟨later, ended⟩ := Marker.skeleton_nodesAll dialect markers between
    refine ⟨?_, ended⟩
    simp only [nodesAll, blankAll, Node.skeleton_append, first, later]

end

theorem Document.skeleton_nodes (options : Options) (document : Document) :
    Node.skeleton (document.nodes options) = Node.skeleton (document.blank.nodes options) := by
  have start : Position.OpenAlike .start .start := ⟨rfl, rfl⟩
  obtain ⟨walked, ended⟩ := Marker.skeleton_nodesAll options.dialect document.contents start
  have closing := ended.skeleton_ends options.dialect
  rw [nodes_eq, nodes_eq]
  dsimp only
  split <;> simp [blank, Node.lineBreak, walked, closing]

end ScriptureMarkup
