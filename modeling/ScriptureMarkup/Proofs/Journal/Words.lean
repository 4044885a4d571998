import ScriptureMarkup.Proofs.Journal.Records
import ScriptureMarkup.Proofs.Markup.Picked
import ScriptureMarkup.Proofs.Text.ByteOrder

namespace ScriptureMarkup

open Xml (Node)
open Xml.Node (picked)
open Usx (Dialect Options Position Shape)
open Marker (reachedAll)

/-- What the tag of a word has for attributes behind its style. -/
def Xml.Tag.wordAttributes? (tag : Xml.Tag) : Option (List (String × String)) :=
  if tag.name = "char" ∧ tag.attributes.head? = some ("style", "w") then some tag.attributes.tail else none

def Kind.attributes? : Kind → Option Attributes
  | .word _ attributes => some attributes
  | _ => none

/-- The attributes of the words among some markers. -/
def Marker.words (markers : List Marker) : List Attributes := markers.filterMap fun marker => marker.kind.attributes?

theorem Xml.picksNoEnd_wordAttributes : Xml.PicksNoEnd Xml.Tag.wordAttributes? := fun name => by
  simp [Xml.Tag.wordAttributes?, Xml.Tag.attributes]

theorem Xml.Tag.wordAttributes_finish (element id : String) :
    Xml.Tag.wordAttributes? (.empty element [("eid", id)]) = none := by
  simp [wordAttributes?, attributes]

/-- Only a span could be taken for a word, and it has another style. -/
theorem Usx.Shape.wordAttributes_nodes {shape : Shape} {style : String} (other : shape = .span → style ≠ "w")
    (text : String) : picked Xml.Tag.wordAttributes? (shape.nodes style text []) = [] := by
  cases shape with
  | span =>
    simp [Shape.nodes, Node.picked_element Xml.picksNoEnd_wordAttributes, Xml.Tag.wordAttributes?, Xml.Tag.attributes,
      other rfl]
  | _ =>
    simp [Shape.nodes, Node.paragraph, Node.lineBreak, Node.picked_element Xml.picksNoEnd_wordAttributes,
      Xml.Tag.wordAttributes?, Xml.Tag.name]

theorem Kind.wordAttributes_nodes (dialect : Dialect) (position : Position) (kind : Kind) :
    picked Xml.Tag.wordAttributes? (kind.nodes dialect position []) =
      (kind.attributes?.map dialect.wordAttributes).toList := by
  obtain ⟨verse, ends⟩ := position.picked_ends Xml.Tag.wordAttributes_finish dialect
  -- spans come with tags that have no level; each of these has its own name
  cases kind with
  | field tag text =>
    rw [nodes_field]
    exact Shape.wordAttributes_nodes (by cases tag <;> decide) text
  | heading tag weight text =>
    rw [nodes_heading]
    exact Shape.wordAttributes_nodes (fun span => by cases tag <;> cases span) text
  | leveled tag level =>
    rw [nodes_leveled]
    exact Shape.wordAttributes_nodes (fun span => by cases tag <;> cases span) ""
  | bare tag =>
    rw [nodes_bare]
    exact Shape.wordAttributes_nodes (by cases tag <;> decide) ""
  | word term attributes =>
    rw [nodes_word]
    simp [attributes?, Node.picked_element Xml.picksNoEnd_wordAttributes, Xml.Tag.wordAttributes?, Xml.Tag.name,
      Xml.Tag.attributes]
  | text | book | chapter | verse | unknown =>
    simp [nodes, attributes?, ends, verse, Node.lineBreak, Node.picked_element Xml.picksNoEnd_wordAttributes,
      Xml.Tag.wordAttributes?, Xml.Tag.name, Xml.Tag.attributes]

/-- The tags of words have, one after the other, the attributes that are written of the words entered. -/
theorem Document.wordAttributes_nodes (options : Options) (document : Document) :
    picked Xml.Tag.wordAttributes? (document.nodes options) =
      (Marker.words (reachedAll document.contents)).map options.dialect.wordAttributes := by
  have root (attributes : List (String × String)) : Xml.Tag.wordAttributes? (.opening "usx" attributes) = none := by
    simp [Xml.Tag.wordAttributes?, Xml.Tag.name]
  rw [document.picked_nodes Xml.picksNoEnd_wordAttributes root,
    (Position.picked_ends Xml.Tag.wordAttributes_finish _ _).2, List.append_nil]
  simp only [Kind.wordAttributes_nodes, Marker.gather_eq_flatMap]
  rw [Marker.words, List.map_filterMap, List.filterMap_eq_flatMap_toList]

end ScriptureMarkup
