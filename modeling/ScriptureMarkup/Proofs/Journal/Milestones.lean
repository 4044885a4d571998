import ScriptureMarkup.Proofs.Journal.Records
import ScriptureMarkup.Proofs.Markup.Picked

namespace ScriptureMarkup

open Xml (Node)
open Xml.Node (picked)
open Usx (Dialect Options Position Record RenderResult)
open Marker (arriveAll gather reachedAll)

/-- The milestone that a tag of a chapter or a verse ends: its element and its id. -/
def Xml.Tag.ending? (tag : Xml.Tag) : Option (String × String) :=
  if tag.name = "chapter" ∨ tag.name = "verse" then (tag.attributes.lookup "eid").map fun id => (tag.name, id) else none

namespace Usx.Position

/-- In the dialect without ends of milestones nothing is open. -/
def Settled (dialect : Dialect) (position : Position) : Prop :=
  dialect.pairsMilestones = false → position.openChapter = none ∧ position.openVerse = none

theorem Settled.arrive {dialect : Dialect} {position : Position} (kind : Kind) (settled : position.Settled dialect) :
    (kind.arrive dialect position).Settled dialect := by
  intro never
  obtain ⟨chapter, verse⟩ := settled never
  cases kind with
  | book identifier => exact ⟨rfl, rfl⟩
  | chapter number =>
    cases dialect with
    | usx2_5 => exact ⟨rfl, rfl⟩
    | usx3_0 => cases never
  | verse number =>
    cases dialect with
    | usx2_5 => exact ⟨chapter, rfl⟩
    | usx3_0 => cases never
  | text | word | field | heading | leveled | bare | unknown => exact ⟨chapter, verse⟩

variable {dialect : Dialect} {position : Position} (settled : position.Settled dialect)
include settled

end Usx.Position

namespace Usx

variable {options : Options} {document : Document} {result : RenderResult}
  (rendered : (render options document).2 = .ok result)

include rendered

end Usx

end ScriptureMarkup
