import ScriptureMarkup.Proofs.Counts.Tally
import ScriptureMarkup.Proofs.Journal.Milestones
import ScriptureMarkup.Proofs.Journal.Words

namespace ScriptureMarkup

open Xml.Node (picked)
open Usx (Record)
open Marker (reachedAll)

namespace Usx

variable {options : Options} {document : Document} {result : RenderResult}

end Usx

end ScriptureMarkup
