import ScriptureMarkup.Command.FileTree
import ScriptureMarkup.Main
import ScriptureMarkup.Proofs.Walk.Recursion
import ScriptureMarkup.Proofs.Walk.Simulation
import ScriptureMarkup.Proofs.Xml.Content
import ScriptureMarkup.Proofs.Xml.Scan
import ScriptureMarkup.Proofs.Xml.Entity
import ScriptureMarkup.Proofs.Xml.Tree
import ScriptureMarkup.Proofs.Markup.Pieces
import ScriptureMarkup.Proofs.Markup.Sound
import ScriptureMarkup.Proofs.Xml.Declaration
import ScriptureMarkup.Proofs.Markup.Body
import ScriptureMarkup.Proofs.Markup.Nodes
import ScriptureMarkup.Proofs.Markup.Forms
import ScriptureMarkup.Proofs.Markup.Written
import ScriptureMarkup.Proofs.Markup.ReadBack
import ScriptureMarkup.Proofs.Milestones.Pairing
import ScriptureMarkup.Proofs.Dialects.Downgrade
import ScriptureMarkup.Proofs.Dialects.Agreement
import ScriptureMarkup.Proofs.Walk.Reached
import ScriptureMarkup.Proofs.Walk.Growth
import ScriptureMarkup.Proofs.Walk.Completeness
import ScriptureMarkup.Proofs.Walk.Stopping
import ScriptureMarkup.Proofs.Counts.Tally
import ScriptureMarkup.Proofs.Counts.Words
import ScriptureMarkup.Proofs.Xml.Occurrences
import ScriptureMarkup.Proofs.Counts.Openers
import ScriptureMarkup.Proofs.Documents.Preorder
import ScriptureMarkup.Proofs.Documents.Concatenation
import ScriptureMarkup.Proofs.Options.Independence
import ScriptureMarkup.Proofs.Renderers.Session
import ScriptureMarkup.Proofs.Books.Separation
import ScriptureMarkup.Proofs.Interchange.RoundTrip
import ScriptureMarkup.Proofs.Forests.Interchangeable
import ScriptureMarkup.Proofs.Forests.Pruning
import ScriptureMarkup.Proofs.Forests.Hoisting
import ScriptureMarkup.Proofs.Command.OutputPath
import ScriptureMarkup.Proofs.Command.Places
import ScriptureMarkup.Proofs.Command.Files
import ScriptureMarkup.Proofs.Command.Desk
import ScriptureMarkup.Proofs.Command.Keeping
import ScriptureMarkup.Proofs.Command.Reports
import ScriptureMarkup.Proofs.Command.Batch
import ScriptureMarkup.Proofs.Command.Renderings
import ScriptureMarkup.Proofs.Command.Namesakes
import ScriptureMarkup.Proofs.Text.ByteOrder
import ScriptureMarkup.Proofs.Xml.Name
import ScriptureMarkup.Proofs.Markup.WordNames
import ScriptureMarkup.Proofs.Xml.Grammar
import ScriptureMarkup.Proofs.Documents.DeclaredEncoding
import ScriptureMarkup.Proofs.Walk.Gathering
import ScriptureMarkup.Proofs.Markup.Picked
import ScriptureMarkup.Proofs.Milestones.Places
import ScriptureMarkup.Proofs.Journal.Agreement
import ScriptureMarkup.Proofs.Journal.Records
import ScriptureMarkup.Proofs.Journal.Milestones
import ScriptureMarkup.Proofs.Journal.Words
import ScriptureMarkup.Proofs.Json.Spelling
import ScriptureMarkup.Proofs.Json.SpelledNumbers
import ScriptureMarkup.Proofs.Json.SpelledStrings
import ScriptureMarkup.Proofs.Json.Means
import ScriptureMarkup.Proofs.Json.TreeValues
import ScriptureMarkup.Proofs.Json.SpelledSkip
import ScriptureMarkup.Proofs.Json.WrittenTree
import ScriptureMarkup.Proofs.Interchange.Meaning
import ScriptureMarkup.Proofs.Interchange.Normal
import ScriptureMarkup.Proofs.Interchange.Lookup
import ScriptureMarkup.Proofs.Interchange.Dispatch
import ScriptureMarkup.Proofs.Interchange.Rearranged
import ScriptureMarkup.Proofs.Counts.Hidden
import ScriptureMarkup.Proofs.Books.Offsets
import ScriptureMarkup.Proofs.Documents.Descent
import ScriptureMarkup.Proofs.Milestones.Unambiguous
import ScriptureMarkup.Proofs.Milestones.Calls
import ScriptureMarkup.Proofs.Milestones.Closings
