import ScriptureMarkup.Marker.Kind
import ScriptureMarkup.Text.Words

namespace ScriptureMarkup.Usx

/-- Counts of what has been rendered, of what has been skipped, and of words. Counters have 32 bits
and begin again at zero when they are full. -/
structure Statistics where
  books : UInt32
  chapters : UInt32
  verses : UInt32
  paragraphs : UInt32
  notes : UInt32
  tables : UInt32
  unrenderable : UInt32
  words : UInt32
  deriving DecidableEq

namespace Statistics

def zero : Statistics := ⟨0, 0, 0, 0, 0, 0, 0, 0⟩

/-- Counts a marker by its kind. What is not listed here is not counted. -/
def record (kind : Kind) (counts : Statistics) : Statistics :=
  match kind with
  | .book _ => { counts with books := counts.books + 1 }
  | .chapter _ => { counts with chapters := counts.chapters + 1 }
  | .verse _ => { counts with verses := counts.verses + 1 }
  | .field .f _ | .field .x _ => { counts with notes := counts.notes + 1 }
  | .bare .table => { counts with tables := counts.tables + 1 }
  | .text content => { counts with words := counts.words + UInt32.ofNat (Text.wordCount content) }
  | .field .ide _ | .field .usfm _ | .field .h _ | .field .toc1 _ | .field .toc2 _ | .field .toc3 _
  | .heading .mt .. | .heading .imt .. | .heading .ms .. | .heading .s .. | .field .d _ | .field .sp _ | .bare .r
  | .bare .p | .leveled .pi _ | .leveled .q _ | .leveled .qm _ | .bare .qc | .bare .qr | .leveled .li _ | .bare .b =>
    { counts with paragraphs := counts.paragraphs + 1 }
  | _ => counts

def recordUnrenderable (counts : Statistics) : Statistics :=
  { counts with unrenderable := counts.unrenderable + 1 }

def merge (counts more : Statistics) : Statistics where
  books := counts.books + more.books
  chapters := counts.chapters + more.chapters
  verses := counts.verses + more.verses
  paragraphs := counts.paragraphs + more.paragraphs
  notes := counts.notes + more.notes
  tables := counts.tables + more.tables
  unrenderable := counts.unrenderable + more.unrenderable
  words := counts.words + more.words

end Statistics

end ScriptureMarkup.Usx
