import ScriptureMarkup.Marker.Kind

namespace ScriptureMarkup

namespace Usx

inductive Alignment
  | start
  | finish
  deriving DecidableEq

/-- The form that a marker takes in the markup, apart from books, chapters, verses, words and
plain text. -/
inductive Shape
  /-- A paragraph with a text and nothing else. -/
  | closedParagraph
  /-- A paragraph with a text, which the children follow. -/
  | heading
  /-- A paragraph around the children. -/
  | paragraph
  | blankParagraph
  /-- A span around a text, which may be empty, and the children. -/
  | span
  /-- A note around the children, with its caller. -/
  | note
  | table
  | row
  | cell (alignment : Alignment)
  /-- Nothing at all, since the meaning lies in another marker. -/
  | silent
  /-- Nothing, for want of a form; the marker is reported. -/
  | unrendered
  deriving DecidableEq

end Usx

open Usx (Shape)

def TextTag.shape : TextTag → Shape
  | .ide | .usfm | .h | .sp => .closedParagraph
  | .toc1 | .toc2 | .toc3 | .d => .heading
  | .f | .x => .note
  | .fk | .fr | .xo => .span
  | .cl | .cp | .qa | .rem => .unrendered

def HeadingTag.shape : HeadingTag → Shape
  | .imt => .closedParagraph
  | .mt | .ms | .s => .heading

def LevelTag.shape : LevelTag → Shape
  | .pi | .q | .qm | .li => .paragraph
  | .tc | .th => .cell .start
  | .tcr | .thr => .cell .finish
  | .is => .unrendered

def BareTag.shape : BareTag → Shape
  | .r | .p | .qc | .qr => .paragraph
  | .b => .blankParagraph
  | .bd | .bdit | .em | .it | .nd | .no | .sc | .add | .tl | .pn | .qs | .fq | .fqa | .ft | .fp | .xt => .span
  | .table => .table
  | .tr => .row
  | .addEnd | .bdEnd | .bditEnd | .bkEnd | .emEnd | .fEnd | .fvEnd | .iorEnd | .itEnd | .ndEnd | .noEnd | .pnEnd
  | .qacEnd | .qsEnd | .rqEnd | .scEnd | .supEnd | .tlEnd | .wEnd | .xEnd | .vp | .vpEnd | .nb => .silent
  | .ip | .m | .mi | .pc | .ca | .va | .qac | .rq | .sup | .bk | .ior | .fv | .fig => .unrendered

end ScriptureMarkup
