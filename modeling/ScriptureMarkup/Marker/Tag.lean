namespace ScriptureMarkup

/-- Tags that carry one text beside their children: metadata, headings without a weight,
notes with their caller, and references. -/
inductive TextTag
  | ide | usfm | h | toc1 | toc2 | toc3 | d | sp | f | fk | fr | x | xo | cl | cp | qa | rem
  deriving DecidableEq

/-- Titles and headings that carry a weight and a text. -/
inductive HeadingTag
  | mt | imt | ms | s
  deriving DecidableEq

/-- Tags that carry a level alone: a depth, a column, or a weight. -/
inductive LevelTag
  | pi | q | qm | li | tc | tcr | th | thr | is
  deriving DecidableEq

/-- Tags that carry nothing beside their children. Those that end in `End` are closing tags,
written with an asterisk, which stay in the tree without a meaning of their own. -/
inductive BareTag
  | r | p | qc | qr | b | bd | bdit | em | it | nd | no | sc | add | tl | pn | qs | fq | fqa | ft
  | fp | xt | table | tr | addEnd | bdEnd | bditEnd | bkEnd | emEnd | fEnd | fvEnd | iorEnd | itEnd
  | ndEnd | noEnd | pnEnd | qacEnd | qsEnd | rqEnd | scEnd | supEnd | tlEnd | wEnd | xEnd | vp
  | vpEnd | nb | ip | m | mi | pc | ca | va | qac | rq | sup | bk | ior | fv | fig
  deriving DecidableEq

def TextTag.name : TextTag → String
  | .ide => "ide"
  | .usfm => "usfm"
  | .h => "h"
  | .toc1 => "toc1"
  | .toc2 => "toc2"
  | .toc3 => "toc3"
  | .d => "d"
  | .sp => "sp"
  | .f => "f"
  | .fk => "fk"
  | .fr => "fr"
  | .x => "x"
  | .xo => "xo"
  | .cl => "cl"
  | .cp => "cp"
  | .qa => "qa"
  | .rem => "rem"

def HeadingTag.name : HeadingTag → String
  | .mt => "mt"
  | .imt => "imt"
  | .ms => "ms"
  | .s => "s"

def LevelTag.name : LevelTag → String
  | .pi => "pi"
  | .q => "q"
  | .qm => "qm"
  | .li => "li"
  | .tc => "tc"
  | .tcr => "tcr"
  | .th => "th"
  | .thr => "thr"
  | .is => "is"

def BareTag.name : BareTag → String
  | .r => "r"
  | .p => "p"
  | .qc => "qc"
  | .qr => "qr"
  | .b => "b"
  | .bd => "bd"
  | .bdit => "bdit"
  | .em => "em"
  | .it => "it"
  | .nd => "nd"
  | .no => "no"
  | .sc => "sc"
  | .add => "add"
  | .tl => "tl"
  | .pn => "pn"
  | .qs => "qs"
  | .fq => "fq"
  | .fqa => "fqa"
  | .ft => "ft"
  | .fp => "fp"
  | .xt => "xt"
  | .table => "table"
  | .tr => "tr"
  | .addEnd => "add*"
  | .bdEnd => "bd*"
  | .bditEnd => "bdit*"
  | .bkEnd => "bk*"
  | .emEnd => "em*"
  | .fEnd => "f*"
  | .fvEnd => "fv*"
  | .iorEnd => "ior*"
  | .itEnd => "it*"
  | .ndEnd => "nd*"
  | .noEnd => "no*"
  | .pnEnd => "pn*"
  | .qacEnd => "qac*"
  | .qsEnd => "qs*"
  | .rqEnd => "rq*"
  | .scEnd => "sc*"
  | .supEnd => "sup*"
  | .tlEnd => "tl*"
  | .wEnd => "w*"
  | .xEnd => "x*"
  | .vp => "vp"
  | .vpEnd => "vp*"
  | .nb => "nb"
  | .ip => "ip"
  | .m => "m"
  | .mi => "mi"
  | .pc => "pc"
  | .ca => "ca"
  | .va => "va"
  | .qac => "qac"
  | .rq => "rq"
  | .sup => "sup"
  | .bk => "bk"
  | .ior => "ior"
  | .fv => "fv"
  | .fig => "fig"

/-- What a tag is called where it is rendered or reported. Each family of tags has a table for this
beside that of the names by which its tags are written. -/
def TextTag.identifier : TextTag → String
  | .ide => "ide"
  | .usfm => "usfm"
  | .h => "h"
  | .toc1 => "toc1"
  | .toc2 => "toc2"
  | .toc3 => "toc3"
  | .d => "d"
  | .sp => "sp"
  | .f => "f"
  | .fk => "fk"
  | .fr => "fr"
  | .x => "x"
  | .xo => "xo"
  | .cl => "cl"
  | .cp => "cp"
  | .qa => "qa"
  | .rem => "rem"

def HeadingTag.identifier : HeadingTag → String
  | .mt => "mt"
  | .imt => "imt"
  | .ms => "ms"
  | .s => "s"

def LevelTag.identifier : LevelTag → String
  | .pi => "pi"
  | .q => "q"
  | .qm => "qm"
  | .li => "li"
  | .tc => "tc"
  | .tcr => "tcr"
  | .th => "th"
  | .thr => "thr"
  | .is => "is"

def BareTag.identifier : BareTag → String
  | .r => "r"
  | .p => "p"
  | .qc => "qc"
  | .qr => "qr"
  | .b => "b"
  | .bd => "bd"
  | .bdit => "bdit"
  | .em => "em"
  | .it => "it"
  | .nd => "nd"
  | .no => "no"
  | .sc => "sc"
  | .add => "add"
  | .tl => "tl"
  | .pn => "pn"
  | .qs => "qs"
  | .fq => "fq"
  | .fqa => "fqa"
  | .ft => "ft"
  | .fp => "fp"
  | .xt => "xt"
  | .table => "table"
  | .tr => "tr"
  | .addEnd => "add*"
  | .bdEnd => "bd*"
  | .bditEnd => "bdit*"
  | .bkEnd => "bk*"
  | .emEnd => "em*"
  | .fEnd => "f*"
  | .fvEnd => "fv*"
  | .iorEnd => "ior*"
  | .itEnd => "it*"
  | .ndEnd => "nd*"
  | .noEnd => "no*"
  | .pnEnd => "pn*"
  | .qacEnd => "qac*"
  | .qsEnd => "qs*"
  | .rqEnd => "rq*"
  | .scEnd => "sc*"
  | .supEnd => "sup*"
  | .tlEnd => "tl*"
  | .wEnd => "w*"
  | .xEnd => "x*"
  | .vp => "vp"
  | .vpEnd => "vp*"
  | .nb => "nb"
  | .ip => "ip"
  | .m => "m"
  | .mi => "mi"
  | .pc => "pc"
  | .ca => "ca"
  | .va => "va"
  | .qac => "qac"
  | .rq => "rq"
  | .sup => "sup"
  | .bk => "bk"
  | .ior => "ior"
  | .fv => "fv"
  | .fig => "fig"

theorem TextTag.identifier_eq_name (tag : TextTag) : tag.identifier = tag.name := by cases tag <;> rfl

theorem HeadingTag.identifier_eq_name (tag : HeadingTag) : tag.identifier = tag.name := by cases tag <;> rfl

theorem LevelTag.identifier_eq_name (tag : LevelTag) : tag.identifier = tag.name := by cases tag <;> rfl

theorem BareTag.identifier_eq_name (tag : BareTag) : tag.identifier = tag.name := by cases tag <;> rfl

/-- The field that holds the text of a tag. -/
def TextTag.fieldName : TextTag → String
  | .ide => "encoding"
  | .usfm => "version"
  | .h => "header_text"
  | .toc1 => "long_table_of_contents_text"
  | .toc2 => "short_table_of_contents_text"
  | .toc3 => "book_abbreviation"
  | .d => "description"
  | .sp => "speaker"
  | .f => "foot_note_caller"
  | .fk => "foot_note_keyword"
  | .fr => "verse_reference"
  | .x => "cross_ref_caller"
  | .xo => "origin_ref"
  | .cl => "label"
  | .cp => "published_chapter_marker"
  | .qa => "heading"
  | .rem => "comment"

/-- The field that holds the text of a heading. -/
def HeadingTag.fieldName : HeadingTag → String
  | .mt => "title"
  | .imt => "intro_title"
  | .ms => "heading"
  | .s => "text"

/-- The field that holds the level of a tag. -/
def LevelTag.fieldName : LevelTag → String
  | .pi | .q | .qm | .li => "depth"
  | .tc | .tcr | .th | .thr => "column_position"
  | .is => "weight"

def TextTag.all : List TextTag :=
  [.ide, .usfm, .h, .toc1, .toc2, .toc3, .d, .sp, .f, .fk, .fr, .x, .xo, .cl, .cp, .qa, .rem]

def HeadingTag.all : List HeadingTag :=
  [.mt, .imt, .ms, .s]

def LevelTag.all : List LevelTag :=
  [.pi, .q, .qm, .li, .tc, .tcr, .th, .thr, .is]

def BareTag.all : List BareTag :=
  [.r, .p, .qc, .qr, .b, .bd, .bdit, .em, .it, .nd, .no, .sc, .add, .tl, .pn, .qs, .fq, .fqa, .ft, .fp,
   .xt, .table, .tr, .addEnd, .bdEnd, .bditEnd, .bkEnd, .emEnd, .fEnd, .fvEnd, .iorEnd, .itEnd, .ndEnd,
   .noEnd, .pnEnd, .qacEnd, .qsEnd, .rqEnd, .scEnd, .supEnd, .tlEnd, .wEnd, .xEnd, .vp, .vpEnd, .nb, .ip,
   .m, .mi, .pc, .ca, .va, .qac, .rq, .sup, .bk, .ior, .fv, .fig]

/-- The tags whose meaning is known, by what they carry. -/
inductive Tag
  | id
  | c
  | v
  | text
  | w
  | field (tag : TextTag)
  | heading (tag : HeadingTag)
  | leveled (tag : LevelTag)
  | bare (tag : BareTag)
  | unknown
  deriving DecidableEq

/-- The name by which a tag is written. A tag without a known meaning is kept under the
name of `unknown`, with its own name as a field. -/
def Tag.name : Tag → String
  | .id => "id"
  | .c => "c"
  | .v => "v"
  | .text => "text"
  | .w => "w"
  | .field tag => tag.name
  | .heading tag => tag.name
  | .leveled tag => tag.name
  | .bare tag => tag.name
  | .unknown => "unknown"

def Tag.all : List Tag :=
  [.id, .c, .v, .text, .w, .unknown] ++ TextTag.all.map .field ++ HeadingTag.all.map .heading ++
    LevelTag.all.map .leveled ++ BareTag.all.map .bare

def Tag.ofName? (name : String) : Option Tag := Tag.all.find? fun tag => tag.name == name

/-- The names under which a tag may be written that has a meaning of its own. -/
def Tag.modeledNames : List String :=
  ["id", "ide", "usfm", "h", "toc1", "toc2", "toc3", "mt", "imt", "ms", "s", "d", "sp", "r", "p", "pi", "q", "qm",
   "qc", "qr", "li", "b", "c", "v", "text", "bd", "bdit", "em", "it", "nd", "no", "sc", "add", "tl", "pn", "qs",
   "w", "f", "fk", "fr", "fq", "fqa", "ft", "fp", "x", "xo", "xt", "table", "tr", "tc", "tcr", "th", "thr", "add*",
   "bd*", "bdit*", "bk*", "em*", "f*", "fv*", "ior*", "it*", "nd*", "no*", "pn*", "qac*", "qs*", "rq*", "sc*",
   "sup*", "tl*", "w*", "x*", "vp", "vp*", "nb", "ip", "is", "m", "mi", "pc", "cl", "cp", "ca", "va", "qa", "qac",
   "rq", "sup", "bk", "ior", "fv", "fig", "rem", "unknown"]

/-- A tag found under a name has this name. -/
theorem Tag.name_of_ofName? {name : String} {tag : Tag} (found : Tag.ofName? name = some tag) : tag.name = name := by
  simpa using List.find?_some found

/-- Every tag is found under its own name, so no two of them share one. -/
theorem Tag.ofName?_name (tag : Tag) : Tag.ofName? tag.name = some tag := by
  cases tag with
  | field tag | heading tag | leveled tag | bare tag => cases tag <;> decide +kernel
  | _ => rfl

/-- The names that are listed are those of the tags. -/
theorem Tag.mem_modeledNames {name : String} : name ∈ modeledNames ↔ (ofName? name).isSome := by
  constructor
  · intro listed
    have all : modeledNames.all fun name => (ofName? name).isSome := by decide +kernel
    exact List.all_eq_true.mp all name listed
  · intro found
    obtain ⟨tag, found⟩ := Option.isSome_iff_exists.mp found
    rw [← name_of_ofName? found]
    cases tag with
    | field tag | heading tag | leveled tag | bare tag => cases tag <;> decide
    | _ => decide

end ScriptureMarkup
