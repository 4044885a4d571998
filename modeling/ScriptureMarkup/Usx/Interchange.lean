import ScriptureMarkup.Json.Layout
import ScriptureMarkup.Json.Written
import ScriptureMarkup.Usx.Render

namespace ScriptureMarkup.Usx

open Json (Fault Input Layout Reader Scalar Value)

/-- The dialect that a version names; the version has to be one of those there are. -/
def Dialect.ofScalar (scalar : Scalar) : Except Fault Dialect :=
  match scalar.text with
  | .error fault => .error fault
  | .ok version =>
    match Dialect.ofVersion? version with
    | some dialect => .ok dialect
    | none => .error (.unsupportedVersion version)

/-- One of the options: its name, what is wanted for it, and how it is set. -/
structure Setting where
  name : String
  wanted : Json.Wanted
  set : Options → Scalar → Except Fault Options

namespace Options

def settings : List Setting :=
  [⟨"partial_output", .boolean, fun options scalar =>
      scalar.bool?.map fun b => { options with partialOutput := b }⟩,
    ⟨"schema_version", .text, fun options scalar =>
      (Dialect.ofScalar scalar).map fun dialect => { options with dialect := dialect }⟩,
    ⟨"collect_stats", .boolean, fun options scalar =>
      scalar.bool?.map fun b => { options with collectStatistics := b }⟩]

/-- Every field of the options may be left out and keeps its default then. -/
def layout : Layout Options where
  wanted := .options
  fields := settings.map fun setting => (setting.name, fun options => Json.scalarAs setting.wanted (setting.set options))

def reader : Reader Options := layout.reader .default .ok (fun read => .ok read.2)

def ofText (text : String) : Except Fault Options := reader.whole (.ofString text)

/-- Sets an option from a value that has been kept whole. -/
def setFrom (options : Options) (setting : Setting) (value : Value) : Except Fault Options :=
  value.take setting.wanted (setting.set options)

/-- Options from a value that has been kept whole, given by name or by place. -/
def ofValue : Value → Except Fault Options
  | .object fields =>
    fields.foldlM (fun options (name, value) =>
      match settings.find? (·.name = name) with
      | some setting => options.setFrom setting value
      | none => .ok options) .default
  | .array items => do
    let options ← (settings.zip items).foldlM (fun options (setting, value) => options.setFrom setting value) .default
    if settings.length < items.length then .error (.tooLong items.length) else pure options
  | .scalar s => .error (.wrongType (.scalar s) .options)

def written (options : Options) : String :=
  Value.text (.object
    [("partial_output", .bool options.partialOutput), ("schema_version", .string options.dialect.version),
      ("collect_stats", .bool options.collectStatistics)])

end Options

namespace Statistics

def fields (counts : Statistics) : List (String × Nat) :=
  [("book_count", counts.books.toNat), ("chapter_count", counts.chapters.toNat), ("verse_count", counts.verses.toNat),
    ("paragraph_count", counts.paragraphs.toNat), ("note_count", counts.notes.toNat),
    ("table_count", counts.tables.toNat), ("unrenderable_count", counts.unrenderable.toNat),
    ("word_count", counts.words.toNat)]

/-- Reads one count. Each is kept under its name until all have been read. -/
def countReader (name : String) (read : List (String × UInt32)) : Reader (List (String × UInt32)) := fun s =>
  (Json.word32 s).map (·.map fun count => read ++ [(name, count)])

def layout : Layout (List (String × UInt32)) where
  wanted := .statistics
  fields := zero.fields.map fun (name, _) => (name, countReader name)

/-- The statistics that named counts make up; the first missing one is noticed. -/
def ofCounts (counts : List (String × UInt32)) : Except Fault Statistics := do
  let count (name : String) : Except Fault UInt32 := Json.required name (counts.lookup name)
  pure
    { books := ← count "book_count"
      chapters := ← count "chapter_count"
      verses := ← count "verse_count"
      paragraphs := ← count "paragraph_count"
      notes := ← count "note_count"
      tables := ← count "table_count"
      unrenderable := ← count "unrenderable_count"
      words := ← count "word_count" }

def reader : Reader Statistics :=
  layout.reader [] ofCounts fun (length, counts) =>
    if length < layout.fields.length then .error (.tooShort length .statistics layout.fields.length)
    else ofCounts counts

def ofText (text : String) : Except Fault Statistics := reader.whole (.ofString text)

def toValue (counts : Statistics) : Value :=
  .object (counts.fields.map fun (name, count) => (name, .integer count))

end Statistics

namespace RenderResult

/-- Reads statistics that may be null. -/
def statisticsReader : Reader (Option Statistics) := Json.afterBlanks fun s =>
  match s with
  | some 'n' :: s => (Json.wordScalar .null ['u', 'l', 'l'] (some 'n') s).map (·.map fun _ => none)
  | s => (Statistics.reader s).map (·.map some)

/-- The parts of a result that have been read. -/
structure Parts where
  content : Option String
  unrenderable : Option (List String)
  statistics : Option (Option Statistics)

def layout : Layout Parts where
  wanted := .result
  fields :=
    [("content", fun parts s =>
        (Json.text s).map (·.map fun text => { parts with content := some text })),
      ("unrenderable_tags", fun parts s =>
        (Json.arrayOf (some Json.text) s).map (·.map fun tags => { parts with unrenderable := some tags })),
      ("stats", fun parts s =>
        (statisticsReader s).map (·.map fun counts => { parts with statistics := some counts }))]

/-- The result that parts make up; only the statistics may be missing. -/
def ofParts (parts : Parts) : Except Fault RenderResult := do
  let content ← Json.required "content" parts.content
  let unrenderable ← Json.required "unrenderable_tags" parts.unrenderable
  pure ⟨content, unrenderable, parts.statistics.getD none⟩

def reader : Reader RenderResult :=
  layout.reader ⟨none, none, none⟩ ofParts fun (length, parts) =>
    if length < layout.fields.length then .error (.tooShort length .result layout.fields.length)
    else ofParts parts

def ofText (text : String) : Except Fault RenderResult := reader.whole (.ofString text)

def written (result : RenderResult) : String :=
  Value.text (.object
    [("content", .string result.content), ("unrenderable_tags", .array (result.unrenderable.map .string)),
      ("stats", match result.statistics with
        | none => .null
        | some counts => counts.toValue)])

end RenderResult

end ScriptureMarkup.Usx
