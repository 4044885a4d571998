import ScriptureMarkup.Usx.Dialect

namespace ScriptureMarkup.Command

/-- What is to be done, with all choices made. -/
inductive Invocation
  | render (input : String) (output : Option String) (partialOutput : Bool) (dialect : Usx.Dialect) (statistics : Bool)
  | batch (inputs : List String) (directory : String) (dialect : Usx.Dialect) (statistics : Bool)
  | info (input : String) (json : Bool)
  | version
  /-- Only the name and version of the program are asked for. -/
  | release
  | help
  deriving DecidableEq

/-- Names of an option: a word behind two dashes and perhaps a letter behind one. -/
structure OptionName where
  word : String
  letter : Option Char
  deriving DecidableEq

/-- What may stand behind the name of a command. -/
structure Grammar where
  flags : List OptionName
  valued : List OptionName
  /-- The greatest number of operands, if there is one. -/
  operands : Option Nat

/-- What has been found behind the name of a command. -/
structure Choices where
  flags : List String
  values : List (String × String)
  operands : List String

/-- Why arguments are not taken as they stand. -/
inductive Diversion
  | help
  | misuse
  deriving DecidableEq

def schemaOption : OptionName := ⟨"schema", none⟩

namespace Choices

def nothing : Choices := ⟨[], [], []⟩

/-- Each flag may be given once. -/
def addFlag (choices : Choices) (word : String) : Except Diversion Choices :=
  if choices.flags.contains word then .error .misuse else .ok { choices with flags := word :: choices.flags }

/-- Each option may be given once, with a value that is not empty; the schema has to be one
of the published ones. -/
def addValue (choices : Choices) (word value : String) : Except Diversion Choices :=
  if (choices.values.lookup word).isSome || value.isEmpty then .error .misuse
  else if word = schemaOption.word && (Usx.Dialect.ofVersion? value).isNone then .error .misuse
  else .ok { choices with values := (word, value) :: choices.values }

def addOperand (grammar : Grammar) (choices : Choices) (operand : String) : Except Diversion Choices :=
  let tooMany := match grammar.operands with
    | some most => decide (most ≤ choices.operands.length)
    | none => false
  if tooMany || operand.isEmpty then .error .misuse
  else .ok { choices with operands := choices.operands ++ [operand] }

end Choices

/-- Whether an argument can be the value of the option before it. One dash alone can. -/
def isValue (argument : String) : Bool :=
  match argument.toList with
  | '-' :: _ :: _ => false
  | _ => true

/-- Takes an option whose value is either attached to it or the next argument. -/
def takeValue (choices : Choices) (word : String) (attached : Option String) (arguments : List String) :
    Except Diversion (Choices × List String) :=
  match attached, arguments with
  | some value, _ => (choices.addValue word value).map fun choices => (choices, arguments)
  | none, value :: arguments =>
    if isValue value then (choices.addValue word value).map fun choices => (choices, arguments)
    else .error .misuse
  | none, [] => .error .misuse

/-- Takes what stands behind two dashes: a word, perhaps with a value behind an equals sign. -/
def takeWord (grammar : Grammar) (choices : Choices) (body : List Char) (arguments : List String) :
    Except Diversion (Choices × List String) :=
  let word := String.ofList (body.takeWhile (· ≠ '='))
  let attached := match body.dropWhile (· ≠ '=') with
    | [] => none
    | _ :: value => some (String.ofList value)
  if word = "help" then .error (if attached.isSome then .misuse else .help)
  else if grammar.flags.any (·.word = word) then
    if attached.isSome then .error .misuse else (choices.addFlag word).map fun choices => (choices, arguments)
  else if grammar.valued.any (·.word = word) then takeValue choices word attached arguments
  else .error .misuse

/-- Takes the letters behind one dash. The letters behind one that wants a value are that
value, perhaps behind an equals sign. -/
def takeLetters (grammar : Grammar) (choices : Choices) (arguments : List String) :
    List Char → Except Diversion (Choices × List String)
  | [] => .ok (choices, arguments)
  | letter :: letters =>
    if letter = 'h' then .error .help
    else match grammar.flags.find? (·.letter = some letter) with
      | some flag =>
        match choices.addFlag flag.word with
        | .error diversion => .error diversion
        | .ok choices => takeLetters grammar choices arguments letters
      | none =>
        match grammar.valued.find? (·.letter = some letter), letters with
        | some option, [] => takeValue choices option.word none arguments
        | some option, '=' :: value => takeValue choices option.word (some (String.ofList value)) arguments
        | some option, value => takeValue choices option.word (some (String.ofList value)) arguments
        | none, _ => .error .misuse

/-- What a successful choice leaves of the arguments is what was passed along with it. -/
theorem snd_of_map_ok {outcome : Except Diversion Choices} {left : List String} {result : Choices × List String}
    (taken : (outcome.map fun choices => (choices, left)) = .ok result) : result.2 = left := by
  cases outcome with
  | error diversion => cases taken
  | ok choices =>
    cases taken
    rfl

theorem length_takeValue_le {choices : Choices} {word : String} {attached : Option String} {arguments : List String}
    {result : Choices × List String} (taken : takeValue choices word attached arguments = .ok result) :
    result.2.length ≤ arguments.length := by
  unfold takeValue at taken
  split at taken
  · exact Nat.le_of_eq (congrArg List.length (snd_of_map_ok taken))
  · split at taken
    · rw [snd_of_map_ok taken]
      exact Nat.le_succ _
    · cases taken
  · cases taken

theorem length_takeWord_le {grammar : Grammar} {choices : Choices} {body : List Char} {arguments : List String}
    {result : Choices × List String} (taken : takeWord grammar choices body arguments = .ok result) :
    result.2.length ≤ arguments.length := by
  simp only [takeWord] at taken
  generalize (match body.dropWhile (· ≠ '=') with
    | [] => none
    | _ :: value => some (String.ofList value)) = attached at taken
  split at taken
  · cases taken
  · split at taken
    · cases attached with
      | none => exact Nat.le_of_eq (congrArg List.length (snd_of_map_ok taken))
      | some value => cases taken
    · split at taken
      · exact length_takeValue_le taken
      · cases taken

theorem length_takeLetters_le {grammar : Grammar} {choices : Choices} {letters : List Char} {arguments : List String}
    {result : Choices × List String} (taken : takeLetters grammar choices arguments letters = .ok result) :
    result.2.length ≤ arguments.length := by
  induction letters generalizing choices with
  | nil =>
    cases taken
    exact Nat.le_refl _
  | cons letter letters ih =>
    unfold takeLetters at taken
    split at taken
    · cases taken
    · split at taken
      · split at taken
        · cases taken
        · exact ih taken
      · split at taken
        · exact length_takeValue_le taken
        · exact length_takeValue_le taken
        · exact length_takeValue_le taken
        · cases taken

/-- Judges the arguments of a command one after the other, so the first one that is out of
place decides. Behind two dashes that stand alone there are only operands. -/
def Grammar.choices (grammar : Grammar) (choices : Choices) (arguments : List String) : Except Diversion Choices :=
  match arguments with
  | [] => .ok choices
  | argument :: arguments =>
    match argument.toList with
    | ['-', '-'] => arguments.foldlM (Choices.addOperand grammar) choices
    | '-' :: '-' :: body =>
      match h : takeWord grammar choices body arguments with
      | .error diversion => .error diversion
      | .ok (taken, left) =>
        have := length_takeWord_le h
        grammar.choices taken left
    | '-' :: letter :: letters =>
      match h : takeLetters grammar choices arguments (letter :: letters) with
      | .error diversion => .error diversion
      | .ok (taken, left) =>
        have := length_takeLetters_le h
        grammar.choices taken left
    | _ =>
      match choices.addOperand grammar argument with
      | .error diversion => .error diversion
      | .ok taken => grammar.choices taken arguments
  termination_by arguments.length
  decreasing_by
    · exact Nat.lt_add_one_of_le this
    · exact Nat.lt_add_one_of_le this
    · exact Nat.lt_add_one arguments.length

def outputOption : OptionName := ⟨"output", some 'o'⟩

def partialFlag : OptionName := ⟨"partial", some 'p'⟩

def statisticsFlag : OptionName := ⟨"stats", none⟩

def jsonFlag : OptionName := ⟨"json", none⟩

def renderGrammar : Grammar := ⟨[partialFlag, statisticsFlag], [outputOption, schemaOption], some 1⟩

def batchGrammar : Grammar := ⟨[statisticsFlag], [outputOption, schemaOption], none⟩

def infoGrammar : Grammar := ⟨[jsonFlag], [], some 1⟩

def versionGrammar : Grammar := ⟨[], [], some 0⟩

namespace Choices

def has (choices : Choices) (flag : OptionName) : Bool := choices.flags.contains flag.word

def value? (choices : Choices) (option : OptionName) : Option String := choices.values.lookup option.word

/-- The dialect chosen, or else the one that the environment names, or else the default. A
name in the environment counts only when it is needed. -/
def dialect (environment : Option String) (choices : Choices) : Except Diversion Usx.Dialect :=
  match choices.value? schemaOption <|> environment with
  | none => .ok .usx3_0
  | some version =>
    match Usx.Dialect.ofVersion? version with
    | some dialect => .ok dialect
    | none => .error .misuse

end Choices

/-- The invocation that the arguments of a named command make up. -/
def ofCommand (environment : Option String) (command : String) (arguments : List String) :
    Except Diversion Invocation := do
  match command with
  | "render" =>
    let choices ← renderGrammar.choices .nothing arguments
    let dialect ← choices.dialect environment
    match choices.operands with
    | [input] =>
      pure (.render input (choices.value? outputOption) (choices.has partialFlag) dialect (choices.has statisticsFlag))
    | _ => .error .misuse
  | "batch" =>
    let choices ← batchGrammar.choices .nothing arguments
    let dialect ← choices.dialect environment
    match choices.operands, choices.value? outputOption with
    | input :: inputs, some directory =>
      pure (.batch (input :: inputs) directory dialect (choices.has statisticsFlag))
    | _, _ => .error .misuse
  | "info" =>
    let choices ← infoGrammar.choices .nothing arguments
    match choices.operands with
    | [input] => pure (.info input (choices.has jsonFlag))
    | _ => .error .misuse
  | "version" =>
    let _ ← versionGrammar.choices .nothing arguments
    pure .version
  | "help" =>
    match arguments with
    | [] => pure .help
    | [topic] => if ["render", "batch", "info", "version", "help"].contains topic then pure .help else .error .misuse
    | _ => .error .misuse
  | _ => .error .misuse

/-- What the arguments of the program ask for; nothing if they cannot be used. Before a
command there may only be a question for the version or for help. -/
def Invocation.ofArguments? (environment : Option String) (arguments : List String) : Option Invocation :=
  let outcome : Except Diversion Invocation := match arguments with
    | [] => .error .misuse
    | first :: others =>
      match first.toList with
      | '-' :: 'V' :: _ => .ok .release
      | '-' :: 'h' :: _ => .ok .help
      | _ =>
        if first = "--version" then .ok .release
        else if first = "--help" then .ok .help
        else ofCommand environment first others
  match outcome with
  | .ok invocation => some invocation
  | .error .help => some .help
  | .error .misuse => none

end ScriptureMarkup.Command
