import TextTemplate.Prompt.Activity
import TextTemplate.Prompt.Preset
import TextTemplate.Prompt.Validation

/-!
Work with prompts. A workspace holds the prompts and groups made so far, by number, and a session is
a computation that changes it. A step that fails keeps the changes made before.
-/

namespace TextTemplate

structure Workspace where
  library : HostLibrary
  prompts : List Prompt
  groups : List PromptGroup
  /-- How many compilations there have been. -/
  programs : Nat
  debug : Bool
  /-- What has been done, the latest first. -/
  entries : List Activity.Entry
  memory : Memory

def Workspace.ofLibrary (library : HostLibrary) : Workspace :=
  ⟨library, [], [], 0, false, [], .empty⟩

abbrev Session := ExceptT Problem (StateM Workspace)

namespace Session

/-! ## Parts of the workspace -/

def prompt (number : Nat) : Session Prompt := do
  match (← get).prompts[number]? with
  | some prompt => pure prompt
  | none => throw .noKey

def group (number : Nat) : Session PromptGroup := do
  match (← get).groups[number]? with
  | some group => pure group
  | none => throw .noKey

def changePrompt (number : Nat) (f : Prompt → Prompt) : Session Unit :=
  modify fun w => { w with prompts := w.prompts.modify number f }

def changeGroup (number : Nat) (f : PromptGroup → PromptGroup) : Session Unit :=
  modify fun w => { w with groups := w.groups.modify number f }

/-- Adds a prompt; its number is the number of prompts before it. -/
def addPrompt (prompt : Prompt) : Session Nat := do
  let w ← get
  set { w with prompts := w.prompts ++ [prompt] }
  pure w.prompts.length

def addGroup (strict : Bool) : Session Nat := do
  let w ← get
  set { w with groups := w.groups ++ [PromptGroup.mk strict [] []] }
  pure w.groups.length

/-- Records an activity. -/
def record (activity : Activity) : Session Unit :=
  modify fun w => { w with entries := .mk (Activity.level w.debug) activity :: w.entries }

/-- The activities recorded since the last time, from the first to the last. -/
def takeEntries : Session (List Activity.Entry) := do
  let w ← get
  set { w with entries := [] }
  pure w.entries.reverse

/-- The globals that a prompt sees at the moment. -/
def globals (prompt : Prompt) : Session (Fields Host) := do
  match prompt.group with
  | none => pure []
  | some number => return (← group number).globals

/-! ## Arguments -/

/-- A parameter that was given a value of the wrong type. -/
def wrongParameter (name subject expected : String) (value : Host) : Problem :=
  .reported {
    errorClass := .validation
    message := subject ++ " must be " ++ expected ++ ", got " ++ value.typeName
    details := [("param", .text name), ("type", .text value.typeName)] }

/-- A function given under the name of a filter. -/
def asFilter (subject : String) : Host → Session HostFunction
  | .function f => pure f
  | value => throw (wrongParameter "func" subject "callable" value)

/-- The name under which the prompt itself is an argument of whatever is done with it. -/
def promptName : String := "self"

/-- Named arguments must leave the prompt its name. -/
def checkNames (named : Fields Host) : Session Unit :=
  if named.has promptName then throw .wrongType else pure ()

/-- Takes the value of an option out of the named arguments, where it must not be when it has been
given already. -/
def takeOption (name : String) (given : Option Host) (named : Fields Host) :
    Session (Option Host × Fields Host) :=
  match given, named.get? name with
  | some _, some _ => throw .wrongType
  | some value, none => pure (some value, named)
  | none, value => pure (value, named.erase name)

/-- Takes the mode of a rendering out of the named arguments; nothing stands for the mode that the
prompt has. -/
def takeStrict (prompt : Prompt) (given : Option Host) (named : Fields Host) :
    Session (Host × Fields Host) := do
  match ← takeOption "strict" given named with
  | (none, named) | (some .null, named) => pure (.bool prompt.strict, named)
  | (some value, named) => pure (value, named)

/-! ## Making prompts -/

/-- Compiles a template, as a result of its own. -/
def compileSource (trimming : Source.Trimming) (source : String) : Session Program := do
  match analyse trimming source with
  | .error failure => throw failure.problem
  | .ok (tokens, tree) =>
    let number := (← get).programs
    modify fun w => { w with programs := number + 1 }
    record (.compiled tokens.length tree.statements.length source.length)
    pure ⟨number, tree⟩

/-- A new prompt that belongs to no group. -/
def newPrompt (trimming : Source.Trimming) (strict : Bool) : Host → Session Nat
  | .text source => do
    let program ← compileSource trimming source
    addPrompt ⟨source, strict, program, [], [], none⟩
  | value => throw (wrongParameter "source" "Template source" "str" value)

/-- The names of the presets in order. -/
def knownPresets : String := ", ".intercalate (sortedTexts (Preset.all.map Preset.name))

/-- A new prompt from the preset of the given name. -/
def newPreset (name : String) : Session Nat :=
  match Preset.ofName? name with
  | some preset => newPrompt .full false (.text preset.source)
  | none => throw (.reported {
      errorClass := .validation
      message := "Unknown preset " ++ Text.quoted name ++ ". Available presets: " ++ knownPresets
      details := [("param", .text "name"), ("value", .text name)] })

/-- A new prompt with the filters of a group, which sees its globals and is in its mode unless
another one is given. -/
def newPromptIn (number : Nat) (strict : Option Bool) (source : Host) : Session Nat := do
  let group ← group number
  let prompt ← newPrompt .full (strict.getD group.strict) source
  changePrompt prompt fun p => { p with filters := group.filters, group := some number }
  pure prompt

/-- A fault of a value that templates cannot take, none for one that they can. -/
def conversionFault? (value : Host) : Session (Option Fault) := do
  let w ← get
  let start := { State.initial with memory := w.memory }
  match (Eval.fromHost value (.ofLibrary w.library [] false) start).1 with
  | .ok _ => pure none
  | .error fault => pure (some fault)

/-- Refuses values that templates cannot take. -/
def checkValues : List Host → Session Unit
  | [] => pure ()
  | value :: rest => do
    match ← conversionFault? value with
    | some fault => throw fault.problem
    | none => checkValues rest

/-- A new prompt that is like another one, with variables given in advance. -/
def settle (number : Nat) (named : Fields Host) : Session Nat := do
  checkNames named
  let prompt ← prompt number
  checkValues named.values
  addPrompt (prompt.settle named)

/-! ## Filters, globals and the mode of the record -/

def putFilter (number : Nat) (name : String) (value : Host) : Session Unit := do
  let filter ← asFilter "Filter function" value
  changePrompt number (·.putFilter name filter)

def putGroupFilter (number : Nat) (name : String) (value : Host) : Session Unit := do
  let filter ← asFilter "Filter" value
  changeGroup number fun g => { g with filters := g.filters.put name filter }

def putGlobal (number : Nat) (name : String) (value : Host) : Session Unit :=
  changeGroup number fun g => { g with globals := g.globals.put name value }

/-- Takes away a global, which must be there. -/
def eraseGlobal (number : Nat) (name : String) : Session Unit := do
  if (← group number).globals.has name then
    changeGroup number fun g => { g with globals := g.globals.erase name }
  else throw .noKey

def setDebug : Host → Session Unit
  | .bool debug => modify fun w => { w with debug }
  | value => throw (wrongParameter "debug" "debug" "bool" value)

/-! ## Rendering -/

/-- Evaluates in the memory of the workspace. -/
def evaluate {α : Type} (filters : Fields HostFunction) (strict : Bool) (x : Eval α) :
    Session α := do
  let w ← get
  let (result, state) :=
    x (.ofLibrary w.library filters strict) { State.initial with memory := w.memory }
  set { w with memory := state.memory }
  match result with
  | .ok a => pure a
  | .error fault => throw fault.problem

/-- Renders a prompt with variables. The mode is strict when the value that asks for it is true. -/
def renderIn (strict : Host) (prompt : Prompt) (given : Fields Host) : Session String := do
  let merged := prompt.merged (← globals prompt) given
  let text ← evaluate prompt.filters strict.truthy <|
    Eval.render prompt.program.tree (.ofFields merged)
  record (.rendered text.length strict)
  pure text

/-- Renders a prompt. The mode is an option, which may be among the named arguments. -/
def render (number : Nat) (strict : Option Host) (named : Fields Host) : Session String := do
  checkNames named
  let prompt ← prompt number
  let (strict, given) ← takeStrict prompt strict named
  renderIn strict prompt given

/-- Renders a prompt in its own mode. All named arguments are variables. -/
def format (number : Nat) (named : Fields Host) : Session String := do
  checkNames named
  let prompt ← prompt number
  renderIn (.bool prompt.strict) prompt named

/-- What a rendering of a conversation is given besides the messages. -/
structure ChatOptions where
  addGenerationPrompt : Option Host
  bosToken : Option Host
  eosToken : Option Host
  strict : Option Host

/-- Renders a conversation. The answer is to be opened, and the tokens that mark the ends of a
sequence are empty, unless the options say otherwise. -/
def apply (number : Nat) (messages : Host) (options : ChatOptions) (named : Fields Host) :
    Session String := do
  checkNames named
  if named.has "messages" then throw .wrongType
  let prompt ← prompt number
  let (strict, named) ← takeStrict prompt options.strict named
  let (opened, named) ← takeOption "add_generation_prompt" options.addGenerationPrompt named
  let (bos, named) ← takeOption "bos_token" options.bosToken named
  let (eos, named) ← takeOption "eos_token" options.eosToken named
  renderIn strict prompt <|
    [("messages", messages), ("add_generation_prompt", opened.getD (.bool true)),
      ("bos_token", bos.getD (.text "")), ("eos_token", eos.getD (.text ""))] ++ named

/-! ## Validation -/

/-- Splits named arguments into the values that templates can take and the reasons against the
others. -/
def sortOut : Fields Host → Session (Fields Host × Fields String)
  | [] => pure ([], [])
  | (name, value) :: rest => do
    match ← conversionFault? value with
    | none =>
      let (valid, invalid) ← sortOut rest
      pure ((name, value) :: valid, invalid)
    | some fault =>
      match fault.problem with
      | .reported report =>
        let (valid, invalid) ← sortOut rest
        pure (valid, (name, report.message) :: invalid)
      | problem => throw problem

/-- Compares named arguments with the variables that a prompt expects. -/
def validate (number : Nat) (named : Fields Host) : Session Validation := do
  checkNames named
  let prompt ← prompt number
  let (valid, invalid) ← sortOut named
  let globals ← globals prompt
  pure {
    verdict := .ofNames (findVariables prompt.program.tree) (globals.keys ++ prompt.settled.keys)
      named.keys invalid
    subject := some ⟨number, valid, prompt.strict⟩ }

/-- Renders the prompt that was validated with the values that it can take. -/
def renderValidated (validation : Validation) (strict : Option Bool) : Session String := do
  match validation.subject with
  | none => throw (.reported Validation.noSubject)
  | some subject =>
    if validation.verdict.isValid then
      render subject.prompt (some (.bool (strict.getD subject.strict))) subject.given
    else throw (.reported (Validation.notValid validation.verdict))

end Session

end TextTemplate
