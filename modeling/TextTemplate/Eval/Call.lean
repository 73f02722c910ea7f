import TextTemplate.Eval.Convert
import TextTemplate.Eval.Method
import TextTemplate.Sequence

/-!
Calling functions: methods, the functions that every template finds among its variables, and
functions of the host. Keyword arguments arrive as a bundle behind the positional ones.
-/

namespace TextTemplate.Eval

/-- The arguments of a call, the keyword arguments by name. Keywords that are no texts name
nothing. -/
structure Arguments where
  positional : List Value
  keywords : Fields Value
  unnamed : List Label

/-- Takes a trailing bundle of keyword arguments apart from the positional arguments. -/
def splitArguments (args : List Value) : Eval Arguments :=
  match args.getLast? with
  | some (.object .keywords address) => do
    let keywords ← fieldsOf address
    pure ⟨args.dropLast, keywords, []⟩
  | some (.table .keywords address) => do
    let entries ← entriesOf address
    pure ⟨args.dropLast, Table.named entries, Table.unnamed entries⟩
  | _ => pure ⟨args, [], []⟩

/-- An object made from keyword arguments or from the fields of another object. -/
def callNamespace (args : List Value) : Eval Value :=
  match args with
  | [] => newObject .plain []
  | [.object _ address] => do
    let fields ← fieldsOf address
    newObject .plain fields
  | [.table _ address] => do
    let entries ← entriesOf address
    newTable .plain entries
  | _ => fail (.namespaceArguments (kindNames args))

def allIntegers? : List Value → Option (List Int)
  | [] => some []
  | .number (.int i) :: rest => (allIntegers? rest).map (i :: ·)
  | _ :: _ => none

/-- The whole numbers from `start` up to but not including `stop`, `step` apart. -/
def progressionValue (start stop step : Int) : Eval Value :=
  if step == 0 then fail (.zeroRangeStep (.ofNat 0))
  else if Sequence.progressionLength start stop step < sizeLimit then
    pure (.array ((Sequence.progression start stop step).map .int))
  else fail .overflow

/-- A bound that the host gives, with truth values as zero and one. -/
def hostBound : Host → Eval Int
  | .number (.int i) => pure i
  | .bool b => pure (if b then 1 else 0)
  | _ => fail .unfit

/-- The whole numbers between bounds that the host gives: up to a bound, or between two bounds of
which the second may be left out, with a step. -/
def hostProgression (bounds : List Host) : Eval Value :=
  let counted (start stop step : Host) : Eval Value :=
    match step.zero? with
    | some zero => fail (.zeroRangeStep zero)
    | none => do
      let start ← hostBound start
      let stop ← hostBound stop
      let step ← hostBound step
      progressionValue start stop step
  let zero := .number (.int 0)
  let one := .number (.int 1)
  match bounds with
  | [stop] | [stop, .null] => counted zero stop one
  | [start, stop] => counted start stop one
  | [stop, .null, step] => counted zero stop step
  | [start, stop, step] => counted start stop step
  | _ => fail .unfit

/-- Keywords in ascending order for a report; some labels have no order. -/
def refuseKeywords (arguments : Arguments) : Eval Value :=
  match Label.sorted? (arguments.keywords.keys.map .text ++ arguments.unnamed) with
  | some keywords => fail (.rangeKeywords keywords)
  | none => fail .unfit

/-- An array of whole numbers: from zero up to a bound, or between two bounds, with a step. The
step may be named. -/
def callRange (args : List Value) : Eval Value := do
  let arguments ← splitArguments args
  let ⟨positional, keywords, unnamed⟩ := arguments
  if !unnamed.isEmpty || keywords.any (·.1 != "step") ||
      (!keywords.isEmpty && !(positional.length == 1 || positional.length == 2)) then
    refuseKeywords arguments
  else
    let values := positional ++ keywords.values
    match allIntegers? values, keywords.isEmpty with
    | some [stop], _ => progressionValue 0 stop 1
    | some [start, stop], true => progressionValue start stop 1
    | some [stop, step], false => progressionValue 0 stop step
    | some [start, stop, step], _ => progressionValue start stop step
    | _, _ => fail (.rangeArguments (kindNames values))

/-- Fails with a message of the template's own. -/
def callRaiseException (args : List Value) : Eval Value :=
  match args with
  | [] => fail (.raised "raise_exception() called")
  | .text message :: _ => fail (.raised message)
  | other :: _ => do
    let message ← displayText other
    fail (.raised message)

def callBuiltin (builtin : Builtin) (args : List Value) : Eval Value :=
  match builtin with
  | .namespace_ => callNamespace args
  | .range => callRange args
  | .raiseException => callRaiseException args

/-- Calls a host function, given how that is done. Keywords that are no texts are refused. -/
def callWithArguments (callHost : HostFunction → List Host → Fields Host → Eval Host)
    (function : HostFunction) (arguments : Arguments) : Eval Value := do
  let hostKeywords ← mapAll (fun (key, value) => do
    let host ← toHost value
    pure (key, host)) arguments.keywords
  let hostArgs ← mapAll toHost arguments.positional
  if arguments.unnamed.isEmpty then do
    let answer ← callHost function hostArgs hostKeywords
    fromHost answer
  else fail .unexpectedKeywords

/-- Calls a function, given how host functions are called. -/
def callWith (callHost : HostFunction → List Host → Fields Host → Eval Host) (function : Function)
    (args : List Value) : Eval Value :=
  match function with
  | .ofText method receiver => callTextMethod method receiver args
  | .ofLabel method receiver => callLabelMethod method receiver args
  | .ofArray length => pure (.ofNat length)
  | .ofObject method address => callObjectMethod method address args
  | .ofTable method address => callTableMethod method address args
  | .builtin builtin => callBuiltin builtin args
  | .host function => do
    let arguments ← splitArguments args
    callWithArguments callHost function arguments

/-- Carries out what a host function does, given how it calls the functions it was given. -/
def perform (callHost : HostFunction → List Host → Eval Host) : HostAction → Eval Host
  | .answer value => pure value
  | .fail message => fail (.hostFailure message)
  | .call function args resume => do
    let answer ← callHost function args
    perform callHost (resume answer)

/-- Calls a host function, through at most `depth` host functions that call each other. A template
function that went to the host and came back takes no keyword arguments. -/
def callHostWithin : Nat → HostFunction → List Host → Fields Host → Eval Host
  | 0, _, _, _ => fail .callsTooDeep
  | depth + 1, .named name, args, keywords => do
    let context ← context
    perform (fun function args => callHostWithin depth function args [])
      (context.library name args keywords)
  | depth + 1, .template function, args, keywords =>
    if keywords.isEmpty then do
      let values ← mapAll fromHost args
      let answer ← callWith (callHostWithin depth) function values
      toHost answer
    else fail .unexpectedKeywords

def callHost (function : HostFunction) (args : List Host) (keywords : Fields Host) :
    Eval Host := do
  let context ← context
  callHostWithin context.callDepth function args keywords

def call (function : Function) (args : List Value) : Eval Value := callWith callHost function args

end TextTemplate.Eval
