import TextTemplate.Eval.Filter
import TextTemplate.Eval.Member
import TextTemplate.Eval.Test

/-!
Evaluation of syntax trees. Evaluation follows the structure of the tree; a loop evaluates its body
once for every item its iterable held at the start.
-/

namespace TextTemplate.Eval

/-- The text that a statement of a block contributes by its value, none for a label that is no
text. In strict mode an undefined value is a fault. -/
def contribution (statement : Node) (value : Value) : Eval (Option String) :=
  match value with
  | .null => pure (some "")
  | .undefined => do
    let context ← context
    if context.strict then
      match statement with
      | .name name => fail (.undefinedName name)
      | _ => fail (.undefinedResult statement.kindName)
    else pure (some "")
  | .number n => do
    let s ← numeral n
    pure (some s)
  | .text s => pure (some s)
  | .label _ => pure none
  | _ => fail (.cannotRender value.kindName)

/-- Fails because of the kind of a node, or because there is no node. -/
def failOfKind {α : Type} (fault : String → Fault) (node : Node) : Eval α :=
  if node.isAbsent then fail .unlabelled else fail (fault node.kindName)

/-- Gives a value to the target of a `set` statement, apart from the members of objects. -/
def assignName (name : String) (value : Value) : Eval Unit :=
  changeEnvironment (·.assign name value)

/-- Sets a field of an object. -/
def assignField (target : Value) (key : String) (value : Value) : Eval Unit :=
  match target with
  | .object _ address => withMemory fun memory => ((), memory.setField address key value)
  | .table _ address => withMemory fun memory => ((), memory.setEntry address (.text key) value)
  | _ => fail (.memberOfNonObject target.kindName)

/-- Binds a name in the innermost scope. -/
def bindName (name : String) (value : Value) : Eval Unit := changeEnvironment (·.bind name value)

/-- Binds names to items one after the other. -/
def bindNames : List Node → List Value → Eval Unit
  | .name name :: targets, item :: items => do
    bindName name item
    bindNames targets items
  | target :: _, _ :: _ => failOfKind .unpackTarget target
  | _, _ => pure ()

/-- Binds the target of a loop; a tuple takes apart an array of as many items. -/
def bindTarget (target : Node) (item : Value) : Eval Unit :=
  match target with
  | .name name => bindName name item
  | .tuple targets =>
    match item with
    | .array items =>
      if items.length < targets.length then fail (.tooFewItems targets.length items.length)
      else if targets.length < items.length then fail (.tooManyItems targets.length items.length)
      else bindNames targets items
    | _ => fail (.cannotUnpack item.kindName)
  | _ => failOfKind .invalidLoopTarget target

/-- What a loop tells its body: where it is, and the items next to the current one. -/
def loopFields (length index : Nat) (previous next : Value) : Fields Value :=
  [("index", .ofNat (index + 1)),
    ("index0", .ofNat index),
    ("revindex", .ofNat (length - index)),
    ("revindex0", .ofNat (length - index - 1)),
    ("first", .bool (index == 0)),
    ("last", .bool (index + 1 == length)),
    ("length", .ofNat length),
    ("previtem", previous),
    ("nextitem", next)]

/-- Evaluates the body of a loop for the items from `index` on and appends the texts to `done`. -/
def loopFrom (target : Node) (body : Eval String) (length : Nat) :
    Nat → Value → List Value → String → Eval String
  | _, _, [], done => pure done
  | index, previous, item :: rest, done => do
    let next := rest.head?.getD .undefined
    let about ← newObject .plain (loopFields length index previous next)
    bindName "loop" about
    bindTarget target item
    let part ← body
    loopFrom target body length (index + 1) item rest (done ++ part)

/-- Evaluates the body of a loop for every item of an array. -/
def loopOver (target : Node) (body : Eval String) (iterable : Value) : Eval String :=
  match iterable with
  | .array items => loopFrom target body items.length 0 .undefined items ""
  | _ => fail (.notIterable iterable.kindName)

def callValue (callee : Value) (args : List Value) : Eval Value :=
  match callee with
  | .function _ function => call function args
  | _ => fail (.notCallable callee.kindName)

/-- The arguments of a call, with a bundle of the keyword arguments if there are any. -/
def bundled (positional : List Value) (keywords : List (Label × Value)) : Eval (List Value) :=
  if keywords.isEmpty then pure positional
  else do
    let bundle ← newLabelled .keywords keywords
    pure (positional ++ [bundle])

/-- The test of a name in the table of the innermost scope. Labels that are no texts name none. -/
def findTest : Option Label → Eval Test
  | some (.text name) => do
    let tests ← ofEnvironment (·.inner.tests)
    match tests.find? (·.name == name) with
    | some test => pure test
    | none => fail (.unknownTest (.text name))
  | some label => fail (.unknownTest label)
  | none => fail .unlabelled

mutual

def evaluate : Node → Eval Value
  | .program body => do
    let text ← evaluateBlock body
    pure (.text text)
  | .set target value => do
    let value ← evaluate value
    match target with
    | .name name => do
      assignName name value
      pure .null
    | .member object (.name key) false => do
      let target ← evaluate object
      assignField target key value
      pure .null
    | target => failOfKind .invalidTarget target
  | .branch test body alternate => do
    let test ← evaluate test
    let holds ← truth test
    if holds then do
      let text ← evaluateBlock body
      pure (.text text)
    else do
      let text ← evaluateBlock alternate
      pure (.text text)
  | .loop target iterable body => inNewScope do
    let iterable ← evaluate iterable
    let text ← loopOver target (evaluateBlock body) iterable
    pure (.text text)
  | .name name => ofEnvironment (·.lookup name)
  | .member object property false => do
    let object ← evaluate object
    memberByLabel object property.label?
  | .member object (.slice start stop step) true => do
    let object ← evaluate object
    if isSequence object then do
      let start ← evaluateBound start
      let stop ← evaluateBound stop
      let step ← evaluateBound step
      slice object start stop step
    else fail (.sliceOfNonSequence object.kindName)
  | .member object property true => do
    let object ← evaluate object
    let property ← evaluate property
    member object property
  | .call callee args => do
    let (positional, keywords) ← evaluateArguments args
    let args ← bundled positional keywords
    let callee ← evaluate callee
    callValue callee args
  | .number n => ofNumber n
  | .text s => pure (.text s)
  | .bool b => pure (.bool b)
  | .null => pure .null
  | .array items => do
    let items ← evaluateAll items
    pure (.array items)
  | .tuple items => do
    let items ← evaluateAll items
    pure (.array items)
  | .object pairs => do
    let fields ← evaluatePairs pairs
    newLabelled .plain fields
  | .binary operator left right => do
    let left ← evaluate left
    match operator with
    | "and" => do
      let holds ← truth left
      if holds then evaluate right else pure left
    | "or" => do
      let holds ← truth left
      if holds then pure left else evaluate right
    | _ => do
      let right ← evaluate right
      applyBinary operator left right
  | .filter operand (.name name) => do
    let operand ← evaluate operand
    applyFilter name operand []
  | .filter operand (.call (.name name) args) => do
    let operand ← evaluate operand
    let (positional, keywords) ← evaluateArguments args
    let args ← bundled positional keywords
    applyFilter name operand args
  | .filter operand filter => do
    let _ ← evaluate operand
    failOfKind .unknownFilterNode filter
  | .test operand negate test args => do
    let operand ← evaluate operand
    let test ← findTest test.label?
    let (positional, keywords) ← evaluateArguments args
    let args ← bundled positional keywords
    let holds ← applyTest test operand args
    pure (.bool (holds != negate))
  | .unary operator argument => do
    let argument ← evaluate argument
    applyUnary operator argument
  | .slice _ _ _ => fail .sliceOutsideBrackets
  | .keyword _ _ => fail .keywordOutsideCall
  | .ternary condition whenTrue whenFalse => do
    let condition ← evaluate condition
    let holds ← truth condition
    if holds then evaluate whenTrue else evaluate whenFalse
  | .bare kind => failOfKind .unknownNode (.bare kind)

/-- The texts of the statements of a block, joined when all of them are there. -/
def evaluateBlock : List Node → Eval String
  | [] => pure ""
  | statement :: rest => do
    let value ← evaluate statement
    let text ← contribution statement value
    let texts ← evaluateBlock rest
    match text with
    | some text => pure (text ++ texts)
    | none => fail .unfit

def evaluateAll : List Node → Eval (List Value)
  | [] => pure []
  | item :: rest => do
    let value ← evaluate item
    let values ← evaluateAll rest
    pure (value :: values)

/-- The positional and the keyword arguments of a call. A keyword is known by its label. -/
def evaluateArguments : List Node → Eval (List Value × List (Label × Value))
  | [] => pure ([], [])
  | .keyword key value :: rest => do
    let value ← evaluate value
    match key.label? with
    | some label => do
      let (positional, keywords) ← evaluateArguments rest
      pure (positional, (label, value) :: keywords)
    | none => fail .unlabelled
  | arg :: rest => do
    let value ← evaluate arg
    let (positional, keywords) ← evaluateArguments rest
    pure (value :: positional, keywords)

/-- The fields of an object literal. Its keys have to be texts or labels. -/
def evaluatePairs : List (Node × Node) → Eval (List (Label × Value))
  | [] => pure []
  | (key, value) :: rest => do
    let key ← evaluate key
    match key with
    | .text name => do
      let value ← evaluate value
      let fields ← evaluatePairs rest
      pure ((.text name, value) :: fields)
    | .label label => do
      let value ← evaluate value
      let fields ← evaluatePairs rest
      pure ((label, value) :: fields)
    | _ => fail (.objectKey key.kindName)

/-- A bound of a slice. -/
def evaluateBound : Option Node → Eval (Option Int)
  | none => pure none
  | some node => do
    let value ← evaluate node
    sliceBound value

end

end TextTemplate.Eval
