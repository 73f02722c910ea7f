import TextTemplate.Eval.Evaluate
import TextTemplate.Node.Parser
import TextTemplate.Token.Lexer

/-!
Compiling templates and rendering them. A compiled template is a syntax tree; it can be rendered any
number of times, each time in a fresh environment of the names that every template finds and of the
variables that are given.
-/

namespace TextTemplate

/-- What can go wrong with a template. -/
inductive Failure
  | lexical (error : LexError)
  | structural (error : ParseError)
  | evaluation (fault : Fault)

def Failure.problem : Failure → Problem
  | lexical error => .reported error.report
  | structural error => error.problem
  | evaluation fault => fault.problem

/-- The statements of a tree that stands for a whole template, or the tree as one statement. -/
def Node.statements : Node → List Node
  | .program body => body
  | node => [node]

/-- The tokens and the tree of a template. -/
def analyse (trimming : Source.Trimming) (source : String) :
    Except Failure (List Token × Node) := do
  let tokens ← (Token.ofSource trimming source).mapError .lexical
  let tree ← (Node.ofTokens tokens).mapError .structural
  pure (tokens, tree)

/-- The tree of a template. -/
def compile (trimming : Source.Trimming) (source : String) : Except Failure Node :=
  Prod.snd <$> analyse trimming source

namespace Eval

/-- Binds a name in the innermost scope, where it must not be bound yet. -/
def declare (name : String) (value : Value) : Eval Unit := do
  let taken ← ofEnvironment (·.inner.bindings.has name)
  if taken then fail (.alreadyDeclared name) else bindName name value

/-- Declares a name for a host value and answers the value it stands for. -/
def declareHost (name : String) (host : Host) : Eval Value := do
  let value ← fromHost host
  declare name value
  pure value

/-- Starts a new outermost scope with nothing in it but the function `namespace`. -/
def startScope (tests : List Test) : Eval Unit := do
  changeEnvironment fun _ => ⟨⟨[], tests⟩, []⟩
  let value ← newFunction (.builtin .namespace_)
  declare "namespace" value

/-- Declares the constants and functions that every template finds. -/
def declareBuiltins : Eval Unit := do
  declare "true" (.bool true)
  declare "false" (.bool false)
  declare "True" (.bool true)
  declare "False" (.bool false)
  declare "None" .null
  let range ← newFunction (.builtin .range)
  declare "range" range
  let raiseException ← newFunction (.builtin .raiseException)
  declare "raise_exception" raiseException

/-- Declares what is named by texts. A value with another name can never be asked for, but it has
to be one that a template can be given. -/
def declareAll : List (Host × Host) → Eval Unit
  | [] => pure ()
  | (.text name, host) :: rest => do
    let _ ← declareHost name host
    declareAll rest
  | (_, host) :: rest => do
    let _ ← fromHost host
    declareAll rest

/-- Starts the environment of a rendering with the variables in a map, or with none when there is
nothing. -/
def startEnvironment (given : Host) : Eval Unit := do
  startScope Test.all
  declareBuiltins
  match given with
  | .map entries => declareAll entries
  | given => if given.truthy then fail .noMethod else pure ()

/-- Renders a template in a fresh environment. -/
def render (program : Node) (given : Host) : Eval String := do
  startEnvironment given
  evaluateBlock program.statements

end Eval

/-- The state before anything has been evaluated. -/
def State.initial : State := ⟨.empty, ⟨⟨[], Test.all⟩, []⟩⟩

end TextTemplate
