import TextTemplate.Value

/-!
Variables. A scope holds bindings and a table of tests; an environment is a scope with the scopes
around it, the innermost first. A name stands for its binding in the innermost scope that has one.
-/

namespace TextTemplate

/-- The tests that a value can be put to. -/
inductive Test
  | boolean
  | callable
  | odd
  | even
  | isFalse
  | isTrue
  | number
  | integer
  | iterable
  | lower
  | upper
  | none
  | defined
  | undefined
  | equalto
  | string
  | mapping
  | sequence
  deriving DecidableEq, Repr

namespace Test

def name : Test → String
  | boolean => "boolean"
  | callable => "callable"
  | odd => "odd"
  | even => "even"
  | isFalse => "false"
  | isTrue => "true"
  | number => "number"
  | integer => "integer"
  | iterable => "iterable"
  | lower => "lower"
  | upper => "upper"
  | none => "none"
  | defined => "defined"
  | undefined => "undefined"
  | equalto => "equalto"
  | string => "string"
  | mapping => "mapping"
  | sequence => "sequence"

def all : List Test :=
  [boolean, callable, odd, even, isFalse, isTrue, number, integer, iterable, lower, upper, none,
    defined, undefined, equalto, string, mapping, sequence]

def ofName? (name : String) : Option Test := all.find? (·.name == name)

end Test

structure Scope where
  bindings : Fields Value
  tests : List Test

structure Environment where
  inner : Scope
  outer : List Scope

/-- The value of a name in the first scope that binds it. -/
def Scope.lookupIn? (name : String) : List Scope → Option Value
  | [] => none
  | scope :: rest =>
    match scope.bindings.get? name with
    | some value => some value
    | none => lookupIn? name rest

/-- The number of scopes before the first one that binds a name. -/
def Scope.depthIn? (name : String) : List Scope → Option Nat
  | [] => none
  | scope :: rest =>
    if scope.bindings.has name then some 0 else (depthIn? name rest).map (· + 1)

/-- Binds a name anew in the first scope that binds it; none when no scope does. -/
def Scope.overwriteIn? (name : String) (value : Value) : List Scope → Option (List Scope)
  | [] => none
  | scope :: rest =>
    if scope.bindings.has name then
      some ({ scope with bindings := scope.bindings.put name value } :: rest)
    else (overwriteIn? name value rest).map (scope :: ·)

namespace Environment

def scopes (env : Environment) : List Scope := env.inner :: env.outer

def lookup? (env : Environment) (name : String) : Option Value :=
  Scope.lookupIn? name env.scopes

/-- The value of a name, `undefined` for one that is not bound. -/
def lookup (env : Environment) (name : String) : Value := (env.lookup? name).getD .undefined

/-- How many scopes out the scope is that binds a name. -/
def depth? (env : Environment) (name : String) : Option Nat := Scope.depthIn? name env.scopes

/-- Binds a name in the innermost scope. -/
def bind (env : Environment) (name : String) (value : Value) : Environment :=
  { env with inner.bindings := env.inner.bindings.put name value }

/-- Binds a name anew where it is bound, or in the innermost scope when it is bound nowhere. -/
def assign (env : Environment) (name : String) (value : Value) : Environment :=
  match Scope.overwriteIn? name value env.scopes with
  | some (inner :: outer) => ⟨inner, outer⟩
  | _ => env.bind name value

/-- An empty scope inside the others, with the same tests. -/
def enter (env : Environment) : Environment := ⟨⟨[], env.inner.tests⟩, env.scopes⟩

/-- Leaves the innermost scope, unless it is the only one. -/
def leave (env : Environment) : Environment :=
  match env.outer with
  | [] => env
  | inner :: outer => ⟨inner, outer⟩

/-- The outermost scope. -/
def root (env : Environment) : Scope := env.scopes.getLast (by simp [scopes])

end Environment

end TextTemplate
