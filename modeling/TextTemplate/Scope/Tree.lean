import TextTemplate.Template

/-!
Trees of scopes. Scopes are numbered in the order of their creation, so that the scope around
another one has the smaller number. What happens in a scope happens in the environment made of it
and the scopes around it, and is then written back to them.
-/

namespace TextTemplate

structure ScopeTree.Entry where
  parent : Option Nat
  scope : Scope

/-- Scopes by number, each with the number of the scope around it. -/
structure ScopeTree where
  entries : List ScopeTree.Entry

namespace ScopeTree

def empty : ScopeTree := ⟨[]⟩

/-- The numbers from a scope outward, at most `bound` of them. -/
def pathWithin (tree : ScopeTree) : Nat → Nat → List Nat
  | 0, _ => []
  | bound + 1, number =>
    match tree.entries[number]? with
    | none => []
    | some entry =>
      match entry.parent with
      | none => [number]
      | some parent => number :: tree.pathWithin bound parent

/-- The numbers from a scope outward to its root. -/
def path (tree : ScopeTree) (number : Nat) : List Nat :=
  tree.pathWithin tree.entries.length number

/-- The environment of a scope, none when there is no scope of that number. -/
def environment? (tree : ScopeTree) (number : Nat) : Option Environment :=
  match (tree.path number).filterMap fun n => (tree.entries[n]?).map (·.scope) with
  | [] => none
  | inner :: outer => some ⟨inner, outer⟩

def setScope (tree : ScopeTree) (number : Nat) (scope : Scope) : ScopeTree :=
  ⟨tree.entries.modify number fun entry => { entry with scope }⟩

/-- Writes scopes back to the numbers they came from. -/
def setScopes : List Nat → List Scope → ScopeTree → ScopeTree
  | number :: numbers, scope :: scopes, tree =>
    setScopes numbers scopes (tree.setScope number scope)
  | _, _, tree => tree

/-- Writes an environment back to the scope it came from and those around it. -/
def write (tree : ScopeTree) (number : Nat) (environment : Environment) : ScopeTree :=
  setScopes (tree.path number) environment.scopes tree

/-- Adds a scope; its number is the number of scopes before it. -/
def add (tree : ScopeTree) (parent : Option Nat) (scope : Scope) : ScopeTree :=
  ⟨tree.entries ++ [⟨parent, scope⟩]⟩

/-- The value of a name in a scope, `undefined` for one that is not bound. -/
def lookup (tree : ScopeTree) (number : Nat) (name : String) : Value :=
  ((tree.environment? number).map (·.lookup name)).getD .undefined

/-- The scope that binds a name, seen from a scope. -/
def resolve? (tree : ScopeTree) (number : Nat) (name : String) : Option Nat := do
  let environment ← tree.environment? number
  let depth ← environment.depth? name
  (tree.path number)[depth]?

/-- Changes the environment of a scope. -/
def change (tree : ScopeTree) (number : Nat) (f : Environment → Environment) : ScopeTree :=
  match tree.environment? number with
  | none => tree
  | some environment => tree.write number (f environment)

def assign (tree : ScopeTree) (number : Nat) (name : String) (value : Value) : ScopeTree :=
  tree.change number (·.assign name value)

/-- Binds a name in a scope itself. -/
def bind (tree : ScopeTree) (number : Nat) (name : String) (value : Value) : ScopeTree :=
  tree.change number (·.bind name value)

/-- A tree and the memory that its values refer to. -/
structure World where
  tree : ScopeTree
  memory : Memory

def World.empty : World := ⟨.empty, .empty⟩

/-- Adds a root scope in which a computation has made the bindings; none when it fails. -/
def World.addRoot (world : World) (context : Context) (start : Eval Unit) :
    Except Fault Nat × World :=
  match start context { State.initial with memory := world.memory } with
  | (.ok (), state) =>
    (.ok world.tree.entries.length,
      ⟨world.tree.add none state.environment.inner, state.memory⟩)
  | (.error fault, state) => (.error fault, { world with memory := state.memory })

/-- Adds a scope inside another one, with the same tests unless others are given. -/
def World.addChild (world : World) (parent : Nat) (tests : Option (List Test)) : Nat × World :=
  let inherited := ((world.tree.environment? parent).map (·.inner.tests)).getD []
  (world.tree.entries.length,
    { world with tree := world.tree.add (some parent) ⟨[], tests.getD inherited⟩ })

/-- Runs a computation in a scope. -/
def World.run {α : Type} (world : World) (number : Nat) (context : Context) (x : Eval α) :
    Except Fault α × World :=
  let environment := (world.tree.environment? number).getD State.initial.environment
  let (result, state) := x context ⟨world.memory, environment⟩
  (result, ⟨world.tree.write number state.environment, state.memory⟩)

end ScopeTree

end TextTemplate
