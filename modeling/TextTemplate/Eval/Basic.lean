import TextTemplate.Eval.Fault
import TextTemplate.Host
import TextTemplate.Scope

/-!
The setting in which templates are evaluated: what stays the same throughout, what changes, and
computations over both. A computation that fails keeps the changes made before.
-/

namespace TextTemplate

/-- What a host function does with its arguments: it answers or fails, perhaps after having called
functions that it was given. -/
inductive HostAction
  | answer (value : Host)
  | fail (message : String)
  | call (function : HostFunction) (args : List Host) (resume : Host → HostAction)

/-- The behaviour of the host functions by name, for positional and named arguments. -/
abbrev HostLibrary := String → List Host → Fields Host → HostAction

structure Context where
  library : HostLibrary
  filters : Fields HostFunction
  strict : Bool
  /-- How deep host functions may call functions that call host functions. -/
  callDepth : Nat

/-- The bound on calls in ordinary use. -/
def standardCallDepth : Nat := 200

def Context.ofLibrary (library : HostLibrary) (filters : Fields HostFunction) (strict : Bool) :
    Context :=
  ⟨library, filters, strict, standardCallDepth⟩

/-- Objects and tables by address, and the number of marks given out. Mark zero is never given
out. -/
structure Memory where
  objects : Array (Fields Value)
  tables : Array (Table Value)
  marks : Nat

structure State where
  memory : Memory
  environment : Environment

def Memory.empty : Memory := ⟨#[], #[], 0⟩

/-- The fields of the object at an address. -/
def Memory.fields (memory : Memory) (address : Address) : Fields Value :=
  memory.objects.getD address []

/-- Puts in a new object; its address is the number of objects before it. -/
def Memory.allocate (memory : Memory) (fields : Fields Value) : Address × Memory :=
  (memory.objects.size, { memory with objects := memory.objects.push fields })

def Memory.setField (memory : Memory) (address : Address) (key : String) (value : Value) :
    Memory :=
  { memory with objects := memory.objects.modify address (·.put key value) }

/-- The entries of the table at an address. -/
def Memory.entries (memory : Memory) (address : Address) : Table Value :=
  memory.tables.getD address []

/-- Puts in a new table; its address is the number of tables before it. -/
def Memory.allocateTable (memory : Memory) (entries : Table Value) : Address × Memory :=
  (memory.tables.size, { memory with tables := memory.tables.push entries })

def Memory.setEntry (memory : Memory) (address : Address) (label : Label) (value : Value) :
    Memory :=
  { memory with tables := memory.tables.modify address (·.put label value) }

def Memory.freshMark (memory : Memory) : Nat × Memory :=
  (memory.marks + 1, { memory with marks := memory.marks + 1 })

/-- A computation in a context that changes the state and yields a value or a fault. -/
def Eval (α : Type) : Type := Context → State → Except Fault α × State

namespace Eval

variable {α β : Type}

@[inline] protected def pure (a : α) : Eval α := fun _ state => (.ok a, state)

@[inline] protected def bind (x : Eval α) (f : α → Eval β) : Eval β := fun context state =>
  match x context state with
  | (.ok a, state) => f a context state
  | (.error fault, state) => (.error fault, state)

instance : Monad Eval where
  pure := Eval.pure
  bind := Eval.bind

instance : Inhabited (Eval α) := ⟨fun _ state => (.error .callsTooDeep, state)⟩

@[inline] def fail (fault : Fault) : Eval α := fun _ state => (.error fault, state)

@[inline] def context : Eval Context := fun context state => (.ok context, state)

/-- Reads the memory. -/
def ofMemory (f : Memory → α) : Eval α := fun _ state => (.ok (f state.memory), state)

/-- Changes the memory. -/
def withMemory (f : Memory → α × Memory) : Eval α := fun _ state =>
  let (a, memory) := f state.memory
  (.ok a, { state with memory })

/-- Reads the variables. -/
def ofEnvironment (f : Environment → α) : Eval α := fun _ state =>
  (.ok (f state.environment), state)

/-- Changes the variables. -/
def changeEnvironment (f : Environment → Environment) : Eval Unit := fun _ state =>
  (.ok (), { state with environment := f state.environment })

/-- Runs a computation in a scope of its own, which is left again also when it fails. -/
def inNewScope (x : Eval α) : Eval α := fun context state =>
  let (result, state) := x context { state with environment := state.environment.enter }
  (result, { state with environment := state.environment.leave })

def fieldsOf (address : Address) : Eval (Fields Value) := ofMemory (·.fields address)

def newObject (kind : ObjectKind) (fields : Fields Value) : Eval Value := do
  let address ← withMemory (·.allocate fields)
  pure (.object kind address)

def entriesOf (address : Address) : Eval (Table Value) := ofMemory (·.entries address)

def newTable (kind : ObjectKind) (entries : Table Value) : Eval Value := do
  let address ← withMemory (·.allocateTable entries)
  pure (.table kind address)

/-- An object with the given entries, which is a table unless all labels are texts. -/
def newLabelled (kind : ObjectKind) (pairs : List (Label × Value)) : Eval Value :=
  if pairs.all (·.1.isText) then newObject kind (Fields.ofPairs (Table.named pairs))
  else newTable kind (Table.ofPairs pairs)

def newFunction (function : Function) : Eval Value := do
  let mark ← withMemory Memory.freshMark
  pure (.function mark function)

/-- A number as a value; an undefined result without a mark gets one. -/
def ofNumber : Number → Eval Value
  | .nan 0 => do
    let mark ← withMemory Memory.freshMark
    pure (.number (.nan mark))
  | n => pure (.number n)

/-- Applies `f` to all elements, from the first to the last. -/
def mapAll (f : α → Eval β) : List α → Eval (List β)
  | [] => pure []
  | a :: rest => do
    let b ← f a
    let bs ← mapAll f rest
    pure (b :: bs)

end Eval

end TextTemplate
