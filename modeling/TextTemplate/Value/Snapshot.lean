import TextTemplate.Eval.Basic

/-!
What a value holds at one moment: the value with the fields of all objects in it written out.
Equality of values is equality of what they hold.
-/

namespace TextTemplate

inductive Snapshot
  | number (value : Number)
  | bool (value : Bool)
  | text (value : String)
  | label (value : Label)
  | null
  | undefined
  | array (items : List Snapshot)
  | object (kind : ObjectKind) (fields : List (String × Snapshot))
  | table (kind : ObjectKind) (entries : List (Label × Snapshot))
  | function (mark : Nat) (function : Function)

namespace Snapshot

mutual

/-- Writes out a value, given what the objects and tables hold. -/
def ofValue (object table : ObjectKind → Address → Snapshot) : Value → Snapshot
  | .number n => number n
  | .bool b => bool b
  | .text s => text s
  | .label l => label l
  | .null => null
  | .undefined => undefined
  | .array items => array (ofValues object table items)
  | .object kind address => object kind address
  | .table kind address => table kind address
  | .function mark f => function mark f

def ofValues (object table : ObjectKind → Address → Snapshot) : List Value → List Snapshot
  | [] => []
  | value :: rest => ofValue object table value :: ofValues object table rest

end

mutual

/-- Equality. The kinds have to be the same, the order of the fields of objects does not matter,
and functions are equal to themselves only. -/
def equal : Snapshot → Snapshot → Bool
  | number a, number b => Label.sameNumber a b
  | bool a, bool b => a == b
  | text a, text b => a == b
  | label a, label b => a.same b
  | null, null => true
  | undefined, undefined => true
  | array a, array b => equalItems a b
  | object kind a, object kind' b => kind == kind' && a.length == b.length && equalFields a b
  | table kind a, table kind' b => kind == kind' && a.length == b.length && equalEntries a b
  | function a _, function b _ => a == b
  | _, _ => false

def equalItems : List Snapshot → List Snapshot → Bool
  | [], [] => true
  | a :: as, b :: bs => equal a b && equalItems as bs
  | _, _ => false

/-- Whether each of the first fields is among the second ones with an equal value. -/
def equalFields : List (String × Snapshot) → List (String × Snapshot) → Bool
  | [], _ => true
  | (key, a) :: rest, fields =>
    (match fields.lookup key with
      | some b => equal a b
      | none => false) && equalFields rest fields

/-- Whether each of the first entries is among the second ones with an equal value. -/
def equalEntries : List (Label × Snapshot) → List (Label × Snapshot) → Bool
  | [], _ => true
  | (key, a) :: rest, entries =>
    (match Table.get? key entries with
      | some b => equal a b
      | none => false) && equalEntries rest entries

end

mutual

/-- The host's counterpart: arrays are lists, objects maps, and what is absent is nothing. -/
def toHost : Snapshot → Host
  | number n => .number n
  | bool b => .bool b
  | text s => .text s
  | label l => .ofLabel l
  | null => .null
  | undefined => .null
  | array items => .list (toHosts items)
  | object _ fields => .map (toEntries fields)
  | table _ entries => .map (toLabelled entries)
  | function _ f => .function (.template f)

def toHosts : List Snapshot → List Host
  | [] => []
  | item :: rest => toHost item :: toHosts rest

def toEntries : List (String × Snapshot) → List (Host × Host)
  | [] => []
  | (key, value) :: rest => (.text key, toHost value) :: toEntries rest

def toLabelled : List (Label × Snapshot) → List (Host × Host)
  | [] => []
  | (key, value) :: rest => (.ofLabel key, toHost value) :: toLabelled rest

end

mutual

/-- A value as the host sees it from outside: a record named for its kind, of what it holds. -/
def form : Snapshot → Host
  | number n => .record "NumericValue" [("value", .number n)]
  | bool b => .record "BooleanValue" [("value", .bool b)]
  | text s => .record "StringValue" [("value", .text s)]
  | label l => .record "StringValue" [("value", .ofLabel l)]
  | null => .record "NullValue" []
  | undefined => .record "UndefinedValue" []
  | array items => .record "ArrayValue" [("value", .tuple (forms items))]
  | object kind fields =>
    .record (Value.object kind 0).kindName [("value", .map (formEntries fields))]
  | table kind entries =>
    .record (Value.table kind 0).kindName [("value", .map (formLabelled entries))]
  | function _ f =>
    .record "FunctionValue" [("value", .function (.template f)), ("name", .text f.name)]

def forms : List Snapshot → List Host
  | [] => []
  | item :: rest => form item :: forms rest

def formEntries : List (String × Snapshot) → List (Host × Host)
  | [] => []
  | (key, value) :: rest => (.text key, form value) :: formEntries rest

def formLabelled : List (Label × Snapshot) → List (Host × Host)
  | [] => []
  | (key, value) :: rest => (.ofLabel key, form value) :: formLabelled rest

end

end Snapshot

mutual

/-- Whether all objects and tables that are parts of a value are good ones. -/
def Value.allParts (object table : Address → Bool) : Value → Bool
  | .array items => Value.allPartsOf object table items
  | .object _ address => object address
  | .table _ address => table address
  | _ => true

def Value.allPartsOf (object table : Address → Bool) : List Value → Bool
  | [] => true
  | value :: rest => value.allParts object table && Value.allPartsOf object table rest

end

namespace Memory

mutual

/-- Whether there are at most `depth` objects nested in each other, from an object on. -/
def objectEnds (memory : Memory) : Nat → Address → Bool
  | 0, _ => false
  | depth + 1, address =>
    (memory.fields address).all fun (_, value) =>
      value.allParts (memory.objectEnds depth) (memory.tableEnds depth)

/-- Whether there are at most `depth` objects nested in each other, from a table on. -/
def tableEnds (memory : Memory) : Nat → Address → Bool
  | 0, _ => false
  | depth + 1, address =>
    (memory.entries address).all fun (_, value) =>
      value.allParts (memory.objectEnds depth) (memory.tableEnds depth)

end

/-- Objects that do not contain themselves are nested no deeper than this. -/
def depth (memory : Memory) : Nat := memory.objects.size + memory.tables.size + 1

/-- Whether no object in a value contains itself. -/
def ends (memory : Memory) (value : Value) : Bool :=
  value.allParts (memory.objectEnds memory.depth) (memory.tableEnds memory.depth)

mutual

/-- What an object holds, through at most `depth` objects nested in each other. -/
def snapshotOfObject (memory : Memory) : Nat → ObjectKind → Address → Snapshot
  | 0, kind, _ => .object kind []
  | depth + 1, kind, address =>
    .object kind ((memory.fields address).map fun (key, value) =>
      (key, Snapshot.ofValue (memory.snapshotOfObject depth) (memory.snapshotOfTable depth) value))

/-- What a table holds, through at most `depth` objects nested in each other. -/
def snapshotOfTable (memory : Memory) : Nat → ObjectKind → Address → Snapshot
  | 0, kind, _ => .table kind []
  | depth + 1, kind, address =>
    .table kind ((memory.entries address).map fun (label, value) =>
      (label,
        Snapshot.ofValue (memory.snapshotOfObject depth) (memory.snapshotOfTable depth) value))

end

/-- What a value holds. -/
def snapshot (memory : Memory) (value : Value) : Snapshot :=
  Snapshot.ofValue (memory.snapshotOfObject memory.depth) (memory.snapshotOfTable memory.depth)
    value

end Memory

/-- What a value holds, unless some object in it contains itself. -/
def Eval.snapshot (value : Value) : Eval Snapshot := do
  let ends ← Eval.ofMemory (·.ends value)
  if ends then Eval.ofMemory (·.snapshot value) else Eval.fail .containsItself

/-- The host's counterpart of a value. -/
def Eval.toHost (value : Value) : Eval Host := do
  let held ← Eval.snapshot value
  pure held.toHost

/-- A value of the template language in the hands of the host. -/
def Eval.toReady (value : Value) : Eval Host := do
  let held ← Eval.snapshot value
  pure (.ready value held.form)

end TextTemplate
