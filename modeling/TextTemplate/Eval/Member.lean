import TextTemplate.Value.Snapshot
import TextTemplate.Sequence

/-!
Members of values: fields and methods of objects, items and methods of sequences, and slices.
-/

namespace TextTemplate.Eval

/-- The method of a value that has a name, `undefined` if it has none of that name. -/
def method : Value → String → Eval Value
  | .text s, name =>
    match TextMethod.ofName? name with
    | some m => newFunction (.ofText m s)
    | none => pure .undefined
  | .label l, name =>
    match TextMethod.ofName? name with
    | some m => newFunction (.ofLabel m l)
    | none => pure .undefined
  | .array items, name =>
    if name == "length" then newFunction (.ofArray items.length) else pure .undefined
  | .object _ address, name =>
    match ObjectMethod.ofName? name with
    | some m => newFunction (.ofObject m address)
    | none => pure .undefined
  | .table _ address, name =>
    match ObjectMethod.ofName? name with
    | some m => newFunction (.ofTable m address)
    | none => pure .undefined
  | _, _ => pure .undefined

/-- An item that is there, or the fault of an index beyond the ends. -/
def itemAt (type : String) (length : Nat) (index : Int) : Option Value → Eval Value
  | some item => pure item
  | none =>
    match integerText? index with
    | some _ => fail (.indexOutOfRange index type length)
    | none => fail .numeralTooLong

/-- The value of an entry of a table, or else the method of its name. -/
def entryOf (object : Value) (address : Address) (label : Label) : Eval Value := do
  let entries ← entriesOf address
  match Table.get? label entries, label with
  | some value, _ => pure value
  | none, .text key => method object key
  | none, _ => pure .undefined

/-- An item of a label. -/
def labelItem (object : Value) (label : Label) (index : Int) : Eval Value :=
  match label with
  | .tuple items =>
    itemAt object.kindName items.length index ((Sequence.at? items index).map .ofLabel)
  | _ => fail .unfit

/-- The member of a value that another value denotes. Of an object, a field goes before a method
of its name. -/
def member (object property : Value) : Eval Value :=
  match object, property with
  | .object _ address, .text key => do
    let fields ← fieldsOf address
    match fields.get? key with
    | some value => pure value
    | none => method object key
  | .table _ address, .text key => entryOf object address (.text key)
  | .table _ address, .label label => entryOf object address label
  | .array items, .number (.int index) =>
    itemAt object.kindName items.length index (Sequence.at? items index)
  | .text s, .number (.int index) =>
    itemAt object.kindName s.length index
      ((Sequence.at? s.toList index).map fun c => .text c.toString)
  | .label label, .number (.int index) => labelItem object label index
  | .array _, .text key => method object key
  | .text _, .text key => method object key
  | .label _, .text key => method object key
  | .object _ _, .label _ => pure .undefined
  | .array _, .label _ => pure .undefined
  | .text _, .label _ => pure .undefined
  | .label _, .label _ => pure .undefined
  | _, _ => fail (.cannotAccess object.kindName property.kindName)

/-- The member that a node in the place of a name says. -/
def memberByLabel (object : Value) : Option Label → Eval Value
  | some label => member object (.ofLabel label)
  | none => fail .unlabelled

def isSequence : Value → Bool
  | .array _ | .text _ | .label _ => true
  | _ => false

/-- A bound of a slice; an absent value is no bound. -/
def sliceBound : Value → Eval (Option Int)
  | .number (.int bound) => pure (some bound)
  | .null | .undefined => pure none
  | value => fail (.sliceBound value.kindName)

/-- The slice of a sequence. -/
def slice (sequence : Value) (start stop step : Option Int) : Eval Value :=
  let step := step.getD 1
  if step == 0 then fail (.zeroSliceStep (.ofNat 0))
  else match sequence with
    | .array items => pure (.array (Sequence.slice items start stop step))
    | .text s => pure (.text (String.ofList (Sequence.slice s.toList start stop step)))
    | .label (.tuple items) => pure (.label (.tuple (Sequence.slice items start stop step)))
    | .label _ => fail .unfit
    | value => fail (.sliceOfNonSequence value.kindName)

/-- The slice of a sequence by bounds that the host gives, all of which may be left out. -/
def hostSlice (sequence : Value) (bounds : List Host) : Eval Value := do
  let bound : Host → Eval (Option Int)
    | .null => pure none
    | .number (.int i) => pure (some i)
    | .bool b => pure (some (if b then 1 else 0))
    | _ => fail .unfit
  match bounds ++ List.replicate (3 - bounds.length) .null with
  | [start, stop, step] =>
    match step.zero? with
    | some zero => fail (.zeroSliceStep zero)
    | none => do
      let start ← bound start
      let stop ← bound stop
      let step ← bound step
      if isSequence sequence then slice sequence start stop step else fail .unfit
  | _ => fail .unfit

end TextTemplate.Eval
