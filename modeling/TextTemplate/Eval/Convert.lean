import TextTemplate.Host.Key
import TextTemplate.Value.Snapshot

/-!
Giving host values to a template. Containers are converted part by part, and what has no
counterpart is refused. Values of the template language pass as they are, except within a record,
where they are records themselves. A record is taken apart as a whole before its parts are looked
at, and a record that is a key cannot be.
-/

namespace TextTemplate.Eval

/-- Takes apart the records in the fields of a record, unless one of them is a key. -/
def takeApart (fields : List (String × Host)) : Eval Unit :=
  if Host.fieldsUnfold fields then pure () else fail .unfit

mutual

/-- The counterpart of a host value, which may stand within a record. Lists and tuples become
arrays; maps, records and models become new objects. -/
def convert (inRecord : Bool) : Host → Eval Value
  | .null => pure .null
  | .bool b => pure (.bool b)
  | .number n => ofNumber n
  | .text s => pure (.text s)
  | .list items | .tuple items => do
    let values ← convertAll inRecord items
    pure (.array values)
  | .map entries => do
    let fields ← convertEntries inRecord entries
    newObject .plain (Fields.ofPairs fields)
  | .model entries => do
    let fields ← convertEntries false entries
    newObject .plain (Fields.ofPairs fields)
  | .record _ fields => do
    takeApart fields
    let fields ← convertFields true fields
    newObject .plain (Fields.ofPairs fields)
  | .function f => newFunction (.host f)
  | .foreign kind => fail (.foreignValue kind.typeName)
  | .ready value form => if inRecord then convert true form else pure value

def convertAll (inRecord : Bool) : List Host → Eval (List Value)
  | [] => pure []
  | item :: rest => do
    let value ← convert inRecord item
    let values ← convertAll inRecord rest
    pure (value :: values)

/-- The entries of a map, whose keys have to be texts. -/
def convertEntries (inRecord : Bool) : List (Host × Host) → Eval (Fields Value)
  | [] => pure []
  | (.text key, item) :: rest => do
    let value ← convert inRecord item
    let fields ← convertEntries inRecord rest
    pure ((key, value) :: fields)
  | (key, _) :: _ =>
    match key.written? with
    | some written => fail (.foreignKey key.typeName written)
    | none => fail .numeralTooLong

def convertFields (inRecord : Bool) : List (String × Host) → Eval (Fields Value)
  | [] => pure []
  | (key, item) :: rest => do
    let value ← convert inRecord item
    let fields ← convertFields inRecord rest
    pure ((key, value) :: fields)

end

/-- The counterpart of a host value. -/
def fromHost (host : Host) : Eval Value := convert false host

end TextTemplate.Eval
