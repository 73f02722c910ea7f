import TextTemplate.Eval.Call
import TextTemplate.Json.Writer

/-!
Applying filters. A filter of the host goes before a built-in one of its name.
-/

namespace TextTemplate.Eval

/-- The argument at a position, or else the keyword argument of a name, or else a default. -/
def pickArgument (positional : List Value) (keywords : Fields Value) (index : Nat) (name : String)
    (default : Value) : Value :=
  match positional[index]? with
  | some value => value
  | none => (keywords.get? name).getD default

/-- The filter `default`. -/
def defaultTo (operand : Value) (positional : List Value) (keywords : Fields Value) :
    Eval Value := do
  let fallback := pickArgument positional keywords 0 "default_value" (.text "")
  let boolean := pickArgument positional keywords 1 "boolean" (.bool false)
  match operand with
  | .undefined => pure fallback
  | _ => do
    let alsoFalse ← truth boolean
    let holds ← truth operand
    pure (if alsoFalse && !holds then fallback else operand)

/-- The indentation that a value asks for: none, a number of spaces, or a text. -/
def indentOf (operand : Value) : Value → Eval (Option (List Char))
  | .null | .undefined => pure none
  | .text s => pure (some s.toList)
  | .label l => ofLabel l
  | .bool b => pure (some (if b then [' '] else []))
  | .number (.int i) => spaces i
  | .number _ => refuse "float"
  | .array _ => refuse "tuple"
  | .object _ _ | .table _ _ => refuse "dict"
  | .function _ _ => refuse "function"
where
  spaces (i : Int) : Eval (Option (List Char)) :=
    if i < -(sizeLimit : Int) || (sizeLimit : Int) ≤ i then fail .overflow
    else pure (some (List.replicate i.toNat ' '))
  ofLabel : Label → Eval (Option (List Char))
    | .null => pure none
    | .bool b => spaces (if b then 1 else 0)
    | .number (.int i) => spaces i
    | label => refuse (Host.ofLabel label).typeName
  refuse (type : String) : Eval (Option (List Char)) :=
    fail (.cannotSerialize operand.kindName
      ("can't multiply sequence by non-int of type '" ++ type ++ "'"))

/-- The filter `tojson`. A text is written without regard to the indentation. -/
def toJson (operand indent : Value) : Eval Value := do
  let host ← toHost operand
  let indent ← match host with
    | .text _ => pure none
    | _ => indentOf operand indent
  match (Json.readable indent).document host with
  | .ok document => pure (.text document)
  | .error .numeralTooLong => fail .numeralTooLong
  | .error fault => fail (.cannotSerialize operand.kindName fault.reason)

/-- The filter `string`. -/
def toText : Value → Eval Value
  | .text s => pure (.text s)
  | .label l => pure (.label l)
  | .undefined => pure (.text "")
  | .bool b => pure (.text (boolText b))
  | value => do
    let s ← displayText value
    pure (.text s)

/-- The text of an item in a joined text, none for a label. -/
def joinText? : Value → Eval (Option String)
  | .text s => pure (some s)
  | .label _ => pure none
  | value => do
    let s ← displayText value
    pure (some s)

/-- The filter `join`. -/
def join (items : List Value) (separator : Value) : Eval Value :=
  match separator with
  | .text s => do
    let parts ← mapAll joinText? items
    match parts.mapM id with
    | some texts => pure (.text (s.intercalate texts))
    | none => fail .unfit
  | .label _ => fail .noMethod
  | value => fail (.joinSeparator value.kindName)

def filterArray (name : String) (items : List Value) (positional : List Value)
    (keywords : Fields Value) : Eval Value :=
  match name with
  | "list" => pure (.array items)
  | "first" => pure (items.head?.getD .undefined)
  | "last" => pure (items.getLast?.getD .undefined)
  | "length" | "count" => pure (.ofNat items.length)
  | "reverse" => pure (.array items.reverse)
  | "sort" => fail .sortFilter
  | "join" => join items (pickArgument positional keywords 0 "d" (.text ""))
  | _ => fail (.unknownFilter name "ArrayValue")

def filterText (name s : String) : Eval Value :=
  match name with
  | "length" | "count" => pure (.ofNat s.length)
  | "upper" => pure (.text (Text.upper s))
  | "lower" => pure (.text (Text.lower s))
  | "title" | "capitalize" => pure (.text (Text.title s))
  | "trim" => pure (.text (String.ofList (Text.stripWhile Text.isBlank s.toList)))
  | _ => fail (.unknownFilter name "StringValue")

/-- The filters of texts on a label. -/
def filterLabel (name : String) (label : Label) : Eval Value :=
  match name with
  | "length" | "count" =>
    match label.length? with
    | some n => pure (.ofNat n)
    | none => fail .unfit
  | "upper" | "lower" | "title" | "capitalize" | "trim" => fail .noMethod
  | _ => fail (.unknownFilter name "StringValue")

def filterTable (name : String) (kind : ObjectKind) (address : Address) : Eval Value := do
  let entries ← entriesOf address
  match name with
  | "items" => pure (entryPairs entries)
  | "length" | "count" => pure (.ofNat entries.length)
  | _ => fail (.unknownFilter name (Value.table kind address).kindName)

def filterObject (name : String) (kind : ObjectKind) (address : Address) : Eval Value := do
  let fields ← fieldsOf address
  match name with
  | "items" => pure (itemPairs fields)
  | "length" | "count" => pure (.ofNat fields.length)
  | _ => fail (.unknownFilter name (Value.object kind address).kindName)

/-- Applies a built-in filter. -/
def applyBuiltinFilter (name : String) (operand : Value) (positional : List Value)
    (keywords : Fields Value) : Eval Value :=
  match name with
  | "default" | "d" => defaultTo operand positional keywords
  | "tojson" => toJson operand (pickArgument positional keywords 0 "indent" .null)
  | "string" => toText operand
  | _ =>
    match operand with
    | .array items => filterArray name items positional keywords
    | .text s => filterText name s
    | .label l => filterLabel name l
    | .number n =>
      if name == "abs" then ofNumber n.abs else fail (.unknownFilter name operand.kindName)
    | .object kind address => filterObject name kind address
    | .table kind address => filterTable name kind address
    | _ => fail (.unknownFilter name operand.kindName)

/-- Applies the filter of a name to a value. -/
def applyFilter (name : String) (operand : Value) (args : List Value) : Eval Value := do
  let arguments ← splitArguments args
  let context ← context
  match context.filters.get? name with
  | some filter =>
    callWithArguments callHost filter
      { arguments with positional := operand :: arguments.positional }
  | none => applyBuiltinFilter name operand arguments.positional arguments.keywords

end TextTemplate.Eval
