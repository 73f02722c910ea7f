import TextTemplate.Value.Snapshot
import TextTemplate.Text.Search

/-!
Truth, texts and operators of values.
-/

namespace TextTemplate.Eval

/-- The truth of a value: zero, what is empty and what is absent are false. -/
def truth : Value → Eval Bool
  | .number n => pure !n.isZero
  | .bool b => pure b
  | .text s => pure !s.isEmpty
  | .label l => pure l.truthy
  | .null | .undefined => pure false
  | .array items => pure !items.isEmpty
  | .object _ address => do
    let fields ← fieldsOf address
    pure !fields.isEmpty
  | .table _ address => do
    let entries ← entriesOf address
    pure !entries.isEmpty
  | .function _ _ => pure true

/-- The numeral of a number. -/
def numeral (n : Number) : Eval String :=
  match n.text? with
  | some s => pure s
  | none => fail .numeralTooLong

def boolText (b : Bool) : String := if b then "true" else "false"

/-- The text that a value contributes to a concatenation. -/
def concatText (operator : String) : Value → Eval String
  | .text s => pure s
  | .number n => numeral n
  | .bool b => pure (boolText b)
  | value => fail (.cannotConcatenate operator value.kindName)

/-- The text of a value as the host displays it. -/
def displayText (value : Value) : Eval String := do
  let host ← toHost value
  match host.display? with
  | some s => pure s
  | none => fail .numeralTooLong

/-- Whether two values are equal. -/
def equal (a b : Value) : Eval Bool := do
  let a ← snapshot a
  let b ← snapshot b
  pure (a.equal b)

/-- The operators `==` and `!=`. Only texts, numbers and truth values of one kind can be compared,
but values of different kinds are always unequal. -/
def compareEquality (operator : String) (left right : Value) : Eval Bool :=
  let answer (same : Bool) : Eval Bool := pure (if operator == "==" then same else !same)
  match left, right with
  | .text a, .text b => answer (a == b)
  | .label a, .label b => answer (a.sameValue b)
  | .text _, .label _ | .label _, .text _ => answer false
  | .number a, .number b => answer (a.sameValue b)
  | .bool a, .bool b => answer (a == b)
  | _, _ =>
    if operator == "!=" && !left.sameKind right then pure true
    else fail (.cannotCompare operator left.kindName right.kindName)

/-- A result of arithmetic as a value. -/
def arithmetic (operator : String) : Except Number.Trouble Number → Eval Value
  | .ok n => ofNumber n
  | .error .divisionByZero => fail (.divisionByZero operator)
  | .error .tooLarge => fail .overflow

/-- Operators between two numbers. No order holds with an undefined number. -/
def numericBinary (operator : String) (a b : Number) : Eval Value :=
  match operator with
  | "+" => arithmetic operator (a.add b)
  | "-" => arithmetic operator (a.sub b)
  | "*" => arithmetic operator (a.mul b)
  | "/" => arithmetic operator (a.div b)
  | "//" => arithmetic operator (a.floorDiv b)
  | "%" => arithmetic operator (a.mod b)
  | "<" => pure (.bool (a.compare? b == some .lt))
  | ">" => pure (.bool (a.compare? b == some .gt))
  | "<=" => pure (.bool ((a.compare? b).any (· != .gt)))
  | ">=" => pure (.bool ((a.compare? b).any (· != .lt)))
  | _ => fail (.unknownNumericOperator operator)

/-- Operators between two texts other than `+`. -/
def textBinary (operator : String) (a b : String) : Eval Value :=
  match operator with
  | "in" => pure (.bool (Text.contains a.toList b.toList))
  | "not in" => pure (.bool !(Text.contains a.toList b.toList))
  | "<" => pure (.bool (decide (a < b)))
  | ">" => pure (.bool (decide (b < a)))
  | "<=" => pure (.bool (decide (a ≤ b)))
  | ">=" => pure (.bool (decide (b ≤ a)))
  | _ => fail (.unknownOperator operator "StringValue" "StringValue")

/-- Whether a value is among the items. -/
def isAmong (value : Value) (items : List Value) : Eval Bool := do
  let value ← snapshot value
  let items ← mapAll snapshot items
  pure (items.any (value.equal ·))

def isMembership (operator : String) : Bool := operator == "in" || operator == "not in"

/-- The answer of `in` or `not in`. -/
def membership (operator : String) (found : Bool) : Value :=
  .bool (if operator == "in" then found else !found)

def isAbsent : Value → Bool
  | .null | .undefined => true
  | _ => false

/-! ## Labels -/

/-- The label that a value contributes to a concatenation with a label. -/
def concatLabel (operator : String) : Value → Eval Label
  | .label l => pure l
  | value => do
    let s ← concatText operator value
    pure (.text s)

/-- What two labels are together: texts and tuples are joined, numbers are added. -/
def joinLabels : Label → Label → Eval Value
  | .text a, .text b => pure (.text (a ++ b))
  | .tuple a, .tuple b => pure (.label (.tuple (a ++ b)))
  | a, b =>
    match a.number?, b.number? with
    | some m, some n => do
      match ← arithmetic "+" (m.add n) with
      | .number sum => pure (.label (.number sum))
      | value => pure value
    | _, _ => fail .unfit

/-- Whether a label is part of another one. -/
def labelContains (part : Label) : Label → Eval Bool
  | .tuple items => pure (items.any (·.same part))
  | _ => fail .unfit

/-- Operators other than `+` between two labels of which at least one is no text. -/
def labelBinary (operator : String) (a b : Label) : Eval Value :=
  let compared (holds : Ordering → Bool) : Eval Value :=
    match a.compare? b with
    | some order => pure (.bool (order.any holds))
    | none => fail .unfit
  match operator with
  | "in" | "not in" => do
    let found ← labelContains a b
    pure (membership operator found)
  | "<" => compared (· == .lt)
  | ">" => compared (· == .gt)
  | "<=" => compared (· != .gt)
  | ">=" => compared (· != .lt)
  | _ => fail (.unknownOperator operator "StringValue" "StringValue")

/-! ## All values -/

/-- The texts of two values, one after the other. -/
def concatenation (operator : String) (left right : Value) : Eval Value :=
  match left, right with
  | .label _, _ | _, .label _ => do
    let a ← concatLabel operator left
    let b ← concatLabel operator right
    joinLabels a b
  | _, _ => do
    let a ← concatText operator left
    let b ← concatText operator right
    pure (.text (a ++ b))

/-- The operator `~`, for which absent values are empty. -/
def tilde (left right : Value) : Eval Value :=
  let presented (value : Value) : Value := if isAbsent value then .text "" else value
  concatenation "~" (presented left) (presented right)

/-- Whether an object has a field of a name that a value says. -/
def hasField (key : Value) (address : Address) : Eval Bool :=
  match key with
  | .text name => do
    let fields ← fieldsOf address
    pure (fields.has name)
  | _ => pure false

/-- Whether a table has an entry for what a value says. -/
def hasEntry (key : Value) (address : Address) : Eval Bool := do
  let entries ← entriesOf address
  match key with
  | .text name => pure (Table.get? (.text name) entries).isSome
  | .label label => pure (Table.get? label entries).isSome
  | _ => pure false

/-- Operators between two values that are both present. -/
def presentBinary (operator : String) (left right : Value) : Eval Value :=
  let notSupported : Eval Value :=
    fail (.notSupported operator left.kindName right.kindName)
  let unknown : Eval Value := fail (.unknownOperator operator left.kindName right.kindName)
  let answer (found : Eval Bool) : Eval Value := do
    let found ← found
    pure (membership operator found)
  match left, right with
  | .number a, .number b => numericBinary operator a b
  | _, .array items =>
    match left with
    | .array others =>
      if operator == "+" then pure (.array (others ++ items))
      else if isMembership operator then answer (isAmong left items)
      else unknown
    | _ => if isMembership operator then answer (isAmong left items) else notSupported
  | .text a, .text b =>
    if operator == "+" then concatenation operator left right else textBinary operator a b
  | .label a, .label b =>
    if operator == "+" then concatenation operator left right else labelBinary operator a b
  | .label a, .text b =>
    if operator == "+" then concatenation operator left right else labelBinary operator a (.text b)
  | .text a, .label b =>
    if operator == "+" then concatenation operator left right else labelBinary operator (.text a) b
  | .text _, .object _ address | .label _, .object _ address =>
    if operator == "+" then concatenation operator left right
    else if isMembership operator then answer (hasField left address)
    else notSupported
  | .text _, .table _ address | .label _, .table _ address =>
    if operator == "+" then concatenation operator left right
    else if isMembership operator then answer (hasEntry left address)
    else notSupported
  | .text _, _ | .label _, _ | _, .text _ | _, .label _ =>
    if operator == "+" then concatenation operator left right else unknown
  | _, .object _ _ | _, .table _ _ => notSupported
  | _, _ => unknown

/-- Applies an operator other than `and` and `or`. -/
def applyBinary (operator : String) (left right : Value) : Eval Value :=
  if operator == "==" || operator == "!=" then do
    let answer ← compareEquality operator left right
    pure (.bool answer)
  else if operator == "~" then tilde left right
  else if isAbsent left || isAbsent right then
    fail (.absentOperand operator left.kindName right.kindName)
  else presentBinary operator left right

/-- Applies an operator in front of its operand. -/
def applyUnary (operator : String) (argument : Value) : Eval Value :=
  match operator, argument with
  | "not", _ => do
    let holds ← truth argument
    pure (.bool !holds)
  | "-", .number n => ofNumber n.neg
  | "+", .number n => pure (.number n)
  | _, _ => fail (.unknownUnary operator argument.kindName)

end TextTemplate.Eval
