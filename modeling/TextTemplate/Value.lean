import TextTemplate.Fields
import TextTemplate.Label

/-!
The values a template works with. An object is a reference to its fields in memory, since it can be
changed through every variable that holds it; all other values are immutable. A function has a mark
that tells it apart from every other function.

Two kinds of values come only from trees made by hand. A label stands for a text but is none, and a
table is an object with labels among its keys.
-/

namespace TextTemplate

abbrev Address := Nat

/-- A bundle of keyword arguments is an object that a call passes on behind the other arguments. -/
inductive ObjectKind
  | plain
  | keywords
  deriving DecidableEq, Repr

/-- The methods of texts. -/
inductive TextMethod
  | upper
  | lower
  | title
  | length
  | strip
  | lstrip
  | rstrip
  | startswith
  | endswith
  | split
  | replace
  deriving DecidableEq, Repr

/-- The methods of objects. -/
inductive ObjectMethod
  | get
  | items
  | keys
  | values
  deriving DecidableEq, Repr

/-- The functions that every template finds among its variables. -/
inductive Builtin
  | namespace_
  | range
  | raiseException
  deriving DecidableEq, Repr

mutual

/-- A function of the template language. Methods are bound to what they were taken from. -/
inductive Function
  | ofText (method : TextMethod) (receiver : String)
  | ofLabel (method : TextMethod) (receiver : Label)
  | ofArray (length : Nat)
  | ofObject (method : ObjectMethod) (address : Address)
  | ofTable (method : ObjectMethod) (address : Address)
  | builtin (builtin : Builtin)
  | host (function : HostFunction)

/-- A function of the host: one known by its name, or one that calls a template function. -/
inductive HostFunction
  | named (name : String)
  | template (function : Function)

end

inductive Value
  | number (value : Number)
  | bool (value : Bool)
  | text (value : String)
  | label (value : Label)
  | null
  | undefined
  | array (items : List Value)
  | object (kind : ObjectKind) (address : Address)
  | table (kind : ObjectKind) (address : Address)
  | function (mark : Nat) (function : Function)

namespace TextMethod

def name : TextMethod → String
  | upper => "upper"
  | lower => "lower"
  | title => "title"
  | length => "length"
  | strip => "strip"
  | lstrip => "lstrip"
  | rstrip => "rstrip"
  | startswith => "startswith"
  | endswith => "endswith"
  | split => "split"
  | replace => "replace"

def all : List TextMethod :=
  [upper, lower, title, length, strip, lstrip, rstrip, startswith, endswith, split, replace]

def ofName? (name : String) : Option TextMethod := all.find? (·.name == name)

end TextMethod

namespace ObjectMethod

def name : ObjectMethod → String
  | get => "get"
  | items => "items"
  | keys => "keys"
  | values => "values"

def all : List ObjectMethod := [get, items, keys, values]

def ofName? (name : String) : Option ObjectMethod := all.find? (·.name == name)

end ObjectMethod

def Builtin.name : Builtin → String
  | namespace_ => "namespace"
  | range => "range"
  | raiseException => "raise_exception"

def HostFunction.name : HostFunction → String
  | named name => name
  | template _ => "<lambda>"

def Function.name : Function → String
  | ofText method _ | ofLabel method _ => method.name
  | ofArray _ => "length"
  | ofObject method _ | ofTable method _ => method.name
  | builtin b => b.name
  | host f => f.name

namespace Value

def int (i : Int) : Value := number (.int i)

def ofNat (n : Nat) : Value := int n

/-- The value that stands for what is said where a name is due. -/
def ofLabel : Label → Value
  | .text s => text s
  | other => label other

/-- The name of the kind of a value in messages. -/
def kindName : Value → String
  | number _ => "NumericValue"
  | bool _ => "BooleanValue"
  | text _ | label _ => "StringValue"
  | null => "NullValue"
  | undefined => "UndefinedValue"
  | array _ => "ArrayValue"
  | object .plain _ | table .plain _ => "ObjectValue"
  | object .keywords _ | table .keywords _ => "KeywordArgumentsValue"
  | function _ _ => "FunctionValue"

/-- The names of the methods a value has, sorted. -/
def methodNames : Value → List String
  | text _ | label _ => sortedTexts (TextMethod.all.map (·.name))
  | array _ => ["length"]
  | object _ _ | table _ _ => sortedTexts (ObjectMethod.all.map (·.name))
  | _ => []

/-- Whether two values are of one kind, bundles of keyword arguments counting as a kind. -/
def sameKind (a b : Value) : Bool := a.kindName == b.kindName

end Value

end TextTemplate
