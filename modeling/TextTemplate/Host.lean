import TextTemplate.Value
import TextTemplate.Data
import TextTemplate.Text.Quoted

/-!
Values of the host that uses templates. Those with a counterpart in the template language can be
given to a template; some have none. Parts of a tree are records, and a value of the template
language comes with the record of what it holds.
-/

namespace TextTemplate

/-- Host values without a counterpart. A notion is a node of no kind of its own. -/
inductive Foreign
  | object
  | set
  | bytes
  | complex
  | notion (kind : String)
  deriving DecidableEq, Repr

inductive Host
  | null
  | bool (value : Bool)
  | number (value : Number)
  | text (value : String)
  | list (items : List Host)
  | tuple (items : List Host)
  | map (entries : List (Host × Host))
  | record (typeName : String) (fields : List (String × Host))
  | model (entries : List (Host × Host))
  | function (function : HostFunction)
  | foreign (kind : Foreign)
  | ready (value : Value) (form : Host)

namespace Foreign

def typeName : Foreign → String
  | object => "object"
  | set => "set"
  | bytes => "bytes"
  | complex => "complex"
  | notion kind => kind

/-- The texts of the foreign values that stand for their types. -/
def text : Foreign → String
  | object => "<object>"
  | set => "\x7b1\x7d"
  | bytes => "b'ab'"
  | complex => "1j"
  | notion kind => "<" ++ kind ++ ">"

end Foreign

namespace Host

def ofFields (fields : Fields Host) : Host := map (fields.map fun (key, value) => (text key, value))

/-- The name of the type of a value in messages. -/
def typeName : Host → String
  | null => "NoneType"
  | bool _ => "bool"
  | number (.int _) => "int"
  | number _ => "float"
  | text _ => "str"
  | list _ => "list"
  | tuple _ => "tuple"
  | map _ => "dict"
  | record typeName _ => typeName
  | model _ => "Model"
  | function _ => "function"
  | foreign kind => kind.typeName
  | ready value _ => value.kindName

/-- Whether a value is none of those that are false: nothing, zero and what is empty. -/
def isFilled : Host → Bool
  | null => false
  | bool b => b
  | number n => !n.isZero
  | text s => !s.isEmpty
  | list items | tuple items => !items.isEmpty
  | map entries => !entries.isEmpty
  | _ => true

/-- A value that equals zero as plain data: a number, or the truth value that counts as zero. -/
def zero? : Host → Option Data
  | number n => if n.isZero then some (.number n) else none
  | bool false => some (.bool false)
  | _ => none

/-- The truth of a value. A value of the template language is as true as what it holds. -/
def truthy : Host → Bool
  | ready _ (record _ fields) =>
    match fields with
    | [] => false
    | [(_, held)] => held.isFilled
    | _ => true
  | value => value.isFilled

def joinChars (separator : List Char) : List (List Char) → List Char
  | [] => []
  | [part] => part
  | part :: rest => part ++ separator ++ joinChars separator rest

mutual

/-- A value as it is written inside another one: texts in quotes, `None`, `True` and `False`; none
when it holds a whole number too long to write. -/
def writtenChars? : Host → Option (List Char)
  | null => some "None".toList
  | bool b => some (if b then "True" else "False").toList
  | number n => n.text?.map String.toList
  | text s => some (Text.quotedChars s.toList)
  | list items => do
    let parts ← writtenItems? items
    some ('[' :: joinChars [',', ' '] parts ++ [']'])
  | tuple items => do
    match ← writtenItems? items with
    | [part] => some ('(' :: part ++ [',', ')'])
    | parts => some ('(' :: joinChars [',', ' '] parts ++ [')'])
  | map entries => do
    let parts ← writtenEntries? entries
    some ('{' :: joinChars [',', ' '] parts ++ ['}'])
  | record typeName fields => do
    let parts ← writtenFields? fields
    some (typeName.toList ++ '(' :: joinChars [',', ' '] parts ++ [')'])
  | model _ => some "<model>".toList
  | function _ => some "<function>".toList
  | foreign kind => some kind.text.toList
  | ready _ form => writtenChars? form

def writtenItems? : List Host → Option (List (List Char))
  | [] => some []
  | item :: rest => do
    let part ← writtenChars? item
    let parts ← writtenItems? rest
    some (part :: parts)

def writtenEntries? : List (Host × Host) → Option (List (List Char))
  | [] => some []
  | (key, value) :: rest => do
    let key ← writtenChars? key
    let value ← writtenChars? value
    let parts ← writtenEntries? rest
    some ((key ++ ':' :: ' ' :: value) :: parts)

def writtenFields? : List (String × Host) → Option (List (List Char))
  | [] => some []
  | (name, value) :: rest => do
    let value ← writtenChars? value
    let parts ← writtenFields? rest
    some ((name.toList ++ '=' :: value) :: parts)

end

def written? (value : Host) : Option String := value.writtenChars?.map String.ofList

/-- A value as text: a text as it is, any other as written inside another one. -/
def display? : Host → Option String
  | text s => some s
  | value => value.written?

mutual

/-- The host's counterpart of a label. -/
def ofLabel : Label → Host
  | .text s => text s
  | .number n => number n
  | .bool b => bool b
  | .null => null
  | .tuple items => tuple (ofLabels items)
  | .node kind parts =>
    if Label.bareKinds.contains kind then foreign (.notion kind) else record kind (ofParts parts)

def ofLabels : List Label → List Host
  | [] => []
  | label :: rest => ofLabel label :: ofLabels rest

def ofParts : List (String × Label) → List (String × Host)
  | [] => []
  | (name, label) :: rest => (name, ofLabel label) :: ofParts rest

end

mutual

/-- The label that a value makes, none for one that cannot be told apart by what it holds. -/
def label? : Host → Option Label
  | text s => some (.text s)
  | number n => some (.number n)
  | bool b => some (.bool b)
  | null => some .null
  | tuple items => (labels? items).map .tuple
  | _ => none

def labels? : List Host → Option (List Label)
  | [] => some []
  | item :: rest => do
    let label ← label? item
    let labels ← labels? rest
    some (label :: labels)

end

end Host

/-- A label as text: a text as it is, any other as it is written inside another value. -/
def Label.display? (label : Label) : Option String := (Host.ofLabel label).display?

mutual

/-- A label as plain data, with the written forms of nodes. -/
def Label.toData : Label → Data
  | .text s => .text s
  | .number n => .number n
  | .bool b => .bool b
  | .null => .null
  | .tuple items => .list (Label.toDatas items)
  | .node kind parts => .text ((Label.node kind parts).display?.getD "")

def Label.toDatas : List Label → List Data
  | [] => []
  | label :: rest => Label.toData label :: Label.toDatas rest

end

end TextTemplate
