import TextTemplate.Eval.Operator
import TextTemplate.Text.Blank
import TextTemplate.Text.Case

/-!
What the methods of texts, arrays and objects answer.
-/

namespace TextTemplate.Eval

def kindNames (args : List Value) : List String := args.map Value.kindName

def allTexts? : List Value → Option (List String)
  | [] => some []
  | .text s :: rest => (allTexts? rest).map (s :: ·)
  | _ :: _ => none

/-- Whether a value is a text or stands for one. -/
def isTextual : Value → Bool
  | .text _ | .label _ => true
  | _ => false

/-- Requires arguments to be of the kind of texts, between `least` and `most` in number. -/
def checkTextual (method : TextMethod) (least most : Nat) (args : List Value) : Eval Unit :=
  if least ≤ args.length && args.length ≤ most && args.all isTextual then pure ()
  else fail (.textArguments method.name least most (kindNames args))

/-- Arguments that have to be texts, between `least` and `most` in number. -/
def textArguments (method : TextMethod) (least most : Nat) (args : List Value) :
    Eval (List String) := do
  checkTextual method least most args
  match allTexts? args with
  | some texts => pure texts
  | none => fail .unfit

/-- Removes white space, or the given characters, with `strip`. -/
def stripWith (strip : (Char → Bool) → List Char → List Char) (method : TextMethod)
    (receiver : String) (args : List Value) : Eval Value := do
  let texts ← textArguments method 0 1 args
  match texts with
  | chars :: _ => pure (.text (String.ofList (strip (chars.toList.contains ·) receiver.toList)))
  | [] => pure (.text (String.ofList (strip Text.isBlank receiver.toList)))

/-- Whether the receiver has a text at one of its ends. -/
def hasAffix (holds : List Char → List Char → Bool) (method : TextMethod) (receiver : String)
    (args : List Value) : Eval Value := do
  let texts ← textArguments method 1 1 args
  match texts with
  | affix :: _ => pure (.bool (holds affix.toList receiver.toList))
  | [] => pure (.bool false)

def texts (parts : List (List Char)) : Value :=
  .array (parts.map fun part => .text (String.ofList part))

def split (receiver : String) (args : List Value) : Eval Value := do
  let separator ← textArguments .split 0 1 args
  match separator with
  | [] => pure (texts (Text.words receiver.toList))
  | separator :: _ =>
    if separator.isEmpty then fail .emptySeparator
    else pure (texts (Text.pieces separator.toList receiver.toList))

/-- How many replacements a count allows: all when it is negative. -/
def replacementLimit (count : Int) : Eval (Option Nat) :=
  if count < -(sizeLimit : Int) || (sizeLimit : Int) ≤ count then fail .overflow
  else if count < 0 then pure none
  else pure (some count.toNat)

/-- Whether arguments are of the kinds that a replacement takes. -/
def fitReplacement : List Value → Bool
  | [old, new] => isTextual old && isTextual new
  | [old, new, .number (.int _)] => isTextual old && isTextual new
  | _ => false

def replace (receiver : String) (args : List Value) : Eval Value :=
  let replaced (old new : String) (limit : Option Nat) : Value :=
    .text (String.ofList (Text.replace old.toList new.toList limit receiver.toList))
  match args with
  | [.text old, .text new] => pure (replaced old new none)
  | [.text old, .text new, .number (.int count)] => do
    let limit ← replacementLimit count
    pure (replaced old new limit)
  | _ => if fitReplacement args then fail .unfit else fail (.replaceArguments (kindNames args))

def callTextMethod (method : TextMethod) (receiver : String) (args : List Value) : Eval Value :=
  match method with
  | .upper => pure (.text (Text.upper receiver))
  | .lower => pure (.text (Text.lower receiver))
  | .title => pure (.text (Text.title receiver))
  | .length => pure (.ofNat receiver.length)
  | .strip => stripWith Text.stripWhile method receiver args
  | .lstrip => stripWith List.dropWhile method receiver args
  | .rstrip => stripWith Text.dropEndWhile method receiver args
  | .startswith => hasAffix List.isPrefixOf method receiver args
  | .endswith => hasAffix List.isSuffixOf method receiver args
  | .split => split receiver args
  | .replace => replace receiver args

/-- What the methods of texts answer for a label. Only a tuple has a length. -/
def callLabelMethod (method : TextMethod) (receiver : Label) (args : List Value) : Eval Value :=
  let unfit (least most : Nat) (fault : Fault) : Eval Value := do
    checkTextual method least most args
    fail fault
  match method with
  | .upper | .lower | .title => fail .noMethod
  | .length =>
    match receiver.length? with
    | some n => pure (.ofNat n)
    | none => fail .unfit
  | .strip | .lstrip | .rstrip => unfit 0 1 .unfit
  | .startswith | .endswith => unfit 1 1 .unfit
  | .split => unfit 0 1 .noMethod
  | .replace =>
    if fitReplacement args then fail .noMethod else fail (.replaceArguments (kindNames args))

/-- The fields as an array of pairs. -/
def itemPairs (fields : Fields Value) : Value :=
  .array (fields.map fun (key, value) => .array [.text key, value])

def callObjectMethod (method : ObjectMethod) (address : Address) (args : List Value) :
    Eval Value := do
  let fields ← fieldsOf address
  match method with
  | .get =>
    match args with
    | [.text key] => pure ((fields.get? key).getD .null)
    | [.text key, fallback] => pure ((fields.get? key).getD fallback)
    | [.label _] => pure .null
    | [.label _, fallback] => pure fallback
    | _ => fail (.getArguments (kindNames args))
  | .items => pure (itemPairs fields)
  | .keys => pure (.array (fields.keys.map .text))
  | .values => pure (.array fields.values)

/-- The entries of a table as an array of pairs. -/
def entryPairs (entries : Table Value) : Value :=
  .array (entries.map fun (label, value) => .array [.ofLabel label, value])

def callTableMethod (method : ObjectMethod) (address : Address) (args : List Value) :
    Eval Value := do
  let entries ← entriesOf address
  let found (label : Label) (fallback : Value) : Eval Value :=
    pure ((Table.get? label entries).getD fallback)
  match method with
  | .get =>
    match args with
    | [.text key] => found (.text key) .null
    | [.text key, fallback] => found (.text key) fallback
    | [.label label] => found label .null
    | [.label label, fallback] => found label fallback
    | _ => fail (.getArguments (kindNames args))
  | .items => pure (entryPairs entries)
  | .keys => pure (.array (entries.map fun (label, _) => .ofLabel label))
  | .values => pure (.array (entries.map (·.2)))

end TextTemplate.Eval
