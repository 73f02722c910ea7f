import TextTemplate.Host

/-!
Writing host values as JSON documents.
-/

namespace TextTemplate.Json

/-- Why a value has no JSON document. -/
inductive WriteFault
  | unsupported (typeName : String)
  | unsupportedKey (typeName : String)
  | numeralTooLong

def WriteFault.reason : WriteFault → String
  | unsupported typeName => "Object of type " ++ typeName ++ " is not JSON serializable"
  | unsupportedKey typeName =>
    "keys must be str, int, float, bool or None, not " ++ typeName
  | numeralTooLong => ""

/-- The layout of a document. With an indentation each item stands on a line of its own. -/
structure Style where
  itemSeparator : List Char
  keySeparator : List Char
  indent : Option (List Char)
  /-- Whether characters beyond ASCII are escaped. -/
  asciiOnly : Bool
  /-- Whether values that JSON does not know are written as texts. -/
  displayUnknown : Bool

/-- The numbers that JSON does not know have words of their own. -/
def numberWords : Number.Words := ⟨"NaN", "Infinity", "-Infinity"⟩

def unitEscape (n : Nat) : List Char := '\\' :: 'u' :: Text.hexDigits 4 n

/-- A character inside a text. Characters beyond the basic plane are escaped as two units. -/
def escapeChar (asciiOnly : Bool) (c : Char) : List Char :=
  if c == '"' then ['\\', '"']
  else if c == '\\' then ['\\', '\\']
  else if c == '\n' then ['\\', 'n']
  else if c == '\r' then ['\\', 'r']
  else if c == '\t' then ['\\', 't']
  else if c == '\x0c' then ['\\', 'f']
  else if c == '\x08' then ['\\', 'b']
  else if c.toNat < 0x20 then unitEscape c.toNat
  else if asciiOnly && 0x7f ≤ c.toNat then
    if c.toNat < 0x10000 then unitEscape c.toNat
    else
      let offset := c.toNat - 0x10000
      unitEscape (0xd800 + offset / 0x400) ++ unitEscape (0xdc00 + offset % 0x400)
  else [c]

def textChars (asciiOnly : Bool) (s : String) : List Char :=
  '"' :: s.toList.flatMap (escapeChar asciiOnly) ++ ['"']

def numberChars (n : Number) : Except WriteFault (List Char) :=
  match n.textWith? numberWords with
  | some numeral => .ok numeral.toList
  | none => .error .numeralTooLong

namespace Style

/-- A line break with the indentation of the given depth, nothing without indentation. -/
def lineBreak (style : Style) (depth : Nat) : List Char :=
  match style.indent with
  | none => []
  | some indent => '\n' :: (List.replicate depth indent).flatten

/-- Puts items between brackets. -/
def bracketed (style : Style) (depth : Nat) (opening closing : Char) :
    List (List Char) → List Char
  | [] => [opening, closing]
  | items =>
    opening :: style.lineBreak (depth + 1) ++
      Host.joinChars (style.itemSeparator ++ style.lineBreak (depth + 1)) items ++
      style.lineBreak depth ++ [closing]

/-- A value that JSON does not know. -/
def unknown (style : Style) (value : Host) : Except WriteFault (List Char) :=
  if style.displayUnknown then
    match value.display? with
    | some s => .ok (textChars style.asciiOnly s)
    | none => .error .numeralTooLong
  else .error (.unsupported value.typeName)

/-- A key. Simple values that are no texts are written as they would be for themselves. -/
def key (style : Style) : Host → Except WriteFault (List Char)
  | .text s => .ok (textChars style.asciiOnly s)
  | .null => .ok (textChars style.asciiOnly "null")
  | .bool b => .ok (textChars style.asciiOnly (if b then "true" else "false"))
  | .number n => do
    let numeral ← numberChars n
    .ok ('"' :: numeral ++ ['"'])
  | other => .error (.unsupportedKey other.typeName)

mutual

def write (style : Style) (depth : Nat) : Host → Except WriteFault (List Char)
  | .null => .ok "null".toList
  | .bool b => .ok (if b then "true" else "false").toList
  | .number n => numberChars n
  | .text s => .ok (textChars style.asciiOnly s)
  | .list items | .tuple items => do
    let parts ← style.writeItems (depth + 1) items
    .ok (style.bracketed depth '[' ']' parts)
  | .map entries => do
    let parts ← style.writeEntries (depth + 1) entries
    .ok (style.bracketed depth '{' '}' parts)
  | .record typeName fields => style.unknown (.record typeName fields)
  | .model entries => style.unknown (.model entries)
  | .function f => style.unknown (.function f)
  | .foreign kind => style.unknown (.foreign kind)
  | .ready value form => style.unknown (.ready value form)

def writeItems (style : Style) (depth : Nat) : List Host → Except WriteFault (List (List Char))
  | [] => .ok []
  | item :: rest => do
    let part ← style.write depth item
    let parts ← style.writeItems depth rest
    .ok (part :: parts)

def writeEntries (style : Style) (depth : Nat) :
    List (Host × Host) → Except WriteFault (List (List Char))
  | [] => .ok []
  | (name, value) :: rest => do
    let name ← style.key name
    let part ← style.write depth value
    let parts ← style.writeEntries depth rest
    .ok ((name ++ style.keySeparator ++ part) :: parts)

end

end Style

/-- The layout for reading by people: spaces after separators, all characters as they are. -/
def readable (indent : Option (List Char)) : Style :=
  ⟨if indent.isSome then [','] else [',', ' '], [':', ' '], indent, false, false⟩

/-- The layout for machines: no spaces, ASCII only, and a text for whatever JSON does not know. -/
def compact : Style := ⟨[','], [':'], none, true, true⟩

def Style.document (style : Style) (value : Host) : Except WriteFault String :=
  String.ofList <$> style.write 0 value

end TextTemplate.Json
