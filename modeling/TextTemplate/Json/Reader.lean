import TextTemplate.Host.Key
import TextTemplate.Number.Reader

/-!
Reading JSON documents. A document that is not well formed is refused with the first thing that is
wrong and its place.
-/

namespace TextTemplate.Json

/-- What can be wrong with a document. -/
inductive Defect
  | byteOrderMark
  | noValue
  | noKey
  | noColon
  | noComma
  | openText
  | controlCharacter
  | unknownEscape
  | wrongUnit
  | extraData

def Defect.message : Defect → String
  | byteOrderMark => "Unexpected UTF-8 BOM (decode using utf-8-sig)"
  | noValue => "Expecting value"
  | noKey => "Expecting property name enclosed in double quotes"
  | noColon => "Expecting ':' delimiter"
  | noComma => "Expecting ',' delimiter"
  | openText => "Unterminated string starting at"
  | controlCharacter => "Invalid control character at"
  | unknownEscape => "Invalid \\escape"
  | wrongUnit => "Invalid \\uXXXX escape"
  | extraData => "Extra data"

/-- Why reading stops: a defect, with what is left from its place on, or a numeral of too many
digits. -/
inductive Stop
  | defect (defect : Defect) (left : List Char)
  | numeralTooLong (digits : Nat)

def isBlank (c : Char) : Bool := c == ' ' || c == '\t' || c == '\n' || c == '\r'

def skipBlanks (cs : List Char) : List Char := cs.dropWhile isBlank

/-! ## Texts -/

def hexValue? (c : Char) : Option Nat :=
  if '0' ≤ c && c ≤ '9' then some (c.toNat - '0'.toNat)
  else if 'a' ≤ c && c ≤ 'f' then some (c.toNat - 'a'.toNat + 10)
  else if 'A' ≤ c && c ≤ 'F' then some (c.toNat - 'A'.toNat + 10)
  else none

/-- The unit that four hexadecimal digits denote. -/
def unit? (a b c d : Char) : Option Nat := do
  let a ← hexValue? a
  let b ← hexValue? b
  let c ← hexValue? c
  let d ← hexValue? d
  some (((a * 16 + b) * 16 + c) * 16 + d)

/-- The character that stands behind a backslash. -/
def simpleEscape? : Char → Option Char
  | '"' => some '"'
  | '\\' => some '\\'
  | '/' => some '/'
  | 'b' => some '\x08'
  | 'f' => some '\x0c'
  | 'n' => some '\n'
  | 'r' => some '\r'
  | 't' => some '\t'
  | _ => none

def isLeadingHalf (unit : Nat) : Bool := 0xd800 ≤ unit && unit < 0xdc00

def isTrailingHalf (unit : Nat) : Bool := 0xdc00 ≤ unit && unit < 0xe000

/-- The private characters that stand for halves of a pair. They are the last ones of all. -/
def firstHalfCode : Nat := 0x10f800

/-- The character of a unit. The halves of a pair have none when they stand alone; a private
character then tells them apart from all others. -/
def charOfUnit (unit : Nat) : Char :=
  if isLeadingHalf unit || isTrailingHalf unit then Char.ofNat (firstHalfCode + (unit - 0xd800))
  else Char.ofNat unit

/-- The characters that units denote; two halves of a pair denote one character. -/
def charsOfUnits : List Nat → List Char
  | [] => []
  | [unit] => [charOfUnit unit]
  | first :: second :: rest =>
    if isLeadingHalf first && isTrailingHalf second then
      Char.ofNat (0x10000 + (first - 0xd800) * 0x400 + (second - 0xdc00)) :: charsOfUnits rest
    else charOfUnit first :: charsOfUnits (second :: rest)

/-- The units of a text up to its closing quote. An escape by digits has to be followed by
something. -/
def readUnits (start : List Char) : List Char → Except Stop (List Nat × List Char)
  | [] => .error (.defect .openText start)
  | '"' :: rest => .ok ([], rest)
  | ['\\'] => .error (.defect .openText start)
  | '\\' :: 'u' :: a :: b :: c :: d :: next :: rest =>
    match unit? a b c d with
    | some unit => do
      let (units, left) ← readUnits start (next :: rest)
      .ok (unit :: units, left)
    | none => .error (.defect .wrongUnit ('u' :: a :: b :: c :: d :: next :: rest))
  | '\\' :: 'u' :: rest => .error (.defect .wrongUnit ('u' :: rest))
  | '\\' :: c :: rest =>
    match simpleEscape? c with
    | some escaped => do
      let (units, left) ← readUnits start rest
      .ok (escaped.toNat :: units, left)
    | none => .error (.defect .unknownEscape ('\\' :: c :: rest))
  | c :: rest =>
    if c.toNat < 0x20 then .error (.defect .controlCharacter (c :: rest))
    else do
      let (units, left) ← readUnits start rest
      .ok (c.toNat :: units, left)
  termination_by cs => cs.length

/-- A text after its opening quote. -/
def readText (cs : List Char) : Except Stop (String × List Char) := do
  let (units, left) ← readUnits ('"' :: cs) cs
  .ok (String.ofList (charsOfUnits units), left)

/-! ## Numbers -/

/-- The digits before the point: a single zero or a numeral that starts with none. -/
def scanWhole : List Char → List Char × List Char
  | '0' :: rest => (['0'], rest)
  | cs => (cs.takeWhile Char.isDigit, cs.dropWhile Char.isDigit)

/-- The digits after the point, if there are any. -/
def scanDecimals (cs : List Char) : List Char × List Char :=
  match Numeral.scanFraction cs with
  | ([], _) => ([], cs)
  | scanned => scanned

/-- A number. With a point or an exponent it is a float. -/
def readNumber (start : List Char) : Except Stop (Number × List Char) :=
  let (negative, cs) := match start with
    | '-' :: rest => (true, rest)
    | cs => (false, cs)
  match scanWhole cs with
  | ([], _) => .error (.defect .noValue start)
  | (whole, cs) =>
    let (decimals, cs) := scanDecimals cs
    let (exponent, left) := Numeral.scanExponent cs
    if decimals.isEmpty && exponent.isNone then
      if digitLimit < whole.length then .error (.numeralTooLong whole.length)
      else
        let magnitude : Int := ofDecimalDigits whole
        .ok (.int (if negative then -magnitude else magnitude), left)
    else .ok (.ofFloat (Numeral.toFloat ⟨negative, whole, decimals, exponent⟩), left)

/-! ## Values -/

/-- A value that is written as a word, or a number. All undefined numbers of a document are one and
the same. -/
def readSimple : List Char → Except Stop (Host × List Char)
  | 'n' :: 'u' :: 'l' :: 'l' :: rest => .ok (.null, rest)
  | 't' :: 'r' :: 'u' :: 'e' :: rest => .ok (.bool true, rest)
  | 'f' :: 'a' :: 'l' :: 's' :: 'e' :: rest => .ok (.bool false, rest)
  | 'N' :: 'a' :: 'N' :: rest => .ok (.number (.nan 1), rest)
  | 'I' :: 'n' :: 'f' :: 'i' :: 'n' :: 'i' :: 't' :: 'y' :: rest =>
    .ok (.number (.ofFloat (1.0 / 0.0)), rest)
  | '-' :: 'I' :: 'n' :: 'f' :: 'i' :: 'n' :: 'i' :: 't' :: 'y' :: rest =>
    .ok (.number (.ofFloat (-1.0 / 0.0)), rest)
  | cs => do
    let (n, left) ← readNumber cs
    .ok (.number n, left)

mutual

/-- A value, with at most `bound` brackets, items and members open at its place. -/
def readValue (bound : Nat) (cs : List Char) : Except Stop (Host × List Char) :=
  match bound with
  | 0 => .error (.defect .noValue cs)
  | bound + 1 =>
    match cs with
    | '"' :: rest => do
      let (s, left) ← readText rest
      .ok (.text s, left)
    | '[' :: rest =>
      match skipBlanks rest with
      | ']' :: left => .ok (.list [], left)
      | inside => do
        let (items, left) ← readItems bound inside
        .ok (.list items, left)
    | '{' :: rest =>
      match skipBlanks rest with
      | '}' :: left => .ok (.map [], left)
      | inside => do
        let (pairs, left) ← readMembers bound inside
        .ok (.map (Host.entriesOfPairs pairs), left)
    | cs => readSimple cs

/-- Items up to the closing bracket. -/
def readItems (bound : Nat) (cs : List Char) : Except Stop (List Host × List Char) :=
  match bound with
  | 0 => .error (.defect .noValue cs)
  | bound + 1 => do
    let (item, left) ← readValue bound cs
    match skipBlanks left with
    | ']' :: left => .ok ([item], left)
    | ',' :: left =>
      let (items, left) ← readItems bound (skipBlanks left)
      .ok (item :: items, left)
    | left => .error (.defect .noComma left)

/-- Members up to the closing brace. -/
def readMembers (bound : Nat) (cs : List Char) : Except Stop (List (Host × Host) × List Char) :=
  match bound with
  | 0 => .error (.defect .noKey cs)
  | bound + 1 =>
    match cs with
    | '"' :: rest => do
      let (key, left) ← readText rest
      match skipBlanks left with
      | ':' :: left =>
        let (value, left) ← readValue bound (skipBlanks left)
        match skipBlanks left with
        | '}' :: left => .ok ([(.text key, value)], left)
        | ',' :: left =>
          let (pairs, left) ← readMembers bound (skipBlanks left)
          .ok ((.text key, value) :: pairs, left)
        | left => .error (.defect .noComma left)
      | left => .error (.defect .noColon left)
    | cs => .error (.defect .noKey cs)

end

/-! ## Documents -/

/-- A place in a text: lines and columns count from one, characters from zero. -/
structure Place where
  line : Nat
  column : Nat
  index : Nat

/-- The place that a number of characters stand before. -/
def Place.after (before : List Char) : Place where
  line := before.count '\n' + 1
  column := (before.reverse.takeWhile (· != '\n')).length + 1
  index := before.length

inductive ReadFault
  | malformed (defect : Defect) (place : Place)
  | numeralTooLong (digits : Nat)

/-- What is wrong with a document and where. -/
def Defect.describe (defect : Defect) (place : Place) : String :=
  defect.message ++ ": line " ++ toString place.line ++ " column " ++ toString place.column ++
    " (char " ++ toString place.index ++ ")"

/-- The value of a document: one value with nothing but blanks around it. Every bracket opens a
value and an item or member, so that the bound cannot be reached. -/
def readDocument (cs : List Char) : Except Stop Host :=
  match cs with
  | '\ufeff' :: _ => .error (.defect .byteOrderMark cs)
  | _ => do
    let (value, left) ← readValue (2 * cs.length + 1) (skipBlanks cs)
    match skipBlanks left with
    | [] => .ok value
    | left => .error (.defect .extraData left)

/-- Reads a document. -/
def read (s : String) : Except ReadFault Host :=
  let cs := s.toList
  match readDocument cs with
  | .ok value => .ok value
  | .error (.defect defect left) =>
    .error (.malformed defect (.after (cs.take (cs.length - left.length))))
  | .error (.numeralTooLong digits) => .error (.numeralTooLong digits)

end TextTemplate.Json
