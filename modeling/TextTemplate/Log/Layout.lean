import TextTemplate.Host.Key
import TextTemplate.Number.Places
import TextTemplate.Report

/-!
How arguments are laid out in messages: the letters of directives, and their flags, widths and
precisions.
-/

namespace TextTemplate.Log

/-- The layout that a directive asks for. -/
structure Layout where
  flags : List Char
  /-- Whether room is left behind the argument. -/
  atLeft : Bool
  width : Nat
  precision : Option Nat

namespace Layout

/-- No memory has room for so many characters. -/
def memoryLimit : Nat := twoTo 30

def hasFlag (layout : Layout) (flag : Char) : Bool := layout.flags.contains flag

/-- Fills up to the width, with what stands in front of the digits kept in front of zeros. -/
def fill (layout : Layout) (zeros : Bool) (front body : List Char) : Except Problem (List Char) :=
  let missing := layout.width - (front.length + body.length)
  if memoryLimit ≤ missing then .error .outOfMemory
  else if layout.atLeft then .ok (front ++ body ++ List.replicate missing ' ')
  else if zeros then .ok (front ++ List.replicate missing '0' ++ body)
  else .ok (List.replicate missing ' ' ++ front ++ body)

/-- A text of at most as many characters as the precision says. -/
def ofText (layout : Layout) (cs : List Char) : Except Problem (List Char) :=
  layout.fill false [] (match layout.precision with
    | some most => cs.take most
    | none => cs)

/-- The sign of a number; what is not negative has one only on demand. -/
def sign (layout : Layout) (negative : Bool) : List Char :=
  if negative then ['-']
  else if layout.hasFlag '+' then ['+']
  else if layout.hasFlag ' ' then [' ']
  else []

/-- The digits of a whole number, at least as many as the precision says. -/
def ofDigits (layout : Layout) (negative : Bool) (mark digits : List Char) :
    Except Problem (List Char) :=
  layout.fill (layout.hasFlag '0') (layout.sign negative ++ mark)
    (Places.widened (layout.precision.getD 0) digits)

/-! ## Arguments as numbers -/

/-- A float without its fraction. -/
def truncate? (x : Float) : Option Int :=
  (Dyadic.ofFloat? x).map fun d =>
    let magnitude : Int := d.fraction.1 / d.fraction.2
    if d.negative then -magnitude else magnitude

/-- An argument that is a whole number. -/
def whole : Host → Except Problem Int
  | .bool b => .ok (if b then 1 else 0)
  | .number (.int i) => .ok i
  | _ => .error .wrongType

/-- The whole number in an argument that is any number. -/
def truncated : Host → Except Problem Int
  | .number (.float x) =>
    match truncate? x with
    | some i => .ok i
    | none => .error .overflow
  | .number (.nan _) => .error (.badValue "cannot convert float NaN to integer")
  | value => whole value

/-- An argument as a float. -/
def float (value : Host) : Except Problem Float :=
  match value.keyNumber? with
  | some n =>
    match n.toFloat? with
    | some x => .ok x
    | none => .error .overflow
  | none => .error .wrongType

/-! ## Forms -/

/-- The written form of a value, which must not hold a numeral of too many digits. -/
def ofWritten : Option String → Except Problem (List Char)
  | some s => .ok s.toList
  | none => .error (.numeralTooLong none)

/-- A number in decimal notation. -/
def decimal (layout : Layout) (value : Host) : Except Problem (List Char) := do
  let i ← truncated value
  let digits ← ofWritten (integerText? i.natAbs)
  layout.ofDigits (i < 0) [] digits

/-- A number in a notation of another base, whose mark is shown on demand. -/
def based (layout : Layout) (base : Nat) (mark : List Char) (value : Host) :
    Except Problem (List Char) := do
  let i ← whole value
  layout.ofDigits (i < 0) (if layout.hasFlag '#' then mark else []) (Nat.toDigits base i.natAbs)

/-- The digits that one of the notations of floats gives a fraction. -/
def floatChars (layout : Layout) (style : Char) (value : Nat × Nat) : List Char :=
  let keepPoint := layout.hasFlag '#'
  let precision := layout.precision.getD 6
  if style == 'f' then Places.fixedChars keepPoint precision value
  else if style == 'e' then Places.scientificChars keepPoint precision value
  else Places.generalChars keepPoint precision value

/-- A float in one of its notations. -/
def floating (layout : Layout) (style : Char) (value : Host) : Except Problem (List Char) := do
  let x ← float value
  match Dyadic.ofFloat? x with
  | some d =>
    layout.fill (layout.hasFlag '0') (layout.sign d.negative) (layout.floatChars style d.fraction)
  | none =>
    layout.fill (layout.hasFlag '0') (layout.sign (x < 0.0))
      (if x.isNaN then "nan" else "inf").toList

/-- An argument that stands for one character, by itself or by its number. -/
def character : Host → Except Problem Char
  | .text s =>
    match s.toList with
    | [c] => .ok c
    | _ => .error .wrongType
  | value => do
    let i ← whole value
    if 0 ≤ i && i < 0x110000 then .ok (Char.ofNat i.toNat) else .error .overflow

/-- A letter at a place that asks for no form at all. -/
def unknownLetter (letter : Char) (place : Nat) : Problem :=
  let shown := if 31 ≤ letter.toNat && letter.toNat < 127 then letter.toString else "?"
  .badValue <|
    "unsupported format character '" ++ shown ++ "' (0x" ++
      String.ofList (Nat.toDigits 16 letter.toNat) ++ ") at index " ++ toString place

/-- An argument in the form that the letter at a place asks for. -/
def shown (layout : Layout) (letter : Char) (place : Nat) (value : Host) :
    Except Problem (List Char) :=
  match letter with
  | 's' => ofWritten value.display? >>= layout.ofText
  | 'r' => ofWritten value.written? >>= layout.ofText
  | 'a' => ofWritten value.written? >>= fun cs => layout.ofText (Text.asciiChars cs)
  | 'd' | 'i' | 'u' => layout.decimal value
  | 'o' => layout.based 8 ['0', 'o'] value
  | 'x' => layout.based 16 ['0', 'x'] value
  | 'X' => List.map Char.toUpper <$> layout.based 16 ['0', 'x'] value
  | 'e' | 'f' | 'g' => layout.floating letter value
  | 'E' | 'F' | 'G' => List.map Char.toUpper <$> layout.floating letter.toLower value
  | 'c' => character value >>= fun c => layout.fill false [] [c]
  | _ => .error (unknownLetter letter place)

end Layout

end TextTemplate.Log
