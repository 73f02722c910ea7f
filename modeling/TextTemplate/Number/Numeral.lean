import TextTemplate.Number.Decimal
import TextTemplate.Text.Blank
import TextTemplate.Text.Digit

/-!
Whole numbers as people write them: digits of any script with a sign in front, single underscores
between the digits, and white space around. A text that holds nothing beyond ASCII is taken as it
is; in any other one, digits and white space are first replaced by their plain forms, up to the
first character that is neither.
-/

namespace TextTemplate

/-- Why a text is no numeral of a whole number. -/
inductive NumeralFault
  | malformed
  | tooLong (digits : Nat)
  deriving DecidableEq, Repr

namespace Numeral

/-- The white space that may stand around a plain numeral. -/
def isPlainBlank (c : Char) : Bool := c == ' ' || ('\t' ≤ c && c ≤ '\r')

/-- The plain form of a digit or of white space. -/
def plain? (c : Char) : Option Char :=
  if c.toNat < 0x7f then some c
  else if Text.isBlank c then some ' '
  else (Text.decimalDigit? c).map Nat.digitChar

/-- The plain forms of characters up to the first one without any, which a question mark stands
for. -/
def plainFrom : List Char → List Char
  | [] => []
  | c :: rest =>
    match plain? c with
    | some p => p :: plainFrom rest
    | none => ['?']

/-- A text with its digits and white space in their plain forms. -/
def plainChars (cs : List Char) : List Char :=
  if cs.all fun c => decide (c.toNat < 0x80) then cs else plainFrom cs

/-- Splits off a sign and tells whether it is a minus. -/
def scanSign : List Char → Bool × List Char
  | '-' :: rest => (true, rest)
  | '+' :: rest => (false, rest)
  | cs => (false, cs)

/-- The digits of a run of digits and underscores, none unless every underscore stands between two
digits. The flag says whether a digit is due. -/
def digitsFrom? : Bool → List Char → Option (List Char)
  | due, [] => if due then none else some []
  | due, c :: rest =>
    if c == '_' then if due then none else digitsFrom? true rest
    else (digitsFrom? false rest).map (c :: ·)

/-- The digits of a run that is not empty. -/
def runDigits? (run : List Char) : Option (List Char) := digitsFrom? true run

/-- A digit or an underscore, as they stand in a run. -/
def inRun (c : Char) : Bool := c.isDigit || c == '_'

/-- The whole number that a text denotes. Numerals with more digits than the limit are refused
whatever follows them. -/
def wholeOfChars (cs : List Char) : Except NumeralFault Int :=
  let (negative, cs) := scanSign ((plainChars cs).dropWhile isPlainBlank)
  match runDigits? (cs.takeWhile inRun) with
  | none => .error .malformed
  | some digits =>
    if digits.length > digitLimit then .error (.tooLong digits.length)
    else if ((cs.dropWhile inRun).dropWhile isPlainBlank).isEmpty then
      .ok (if negative then -(ofDecimalDigits digits) else ofDecimalDigits digits)
    else .error .malformed

end Numeral

end TextTemplate
