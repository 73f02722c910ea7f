import TextTemplate.Number
import TextTemplate.Number.Numeral

/-!
Reading decimal numerals as numbers.
-/

namespace TextTemplate

/-- The float nearest to `digits * 10 ^ exponent`, an infinity when it is too large. The bounds on
the magnitude keep the powers of ten small; beyond them the answer does not change. -/
def floatOfDecimal (negative : Bool) (digits : Nat) (exponent : Int) : Float :=
  let infinity : Float := if negative then -1.0 / 0.0 else 1.0 / 0.0
  let magnitude := exponent + (decimalDigits digits).length
  if digits == 0 || magnitude < -400 then (nearestFloat? negative 0 1).getD 0.0
  else if magnitude > 400 then infinity
  else
    let (num, den) := if exponent < 0 then (digits, tenTo exponent.natAbs)
      else (digits * tenTo exponent.natAbs, 1)
    (nearestFloat? negative num den).getD infinity

/-- A numeral taken apart: digits before and after the point, and the exponent if there is one. -/
structure Numeral where
  negative : Bool
  whole : List Char
  fraction : List Char
  exponent : Option (Bool × List Char)

namespace Numeral

/-- The float that a numeral denotes. -/
def toFloat (numeral : Numeral) : Float :=
  let exponent : Int := match numeral.exponent with
    | none => 0
    | some (negative, digits) =>
      if negative then -(ofDecimalDigits digits) else ofDecimalDigits digits
  floatOfDecimal numeral.negative (ofDecimalDigits (numeral.whole ++ numeral.fraction))
    (exponent - numeral.fraction.length)

/-- Splits off digits after a point, if a point and a digit follow. -/
def scanFraction : List Char → List Char × List Char
  | '.' :: rest => (rest.takeWhile Char.isDigit, rest.dropWhile Char.isDigit)
  | cs => ([], cs)

/-- Splits off an exponent, if one follows. -/
def scanExponent (cs : List Char) : Option (Bool × List Char) × List Char :=
  match cs with
  | mark :: rest =>
    if mark == 'e' || mark == 'E' then
      let (negative, rest) := scanSign rest
      match rest.takeWhile Char.isDigit with
      | [] => (none, cs)
      | digits => (some (negative, digits), rest.dropWhile Char.isDigit)
    else (none, cs)
  | [] => (none, [])

end Numeral

/-- Whether characters spell a word, in small or capital letters. -/
def spells (word : String) (cs : List Char) : Bool := cs.map Char.toLower == word.toList

/-- Drops underscores between digits, none when one stands elsewhere. The flag says whether a digit
is before. -/
def Numeral.joined? : Bool → List Char → Option (List Char)
  | _, [] => some []
  | afterDigit, '_' :: c :: rest =>
    if afterDigit && c.isDigit then (joined? true rest).map (c :: ·) else none
  | _, c :: rest => if c == '_' then none else (joined? c.isDigit rest).map (c :: ·)

/-- The float that plain characters denote, none if they are no numeral. -/
def floatOfPlain? (cs : List Char) : Option Float :=
  let (negative, cs) := Numeral.scanSign cs
  if spells "inf" cs || spells "infinity" cs then
    some (if negative then -1.0 / 0.0 else 1.0 / 0.0)
  else if spells "nan" cs then some (0.0 / 0.0)
  else
    let whole := cs.takeWhile Char.isDigit
    let (fraction, cs) := Numeral.scanFraction (cs.dropWhile Char.isDigit)
    match Numeral.scanExponent cs with
    | (exponent, []) =>
      if whole.isEmpty && fraction.isEmpty then none
      else some (Numeral.toFloat ⟨negative, whole, fraction, exponent⟩)
    | _ => none

/-- The float that a text denotes, none if it is no numeral. -/
def floatOfText? (s : String) : Option Float := do
  let cs ← Numeral.joined? false (Numeral.plainChars s.toList)
  floatOfPlain? (Text.stripWhile Numeral.isPlainBlank cs)

/-- The whole number that a text denotes, none if it is no numeral. -/
def intOfText? (s : String) : Option Int := (Numeral.wholeOfChars s.toList).toOption

end TextTemplate
