import TextTemplate.Number

/-!
Numbers with a given number of digits: places behind the point, or digits in all. What is left out
is rounded to the nearest, a half to the even neighbour. The numbers are fractions without a sign.
-/

namespace TextTemplate.Places

/-- Digits with zeros in front of them, up to a width. -/
def widened (width : Nat) (digits : List Char) : List Char :=
  List.replicate (width - digits.length) '0' ++ digits

/-- So many units of the last of the places behind the point. Without places there is no point,
unless it is kept. -/
def pointed (keepPoint : Bool) (places units : Nat) : List Char :=
  let digits := widened (places + 1) (decimalDigits units)
  let whole := digits.length - places
  digits.take whole ++ (if places == 0 && !keepPoint then [] else '.' :: digits.drop whole)

/-- The notation with all digits before the point and some places behind it. -/
def fixedChars (keepPoint : Bool) (places : Nat) (value : Nat × Nat) : List Char :=
  pointed keepPoint places (roundQuotient (value.1 * tenTo places) value.2)

/-- The first digits of a number, rounded, and the power of ten of the very first one. -/
def leading (digits : Nat) (value : Nat × Nat) : Nat × Int :=
  if value.1 == 0 then (0, 0)
  else
    let magnitude := decimalMagnitude value.1 value.2
    let scaled := timesPowerOfTen value.1 ((digits : Int) - 1 - magnitude)
    let units := roundQuotient scaled.1 (scaled.2 * value.2)
    if units == tenTo digits then (units / 10, magnitude + 1) else (units, magnitude)

/-- The notation with one digit before the point and a power of ten. -/
def scientificChars (keepPoint : Bool) (places : Nat) (value : Nat × Nat) : List Char :=
  let (units, magnitude) := leading (places + 1) value
  pointed keepPoint places units ++ 'e' :: Number.exponentChars magnitude

/-- A numeral without zeros at the end of its fraction, and without a point that ends it. -/
def trimmed (numeral : List Char) : List Char :=
  if numeral.contains '.' then
    ((numeral.reverse.dropWhile (· == '0')).dropWhile (· == '.')).reverse
  else numeral

/-- The notation with so many digits in all, with a power of ten where the number is small or where
the digits end before the point. -/
def generalChars (keepPoint : Bool) (digits : Nat) (value : Nat × Nat) : List Char :=
  let digits := max digits 1
  let (units, magnitude) := leading digits value
  let finished (numeral : List Char) : List Char := if keepPoint then numeral else trimmed numeral
  if -4 ≤ magnitude && magnitude < digits then
    finished (pointed keepPoint ((digits : Int) - 1 - magnitude).toNat units)
  else
    finished (pointed keepPoint (digits - 1) units) ++ 'e' :: Number.exponentChars magnitude

end TextTemplate.Places
