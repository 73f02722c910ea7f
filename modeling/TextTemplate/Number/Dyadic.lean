/-!
Binary floating point numbers as exact fractions, and the float nearest to an exact fraction.
-/

namespace TextTemplate

def twoTo (n : Nat) : Nat := Nat.pow 2 n

/-- The number `mantissa * 2 ^ exponent`, or its negative. -/
structure Dyadic where
  negative : Bool
  mantissa : Nat
  exponent : Int

/-- The least exponent of a float, that of the smallest subnormal numbers. -/
def minExponent : Int := -1074

/-- What a float stands for, none for the infinities and NaN. -/
def Dyadic.ofFloat? (x : Float) : Option Dyadic :=
  let bits : Nat := x.toBits.toNat
  let field : Nat := bits / twoTo 52 % twoTo 11
  let fraction : Nat := bits % twoTo 52
  let negative := twoTo 63 ≤ bits
  if field == 2047 then none
  else if field == 0 then some ⟨negative, fraction, minExponent⟩
  else some ⟨negative, twoTo 52 + fraction, (field : Int) - 1 + minExponent⟩

/-- The value as a fraction of whole numbers, the sign aside. -/
def Dyadic.fraction (d : Dyadic) : Nat × Nat :=
  if d.exponent < 0 then (d.mantissa, twoTo d.exponent.natAbs)
  else (d.mantissa * twoTo d.exponent.natAbs, 1)

/-- `num / den` to the nearest whole number, a half to the even neighbour. -/
def roundQuotient (num den : Nat) : Nat :=
  let quotient := num / den
  let twice := 2 * (num % den)
  if twice > den || (twice == den && quotient % 2 == 1) then quotient + 1 else quotient

/-- The mantissa of 53 bits, or fewer at the least exponent, that is nearest to
`num / den / 2 ^ exponent`. -/
def scaledQuotient (num den : Nat) (exponent : Int) : Nat :=
  if exponent < 0 then roundQuotient (num * twoTo exponent.natAbs) den
  else roundQuotient num (den * twoTo exponent.natAbs)

/-- The exponent at which `num / den` has a mantissa of 53 bits, but not below the least one. -/
def floatExponent (num den : Nat) : Int :=
  let guess : Int := (num.log2 : Int) - den.log2 - 52
  let reachesNext :=
    if guess < 0 then num * twoTo guess.natAbs < den * twoTo 52
    else num < den * twoTo 52 * twoTo guess.natAbs
  max minExponent (if reachesNext then guess - 1 else guess)

/-- The float nearest to the fraction, none when it lies beyond the largest float. -/
def nearestFloat? (negative : Bool) (num den : Nat) : Option Float :=
  let sign := if negative then twoTo 63 else 0
  if num == 0 then some (Float.ofBits (UInt64.ofNat sign))
  else
    let exponent := floatExponent num den
    let mantissa := scaledQuotient num den exponent
    let magnitude := (exponent - minExponent).toNat * twoTo 52 + mantissa
    if magnitude < 2047 * twoTo 52 then some (Float.ofBits (UInt64.ofNat (sign + magnitude)))
    else none

/-- The float nearest to a whole number. -/
def floatOfInt? (i : Int) : Option Float := nearestFloat? (i < 0) i.natAbs 1

/-- The float nearest to the quotient of two whole numbers, the second not zero. -/
def floatOfRatio? (a b : Int) : Option Float :=
  nearestFloat? ((a < 0) != (b < 0)) a.natAbs b.natAbs

/-- The remainder of the division toward zero; it is exact and has the sign of `x`. -/
def floatRemainder (x y : Float) : Float :=
  match Dyadic.ofFloat? x, Dyadic.ofFloat? y with
  | some a, some b =>
    if b.mantissa == 0 then 0.0 / 0.0
    else
      let exponent := min a.exponent b.exponent
      let left := a.mantissa * twoTo (a.exponent - exponent).toNat
      let right := b.mantissa * twoTo (b.exponent - exponent).toNat
      let rest : Dyadic := ⟨a.negative, left % right, exponent⟩
      (nearestFloat? rest.negative rest.fraction.1 rest.fraction.2).getD x
  | some _, none => if y.isNaN then y else x
  | none, _ => 0.0 / 0.0

end TextTemplate
