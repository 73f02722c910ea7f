import TextTemplate.Number.Decimal
import TextTemplate.Number.Dyadic

/-!
The shortest decimal numeral that reads back as a given float.
-/

namespace TextTemplate

/-- The number `digits * 10 ^ exponent`. -/
structure DecimalFloat where
  digits : Nat
  exponent : Int

/-- The greatest `e` with `10 ^ e ≤ num / den`, for a positive fraction. -/
def decimalMagnitude (num den : Nat) : Int :=
  if den ≤ num then (decimalDigits (num / den)).length - 1
  else
    let places := (decimalDigits (den / num)).length
    if den ≤ num * tenTo (places - 1) then 1 - (places : Int) else -(places : Int)

/-- `n * 10 ^ e` as a fraction. -/
def timesPowerOfTen (n : Nat) (e : Int) : Nat × Nat :=
  if e < 0 then (n, tenTo e.natAbs) else (n * tenTo e.natAbs, 1)

/-- The distance between two fractions. -/
def fractionGap (a b : Nat × Nat) : Nat × Nat :=
  (((a.1 * b.2 : Int) - (b.1 * a.2 : Int)).natAbs, a.2 * b.2)

def fractionLess (a b : Nat × Nat) : Bool := a.1 * b.2 < b.1 * a.2

/-- Whether a fraction is read as the float `d`: it lies within half a step of it, the ends counted
when the mantissa is even. The step below a power of two is half as wide as the one above. -/
def Dyadic.isReadFrom (d : Dyadic) (candidate : Nat × Nat) : Bool :=
  let value := d.fraction
  let narrow := d.mantissa == twoTo 52 && d.exponent > minExponent
  let below := fractionLess candidate value
  let half : Dyadic :=
    if below && narrow then ⟨false, 1, d.exponent - 2⟩ else ⟨false, 1, d.exponent - 1⟩
  let gap := fractionGap candidate value
  fractionLess gap half.fraction ||
    (d.mantissa % 2 == 0 && !fractionLess half.fraction gap)

/-- One multiple of a power of ten; a multiple of ten of them is one of the next power. -/
def DecimalFloat.ofMultiple (n : Nat) (exponent : Int) : DecimalFloat :=
  if n % 10 == 0 then ⟨n / 10, exponent + 1⟩ else ⟨n, exponent⟩

/-- Of the two neighbours of `d` among the multiples of `10 ^ exponent`, the one that is read as
`d`; of two such, the nearer, and of two equally near the even one. -/
def Dyadic.onGrid? (d : Dyadic) (exponent : Int) : Option DecimalFloat :=
  let value := d.fraction
  let scaled := timesPowerOfTen value.1 (-exponent)
  let low := scaled.1 / (scaled.2 * value.2)
  let lowPoint := timesPowerOfTen low exponent
  let highPoint := timesPowerOfTen (low + 1) exponent
  match d.isReadFrom lowPoint, d.isReadFrom highPoint with
  | true, true =>
    let lowGap := fractionGap lowPoint value
    let highGap := fractionGap highPoint value
    if fractionLess lowGap highGap || (!fractionLess highGap lowGap && low % 2 == 0) then
      some (.ofMultiple low exponent)
    else some (.ofMultiple (low + 1) exponent)
  | true, false => some (.ofMultiple low exponent)
  | false, true => some (.ofMultiple (low + 1) exponent)
  | false, false => none

/-- Tries ever finer grids, at most `fuel` of them; the finest one needed has 17 digits. -/
def Dyadic.shortestFrom (d : Dyadic) (exponent : Int) : Nat → DecimalFloat
  | 0 => ⟨0, 0⟩
  | fuel + 1 => (d.onGrid? exponent).getD (d.shortestFrom (exponent - 1) fuel)

/-- The decimal number of fewest digits that is read as the float. -/
def Dyadic.shortest (d : Dyadic) : DecimalFloat :=
  if d.mantissa == 0 then ⟨0, 0⟩
  else d.shortestFrom (decimalMagnitude d.fraction.1 d.fraction.2) 18

end TextTemplate
