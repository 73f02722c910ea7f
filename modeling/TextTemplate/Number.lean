import TextTemplate.Number.Shortest

/-!
The numbers of the template language: whole numbers of any size, floats, and the undefined results
of float arithmetic. Arithmetic between a whole number and a float is float arithmetic, comparison
between them is exact.
-/

namespace TextTemplate

/-- A number. An undefined result is told apart from the others by its mark; the mark zero stands
for a result that has not been marked yet. -/
inductive Number
  | int (value : Int)
  | float (value : Float)
  | nan (mark : Nat)

/-- Sizes and counts stay below this limit. -/
def sizeLimit : Nat := twoTo 63

namespace Number

/-- Why an operation has no result. -/
inductive Trouble
  | divisionByZero
  | tooLarge

def ofFloat (x : Float) : Number := if x.isNaN then .nan 0 else .float x

/-- The number as a float, none when it is too large for one. -/
def toFloat? : Number → Option Float
  | int i => floatOfInt? i
  | float x => some x
  | nan _ => some (0.0 / 0.0)

def isZero : Number → Bool
  | int i => i == 0
  | float x => x == 0.0
  | nan _ => false

/-- Applies `exact` to two whole numbers and `rounded` to any others. -/
def combine (exact : Int → Int → Int) (rounded : Float → Float → Float) :
    Number → Number → Except Trouble Number
  | int a, int b => .ok (int (exact a b))
  | a, b =>
    match a.toFloat?, b.toFloat? with
    | some x, some y => .ok (ofFloat (rounded x y))
    | _, _ => .error .tooLarge

def add : Number → Number → Except Trouble Number := combine (· + ·) (· + ·)

def sub : Number → Number → Except Trouble Number := combine (· - ·) (· - ·)

def mul : Number → Number → Except Trouble Number := combine (· * ·) (· * ·)

/-- The quotient, a float also for whole numbers. -/
def div (a b : Number) : Except Trouble Number :=
  if b.isZero then .error .divisionByZero
  else match a, b with
    | int a, int b =>
      match floatOfRatio? a b with
      | some q => .ok (ofFloat q)
      | none => .error .tooLarge
    | _, _ => combine (fun a _ => a) (· / ·) a b

/-- The sign of `x` on a zero. -/
def zeroLike (x : Float) : Float := if x.toBits >>> 63 == 1 then -0.0 else 0.0

/-- The remainder with the sign of the divisor. -/
def floorRemainder (x y : Float) : Float :=
  let rest := floatRemainder x y
  if rest == 0.0 then zeroLike y
  else if (y < 0.0) != (rest < 0.0) then rest + y
  else rest

/-- The quotient rounded down, computed from what the remainder leaves. -/
def floorQuotient (x y : Float) : Float :=
  let rest := floatRemainder x y
  let whole := (x - rest) / y
  let whole := if rest != 0.0 && (y < 0.0) != (rest < 0.0) then whole - 1.0 else whole
  if whole == 0.0 then zeroLike (x / y)
  else
    let floored := whole.floor
    if whole - floored > 0.5 then floored + 1.0 else floored

def floorDiv (a b : Number) : Except Trouble Number :=
  if b.isZero then .error .divisionByZero else combine Int.fdiv floorQuotient a b

def mod (a b : Number) : Except Trouble Number :=
  if b.isZero then .error .divisionByZero else combine Int.fmod floorRemainder a b

def neg : Number → Number
  | int i => int (-i)
  | float x => float (-x)
  | nan _ => nan 0

def abs : Number → Number
  | int i => int i.natAbs
  | float x => float x.abs
  | nan _ => nan 0

/-- The order of a whole number and a float that is not NaN. -/
def compareIntFloat (i : Int) (x : Float) : Ordering :=
  match Dyadic.ofFloat? x with
  | none => if x > 0.0 then .lt else .gt
  | some d =>
    let num : Int := if d.negative then -d.fraction.1 else d.fraction.1
    compare (i * d.fraction.2) num

/-- The order of two numbers, none if one is undefined. -/
def compare? : Number → Number → Option Ordering
  | int a, int b => some (compare a b)
  | int a, float y => some (compareIntFloat a y)
  | float x, int b => some (compareIntFloat b x).swap
  | float x, float y => some (if x < y then .lt else if x == y then .eq else .gt)
  | _, _ => none

/-- Whether the numbers have the same value; an undefined one has none. -/
def sameValue (a b : Number) : Bool := a.compare? b == some .eq

/-- How the numbers that have no numeral are written. -/
structure Words where
  undefined : String
  infinity : String
  negativeInfinity : String

def plainWords : Words := ⟨"nan", "inf", "-inf"⟩

/-- The exponent with its sign, in at least two digits. -/
def exponentChars (e : Int) : List Char :=
  let digits := decimalDigits e.natAbs
  (if e < 0 then '-' else '+') :: (if digits.length < 2 then '0' :: digits else digits)

/-- A numeral with digits on both sides of the point from `0.0001` up to, but not including,
`10 ^ 16`, and with an exponent outside. -/
def decimalFloatChars (digits : List Char) (exponent : Int) : List Char :=
  let magnitude := exponent + digits.length - 1
  if -4 ≤ magnitude && magnitude < 16 then
    if magnitude < 0 then
      '0' :: '.' :: List.replicate (magnitude.natAbs - 1) '0' ++ digits
    else
      let whole := magnitude.toNat + 1
      if digits.length ≤ whole then
        digits ++ List.replicate (whole - digits.length) '0' ++ ['.', '0']
      else digits.take whole ++ '.' :: digits.drop whole
  else
    digits.take 1 ++ (if digits.length == 1 then [] else '.' :: digits.drop 1) ++
      'e' :: exponentChars magnitude

def floatText (words : Words) (x : Float) : String :=
  match Dyadic.ofFloat? x with
  | none =>
    if x.isNaN then words.undefined
    else if x > 0.0 then words.infinity else words.negativeInfinity
  | some d =>
    let shortest := d.shortest
    let numeral := decimalFloatChars (decimalDigits shortest.digits) shortest.exponent
    String.ofList (if d.negative then '-' :: numeral else numeral)

/-- The text of a number, none when it is a whole number too long to write. -/
def textWith? (words : Words) : Number → Option String
  | int i => integerText? i
  | float x => some (floatText words x)
  | nan _ => some words.undefined

def text? : Number → Option String := textWith? plainWords

end Number

end TextTemplate
