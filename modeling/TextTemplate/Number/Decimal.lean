/-!
Decimal notation of whole numbers. Numerals longer than `digitLimit` are neither read nor written.
-/

namespace TextTemplate

/-- The most digits a numeral may have. -/
def digitLimit : Nat := 4300

def tenTo (n : Nat) : Nat := Nat.pow 10 n

/-- The decimal digits of `n`, most significant first and without leading zeros. -/
def decimalDigits (n : Nat) : List Char := Nat.toDigits 10 n

/-- The number that a run of decimal digits denotes. -/
def ofDecimalDigits (digits : List Char) : Nat :=
  digits.foldl (fun n c => 10 * n + (c.toNat - '0'.toNat)) 0

def integerChars (i : Int) : List Char :=
  if i < 0 then '-' :: decimalDigits i.natAbs else decimalDigits i.natAbs

/-- The numeral of `i`, none when it would be too long. -/
def integerText? (i : Int) : Option String :=
  if (decimalDigits i.natAbs).length > digitLimit then none
  else some (String.ofList (integerChars i))

end TextTemplate
