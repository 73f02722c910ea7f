/-!
Sets of characters written as ascending ranges of code points, both ends included.
-/

namespace TextTemplate.Text

/-- Whether `n` lies in one of the ascending, disjoint ranges. -/
def inRanges (n : Nat) : List (Nat × Nat) → Bool
  | [] => false
  | (low, high) :: rest => if n < low then false else n ≤ high || inRanges n rest

end TextTemplate.Text
