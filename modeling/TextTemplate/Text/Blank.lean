import TextTemplate.Text.CodeRange

/-!
White space and the operations that remove it or divide a text by it.
-/

namespace TextTemplate.Text

/-- The space, the separators and the layout controls. -/
def blankRanges : List (Nat × Nat) :=
  [(9, 13), (28, 32), (0x85, 0x85), (0xa0, 0xa0), (0x1680, 0x1680), (0x2000, 0x200a),
    (0x2028, 0x2029), (0x202f, 0x202f), (0x205f, 0x205f), (0x3000, 0x3000)]

def isBlank (c : Char) : Bool := inRanges c.toNat blankRanges

/-- Drops the longest run at the end whose characters all satisfy `p`. -/
def dropEndWhile (p : Char → Bool) (cs : List Char) : List Char :=
  (cs.reverse.dropWhile p).reverse

/-- Drops such runs at both ends. -/
def stripWhile (p : Char → Bool) (cs : List Char) : List Char :=
  dropEndWhile p (cs.dropWhile p)

/-- The stretches between characters that satisfy `p`; one more than there are such characters. -/
def stretches (p : Char → Bool) : List Char → List (List Char)
  | [] => [[]]
  | c :: rest =>
    if p c then [] :: stretches p rest
    else match stretches p rest with
      | [] => [[c]]
      | head :: tail => (c :: head) :: tail

/-- The words of a text: its non-empty stretches between white space. -/
def words (cs : List Char) : List (List Char) :=
  (stretches isBlank cs).filter (! ·.isEmpty)

end TextTemplate.Text
