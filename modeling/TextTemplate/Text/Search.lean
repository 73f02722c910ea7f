/-!
Search for a fixed text from left to right: occurrences are taken leftmost first and do not overlap.
-/

namespace TextTemplate.Text

/-- Whether `part` occurs somewhere in the text. -/
def contains (part : List Char) : List Char → Bool
  | [] => part.isEmpty
  | c :: rest => part.isPrefixOf (c :: rest) || contains part rest

/-- What follows the first occurrence of `part`, none when it does not occur. -/
def after? (part : List Char) : List Char → Option (List Char)
  | [] => if part.isEmpty then some [] else none
  | c :: rest =>
    if part.isPrefixOf (c :: rest) then some ((c :: rest).drop part.length) else after? part rest

/-- The pieces between the occurrences of a non-empty `separator`. The counter says how many
characters of an occurrence are still to be passed over. -/
def piecesFrom (separator : List Char) : Nat → List Char → List (List Char)
  | _, [] => [[]]
  | skip + 1, _ :: rest => piecesFrom separator skip rest
  | 0, c :: rest =>
    if separator.isPrefixOf (c :: rest) then
      [] :: piecesFrom separator (separator.length - 1) rest
    else match piecesFrom separator 0 rest with
      | [] => [[c]]
      | head :: tail => (c :: head) :: tail

/-- The text cut at every occurrence of a non-empty `separator`. -/
def pieces (separator cs : List Char) : List (List Char) := piecesFrom separator 0 cs

/-- At most `limit` occurrences of a non-empty `old`, all without a limit, give way to `new`. -/
def replaceFrom (old new : List Char) : Option Nat → Nat → List Char → List Char
  | _, _, [] => []
  | limit, skip + 1, _ :: rest => replaceFrom old new limit skip rest
  | limit, 0, c :: rest =>
    if limit != some 0 && old.isPrefixOf (c :: rest) then
      new ++ replaceFrom old new (limit.map (· - 1)) (old.length - 1) rest
    else c :: replaceFrom old new limit 0 rest

/-- Puts `new` before each character and at the end, at most `limit` times. -/
def intersperseFrom (new : List Char) : Option Nat → List Char → List Char
  | limit, cs =>
    if limit == some 0 then cs
    else match cs with
      | [] => new
      | c :: rest => new ++ c :: intersperseFrom new (limit.map (· - 1)) rest

/-- Replaces the leftmost occurrences of `old`. The empty text occurs before each character and
at the end. -/
def replace (old new : List Char) (limit : Option Nat) (cs : List Char) : List Char :=
  if old.isEmpty then intersperseFrom new limit cs else replaceFrom old new limit 0 cs

end TextTemplate.Text
