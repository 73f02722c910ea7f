import TextTemplate.Text.Case.Upper
import TextTemplate.Text.Case.Lower
import TextTemplate.Text.Case.Context

/-!
Letter case of whole texts. A capital or title form may have several characters, and the small form
of the Greek sigma depends on its place in the word.
-/

namespace TextTemplate.Text

def capitalSigma : Char := 'Σ'

/-- The form of `c` that the runs give, `c` itself where none does. -/
def mapByRuns (runs : List CaseRun) (c : Char) : Char :=
  ((CaseRun.find? c.toNat runs).map Char.ofNat).getD c

def upperChar (c : Char) : List Char :=
  if c.toNat < 128 then [c.toUpper]
  else match upperExpansions.lookup c.toNat with
    | some codes => codes.map Char.ofNat
    | none => [mapByRuns upperRuns c]

/-- The form of `c` at the head of a word. -/
def titleChar (c : Char) : List Char :=
  match titleForms.lookup c.toNat with
  | some codes => codes.map Char.ofNat
  | none => upperChar c

/-- The small form of `c` apart from its neighbours. -/
def lowerChar (c : Char) : List Char :=
  if c.toNat < 128 then [c.toLower]
  else if c == 'İ' then ['i', '\u0307']
  else [mapByRuns lowerRuns c]

/-- Whether the nearest character that counts has case. -/
def leadsToCased (cs : List Char) : Bool :=
  match cs.dropWhile isCaseIgnorable with
  | [] => false
  | c :: _ => isCased c

/-- The small form of `c` between the reversed text `before` and the text `after`. A sigma that
ends a word is written as a final one. -/
def lowerAt (before : List Char) (c : Char) (after : List Char) : List Char :=
  if c == capitalSigma then
    [if leadsToCased before && !leadsToCased after then 'ς' else 'σ']
  else lowerChar c

def lowerFrom (before : List Char) : List Char → List Char
  | [] => []
  | c :: rest => lowerAt before c rest ++ lowerFrom (c :: before) rest

/-- Letters after a cased character are small, the others take their title form. -/
def titleFrom (before : List Char) (afterCased : Bool) : List Char → List Char
  | [] => []
  | c :: rest =>
    (if afterCased then lowerAt before c rest else titleChar c) ++
      titleFrom (c :: before) (isCased c) rest

def upper (s : String) : String := String.ofList (s.toList.flatMap upperChar)

def lower (s : String) : String := String.ofList (lowerFrom [] s.toList)

def title (s : String) : String := String.ofList (titleFrom [] false s.toList)

end TextTemplate.Text
