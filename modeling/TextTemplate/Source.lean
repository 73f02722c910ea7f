import TextTemplate.Text.Blank

/-!
White space control: the rules that turn the text of a template into the text that is read as
tokens. Each rule only deletes characters, except that comments first shrink to an empty one, which
marks their place until the rules about the neighbourhood of comments have been applied.
-/

namespace TextTemplate.Source

/-- Which white space around block and comment tags goes away: the first line break after one, and
the blanks between the start of a line and one. -/
structure Trimming where
  trimBlocks : Bool := false
  lstripBlocks : Bool := false
  deriving DecidableEq, Repr

def Trimming.none : Trimming := ⟨false, false⟩

def Trimming.full : Trimming := ⟨true, true⟩

/-- Drops one line break at the very end. -/
def dropFinalNewline (cs : List Char) : List Char :=
  if cs.getLast? == some '\n' then cs.dropLast else cs

/-- What follows the first end of a comment. -/
def afterComment? : List Char → Option (List Char)
  | '#' :: '}' :: rest => some rest
  | _ :: rest => afterComment? rest
  | [] => none

theorem length_of_afterComment? {cs rest : List Char} (h : afterComment? cs = some rest) :
    rest.length < cs.length := by
  fun_induction afterComment? cs with
  | case1 => cases h; simp only [List.length_cons]; omega
  | case2 _ _ _ ih => have := ih h; simp only [List.length_cons]; omega
  | case3 => cases h

/-- Shrinks every comment to an empty one. An opening that is never closed is plain text, and so is
all that follows it. -/
def shrinkComments : List Char → List Char
  | '{' :: '#' :: rest =>
    match _h : afterComment? rest with
    | some after => '{' :: '#' :: '#' :: '}' :: shrinkComments after
    | none => '{' :: '#' :: rest
  | c :: rest => c :: shrinkComments rest
  | [] => []
termination_by cs => cs.length
decreasing_by
  · have := length_of_afterComment? ‹_›; simp; omega
  · simp

def opensBlockOrComment : List Char → Bool
  | '{' :: '#' :: _ => true
  | '{' :: '%' :: _ => true
  | _ => false

def isIndent (c : Char) : Bool := c == ' ' || c == '\t'

/-- Drops the indentation of a line that starts with a block or comment tag. -/
def stripIndent (line : List Char) : List Char :=
  let body := line.dropWhile isIndent
  if opensBlockOrComment body then body else line

/-- Joins lines with line breaks. -/
def unlines : List (List Char) → List Char
  | [] => []
  | [line] => line
  | line :: rest => line ++ '\n' :: unlines rest

def stripIndents (cs : List Char) : List Char :=
  unlines ((Text.stretches (· == '\n') cs).map stripIndent)

/-- Drops the line break right after a block or comment tag. -/
def dropBlockNewlines : List Char → List Char
  | '#' :: '}' :: '\n' :: rest => '#' :: '}' :: dropBlockNewlines rest
  | '%' :: '}' :: '\n' :: rest => '%' :: '}' :: dropBlockNewlines rest
  | c :: rest => c :: dropBlockNewlines rest
  | [] => []

/-- Drops the empty comments. -/
def eraseComments : List Char → List Char
  | '{' :: '#' :: '#' :: '}' :: rest => eraseComments rest
  | c :: rest => c :: eraseComments rest
  | [] => []

/-- Turns a dash before the two characters `a` and `b` into nothing, together with the white space
after them. The flag says whether such white space is being dropped. -/
def tightenFrom (a b : Char) : Bool → List Char → List Char
  | _, '-' :: x :: y :: rest =>
    if x == a && y == b then a :: b :: tightenFrom a b true rest
    else '-' :: tightenFrom a b false (x :: y :: rest)
  | dropping, c :: rest =>
    if dropping && Text.isBlank c then tightenFrom a b true rest
    else c :: tightenFrom a b false rest
  | _, [] => []

/-- Applies a closing dash marker: `-ab` and the white space after it become `ab`. -/
def tightenAfter (a b : Char) (cs : List Char) : List Char := tightenFrom a b false cs

/-- Applies an opening dash marker: `ab-` and the white space before it become `ab`. -/
def tightenBefore (a b : Char) (cs : List Char) : List Char :=
  (tightenFrom b a false cs.reverse).reverse

/-- All dash markers, those of blocks before those of expressions. -/
def tighten (cs : List Char) : List Char :=
  tightenBefore '{' '{' <| tightenAfter '}' '}' <|
    tightenBefore '{' '%' <| tightenAfter '%' '}' cs

/-- The text of a template as it is read. -/
def prepareChars (trimming : Trimming) (cs : List Char) : List Char :=
  let cs := shrinkComments (dropFinalNewline cs)
  let cs := if trimming.lstripBlocks then stripIndents cs else cs
  let cs := if trimming.trimBlocks then dropBlockNewlines cs else cs
  tighten (eraseComments cs)

def prepare (trimming : Trimming) (source : String) : String :=
  String.ofList (prepareChars trimming source.toList)

end TextTemplate.Source
