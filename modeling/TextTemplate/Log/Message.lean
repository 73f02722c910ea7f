import TextTemplate.Number.Decimal

/-!
Messages with places for arguments. A percent sign opens a directive, which ends with the letter
that says how an argument is shown. In between it may say which argument that is, by a key in
brackets, and how it is laid out. Two percent signs stand for one of them.
-/

namespace TextTemplate.Log

/-- A width or a precision: a number, or an argument of its own. -/
inductive Amount
  | written (n : Nat)
  | given

/-- A number that is read digit by digit, with one more digit. -/
def Amount.extend (amount : Option Amount) (digit : Char) : Option Amount :=
  let read := match amount with
    | some (.written n) => n
    | _ => 0
  some (.written (10 * read + (digit.toNat - '0'.toNat)))

/-- Which argument a directive shows: the next one, or the one with a key. A key may lack its end,
and then it is known by what has been read of it, the latest first. -/
inductive Selector
  | next
  | keyed (key : List Char)
  | unclosed (read : List Char)

/-- What has been read of a directive last. -/
inductive Directive.Stage
  | opening
  | key (depth : Nat)
  | flags
  | width
  | widthEnd
  | point
  | precision
  | precisionEnd
  | size

structure Directive where
  stage : Directive.Stage
  selector : Selector
  flags : List Char
  width : Option Amount
  precision : Option Amount

namespace Directive

def opened : Directive := ⟨.opening, .next, [], none, none⟩

/-- Whether nothing of the directive has been read yet. -/
def isOpened (d : Directive) : Bool := d.stage matches .opening

/-- A character of a key, which may hold brackets in pairs. -/
def readKey (d : Directive) (depth : Nat) (c : Char) : Directive :=
  let read : List Char := match d.selector with
    | .unclosed read => read
    | _ => []
  match c, depth with
  | ')', 0 => { d with stage := .flags, selector := .keyed read.reverse }
  | ')', depth + 1 => { d with stage := .key depth, selector := .unclosed (c :: read) }
  | '(', depth => { d with stage := .key (depth + 1), selector := .unclosed (c :: read) }
  | c, depth => { d with stage := .key depth, selector := .unclosed (c :: read) }

def flag? (d : Directive) (c : Char) : Option Directive :=
  if ['-', '+', ' ', '#', '0'].contains c then
    some { d with stage := .flags, flags := c :: d.flags }
  else none

def widthDigit? (d : Directive) (c : Char) : Option Directive :=
  if c.isDigit then some { d with stage := .width, width := Amount.extend d.width c } else none

def width? (d : Directive) (c : Char) : Option Directive :=
  if c == '*' then some { d with stage := .widthEnd, width := some .given } else d.widthDigit? c

def point? (d : Directive) (c : Char) : Option Directive :=
  if c == '.' then some { d with stage := .point, precision := some (.written 0) } else none

def precisionDigit? (d : Directive) (c : Char) : Option Directive :=
  if c.isDigit then some { d with stage := .precision, precision := Amount.extend d.precision c }
  else none

def precision? (d : Directive) (c : Char) : Option Directive :=
  if c == '*' then some { d with stage := .precisionEnd, precision := some .given }
  else d.precisionDigit? c

/-- The letters for the size of a number, one of which may stand before the last letter. -/
def size? (d : Directive) (c : Char) : Option Directive :=
  if ['h', 'l', 'L'].contains c then some { d with stage := .size } else none

/-- The directive with one more character, none when the character does not continue it. -/
def next? (d : Directive) (c : Char) : Option Directive :=
  match d.stage with
  | .opening =>
    if c == '(' then some { d with stage := .key 0, selector := .unclosed [] }
    else d.flag? c <|> d.width? c <|> d.point? c <|> d.size? c
  | .key depth => some (d.readKey depth c)
  | .flags => d.flag? c <|> d.width? c <|> d.point? c <|> d.size? c
  | .width => d.widthDigit? c <|> d.point? c <|> d.size? c
  | .widthEnd => d.point? c <|> d.size? c
  | .point => d.precision? c <|> d.size? c
  | .precision => d.precisionDigit? c <|> d.size? c
  | .precisionEnd => d.size? c
  | .size => none

end Directive

/-- What a message consists of. A directive ends with a letter at some place, or the message ends
before it does. -/
inductive Part
  | char (c : Char)
  | directive (directive : Directive) (letter : Char) (place : Nat)
  | incomplete (directive : Directive)

/-- The parts of a message from a place on, which may be inside a directive. -/
def partsFrom (place : Nat) : Option Directive → List Char → List Part
  | none, [] => []
  | some d, [] => [.incomplete d]
  | none, c :: rest =>
    if c == '%' then partsFrom (place + 1) (some .opened) rest
    else .char c :: partsFrom (place + 1) none rest
  | some d, c :: rest =>
    if c == '%' && d.isOpened then .char '%' :: partsFrom (place + 1) none rest
    else match d.next? c with
      | some d => partsFrom (place + 1) (some d) rest
      | none => .directive d c place :: partsFrom (place + 1) none rest

def partsOf (message : String) : List Part := partsFrom 0 none message.toList

end TextTemplate.Log
