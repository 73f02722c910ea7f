import TextTemplate.Host.Key
import TextTemplate.Log.Layout
import TextTemplate.Log.Message

/-!
Putting arguments into the places of a message. The arguments of a tuple are used one after the
other, and all of them have to be used. Any other value is an argument itself, and from one with
entries the arguments can be taken by their keys.
-/

namespace TextTemplate.Log

/-- The arguments that come next, and the value whose entries have keys. -/
structure Supply where
  next : List Host
  keyed : Option Host

namespace Supply

def ofHost : Host → Supply
  | .tuple items => ⟨items, none⟩
  | .map entries => ⟨[.map entries], some (.map entries)⟩
  | .list items => ⟨[.list items], some (.list items)⟩
  | .foreign .bytes => ⟨[.foreign .bytes], some (.foreign .bytes)⟩
  | value => ⟨[value], none⟩

/-- Takes the next argument. -/
def take (supply : Supply) : Except Problem (Host × Supply) :=
  match supply.next with
  | value :: next => .ok (value, { supply with next })
  | [] => .error .wrongType

/-- Makes the entry of a key the next argument. Only maps have keys that are texts. -/
def lookUp (supply : Supply) (key : String) : Except Problem Supply :=
  match supply.keyed with
  | some (.map entries) =>
    match Host.entry? key entries with
    | some value => .ok { supply with next := [value] }
    | none => .error .noKey
  | _ => .error .wrongType

/-- Finds the argument that a directive shows. -/
def select (supply : Supply) : Selector → Except Problem Supply
  | .next => .ok supply
  | .keyed key => supply.lookUp (String.ofList key)
  | .unclosed _ =>
    if supply.keyed.isSome then .error (.badValue "incomplete format key") else .error .wrongType

/-- An amount that is an argument of its own, which has to lie within a limit. -/
def takeAmount (supply : Supply) (limit : Nat) : Except Problem (Int × Supply) := do
  let (value, supply) ← supply.take
  let i ← Layout.whole value
  if -(limit : Int) ≤ i && i < (limit : Int) then .ok (i, supply) else .error .overflow

/-- An amount that is written out, which has to lie within a limit. -/
def checkAmount (name : String) (limit n : Nat) : Except Problem Nat :=
  if n < limit then .ok n else .error (.badValue (name ++ " too big"))

/-- The width of a directive, a negative one for room behind the argument. -/
def width (supply : Supply) : Option Amount → Except Problem (Int × Supply)
  | none => .ok (0, supply)
  | some (.written n) => do
    let n ← checkAmount "width" sizeLimit n
    .ok (n, supply)
  | some .given => supply.takeAmount sizeLimit

/-- The precision of a directive. A negative argument stands for zero. -/
def precision (supply : Supply) : Option Amount → Except Problem (Option Nat × Supply)
  | none => .ok (none, supply)
  | some (.written n) => do
    let n ← checkAmount "precision" (twoTo 31) n
    .ok (some n, supply)
  | some .given => do
    let (i, supply) ← supply.takeAmount (twoTo 31)
    .ok (some i.toNat, supply)

/-- How far a width reaches, on either side. It is turned round in 64 bits, in which the least
width is its own negative and does not reach anywhere. -/
def reach (width : Int) : Nat :=
  (if width < 0 then (-width).bmod (twoTo 64) else width).toNat

/-- The layout of a directive, and the arguments from the one that it shows on. -/
def layout (supply : Supply) (d : Directive) : Except Problem (Layout × Supply) := do
  let supply ← supply.select d.selector
  let (width, supply) ← supply.width d.width
  let (precision, supply) ← supply.precision d.precision
  .ok (⟨d.flags, width < 0 || d.flags.contains '-', reach width, precision⟩, supply)

/-- Whether no argument is left that has to be used. -/
def isUsed (supply : Supply) : Bool := supply.next.isEmpty || supply.keyed.isSome

end Supply

/-- Puts arguments into the parts of a message. -/
def fillParts (supply : Supply) : List Part → Except Problem (List Char)
  | [] => if supply.isUsed then .ok [] else .error .wrongType
  | .char c :: rest => (c :: ·) <$> fillParts supply rest
  | .incomplete d :: _ => do
    let _ ← supply.layout d
    .error (.badValue "incomplete format")
  | .directive d letter place :: rest => do
    let (layout, supply) ← supply.layout d
    let (value, supply) ← supply.take
    let shown ← layout.shown letter place value
    let rest ← fillParts supply rest
    .ok (shown ++ rest)

/-- A message with its arguments. Where there is nothing for arguments, there are no places for any
either. -/
def substitute (message : String) (args : Host) : Except Problem String :=
  if args.truthy then String.ofList <$> fillParts (.ofHost args) (partsOf message)
  else .ok message

end TextTemplate.Log
