/-!
Arithmetic progressions and slices. Bounds and steps are whole numbers of any size; a negative
bound of a slice counts from the end, and a negative step walks backward.
-/

namespace TextTemplate.Sequence

variable {α : Type}

/-- How many terms from `start` on, `step` apart, come strictly before `stop`. -/
def progressionLength (start stop step : Int) : Nat :=
  if step > 0 then ((stop - start + step - 1) / step).toNat
  else ((start - stop - step - 1) / (-step)).toNat

def progressionFrom (start step : Int) : Nat → List Int
  | 0 => []
  | count + 1 => start :: progressionFrom (start + step) step count

/-- The terms `start`, `start + step`, … strictly before `stop`; `step` is not zero. -/
def progression (start stop step : Int) : List Int :=
  progressionFrom start step (progressionLength start stop step)

/-- The first element and every `step`-th one after it. The counter says how many elements are
still to be passed over. -/
def everyFrom (step : Nat) : Nat → List α → List α
  | _, [] => []
  | 0, a :: rest => a :: everyFrom step (step - 1) rest
  | skip + 1, _ :: rest => everyFrom step skip rest

def every (step : Nat) (items : List α) : List α := everyFrom step 0 items

/-- A bound counted from the start and held between `low` and `high`. -/
def clampBound (length low high bound : Int) : Int :=
  max low (min high (if bound < 0 then bound + length else bound))

/-- The elements from `start` up to but not including `stop`, every `step`-th one. -/
def sliceForward (items : List α) (start stop : Option Int) (step : Nat) : List α :=
  let length : Int := items.length
  let start := (start.map (clampBound length 0 length)).getD 0
  let stop := (stop.map (clampBound length 0 length)).getD length
  every step ((items.take stop.toNat).drop start.toNat)

/-- The elements from `start` down to but not including `stop`, every `step`-th one. -/
def sliceBackward (items : List α) (start stop : Option Int) (step : Nat) : List α :=
  let length : Int := items.length
  let start := (start.map (clampBound length (-1) (length - 1))).getD (length - 1)
  let stop := (stop.map (clampBound length (-1) (length - 1))).getD (-1)
  every step ((items.take (start + 1).toNat).drop (stop + 1).toNat).reverse

/-- A slice with a step other than zero. -/
def slice (items : List α) (start stop : Option Int) (step : Int) : List α :=
  if step > 0 then sliceForward items start stop step.toNat
  else sliceBackward items start stop step.natAbs

/-- The element at an index, negative ones counted from the end. -/
def at? (items : List α) (index : Int) : Option α :=
  let position := if index < 0 then index + items.length else index
  if position < 0 then none else items[position.toNat]?

end TextTemplate.Sequence
