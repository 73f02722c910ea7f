/-!
Ordered maps with text keys: a key keeps the place at which it was first put in.
-/

namespace TextTemplate

abbrev Fields (α : Type) := List (String × α)

namespace Fields

variable {α β : Type}

def get? (fields : Fields α) (key : String) : Option α := fields.lookup key

def has (fields : Fields α) (key : String) : Bool := (fields.get? key).isSome

/-- Changes the value of a key that is present and appends one that is not. -/
def put (key : String) (value : α) : Fields α → Fields α
  | [] => [(key, value)]
  | (k, v) :: rest => if k == key then (k, value) :: rest else (k, v) :: put key value rest

/-- Puts in all pairs, one after the other. -/
def putAll (fields added : Fields α) : Fields α :=
  added.foldl (fun fields (key, value) => fields.put key value) fields

def ofPairs (pairs : List (String × α)) : Fields α := putAll [] pairs

def erase (fields : Fields α) (key : String) : Fields α := fields.filter (·.1 != key)

def keys (fields : Fields α) : List String := fields.map (·.1)

def values (fields : Fields α) : List α := fields.map (·.2)

end Fields

/-- Texts in the order of their characters. -/
def sortedTexts (texts : List String) : List String := texts.mergeSort fun a b => decide (a ≤ b)

end TextTemplate
