import TextTemplate.Host

/-!
Host values as keys of maps. Lists, maps and what else may change cannot be keys, numbers of
the same value are one key, truth values counting as zero and one, and so are values of one kind
without a counterpart.
-/

namespace TextTemplate.Host

mutual

/-- Whether a value can be a key. -/
def isKey : Host → Bool
  | list _ | map _ | record _ _ | foreign .set => false
  | ready (.object ..) _ | ready (.table ..) _ => false
  | tuple items => areKeys items
  | _ => true

def areKeys : List Host → Bool
  | [] => true
  | item :: rest => isKey item && areKeys rest

end

/-- The number that a value counts as, among keys. -/
def keyNumber? : Host → Option Number
  | bool b => some (.int (if b then 1 else 0))
  | number n => some n
  | _ => none

mutual

/-- Whether two values are the same key. -/
def sameKey : Host → Host → Bool
  | null, null => true
  | text a, text b => a == b
  | tuple a, tuple b => sameKeys a b
  | function (.named a), function (.named b) => a == b
  | foreign a, foreign b => a == b
  | ready .undefined _, ready .undefined _ => true
  | a, b =>
    match a.keyNumber?, b.keyNumber? with
    | some (.nan mark), some (.nan mark') => mark == mark' && mark != 0
    | some m, some n => m.sameValue n
    | _, _ => false

def sameKeys : List Host → List Host → Bool
  | [], [] => true
  | a :: as, b :: bs => sameKey a b && sameKeys as bs
  | _, _ => false

end

mutual

/-- Whether a key is still one once the records in it are taken apart into maps. -/
def staysKey : Host → Bool
  | record _ _ => false
  | tuple items => stayKeys items
  | ready _ form => staysKey form
  | _ => true

def stayKeys : List Host → Bool
  | [] => true
  | item :: rest => staysKey item && stayKeys rest

end

mutual

/-- Whether all records in a value can be taken apart, which no key of a map may stand in the way
of. What a model holds is not looked at. -/
def unfolds : Host → Bool
  | list items | tuple items => allUnfold items
  | map entries => entriesUnfold entries
  | record _ fields => fieldsUnfold fields
  | ready _ form => unfolds form
  | _ => true

def allUnfold : List Host → Bool
  | [] => true
  | item :: rest => unfolds item && allUnfold rest

def entriesUnfold : List (Host × Host) → Bool
  | [] => true
  | (key, item) :: rest => staysKey key && unfolds item && entriesUnfold rest

def fieldsUnfold : List (String × Host) → Bool
  | [] => true
  | (_, item) :: rest => unfolds item && fieldsUnfold rest

end

/-- Changes the value of a key that is present and appends one that is not. -/
def putEntry {α : Type} (key : Host) (value : α) : List (Host × α) → List (Host × α)
  | [] => [(key, value)]
  | (k, v) :: rest =>
    if sameKey k key then (k, value) :: rest else (k, v) :: putEntry key value rest

/-- The entries that pairs make when they are put in one after the other. -/
def entriesOfPairs {α : Type} (pairs : List (Host × α)) : List (Host × α) :=
  pairs.foldl (fun entries (key, value) => putEntry key value entries) []

/-- The value of a text key. -/
def entry? {α : Type} (key : String) : List (Host × α) → Option α
  | [] => none
  | (text k, value) :: rest => if k == key then some value else entry? key rest
  | _ :: rest => entry? key rest

end TextTemplate.Host
