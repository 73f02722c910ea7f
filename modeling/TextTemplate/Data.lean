import TextTemplate.Number

/-!
Plain data: what a JSON document or the details of an error report hold.
-/

namespace TextTemplate

inductive Data
  | null
  | bool (value : Bool)
  | number (value : Number)
  | text (value : String)
  | list (items : List Data)
  | record (fields : List (String × Data))
  deriving Inhabited

namespace Data

def ofNat (n : Nat) : Data := number (.int n)

def texts (items : List String) : Data := list (items.map text)

end Data

end TextTemplate
