/-!
Runs of characters whose case changes by one and the same shift.
-/

namespace TextTemplate.Text

/-- Every `step`-th code point from `first` to `last` goes to the one `shift` further on. -/
structure CaseRun where
  first : Nat
  last : Nat
  step : Nat
  shift : Int

/-- The counterpart of `n` under the first run that holds it. -/
def CaseRun.find? (n : Nat) : List CaseRun → Option Nat
  | [] => none
  | run :: rest =>
    if run.first ≤ n && n ≤ run.last && (n - run.first) % run.step == 0 then
      some (n + run.shift).toNat
    else find? n rest

end TextTemplate.Text
