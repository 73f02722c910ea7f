import Mathlib
import TextTemplate.Eval.Call

/-!
# Values that look the same from outside

Methods of texts look at the kinds of their arguments, and at texts and
whole numbers. What containers hold makes no difference to them.
-/

namespace TextTemplate

open List (Forall₂)

/-- Two values of the same kind, which are the same text or whole number if they are one. -/
inductive Value.Resembles : Value → Value → Prop
  | number {m n : Number} (h : ∀ i, m = .int i ↔ n = .int i) : Resembles (.number m) (.number n)
  | bool (b b' : Bool) : Resembles (.bool b) (.bool b')
  | text (s : String) : Resembles (.text s) (.text s)
  | null : Resembles .null .null
  | undefined : Resembles .undefined .undefined
  | array (items items' : List Value) : Resembles (.array items) (.array items')
  | object (kind : ObjectKind) (a a' : Address) : Resembles (.object kind a) (.object kind a')
  | function (mark mark' : Nat) (f f' : Function) :
    Resembles (.function mark f) (.function mark' f')

variable {value value' : Value} {args args' : List Value}

theorem Value.Resembles.kindName (h : value.Resembles value') :
    value.kindName = value'.kindName := by
  cases h with
  | object kind => cases kind <;> rfl
  | _ => rfl

theorem Value.Resembles.isTextual (h : value.Resembles value') :
    Eval.isTextual value = Eval.isTextual value' := by
  cases h <;> rfl

theorem kindNames_congr (h : Forall₂ Value.Resembles args args') :
    args.map Value.kindName = args'.map Value.kindName := by
  induction h with
  | nil => rfl
  | cons hvalue _ ih => simp only [List.map_cons, hvalue.kindName, ih]

namespace Eval

theorem allTexts?_congr (h : Forall₂ Value.Resembles args args') :
    allTexts? args = allTexts? args' := by
  induction h with
  | nil => rfl
  | cons hvalue _ ih =>
    cases hvalue with
    | text s => simp only [allTexts?, ih]
    | _ => rfl

theorem all_isTextual_congr (h : Forall₂ Value.Resembles args args') :
    args.all isTextual = args'.all isTextual := by
  induction h with
  | nil => rfl
  | cons hvalue _ ih => simp only [List.all_cons, ih, hvalue.isTextual]

theorem fitReplacement_congr (h : Forall₂ Value.Resembles args args') :
    fitReplacement args = fitReplacement args' := by
  cases h with
  | nil => rfl
  | cons hold hrest =>
    cases hrest with
    | nil => rfl
    | cons hnew hrest =>
      have htextual := congrArg₂ (· && ·) hold.isTextual hnew.isTextual
      cases hrest with
      | nil => exact htextual
      | cons hcount hrest =>
        cases hcount with
        | @number m n hwhole =>
          cases m with
          | int i =>
            obtain rfl := (hwhole i).mp rfl
            cases hrest <;> first | rfl | exact htextual
          | _ =>
            cases n with
            | int i => cases (hwhole i).mpr rfl
            | _ => cases hrest <;> rfl
        | _ => rfl

theorem allIntegers?_congr (h : Forall₂ Value.Resembles args args') :
    allIntegers? args = allIntegers? args' := by
  induction h with
  | nil => rfl
  | cons hvalue _ ih =>
    cases hvalue with
    | @number m n hwhole =>
      cases m with
      | int i =>
        obtain rfl := (hwhole i).mp rfl
        simp only [allIntegers?, ih]
      | _ =>
        cases n with
        | int i => cases (hwhole i).mpr rfl
        | _ => rfl
    | _ => rfl

/-! ## Methods of texts -/

theorem textArguments_congr (method : TextMethod) (least most : Nat)
    (h : Forall₂ Value.Resembles args args') :
    textArguments method least most args = textArguments method least most args' := by
  simp only [textArguments, checkTextual, kindNames, h.length_eq, all_isTextual_congr h,
    kindNames_congr h, allTexts?_congr h]

theorem replace_congr (receiver : String) (h : Forall₂ Value.Resembles args args') :
    replace receiver args = replace receiver args' := by
  have hother : (if fitReplacement args then fail .unfit
        else fail (.replaceArguments (kindNames args)) : Eval Value) =
      if fitReplacement args' then fail .unfit else fail (.replaceArguments (kindNames args')) := by
    simp only [kindNames, fitReplacement_congr h, kindNames_congr h]
  cases h with
  | nil => rfl
  | cons hold hrest =>
    cases hold with
    | text old =>
      cases hrest with
      | nil => exact hother
      | cons hnew hrest =>
        cases hnew with
        | text new =>
          cases hrest with
          | nil => rfl
          | cons hcount hrest =>
            cases hcount with
            | @number m n hwhole =>
              cases m with
              | int i =>
                obtain rfl := (hwhole i).mp rfl
                cases hrest with
                | nil => rfl
                | cons _ _ => exact hother
              | _ =>
                cases n with
                | int i => cases (hwhole i).mpr rfl
                | _ => exact hother
            | _ => exact hother
        | _ => exact hother
    | _ => exact hother

theorem callTextMethod_congr (method : TextMethod) (receiver : String)
    (h : Forall₂ Value.Resembles args args') :
    callTextMethod method receiver args = callTextMethod method receiver args' := by
  have htexts := fun least most => textArguments_congr method least most h
  cases method with
  | strip | lstrip | rstrip => simp only [callTextMethod, stripWith, htexts]
  | startswith | endswith => simp only [callTextMethod, hasAffix, htexts]
  | split => simp only [callTextMethod, split, htexts]
  | replace => exact replace_congr receiver h
  | _ => rfl

end Eval

end TextTemplate
