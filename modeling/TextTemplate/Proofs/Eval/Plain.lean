import TextTemplate.Proofs.Matching.Memory
import TextTemplate.Proofs.Scope.Bindings
import TextTemplate.Template

/-!
# Plain values

Of host data without functions a template makes plain values only: no labels, no tables and no
functions of the host. On plain values every operator, member, call, filter and test answers with a
plain value, or it fails in a way that is foreseen.
-/

namespace TextTemplate

/-! ## Faults -/

namespace Fault

/-- The faults that need trees made by hand, labels or functions of the host. -/
def isStrange : Fault → Bool
  | unlabelled | unfit | noMethod | notListed | hostFailure _ | unexpectedKeywords
  | callsTooDeep => true
  | unknownTest (.text _) => false
  | unknownTest _ => true
  | _ => false

/-- A fault that is reported as an error of the template. -/
def IsReported (fault : Fault) : Prop :=
  ∃ report, fault.problem = .reported report ∧ ErrorClass.template ∈ report.errorClass.ancestry

/-- The faults that come to light as faults of the arithmetic and the texts beneath the template
language. They are not reported. -/
inductive Escapes : Fault → Prop
  | emptySeparator : Escapes .emptySeparator
  | overflow : Escapes .overflow
  | numeralTooLong : Escapes .numeralTooLong

theorem isReported_of_isStrange {fault : Fault} (h : fault.isStrange = false) :
    fault.IsReported ∨ fault.Escapes ∨ fault = .containsItself := by
  cases fault with
  | emptySeparator => exact .inr (.inl .emptySeparator)
  | overflow => exact .inr (.inl .overflow)
  | numeralTooLong => exact .inr (.inl .numeralTooLong)
  | containsItself => exact .inr (.inr rfl)
  | unknownTest label =>
    cases label with
    | text name => exact .inl ⟨_, rfl, by simp [ErrorClass.ancestry]⟩
    | _ => cases h
  | unlabelled | unfit | noMethod | notListed | hostFailure | unexpectedKeywords
  | callsTooDeep => cases h
  | _ => exact .inl ⟨_, rfl, by simp [ErrorClass.ancestry]⟩

end Fault

/-! ## Values and states -/

/-- A function that no function of the host and no label is part of. -/
inductive Function.Plain : Function → Prop
  | ofText (method : TextMethod) (receiver : String) : Plain (.ofText method receiver)
  | ofArray (length : Nat) : Plain (.ofArray length)
  | ofObject (method : ObjectMethod) (address : Address) : Plain (.ofObject method address)
  | builtin (builtin : Builtin) : Plain (.builtin builtin)

namespace Value

inductive Plain : Value → Prop
  | number (n : Number) : Plain (.number n)
  | bool (b : Bool) : Plain (.bool b)
  | text (s : String) : Plain (.text s)
  | null : Plain .null
  | undefined : Plain .undefined
  | array {items : List Value} (h : ∀ item ∈ items, Plain item) : Plain (.array items)
  | object (kind : ObjectKind) (address : Address) : Plain (.object kind address)
  | function (mark : Nat) {function : Function} (h : function.Plain) :
    Plain (.function mark function)

/-- Values that are plain, one and all. -/
def AllPlain (values : List Value) : Prop := ∀ value ∈ values, value.Plain

def PlainFields (fields : Fields Value) : Prop := ∀ pair ∈ fields, pair.2.Plain

theorem PlainFields.put {fields : Fields Value} (h : PlainFields fields) (key : String)
    {value : Value} (hvalue : value.Plain) : PlainFields (fields.put key value) :=
  Fields.All.put h key hvalue

theorem PlainFields.ofPairs {pairs : Fields Value} (h : PlainFields pairs) :
    PlainFields (Fields.ofPairs pairs) :=
  Fields.All.ofPairs h

theorem PlainFields.get? {fields : Fields Value} (h : PlainFields fields) {key : String}
    {value : Value} (hget : fields.get? key = some value) : value.Plain :=
  Fields.All.get? h hget

end Value

open Value (AllPlain PlainFields)

def Environment.Plain (environment : Environment) : Prop :=
  ∀ scope ∈ environment.scopes, PlainFields scope.bindings

structure State.Plain (s : State) : Prop where
  memory : ∀ address, PlainFields (s.memory.fields address)
  environment : s.environment.Plain

namespace Eval

/-- On a plain state a computation answers with what is good or fails in a way that is foreseen.
The state stays plain. -/
def Sound {α : Type} (good : α → Prop) (x : Eval α) : Prop :=
  ∀ (context : Context) (s : State), context.filters = [] → s.Plain →
    match x context s with
    | (.ok a, s') => good a ∧ s'.Plain
    | (.error fault, s') => fault.isStrange = false ∧ s'.Plain

/-- What is known of a result that says nothing. -/
abbrev Anything {α : Type} (_ : α) : Prop := True

variable {α β : Type} {good : α → Prop} {good' : β → Prop}

namespace Sound

protected theorem pure {a : α} (h : good a) : Sound good (Pure.pure a : Eval α) :=
  fun _ _ _ hs => ⟨h, hs⟩

protected theorem fail {fault : Fault} (h : fault.isStrange = false) :
    Sound good (Eval.fail fault : Eval α) := fun _ _ _ hs => ⟨h, hs⟩

protected theorem bind {x : Eval α} {f : α → Eval β} (hx : Sound good x)
    (hf : ∀ a, good a → Sound good' (f a)) : Sound good' (x >>= f) := by
  intro context s hfilters hs
  have hfirst := hx context s hfilters hs
  show match Eval.bind x f context s with
    | (.ok b, s') => good' b ∧ s'.Plain
    | (.error fault, s') => fault.isStrange = false ∧ s'.Plain
  simp only [Eval.bind]
  cases hresult : x context s with
  | mk result after =>
    rw [hresult] at hfirst
    cases result with
    | ok a => exact hf a hfirst.1 context after hfilters hfirst.2
    | error fault => exact hfirst

protected theorem ite {c : Prop} [Decidable c] {x y : Eval α} (hx : c → Sound good x)
    (hy : ¬c → Sound good y) : Sound good (if c then x else y) := by
  split
  · exact hx ‹c›
  · exact hy ‹¬c›

theorem mapAll {ι : Type} {f : ι → Eval α} {items : List ι}
    (hf : ∀ a ∈ items, Sound good (f a)) :
    Sound (fun found => ∀ b ∈ found, good b) (Eval.mapAll f items) := by
  induction items with
  | nil => exact .pure nofun
  | cons a rest ih =>
    obtain ⟨ha, hrest⟩ := List.forall_mem_cons.mp hf
    exact ha.bind fun b hb => (ih hrest).bind fun bs hbs =>
      .pure (List.forall_mem_cons.mpr ⟨hb, hbs⟩)

/-- The memory may be read. -/
theorem ofMemory {f : Memory → α}
    (h : ∀ memory, (∀ address, PlainFields (memory.fields address)) → good (f memory)) :
    Sound good (Eval.ofMemory f) := fun _ _ _ hs => ⟨h _ hs.memory, hs⟩

theorem withMemory {f : Memory → α × Memory}
    (h : ∀ memory, (∀ address, PlainFields (memory.fields address)) →
      good (f memory).1 ∧ ∀ address, PlainFields ((f memory).2.fields address)) :
    Sound good (Eval.withMemory f) := fun _ _ _ hs =>
  have hafter := h _ hs.memory
  ⟨hafter.1, hafter.2, hs.environment⟩

end Sound

end Eval

end TextTemplate
