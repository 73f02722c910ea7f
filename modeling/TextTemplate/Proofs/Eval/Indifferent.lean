import TextTemplate.Eval.Evaluate

/-!
# Computations that leave the variables alone

Only statements read and change variables, and only blocks ask whether the mode is strict. What does
neither answers the same whatever the variables and the mode are.
-/

namespace TextTemplate.Eval

/-- The variables and strictness have no part in a computation. -/
def Indifferent {α : Type} (x : Eval α) : Prop :=
  ∀ (context : Context) (state : State) (strict : Bool) (environment : Environment),
    x { context with strict } { state with environment } =
      ((x context state).1, { (x context state).2 with environment })

variable {α β : Type}

/-! ## Basic computations -/

namespace Indifferent

theorem strict_eq {x : Eval α} (h : Indifferent x) (context : Context) (strict : Bool)
    (state : State) : x { context with strict } state = x context state := by
  have hstrict := h context state strict state.environment
  have hsame := h context state context.strict state.environment
  exact hstrict.trans hsame.symm

theorem environment_eq {x : Eval α} (h : Indifferent x) (context : Context) (state : State) :
    (x context state).2.environment = state.environment := by
  have hsame : x context state = _ := h context state context.strict state.environment
  rw [hsame]

protected theorem pure (a : α) : Indifferent (Pure.pure a : Eval α) := fun _ _ _ _ => rfl

protected theorem fail (fault : Fault) : Indifferent (Eval.fail fault : Eval α) :=
  fun _ _ _ _ => rfl

protected theorem ofMemory (f : Memory → α) : Indifferent (Eval.ofMemory f) :=
  fun _ _ _ _ => rfl

protected theorem withMemory (f : Memory → α × Memory) : Indifferent (Eval.withMemory f) :=
  fun _ _ _ _ => rfl

protected theorem bind {x : Eval α} {f : α → Eval β} (hx : Indifferent x)
    (hf : ∀ a, Indifferent (f a)) : Indifferent (x >>= f) := by
  intro context state strict environment
  show Eval.bind x f _ _ = ((Eval.bind x f _ _).1, { (Eval.bind x f _ _).2 with environment })
  simp only [Eval.bind, hx context state strict environment]
  cases hresult : x context state with
  | mk result after =>
    cases result with
    | ok a => exact hf a context after strict environment
    | error fault => rfl

/-- The rest of the context may be read. -/
theorem ofContext {f : Context → Eval α} (hf : ∀ context, Indifferent (f context))
    (hstrict : ∀ context strict, f { context with strict } = f context) :
    Indifferent (Eval.context >>= f) := by
  intro context state strict environment
  show f { context with strict } { context with strict } { state with environment } = _
  rw [hstrict]
  exact hf context context state strict environment

end Indifferent

theorem newObject_indifferent (kind : ObjectKind) (fields : Fields Value) :
    Indifferent (newObject kind fields) :=
  (Indifferent.withMemory _).bind fun _ => .pure _

end TextTemplate.Eval
