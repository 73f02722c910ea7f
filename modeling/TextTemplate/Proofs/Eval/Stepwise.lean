import TextTemplate.Proofs.Eval.Effects
import TextTemplate.Template

/-!
# Evaluation goes in steps

Whatever is evaluated, and whatever is converted from the host, the memory changes in steps only. So
what one step preserves, every run preserves.
-/

namespace TextTemplate

namespace Eval

variable {α β : Type}

/-- A computation changes the memory in steps, also when it fails. -/
def Stepwise (x : Eval α) : Prop := ∀ context s, Memory.Steps s.memory (x context s).2.memory

namespace Stepwise

protected theorem bind {x : Eval α} {f : α → Eval β} (hx : Stepwise x)
    (hf : ∀ a, Stepwise (f a)) : Stepwise (x >>= f) :=
  bind_memory Memory.Steps Relation.ReflTransGen.trans hx hf

theorem of_works {x : Eval α} (h : Works x) : Stepwise x := by
  induction h with
  | pure | fail | ofMemory => exact fun _ _ => .refl
  | withMemory h => exact fun _ s => .single (h s.memory)
  | copy _ address => exact fun _ s => .single (.copy address)
  | bind _ _ hx hf => exact hx.bind hf
  | ofContext _ _ hf => exact fun context s => hf context context s

protected theorem pure (a : α) : Stepwise (Pure.pure a : Eval α) := of_works (.pure a)

protected theorem fail (fault : Fault) : Stepwise (Eval.fail fault : Eval α) :=
  of_works (.fail fault)

theorem ofEnvironment (f : Environment → α) : Stepwise (Eval.ofEnvironment f) :=
  fun _ _ => .refl

theorem changeEnvironment (f : Environment → Environment) : Stepwise (Eval.changeEnvironment f) :=
  fun _ _ => .refl

end Stepwise

/-! ## Trees -/

/-- Changing the memory in steps. -/
def Effect.steps : Effect :=
  ⟨Memory.Steps, Relation.ReflTransGen.trans, fun h => Stepwise.of_works h.works⟩

theorem admits_steps (parts : List Node) : Admits .steps parts :=
  fun _ _ _ owner key value => Stepwise.of_works (assignField_works owner key value)

theorem evaluate_stepwise (node : Node) : Stepwise (evaluate node) :=
  @evaluate_alters .steps node (admits_steps _)

theorem evaluateArguments_stepwise (args : List Node) : Stepwise (evaluateArguments args) :=
  @evaluateArguments_alters .steps args (admits_steps _)

theorem evaluatePairs_stepwise (pairs : List (Node × Node)) : Stepwise (evaluatePairs pairs) :=
  @evaluatePairs_alters .steps pairs (admits_steps _)

/-! ## The start of a rendering -/

theorem declare_stepwise (name : String) (value : Value) : Stepwise (declare name value) := by
  refine (Stepwise.ofEnvironment _).bind fun taken => ?_
  split
  · exact .fail _
  · exact .changeEnvironment _

theorem declareHost_stepwise (name : String) (host : Host) : Stepwise (declareHost name host) :=
  (Stepwise.of_works (fromHost_adds host).works).bind fun value =>
    (declare_stepwise name value).bind fun _ => .pure _

theorem startScope_stepwise (tests : List Test) : Stepwise (startScope tests) :=
  (Stepwise.changeEnvironment _).bind fun _ =>
    (Stepwise.of_works (newFunction_adds _).works).bind fun _ => declare_stepwise _ _

theorem declareBuiltins_stepwise : Stepwise declareBuiltins := by
  refine (declare_stepwise "true" _).bind fun _ => (declare_stepwise "false" _).bind fun _ => ?_
  refine (declare_stepwise "True" _).bind fun _ => (declare_stepwise "False" _).bind fun _ => ?_
  refine (declare_stepwise "None" _).bind fun _ => ?_
  refine (Stepwise.of_works (newFunction_adds _).works).bind fun _ => ?_
  refine (declare_stepwise "range" _).bind fun _ => ?_
  refine (Stepwise.of_works (newFunction_adds _).works).bind fun _ => ?_
  exact declare_stepwise "raise_exception" _

theorem declareAll_stepwise (entries : List (Host × Host)) : Stepwise (declareAll entries) := by
  induction entries with
  | nil => exact .pure ()
  | cons entry rest ih =>
    obtain ⟨key, host⟩ := entry
    cases key
    case text name => exact (declareHost_stepwise name host).bind fun _ => ih
    all_goals exact (Stepwise.of_works (fromHost_adds host).works).bind fun _ => ih

theorem startEnvironment_stepwise (given : Host) : Stepwise (startEnvironment given) := by
  refine (startScope_stepwise _).bind fun _ => declareBuiltins_stepwise.bind fun _ => ?_
  split
  · exact declareAll_stepwise _
  · split
    · exact .fail _
    · exact .pure _

end Eval

/-! ## States that come from each other -/

/-- A state comes from another one when renderings are started, trees are evaluated and values are
worked on, one after the other and in any contexts, and when the variables change in any way. -/
inductive State.Leads (s : State) : State → Prop
  | refl : Leads s s
  | start {t : State} (h : Leads s t) (given : Host) (context : Context) :
    Leads s (Eval.startEnvironment given context t).2
  | evaluate {t : State} (h : Leads s t) (node : Node) (context : Context) :
    Leads s (Eval.evaluate node context t).2
  | work {t : State} (h : Leads s t) {α : Type} {x : Eval α} (hx : x.Works) (context : Context) :
    Leads s (x context t).2
  | rebind {t : State} (h : Leads s t) (environment : Environment) : Leads s { t with environment }

theorem State.Leads.steps {s t : State} (h : s.Leads t) : Memory.Steps s.memory t.memory := by
  induction h with
  | refl => exact .refl
  | start _ given context ih => exact ih.trans (Eval.startEnvironment_stepwise given context _)
  | evaluate _ node context ih => exact ih.trans (Eval.evaluate_stepwise node context _)
  | work _ hx context ih => exact ih.trans (Eval.Stepwise.of_works hx context _)
  | rebind _ _ ih => exact ih

end TextTemplate
