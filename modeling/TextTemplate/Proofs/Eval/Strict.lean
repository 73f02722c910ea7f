import TextTemplate.Proofs.Eval.Works
import TextTemplate.Template

/-!
# What strict mode changes

Strict mode adds one kind of fault: a statement of a block whose value is undefined. Otherwise such
a statement is passed over. In strict mode evaluation does the same as otherwise, except that it
ends at the first statement that would be passed over.
-/

namespace TextTemplate

/-- The same context with strict mode switched on. -/
def Context.strictly (context : Context) : Context := { context with strict := true }

/-- The same context with strict mode switched off. -/
def Context.leniently (context : Context) : Context := { context with strict := false }

/-- Whether what is reported is that something is undefined. -/
def Fault.isUndefined (fault : Fault) : Bool :=
  match fault.problem with
  | .reported report => report.errorClass == .undefined
  | _ => false

namespace Eval

/-- The fault of a statement whose value is undefined. -/
def undefinedFault : Node → Fault
  | .name name => .undefinedName name
  | statement => .undefinedResult statement.kindName

theorem undefinedFault_isUndefined (statement : Node) : (undefinedFault statement).isUndefined := by
  cases statement <;> rfl

/-! ## What a run passes over -/

/-- The statements that a run passes over, in order, by where it starts. -/
abbrev Omissions : Type := Context → State → List Node

namespace Omissions

def none : Omissions := fun _ _ => []

/-- The omissions of a computation and of what comes after it. -/
def andThen {α : Type} (first : Omissions) (x : Eval α) (rest : α → Omissions) : Omissions :=
  fun context state =>
    first context state ++
      match x context state with
      | (.ok a, after) => rest a context after
      | (.error _, _) => []

/-- The omissions of what comes after a computation that has none. -/
def after {α : Type} (x : Eval α) (rest : α → Omissions) : Omissions := none.andThen x rest

def inNewScope (omitted : Omissions) : Omissions := fun context state =>
  omitted context { state with environment := state.environment.enter }

/-- The omissions of the rounds of a loop, given those of its body. -/
def ofRounds (target : Node) (body : Eval String) (omitted : Omissions) (length : Nat) :
    Nat → Value → List Value → Omissions
  | _, _, [] => none
  | index, previous, item :: rest =>
    after (newObject .plain (loopFields length index previous (rest.head?.getD .undefined)))
      fun about => after (bindName "loop" about) fun _ => after (bindTarget target item) fun _ =>
        omitted.andThen body fun _ => ofRounds target body omitted length (index + 1) item rest

def ofLoop (target : Node) (body : Eval String) (omitted : Omissions) : Value → Omissions
  | .array items => ofRounds target body omitted items.length 0 .undefined items
  | _ => none

/-- The omission of a statement by its value. -/
def ofStatement (statement : Node) : Value → Omissions
  | .undefined => fun _ _ => [statement]
  | _ => none

end Omissions

open Omissions (after)

mutual

/-- What evaluating a tree passes over. -/
def omissions : Node → Omissions
  | .program body => omissionsOfBlock body
  | .set (.member object (.name _) false) value =>
    (omissions value).andThen (evaluate value) fun _ => omissions object
  | .set _ value => omissions value
  | .branch condition body alternate =>
    (omissions condition).andThen (evaluate condition) fun condition =>
      after (truth condition) fun holds =>
        if holds then omissionsOfBlock body else omissionsOfBlock alternate
  | .loop target iterable body =>
    Omissions.inNewScope <| (omissions iterable).andThen (evaluate iterable) fun iterable =>
      .ofLoop target (evaluateBlock body) (omissionsOfBlock body) iterable
  | .member object _ false => omissions object
  | .member object (.slice start stop step) true =>
    (omissions object).andThen (evaluate object) fun object =>
      if isSequence object then
        (omissionsOfBound start).andThen (evaluateBound start) fun _ =>
          (omissionsOfBound stop).andThen (evaluateBound stop) fun _ => omissionsOfBound step
      else .none
  | .member object property true =>
    (omissions object).andThen (evaluate object) fun _ => omissions property
  | .call callee args =>
    (omissionsOfArguments args).andThen (evaluateArguments args) fun (positional, keywords) =>
      after (bundled positional keywords) fun _ => omissions callee
  | .array items => omissionsOfAll items
  | .tuple items => omissionsOfAll items
  | .object pairs => omissionsOfPairs pairs
  | .binary operator left right =>
    (omissions left).andThen (evaluate left) fun left =>
      match operator with
      | "and" => after (truth left) fun holds => if holds then omissions right else .none
      | "or" => after (truth left) fun holds => if holds then .none else omissions right
      | _ => omissions right
  | .filter operand (.call (.name _) args) =>
    (omissions operand).andThen (evaluate operand) fun _ => omissionsOfArguments args
  | .filter operand _ => omissions operand
  | .test operand _ test args =>
    (omissions operand).andThen (evaluate operand) fun _ =>
      after (findTest test.label?) fun _ => omissionsOfArguments args
  | .unary _ argument => omissions argument
  | .ternary condition whenTrue whenFalse =>
    (omissions condition).andThen (evaluate condition) fun condition =>
      after (truth condition) fun holds =>
        if holds then omissions whenTrue else omissions whenFalse
  | .name _ => .none
  | .number _ => .none
  | .text _ => .none
  | .bool _ => .none
  | .null => .none
  | .slice _ _ _ => .none
  | .keyword _ _ => .none
  | .bare _ => .none

def omissionsOfBlock : List Node → Omissions
  | [] => .none
  | statement :: rest =>
    (omissions statement).andThen (evaluate statement) fun value =>
      (Omissions.ofStatement statement value).andThen (contribution statement value) fun _ =>
        omissionsOfBlock rest

def omissionsOfAll : List Node → Omissions
  | [] => .none
  | item :: rest => (omissions item).andThen (evaluate item) fun _ => omissionsOfAll rest

def omissionsOfArguments : List Node → Omissions
  | [] => .none
  | .keyword key value :: rest =>
    (omissions value).andThen (evaluate value) fun _ =>
      match key.label? with
      | some _ => omissionsOfArguments rest
      | none => .none
  | arg :: rest => (omissions arg).andThen (evaluate arg) fun _ => omissionsOfArguments rest

def omissionsOfPairs : List (Node × Node) → Omissions
  | [] => .none
  | (key, value) :: rest =>
    (omissions key).andThen (evaluate key) fun key =>
      match key with
      | .text _ => (omissions value).andThen (evaluate value) fun _ => omissionsOfPairs rest
      | .label _ => (omissions value).andThen (evaluate value) fun _ => omissionsOfPairs rest
      | _ => .none

def omissionsOfBound : Option Node → Omissions
  | none => .none
  | some node => omissions node

end

/-! ## Strict runs -/

variable {α β : Type}

/-- In strict mode a computation does what it does otherwise, unless it has omissions: then it fails
for the first of them. -/
structure Omits (x : Eval α) (omitted : Omissions) : Prop where
  same : ∀ (context : Context) state, omitted context.leniently state = [] →
    x context.strictly state = x context.leniently state
  first : ∀ (context : Context) state statement later,
    omitted context.leniently state = statement :: later →
      (x context.strictly state).1 = .error (undefinedFault statement)

namespace Omits

theorem of_strict_eq {x : Eval α}
    (h : ∀ (context : Context) state, x context.strictly state = x context.leniently state) :
    Omits x .none :=
  ⟨fun context state _ => h context state, fun _ _ _ _ h => nomatch h⟩

theorem of_works {x : Eval α} (h : Works x) : Omits x .none :=
  of_strict_eq fun context state =>
    (h.indifferent.strict_eq context true state).trans
      (h.indifferent.strict_eq context false state).symm

protected theorem pure (a : α) : Omits (Pure.pure a : Eval α) .none := of_works (.pure a)

protected theorem fail (fault : Fault) : Omits (Eval.fail fault : Eval α) .none :=
  of_works (.fail fault)

theorem ofEnvironment (f : Environment → α) : Omits (Eval.ofEnvironment f) .none :=
  of_strict_eq fun _ _ => rfl

theorem changeEnvironment (f : Environment → Environment) :
    Omits (Eval.changeEnvironment f) .none :=
  of_strict_eq fun _ _ => rfl

theorem andThen {x : Eval α} {f : α → Eval β} {omitted : Omissions} {rest : α → Omissions}
    (hx : Omits x omitted) (hf : ∀ a, Omits (f a) (rest a)) :
    Omits (x >>= f) (omitted.andThen x rest) := by
  refine ⟨fun context state hnone => ?_, fun context state statement later hsome => ?_⟩
  · show Eval.bind x f _ _ = Eval.bind x f _ _
    obtain ⟨hfirst, hrest⟩ := List.append_eq_nil_iff.mp hnone
    simp only [Eval.bind, hx.same context state hfirst]
    cases hresult : x context.leniently state with
    | mk outcome after =>
      rw [hresult] at hrest
      cases outcome with
      | ok a => exact (hf a).same context after hrest
      | error fault => rfl
  · show (Eval.bind x f _ _).1 = _
    simp only [Omissions.andThen] at hsome
    cases hfirst : omitted context.leniently state with
    | cons statement' later' =>
      rw [hfirst] at hsome
      cases hsome
      have hfault := hx.first context state _ _ hfirst
      simp only [Eval.bind]
      cases hresult : x context.strictly state with
      | mk outcome after =>
        rw [hresult] at hfault
        cases hfault
        rfl
    | nil =>
      rw [hfirst] at hsome
      simp only [Eval.bind, hx.same context state hfirst]
      cases hresult : x context.leniently state with
      | mk outcome after =>
        rw [hresult] at hsome
        cases outcome with
        | ok a => exact (hf a).first context after _ _ hsome
        | error fault => cases hsome

/-- What comes last may be without omissions. -/
theorem finish {x : Eval α} {f : α → Eval β} {omitted : Omissions} (hx : Omits x omitted)
    (hf : ∀ a, Omits (f a) .none) : Omits (x >>= f) omitted := by
  have hnone : omitted.andThen x (fun _ => .none) = omitted := by
    funext context state
    simp only [Omissions.andThen, Omissions.none]
    split <;> exact List.append_nil _
  exact hnone ▸ hx.andThen hf

/-- What comes first may be without omissions. -/
theorem after {x : Eval α} {f : α → Eval β} {rest : α → Omissions} (hx : Works x)
    (hf : ∀ a, Omits (f a) (rest a)) : Omits (x >>= f) (.after x rest) :=
  (of_works hx).andThen hf

/-- A strict run ends as the lenient one does, or in an undefined fault. -/
theorem ends {x : Eval α} {omitted : Omissions} (h : Omits x omitted) (context : Context)
    (state : State) :
    x context.strictly state = x context.leniently state ∨
      ∃ fault, (x context.strictly state).1 = .error fault ∧ fault.isUndefined := by
  cases hnone : omitted context.leniently state with
  | nil => exact .inl (h.same context state hnone)
  | cons statement later =>
    exact .inr ⟨_, h.first context state _ _ hnone, undefinedFault_isUndefined statement⟩

/-- A strict run that succeeds is the lenient one. -/
theorem of_ok {x : Eval α} {omitted : Omissions} (h : Omits x omitted) {context : Context}
    {state after : State} {a : α} (hresult : x context.strictly state = (.ok a, after)) :
    x context.leniently state = (.ok a, after) := by
  rcases h.ends context state with hsame | ⟨fault, hfault, _⟩
  · exact hsame ▸ hresult
  · rw [hresult] at hfault
    cases hfault

theorem inNewScope {x : Eval α} {omitted : Omissions} (h : Omits x omitted) :
    Omits (Eval.inNewScope x) omitted.inNewScope := by
  refine ⟨fun context state hnone => ?_, fun context state statement later hsome => ?_⟩
  · simp only [Eval.inNewScope, h.same context _ hnone]
  · exact h.first context _ statement later hsome

end Omits

/-! ### Statements -/

theorem contribution_omits (statement : Node) (value : Value) :
    Omits (contribution statement value) (.ofStatement statement value) := by
  cases value with
  | undefined =>
    refine ⟨fun _ _ hnone => absurd hnone (List.cons_ne_nil _ _),
      fun context state statement later hsome => ?_⟩
    cases hsome
    cases statement <;> rfl
  | _ => exact .of_works (Adds.works (by simp [contribution]))

theorem bindName_omits (name : String) (value : Value) : Omits (bindName name value) .none :=
  .changeEnvironment _

theorem bindNames_omits : ∀ (targets : List Node) (items : List Value),
    Omits (bindNames targets items) .none
  | [], _ => by simpa only [bindNames] using .pure ()
  | _ :: _, [] => by simpa only [bindNames] using .pure ()
  | target :: targets, item :: items => by
    cases target
    case name name =>
      exact (bindName_omits name item).finish fun _ => bindNames_omits targets items
    all_goals exact .of_works (failOfKind_adds _ _).works

theorem bindTarget_omits (target : Node) (item : Value) : Omits (bindTarget target item) .none := by
  unfold bindTarget
  split
  · exact bindName_omits _ _
  · split
    · split
      · exact .fail _
      · split
        · exact .fail _
        · exact bindNames_omits _ _
    · exact .fail _
  · exact .of_works (failOfKind_adds _ _).works

/-- A strict loop ends in the round whose body has an omission. -/
theorem loopFrom_omits {body : Eval String} {omitted : Omissions} (hbody : Omits body omitted)
    (target : Node) (length index : Nat) (previous : Value) (items : List Value) (done : String) :
    Omits (loopFrom target body length index previous items done)
      (.ofRounds target body omitted length index previous items) := by
  induction items generalizing index previous done with
  | nil => exact .pure done
  | cons item rest ih =>
    rw [Omissions.ofRounds]
    refine .after (newLoop_adds _ _ _ _).works fun about => ?_
    refine (bindName_omits "loop" about).andThen fun _ => ?_
    refine (bindTarget_omits target item).andThen fun _ => ?_
    exact hbody.andThen fun part => ih _ _ _

theorem loopOver_omits {body : Eval String} {omitted : Omissions} (hbody : Omits body omitted)
    (target : Node) (iterable : Value) :
    Omits (loopOver target body iterable) (.ofLoop target body omitted iterable) := by
  cases iterable with
  | array items => exact loopFrom_omits hbody target _ _ _ _ _
  | _ => exact .fail _

theorem findTest_omits (label : Option Label) : Omits (findTest label) .none := by
  unfold findTest
  split
  · refine (Omits.ofEnvironment _).finish fun tests => ?_
    split
    · exact .pure _
    · exact .fail _
  · exact .fail _
  · exact .fail _

/-! ### Trees -/

mutual

/-- Strict evaluation ends where lenient evaluation would pass over a statement. -/
theorem evaluate_omits : ∀ node : Node, Omits (evaluate node) (omissions node)
  | .program body => (evaluateBlock_omits body).finish fun _ => .pure _
  | .set target value => by
    have hvalue := evaluate_omits value
    cases target
    case name name =>
      exact hvalue.finish fun _ => (Omits.changeEnvironment _).finish fun _ => .pure _
    case member owner property computed =>
      have howner := evaluate_omits owner
      cases property
      case name key =>
        cases computed with
        | false =>
          exact hvalue.andThen fun _ => howner.finish fun _ =>
            (Omits.of_works (assignField_works _ _ _)).finish fun _ => .pure _
        | true => exact hvalue.finish fun _ => .of_works (failOfKind_adds _ _).works
      all_goals exact hvalue.finish fun _ => .of_works (failOfKind_adds _ _).works
    all_goals exact hvalue.finish fun _ => .of_works (failOfKind_adds _ _).works
  | .branch condition body alternate => by
    refine (evaluate_omits condition).andThen fun condition =>
      .after (truth_adds condition).works fun holds => ?_
    split
    · exact (evaluateBlock_omits body).finish fun _ => .pure _
    · exact (evaluateBlock_omits alternate).finish fun _ => .pure _
  | .loop target iterable body =>
    .inNewScope <| (evaluate_omits iterable).andThen fun iterable =>
      (loopOver_omits (evaluateBlock_omits body) target iterable).finish fun _ => .pure _
  | .name _ => .ofEnvironment _
  | .member owner property false =>
    (evaluate_omits owner).finish fun _ => .of_works (memberByLabel_adds _ _).works
  | .member owner property true => by
    have howner := evaluate_omits owner
    cases property
    case slice start stop step =>
      refine howner.andThen fun owner => ?_
      split
      · exact (evaluateBound_omits start).andThen fun _ =>
          (evaluateBound_omits stop).andThen fun _ =>
            (evaluateBound_omits step).finish fun _ => .of_works (slice_adds _ _ _ _).works
      · exact .fail _
    all_goals exact howner.andThen fun _ => (evaluate_omits _).finish fun _ =>
      .of_works (member_adds _ _).works
  | .call callee args =>
    (evaluateArguments_omits args).andThen fun _ => .after (bundled_adds _ _).works fun _ =>
      (evaluate_omits callee).finish fun _ => .of_works (callValue_adds _ _).works
  | .number n => .of_works (ofNumber_adds n).works
  | .text _ => .pure _
  | .bool _ => .pure _
  | .null => .pure _
  | .array items => (evaluateAll_omits items).finish fun _ => .pure _
  | .tuple items => (evaluateAll_omits items).finish fun _ => .pure _
  | .object pairs =>
    (evaluatePairs_omits pairs).finish fun _ => .of_works (newLabelled_adds _ _).works
  | .binary operator left right => by
    have hright := evaluate_omits right
    refine (evaluate_omits left).andThen fun left => ?_
    by_cases hand : operator = "and"
    · subst hand
      refine .after (truth_adds left).works fun holds => ?_
      split
      · exact hright
      · exact .pure _
    by_cases hor : operator = "or"
    · subst hor
      refine .after (truth_adds left).works fun holds => ?_
      split
      · exact .pure _
      · exact hright
    · have hlast := hright.finish fun right =>
        .of_works (applyBinary_adds operator left right).works
      simpa only [hand, hor] using hlast
  | .filter operand applied => by
    have hoperand := evaluate_omits operand
    cases applied
    case name name => exact hoperand.finish fun _ => .of_works (applyFilter_adds _ _ _).works
    case call callee args =>
      cases callee
      case name name =>
        exact hoperand.andThen fun _ => (evaluateArguments_omits args).finish fun _ =>
          (Omits.of_works (bundled_adds _ _).works).finish fun _ =>
            .of_works (applyFilter_adds _ _ _).works
      all_goals exact hoperand.finish fun _ => .of_works (failOfKind_adds _ _).works
    all_goals exact hoperand.finish fun _ => .of_works (failOfKind_adds _ _).works
  | .test operand negate predicate args =>
    (evaluate_omits operand).andThen fun _ => (findTest_omits _).andThen fun _ =>
      (evaluateArguments_omits args).finish fun _ =>
        (Omits.of_works (bundled_adds _ _).works).finish fun _ =>
          (Omits.of_works (applyTest_adds _ _ _).works).finish fun _ => .pure _
  | .unary operator argument =>
    (evaluate_omits argument).finish fun _ => .of_works (applyUnary_adds _ _).works
  | .slice _ _ _ => .fail _
  | .keyword _ _ => .fail _
  | .ternary condition whenTrue whenFalse => by
    refine (evaluate_omits condition).andThen fun condition =>
      .after (truth_adds condition).works fun holds => ?_
    split
    · exact evaluate_omits whenTrue
    · exact evaluate_omits whenFalse
  | .bare kind => .of_works (failOfKind_adds _ _).works

theorem evaluateBlock_omits : ∀ body : List Node, Omits (evaluateBlock body) (omissionsOfBlock body)
  | [] => .pure _
  | statement :: rest => by
    refine (evaluate_omits statement).andThen fun value =>
      (contribution_omits statement value).andThen fun text =>
        (evaluateBlock_omits rest).finish fun texts => ?_
    split
    · exact .pure _
    · exact .fail _

theorem evaluateAll_omits : ∀ items : List Node, Omits (evaluateAll items) (omissionsOfAll items)
  | [] => .pure _
  | item :: rest =>
    (evaluate_omits item).andThen fun _ => (evaluateAll_omits rest).finish fun _ => .pure _

theorem evaluateArguments_omits : ∀ args : List Node,
    Omits (evaluateArguments args) (omissionsOfArguments args)
  | [] => .pure _
  | arg :: rest => by
    have hrest := evaluateArguments_omits rest
    cases arg
    case keyword key value =>
      refine (evaluate_omits value).andThen fun value => ?_
      cases key.label? with
      | some label => exact hrest.finish fun _ => .pure _
      | none => exact .fail _
    all_goals exact (evaluate_omits _).andThen fun _ => hrest.finish fun _ => .pure _

theorem evaluatePairs_omits : ∀ pairs : List (Node × Node),
    Omits (evaluatePairs pairs) (omissionsOfPairs pairs)
  | [] => .pure _
  | (key, value) :: rest => by
    have hvalue := evaluate_omits value
    have hrest := evaluatePairs_omits rest
    refine (evaluate_omits key).andThen fun key => ?_
    cases key with
    | text name => exact hvalue.andThen fun _ => hrest.finish fun _ => .pure _
    | label label => exact hvalue.andThen fun _ => hrest.finish fun _ => .pure _
    | _ => exact .fail _

theorem evaluateBound_omits :
    ∀ part : Option Node, Omits (evaluateBound part) (omissionsOfBound part)
  | none => .pure _
  | some node => (evaluate_omits node).finish fun _ => .of_works (sliceBound_adds _).works

end

/-- Strict evaluation ends alike when lenient evaluation passes over no statement, and in particular
when it succeeds. Otherwise it ends in the fault of the first statement passed over. -/
theorem evaluate_strictly (node : Node) (context : Context) (state : State) :
    (evaluate node context.strictly state = evaluate node context.leniently state ∨
      ∃ fault, (evaluate node context.strictly state).1 = .error fault ∧ fault.isUndefined) ∧
    (omissions node context.leniently state = [] →
      evaluate node context.strictly state = evaluate node context.leniently state) ∧
    (∀ statement later, omissions node context.leniently state = statement :: later →
      (evaluate node context.strictly state).1 = .error (undefinedFault statement)) ∧
    ∀ value after, evaluate node context.strictly state = (.ok value, after) →
      evaluate node context.leniently state = (.ok value, after) := by
  have homits := evaluate_omits node
  exact ⟨homits.ends context state, homits.same context state, homits.first context state,
    fun _ _ hresult => homits.of_ok hresult⟩

/-! ### Renderings -/

theorem declare_omits (name : String) (value : Value) : Omits (declare name value) .none := by
  refine (Omits.ofEnvironment _).finish fun taken => ?_
  split
  · exact .fail _
  · exact bindName_omits name value

theorem declareHost_omits (name : String) (host : Host) : Omits (declareHost name host) .none :=
  (Omits.of_works (fromHost_adds host).works).finish fun value =>
    (declare_omits name value).finish fun _ => .pure _

theorem declareAll_omits (entries : List (Host × Host)) : Omits (declareAll entries) .none := by
  fun_induction declareAll entries with
  | case1 => exact .pure ()
  | case2 name host rest ih => exact (declareHost_omits name host).finish fun _ => ih
  | case3 _ host rest _ ih =>
    exact (Omits.of_works (fromHost_adds host).works).finish fun _ => ih

theorem newFunction_omits (function : Function) : Omits (newFunction function) .none :=
  .of_works (newFunction_adds function).works

theorem startScope_omits (tests : List Test) : Omits (startScope tests) .none :=
  (Omits.changeEnvironment _).finish fun _ => (newFunction_omits _).finish fun value =>
    declare_omits _ value

theorem declareBuiltins_omits : Omits declareBuiltins .none := by
  refine (declare_omits _ _).finish fun _ => (declare_omits _ _).finish fun _ =>
    (declare_omits _ _).finish fun _ => (declare_omits _ _).finish fun _ =>
      (declare_omits _ _).finish fun _ => (newFunction_omits _).finish fun range =>
        (declare_omits _ range).finish fun _ => (newFunction_omits _).finish fun raiseException =>
          declare_omits _ raiseException

theorem startEnvironment_omits (given : Host) : Omits (startEnvironment given) .none := by
  refine (startScope_omits _).finish fun _ => declareBuiltins_omits.finish fun _ => ?_
  split
  · exact declareAll_omits _
  · split
    · exact .fail _
    · exact .pure _

theorem render_omits (program : Node) (given : Host) :
    Omits (render program given)
      (after (startEnvironment given) fun _ => omissionsOfBlock program.statements) :=
  (startEnvironment_omits given).andThen fun _ => evaluateBlock_omits _

/-- A strict rendering fails for something undefined, or it is the lenient rendering. -/
theorem render_strictly (program : Node) (given : Host) (context : Context) (state : State) :
    render program given context.strictly state = render program given context.leniently state ∨
      ∃ fault, (render program given context.strictly state).1 = .error fault ∧ fault.isUndefined :=
  (render_omits program given).ends context state

end Eval

end TextTemplate
