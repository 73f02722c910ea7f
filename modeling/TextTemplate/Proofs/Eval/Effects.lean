import TextTemplate.Proofs.Eval.Works
import TextTemplate.Proofs.Syntax.Parts

/-!
# What evaluation does to the memory

Evaluation does to the memory what computations on values do, over and over, and it assigns to
members where there is a `set` statement. Whatever covers all of these covers every evaluation. In
particular, a tree without `set` statements only adds to the memory.
-/

namespace TextTemplate

/-- Whether a node is a `set` statement. -/
def Node.isSet : Node → Bool
  | .set _ _ => true
  | _ => false

namespace Eval

/-- What computations may do to a memory, one after the other. They may at least add to it. -/
structure Effect where
  rel : Memory → Memory → Prop
  trans : ∀ {m m' m'' : Memory}, rel m m' → rel m' m'' → rel m m''
  adds : ∀ {α : Type} {x : Eval α}, Adds x → ∀ context s, rel s.memory (x context s).2.memory

/-- All that only adds to a memory. -/
def Effect.growth : Effect := ⟨Memory.Grows, Memory.Grows.trans, Adds.grows⟩

variable {α β : Type} {effect : Effect}

/-- A computation has no other effect on the memory, also when it fails. -/
def Alters (effect : Effect) (x : Eval α) : Prop :=
  ∀ context s, effect.rel s.memory (x context s).2.memory

namespace Alters

theorem of_adds {x : Eval α} (h : Adds x) : Alters effect x := effect.adds h

protected theorem bind {x : Eval α} {f : α → Eval β} (hx : Alters effect x)
    (hf : ∀ a, Alters effect (f a)) : Alters effect (x >>= f) :=
  bind_memory effect.rel effect.trans hx hf

protected theorem pure (a : α) : Alters effect (Pure.pure a : Eval α) := of_adds (.pure a)

protected theorem fail (fault : Fault) : Alters effect (Eval.fail fault : Eval α) :=
  of_adds (.fail fault)

theorem ofEnvironment (f : Environment → α) : Alters effect (Eval.ofEnvironment f) :=
  fun context s => effect.adds (.pure ()) context s

theorem changeEnvironment (f : Environment → Environment) :
    Alters effect (Eval.changeEnvironment f) := fun context s => effect.adds (.pure ()) context s

theorem inNewScope {x : Eval α} (h : Alters effect x) : Alters effect (Eval.inNewScope x) :=
  fun context s => h context { s with environment := s.environment.enter }

end Alters

/-! ## Statements -/

theorem contribution_alters (statement : Node) (value : Value) :
    Alters effect (contribution statement value) := by
  cases value with
  | undefined =>
    refine Alters.bind (fun context s => effect.adds (.pure ()) context s) fun context => ?_
    split
    · split <;> exact .fail _
    · exact .pure _
  | _ => exact .of_adds (by simp [contribution])

theorem bindName_alters (name : String) (value : Value) : Alters effect (bindName name value) :=
  .changeEnvironment _

theorem bindNames_alters : ∀ (targets : List Node) (items : List Value),
    Alters effect (bindNames targets items)
  | [], _ => by simpa only [bindNames] using .pure ()
  | _ :: _, [] => by simpa only [bindNames] using .pure ()
  | target :: targets, item :: items => by
    cases target
    case name name =>
      exact (bindName_alters name item).bind fun _ => bindNames_alters targets items
    all_goals exact .of_adds (failOfKind_adds _ _)

theorem bindTarget_alters (target : Node) (item : Value) :
    Alters effect (bindTarget target item) := by
  unfold bindTarget
  split
  · exact bindName_alters _ _
  · split
    · split
      · exact .fail _
      · split
        · exact .fail _
        · exact bindNames_alters _ _
    · exact .fail _
  · exact .of_adds (failOfKind_adds _ _)

theorem loopFrom_alters {body : Eval String} (hbody : Alters effect body) (target : Node)
    (length index : Nat) (previous : Value) (items : List Value) (done : String) :
    Alters effect (loopFrom target body length index previous items done) := by
  induction items generalizing index previous done with
  | nil => exact .pure done
  | cons item rest ih =>
    refine (Alters.of_adds (newLoop_adds _ _ _ _)).bind fun about => ?_
    refine (bindName_alters "loop" about).bind fun _ => ?_
    refine (bindTarget_alters target item).bind fun _ => ?_
    exact hbody.bind fun part => ih _ _ _

theorem loopOver_alters {body : Eval String} (hbody : Alters effect body) (target : Node)
    (iterable : Value) : Alters effect (loopOver target body iterable) := by
  cases iterable with
  | array items => exact loopFrom_alters hbody target _ _ _ _ _
  | _ => exact .fail _

theorem findTest_alters (label : Option Label) : Alters effect (findTest label) := by
  unfold findTest
  split
  · refine (Alters.ofEnvironment _).bind fun tests => ?_
    split
    · exact .pure _
    · exact .fail _
  · exact .fail _
  · exact .fail _

/-! ## Trees -/

/-- The effect covers assignments to members. -/
def Assigns (effect : Effect) : Prop :=
  ∀ owner key value, Alters effect (assignField owner key value)

/-- The effect covers assignments to members if there is a `set` statement among some trees. -/
def Admits (effect : Effect) (parts : List Node) : Prop :=
  ∀ part ∈ parts, part.isSet → Assigns effect

theorem admits_cons {part : Node} {parts : List Node} :
    Admits effect (part :: parts) ↔ (part.isSet → Assigns effect) ∧ Admits effect parts :=
  List.forall_mem_cons

theorem admits_append {parts parts' : List Node} :
    Admits effect (parts ++ parts') ↔ Admits effect parts ∧ Admits effect parts' :=
  List.forall_mem_append

mutual

theorem evaluate_alters : ∀ node : Node, Admits effect node.parts → Alters effect (evaluate node)
  | .program body, h => by
    simp only [Node.parts, admits_cons] at h
    exact (evaluateBlock_alters body h.2).bind fun _ => .pure _
  | .set target value, h => by
    simp only [Node.parts, admits_cons, admits_append] at h
    obtain ⟨hassign, htarget, hvalue⟩ := h
    have hvalue := evaluate_alters value hvalue
    cases target
    case name name =>
      exact hvalue.bind fun _ => (Alters.changeEnvironment _).bind fun _ => .pure _
    case member owner property computed =>
      simp only [Node.parts, admits_cons, admits_append] at htarget
      have howner := evaluate_alters owner htarget.2.1
      rw [evaluate]
      refine hvalue.bind fun value => ?_
      split
      · contradiction
      · rename_i heq
        cases heq
        exact howner.bind fun _ => (hassign rfl _ _ _).bind fun _ => .pure _
      · exact .of_adds (failOfKind_adds _ _)
    all_goals exact hvalue.bind fun _ => .of_adds (failOfKind_adds _ _)
  | .branch condition body alternate, h => by
    simp only [Node.parts, admits_cons, admits_append] at h
    obtain ⟨-, ⟨hcondition, hbody⟩, halternate⟩ := h
    refine (evaluate_alters condition hcondition).bind fun condition =>
      (Alters.of_adds (truth_adds condition)).bind fun holds => ?_
    split
    · exact (evaluateBlock_alters body hbody).bind fun _ => .pure _
    · exact (evaluateBlock_alters alternate halternate).bind fun _ => .pure _
  | .loop target iterable body, h => by
    simp only [Node.parts, admits_cons, admits_append] at h
    obtain ⟨-, ⟨-, hiterable⟩, hbody⟩ := h
    exact .inNewScope ((evaluate_alters iterable hiterable).bind fun iterable =>
      (loopOver_alters (evaluateBlock_alters body hbody) target iterable).bind fun _ => .pure _)
  | .name _, _ => .ofEnvironment _
  | .member owner property computed, h => by
    simp only [Node.parts, admits_cons, admits_append] at h
    obtain ⟨-, howner, hproperty⟩ := h
    have howner := evaluate_alters owner howner
    cases computed with
    | false => exact howner.bind fun _ => .of_adds (memberByLabel_adds _ _)
    | true =>
      cases property
      case slice start stop step =>
        simp only [Node.parts, admits_cons, admits_append] at hproperty
        obtain ⟨-, ⟨hstart, hstop⟩, hstep⟩ := hproperty
        refine howner.bind fun owner => ?_
        split
        · exact (evaluateBound_alters start hstart).bind fun _ =>
            (evaluateBound_alters stop hstop).bind fun _ =>
              (evaluateBound_alters step hstep).bind fun _ => .of_adds (slice_adds _ _ _ _)
        · exact .fail _
      all_goals
        exact howner.bind fun _ => (evaluate_alters _ hproperty).bind fun _ =>
          .of_adds (member_adds _ _)
  | .call callee args, h => by
    simp only [Node.parts, admits_cons, admits_append] at h
    obtain ⟨-, hcallee, hargs⟩ := h
    exact (evaluateArguments_alters args hargs).bind fun _ =>
      (Alters.of_adds (bundled_adds _ _)).bind fun _ =>
        (evaluate_alters callee hcallee).bind fun _ => .of_adds (callValue_adds _ _)
  | .number n, _ => .of_adds (ofNumber_adds n)
  | .text _, _ => .pure _
  | .bool _, _ => .pure _
  | .null, _ => .pure _
  | .array items, h => by
    simp only [Node.parts, admits_cons] at h
    exact (evaluateAll_alters items h.2).bind fun _ => .pure _
  | .tuple items, h => by
    simp only [Node.parts, admits_cons] at h
    exact (evaluateAll_alters items h.2).bind fun _ => .pure _
  | .object pairs, h => by
    simp only [Node.parts, admits_cons] at h
    exact (evaluatePairs_alters pairs h.2).bind fun _ => .of_adds (newLabelled_adds _ _)
  | .binary operator left right, h => by
    simp only [Node.parts, admits_cons, admits_append] at h
    obtain ⟨-, hleft, hright⟩ := h
    have hright := evaluate_alters right hright
    refine (evaluate_alters left hleft).bind fun left => ?_
    split
    · refine (Alters.of_adds (truth_adds left)).bind fun holds => ?_
      split
      · exact hright
      · exact .pure _
    · refine (Alters.of_adds (truth_adds left)).bind fun holds => ?_
      split
      · exact .pure _
      · exact hright
    · exact hright.bind fun _ => .of_adds (applyBinary_adds _ _ _)
  | .filter operand applied, h => by
    simp only [Node.parts, admits_cons, admits_append] at h
    obtain ⟨-, hoperand, happlied⟩ := h
    have hoperand := evaluate_alters operand hoperand
    cases applied
    case name name => exact hoperand.bind fun _ => .of_adds (applyFilter_adds _ _ _)
    case call callee args =>
      simp only [Node.parts, admits_cons, admits_append] at happlied
      cases callee
      case name name =>
        exact hoperand.bind fun _ => (evaluateArguments_alters args happlied.2.2).bind fun _ =>
          (Alters.of_adds (bundled_adds _ _)).bind fun _ => .of_adds (applyFilter_adds _ _ _)
      all_goals exact hoperand.bind fun _ => .of_adds (failOfKind_adds _ _)
    all_goals exact hoperand.bind fun _ => .of_adds (failOfKind_adds _ _)
  | .test operand negate predicate args, h => by
    simp only [Node.parts, admits_cons, admits_append] at h
    obtain ⟨-, ⟨hoperand, -⟩, hargs⟩ := h
    exact (evaluate_alters operand hoperand).bind fun _ => (findTest_alters _).bind fun _ =>
      (evaluateArguments_alters args hargs).bind fun _ =>
        (Alters.of_adds (bundled_adds _ _)).bind fun _ =>
          (Alters.of_adds (applyTest_adds _ _ _)).bind fun _ => .pure _
  | .unary operator argument, h => by
    simp only [Node.parts, admits_cons] at h
    exact (evaluate_alters argument h.2).bind fun _ => .of_adds (applyUnary_adds _ _)
  | .slice _ _ _, _ => .fail _
  | .keyword _ _, _ => .fail _
  | .ternary condition whenTrue whenFalse, h => by
    simp only [Node.parts, admits_cons, admits_append] at h
    obtain ⟨-, ⟨hcondition, htrue⟩, hfalse⟩ := h
    refine (evaluate_alters condition hcondition).bind fun condition =>
      (Alters.of_adds (truth_adds condition)).bind fun holds => ?_
    split
    · exact evaluate_alters whenTrue htrue
    · exact evaluate_alters whenFalse hfalse
  | .bare kind, _ => .of_adds (failOfKind_adds _ _)

theorem evaluateBlock_alters : ∀ body : List Node, Admits effect (Node.partsOfAll body) →
    Alters effect (evaluateBlock body)
  | [], _ => .pure _
  | statement :: rest, h => by
    obtain ⟨hstatement, hrest⟩ := admits_append.mp h
    refine (evaluate_alters statement hstatement).bind fun value =>
      (contribution_alters statement value).bind fun text =>
        (evaluateBlock_alters rest hrest).bind fun texts => ?_
    split
    · exact .pure _
    · exact .fail _

theorem evaluateAll_alters : ∀ items : List Node, Admits effect (Node.partsOfAll items) →
    Alters effect (evaluateAll items)
  | [], _ => .pure _
  | item :: rest, h => by
    obtain ⟨hitem, hrest⟩ := admits_append.mp h
    exact (evaluate_alters item hitem).bind fun _ =>
      (evaluateAll_alters rest hrest).bind fun _ => .pure _

theorem evaluateArguments_alters : ∀ args : List Node, Admits effect (Node.partsOfAll args) →
    Alters effect (evaluateArguments args)
  | [], _ => .pure _
  | arg :: rest, h => by
    obtain ⟨harg, hrest⟩ := admits_append.mp h
    have hrest := evaluateArguments_alters rest hrest
    cases arg
    case keyword key value =>
      simp only [Node.parts, admits_cons, admits_append] at harg
      refine (evaluate_alters value harg.2.2).bind fun value => ?_
      split
      · exact hrest.bind fun _ => .pure _
      · exact .fail _
    all_goals exact (evaluate_alters _ harg).bind fun _ => hrest.bind fun _ => .pure _

theorem evaluatePairs_alters : ∀ pairs : List (Node × Node),
    Admits effect (Node.partsOfPairs pairs) → Alters effect (evaluatePairs pairs)
  | [], _ => .pure _
  | (key, value) :: rest, h => by
    simp only [Node.partsOfPairs, admits_append] at h
    obtain ⟨⟨hkey, hvalue⟩, hrest⟩ := h
    have hboth : ∀ label : Label, Alters effect (do
        let value ← evaluate value
        let fields ← evaluatePairs rest
        pure ((label, value) :: fields)) := fun _ =>
      (evaluate_alters value hvalue).bind fun _ =>
        (evaluatePairs_alters rest hrest).bind fun _ => .pure _
    refine (evaluate_alters key hkey).bind fun key => ?_
    split
    · exact hboth _
    · exact hboth _
    · exact .fail _

theorem evaluateBound_alters : ∀ part : Option Node, Admits effect (Node.partsOfPart part) →
    Alters effect (evaluateBound part)
  | none, _ => .pure _
  | some node, h => (evaluate_alters node h).bind fun _ => .of_adds (sliceBound_adds _)

end

/-- Where nothing is assigned, evaluation only adds to the memory. -/
theorem evaluateBlock_grows {body : List Node}
    (h : ∀ part ∈ Node.partsOfAll body, part.isSet = false) (context : Context) (s : State) :
    Memory.Grows s.memory (evaluateBlock body context s).2.memory := by
  have hgrowth : Alters .growth (evaluateBlock body) :=
    evaluateBlock_alters body fun part hmem hset => absurd hset (by simp [h part hmem])
  exact hgrowth context s

end Eval

end TextTemplate
