import TextTemplate.Proofs.Eval.Works
import TextTemplate.Proofs.Scope.Assignment

/-!
# What evaluation does to variables

Evaluation changes variables by assignments to the names that `set` statements are about, and by
nothing else. What happens inside a loop happens in a scope of its own.
-/

namespace TextTemplate

namespace Node

mutual

/-- The names that `set` statements in a node give values to: those inside loops, or those outside
of all loops. -/
def targets (looped : Bool) : Node → List String
  | .program body => targetsOfAll looped body
  | .set (.name s) value => if looped then targets looped value else s :: targets looped value
  | .set target value => targets looped target ++ targets looped value
  | .branch condition body alternate =>
    targets looped condition ++ targetsOfAll looped body ++ targetsOfAll looped alternate
  | .loop _ iterable body =>
    if looped then
      targets false iterable ++ targets true iterable ++ targetsOfAll false body ++
        targetsOfAll true body
    else []
  | .member owner property _ => targets looped owner ++ targets looped property
  | .call callee args => targets looped callee ++ targetsOfAll looped args
  | .array items => targetsOfAll looped items
  | .tuple items => targetsOfAll looped items
  | .object pairs => targetsOfPairs looped pairs
  | .binary _ left right => targets looped left ++ targets looped right
  | .filter operand applied => targets looped operand ++ targets looped applied
  | .test operand _ predicate args =>
    targets looped operand ++ targets looped predicate ++ targetsOfAll looped args
  | .unary _ argument => targets looped argument
  | .slice start stop step =>
    targetsOfPart looped start ++ targetsOfPart looped stop ++ targetsOfPart looped step
  | .keyword key value => targets looped key ++ targets looped value
  | .ternary condition whenTrue whenFalse =>
    targets looped condition ++ targets looped whenTrue ++ targets looped whenFalse
  | .name _ => []
  | .number _ => []
  | .text _ => []
  | .bool _ => []
  | .null => []
  | .bare _ => []

def targetsOfAll (looped : Bool) : List Node → List String
  | [] => []
  | node :: rest => targets looped node ++ targetsOfAll looped rest

def targetsOfPairs (looped : Bool) : List (Node × Node) → List String
  | [] => []
  | (key, value) :: rest =>
    targets looped key ++ targets looped value ++ targetsOfPairs looped rest

def targetsOfPart (looped : Bool) : Option Node → List String
  | none => []
  | some node => targets looped node

end

mutual

/-- Whether a tree is an expression all through: none of its parts is a statement. -/
def isExpression : Node → Bool
  | .program _ => false
  | .set _ _ => false
  | .branch _ _ _ => false
  | .loop _ _ _ => false
  | .member owner property _ => isExpression owner && isExpression property
  | .call callee args => isExpression callee && areExpressions args
  | .array items => areExpressions items
  | .tuple items => areExpressions items
  | .object pairs => pairsAreExpressions pairs
  | .binary _ left right => isExpression left && isExpression right
  | .filter operand applied => isExpression operand && isExpression applied
  | .test operand _ predicate args =>
    isExpression operand && isExpression predicate && areExpressions args
  | .unary _ argument => isExpression argument
  | .slice start stop step =>
    partIsExpression start && partIsExpression stop && partIsExpression step
  | .keyword key value => isExpression key && isExpression value
  | .ternary condition whenTrue whenFalse =>
    isExpression condition && isExpression whenTrue && isExpression whenFalse
  | .bare kind => kind != .node && kind != .statement
  | .name _ => true
  | .number _ => true
  | .text _ => true
  | .bool _ => true
  | .null => true

def areExpressions : List Node → Bool
  | [] => true
  | node :: rest => isExpression node && areExpressions rest

def pairsAreExpressions : List (Node × Node) → Bool
  | [] => true
  | (key, value) :: rest => isExpression key && isExpression value && pairsAreExpressions rest

def partIsExpression : Option Node → Bool
  | none => true
  | some node => isExpression node

end

/-- Whether a node is a loop. -/
def isLoop : Node → Bool
  | .loop _ _ _ => true
  | _ => false

mutual

/-- There are no `set` statements in expressions. -/
theorem targets_of_isExpression : ∀ (looped : Bool) (node : Node), node.isExpression →
    node.targets looped = []
  | _, .program _, h => nomatch h
  | _, .set _ _, h => nomatch h
  | _, .branch _ _ _, h => nomatch h
  | _, .loop _ _ _, h => nomatch h
  | _, .member owner property _, h => by
    simp only [isExpression, Bool.and_eq_true] at h
    simp [targets, targets_of_isExpression _ owner h.1, targets_of_isExpression _ property h.2]
  | _, .call callee args, h => by
    simp only [isExpression, Bool.and_eq_true] at h
    simp [targets, targets_of_isExpression _ callee h.1, targetsOfAll_of_areExpressions _ args h.2]
  | _, .array items, h => targetsOfAll_of_areExpressions _ items h
  | _, .tuple items, h => targetsOfAll_of_areExpressions _ items h
  | _, .object pairs, h => targetsOfPairs_of_areExpressions _ pairs h
  | _, .binary _ left right, h => by
    simp only [isExpression, Bool.and_eq_true] at h
    simp [targets, targets_of_isExpression _ left h.1, targets_of_isExpression _ right h.2]
  | _, .filter operand applied, h => by
    simp only [isExpression, Bool.and_eq_true] at h
    simp [targets, targets_of_isExpression _ operand h.1, targets_of_isExpression _ applied h.2]
  | _, .test operand _ predicate args, h => by
    simp only [isExpression, Bool.and_eq_true] at h
    obtain ⟨⟨hoperand, hpredicate⟩, hargs⟩ := h
    simp [targets, targets_of_isExpression _ operand hoperand,
      targets_of_isExpression _ predicate hpredicate, targetsOfAll_of_areExpressions _ args hargs]
  | _, .unary _ argument, h => targets_of_isExpression _ argument h
  | _, .slice start stop step, h => by
    simp only [isExpression, Bool.and_eq_true] at h
    obtain ⟨⟨hstart, hstop⟩, hstep⟩ := h
    simp [targets, targetsOfPart_of_isExpression _ start hstart,
      targetsOfPart_of_isExpression _ stop hstop, targetsOfPart_of_isExpression _ step hstep]
  | _, .keyword key value, h => by
    simp only [isExpression, Bool.and_eq_true] at h
    simp [targets, targets_of_isExpression _ key h.1, targets_of_isExpression _ value h.2]
  | _, .ternary condition whenTrue whenFalse, h => by
    simp only [isExpression, Bool.and_eq_true] at h
    obtain ⟨⟨hcondition, htrue⟩, hfalse⟩ := h
    simp [targets, targets_of_isExpression _ condition hcondition,
      targets_of_isExpression _ whenTrue htrue, targets_of_isExpression _ whenFalse hfalse]
  | _, .bare _, _ => rfl
  | _, .name _, _ => rfl
  | _, .number _, _ => rfl
  | _, .text _, _ => rfl
  | _, .bool _, _ => rfl
  | _, .null, _ => rfl

theorem targetsOfAll_of_areExpressions : ∀ (looped : Bool) (items : List Node),
    areExpressions items → targetsOfAll looped items = []
  | _, [], _ => rfl
  | _, item :: rest, h => by
    simp only [areExpressions, Bool.and_eq_true] at h
    simp [targetsOfAll, targets_of_isExpression _ item h.1,
      targetsOfAll_of_areExpressions _ rest h.2]

theorem targetsOfPairs_of_areExpressions : ∀ (looped : Bool) (pairs : List (Node × Node)),
    pairsAreExpressions pairs → targetsOfPairs looped pairs = []
  | _, [], _ => rfl
  | _, (key, value) :: rest, h => by
    simp only [pairsAreExpressions, Bool.and_eq_true] at h
    obtain ⟨⟨hkey, hvalue⟩, hrest⟩ := h
    simp [targetsOfPairs, targets_of_isExpression _ key hkey,
      targets_of_isExpression _ value hvalue, targetsOfPairs_of_areExpressions _ rest hrest]

theorem targetsOfPart_of_isExpression : ∀ (looped : Bool) (part : Option Node),
    partIsExpression part → targetsOfPart looped part = []
  | _, none, _ => rfl
  | _, some node, h => targets_of_isExpression _ node h

end

theorem targets_of_isLoop {node : Node} (h : node.isLoop) : node.targets false = [] := by
  cases node with
  | loop target iterable body => simp [targets]
  | _ => cases h

end Node

namespace Eval

open Environment

variable {α β : Type} {here anywhere : String → Prop}

/-- Whatever comes of a computation, it makes assignments only. -/
def Moves (here anywhere : String → Prop) (x : Eval α) : Prop :=
  ∀ context state, Reach here anywhere state.environment (x context state).2.environment

namespace Moves

protected theorem bind {x : Eval α} {f : α → Eval β} (hx : Moves here anywhere x)
    (hf : ∀ a, Moves here anywhere (f a)) : Moves here anywhere (x >>= f) := by
  intro context state
  have hfirst := hx context state
  show Reach _ _ _ (Eval.bind x f context state).2.environment
  simp only [Eval.bind]
  cases hresult : x context state with
  | mk result after =>
    rw [hresult] at hfirst
    cases result with
    | ok a => exact hfirst.trans (hf a context after)
    | error fault => exact hfirst

theorem of_works {x : Eval α} (h : Works x) : Moves here anywhere x := by
  intro context state
  rw [h.indifferent.environment_eq]

protected theorem pure (a : α) : Moves here anywhere (Pure.pure a : Eval α) :=
  of_works (.pure a)

protected theorem fail (fault : Fault) : Moves here anywhere (Eval.fail fault : Eval α) :=
  of_works (.fail fault)

theorem ofEnvironment (f : Environment → α) : Moves here anywhere (Eval.ofEnvironment f) :=
  fun _ _ => .refl

/-- In a scope of its own a computation may bind any names. -/
theorem inNewScope {here' : String → Prop} {x : Eval α} (h : Moves here' anywhere x) :
    Moves here anywhere (Eval.inNewScope x) := by
  intro context state
  exact ((h context { state with environment := state.environment.enter }).leave rfl).1

end Moves

/-! ## Statements -/

theorem assignName_moves {name : String} (value : Value) (hhere : here name)
    (hanywhere : anywhere name) : Moves here anywhere (assignName name value) :=
  fun _ state => reach_assign state.environment name value hhere hanywhere

theorem contribution_moves (statement : Node) (value : Value) :
    Moves here anywhere (contribution statement value) := by
  cases value with
  | undefined =>
    refine Moves.bind (fun _ _ => .refl) fun context => ?_
    split
    · split <;> exact .fail _
    · exact .pure _
  | _ => exact .of_works (Adds.works (by simp [contribution]))

theorem bindName_moves (name : String) (value : Value) :
    Moves (fun _ => True) anywhere (bindName name value) :=
  fun _ _ => .single (.bind value trivial)

theorem bindNames_moves (targets : List Node) (items : List Value) :
    Moves (fun _ => True) anywhere (bindNames targets items) := by
  fun_induction bindNames targets items with
  | case1 name targets item items ih => exact (bindName_moves name item).bind fun _ => ih
  | case2 => exact .of_works (failOfKind_adds _ _).works
  | case3 => exact .pure ()

theorem bindTarget_moves (target : Node) (item : Value) :
    Moves (fun _ => True) anywhere (bindTarget target item) := by
  unfold bindTarget
  split
  · exact bindName_moves _ _
  · split
    · split
      · exact .fail _
      · split
        · exact .fail _
        · exact bindNames_moves _ _
    · exact .fail _
  · exact .of_works (failOfKind_adds _ _).works

/-- The rounds of a loop assign what its body assigns, besides what the loop itself binds. -/
theorem loopFrom_moves {body : Eval String} (hbody : Moves (fun _ => True) anywhere body)
    (target : Node) (length index : Nat) (previous : Value) (items : List Value) (done : String) :
    Moves (fun _ => True) anywhere (loopFrom target body length index previous items done) := by
  induction items generalizing index previous done with
  | nil => exact .pure done
  | cons item rest ih =>
    refine (Moves.of_works (newLoop_adds _ _ _ _).works).bind fun about => ?_
    refine (bindName_moves "loop" about).bind fun _ => ?_
    refine (bindTarget_moves target item).bind fun _ => ?_
    exact hbody.bind fun part => ih _ _ _

theorem loopOver_moves {body : Eval String} (hbody : Moves (fun _ => True) anywhere body)
    (target : Node) (iterable : Value) :
    Moves (fun _ => True) anywhere (loopOver target body iterable) := by
  cases iterable with
  | array items => exact loopFrom_moves hbody target _ _ _ _ _
  | _ => exact .fail _

theorem findTest_moves (label : Option Label) : Moves here anywhere (findTest label) := by
  unfold findTest
  split
  · refine (Moves.ofEnvironment _).bind fun tests => ?_
    split
    · exact .pure _
    · exact .fail _
  · exact .fail _
  · exact .fail _

/-! ## Trees -/

/-- The names outside of loops are of both kinds, and those inside loops of the second kind. -/
structure Permits (here anywhere : String → Prop) (names : Bool → List String) : Prop where
  outside : ∀ name ∈ names false, here name ∧ anywhere name
  inside : ∀ name ∈ names true, anywhere name

theorem permits_append {f g : Bool → List String} :
    Permits here anywhere (fun looped => f looped ++ g looped) ↔
      Permits here anywhere f ∧ Permits here anywhere g := by
  constructor
  · intro h
    exact ⟨⟨fun n hn => h.outside n (List.mem_append_left _ hn),
        fun n hn => h.inside n (List.mem_append_left _ hn)⟩,
      ⟨fun n hn => h.outside n (List.mem_append_right _ hn),
        fun n hn => h.inside n (List.mem_append_right _ hn)⟩⟩
  · rintro ⟨hf, hg⟩
    refine ⟨fun n hn => ?_, fun n hn => ?_⟩
    · rcases List.mem_append.mp hn with hn | hn
      · exact hf.outside n hn
      · exact hg.outside n hn
    · rcases List.mem_append.mp hn with hn | hn
      · exact hf.inside n hn
      · exact hg.inside n hn

/-- What is permitted of a loop is permitted inside it, where any name may be bound. -/
theorem permits_loop {target iterable : Node} {body : List Node}
    (h : Permits here anywhere fun looped => Node.targets looped (.loop target iterable body)) :
    Permits (fun _ => True) anywhere (fun looped => Node.targets looped iterable) ∧
      Permits (fun _ => True) anywhere (fun looped => Node.targetsOfAll looped body) := by
  have hall := h.inside
  simp only [Node.targets, ↓reduceIte, List.mem_append] at hall
  exact ⟨⟨fun n hn => ⟨trivial, hall n (.inl (.inl (.inl hn)))⟩,
      fun n hn => hall n (.inl (.inl (.inr hn)))⟩,
    ⟨fun n hn => ⟨trivial, hall n (.inl (.inr hn))⟩, fun n hn => hall n (.inr hn)⟩⟩

theorem permits_set {name : String} {value : Node}
    (h : Permits here anywhere fun looped => Node.targets looped (.set (.name name) value)) :
    here name ∧ anywhere name ∧ Permits here anywhere fun looped => Node.targets looped value := by
  have houtside := h.outside
  have hinside := h.inside
  simp only [Node.targets, Bool.false_eq_true, ↓reduceIte, List.mem_cons] at houtside hinside
  have hname := houtside name (.inl rfl)
  exact ⟨hname.1, hname.2, fun n hn => houtside n (.inr hn), hinside⟩

mutual

/-- Evaluation makes assignments only, and only to names of `set` statements. -/
theorem evaluate_moves : ∀ (node : Node) (here anywhere : String → Prop),
    Permits here anywhere (fun looped => node.targets looped) → Moves here anywhere (evaluate node)
  | .program body, _, _, h => by
    simp only [Node.targets] at h
    exact (evaluateBlock_moves body _ _ h).bind fun _ => .pure _
  | .set target value, _, _, h => by
    cases target
    case name name =>
      obtain ⟨hhere, hanywhere, hvalue⟩ := permits_set h
      exact (evaluate_moves value _ _ hvalue).bind fun value =>
        (assignName_moves value hhere hanywhere).bind fun _ => .pure _
    case member owner property computed =>
      simp only [Node.targets, permits_append] at h
      obtain ⟨⟨howner, hproperty⟩, hvalue⟩ := h
      have howner := evaluate_moves owner _ _ howner
      rw [evaluate]
      refine (evaluate_moves value _ _ hvalue).bind fun value => ?_
      split
      · contradiction
      · rename_i heq
        cases heq
        exact howner.bind fun _ =>
          (Moves.of_works (assignField_works _ _ _)).bind fun _ => .pure _
      · exact .of_works (failOfKind_adds _ _).works
    all_goals
      simp only [Node.targets, permits_append] at h
      exact (evaluate_moves value _ _ h.2).bind fun _ =>
        .of_works (failOfKind_adds _ _).works
  | .branch condition body alternate, _, _, h => by
    simp only [Node.targets, permits_append] at h
    obtain ⟨⟨hcondition, hbody⟩, halternate⟩ := h
    refine (evaluate_moves condition _ _ hcondition).bind fun condition =>
      (Moves.of_works (truth_adds condition).works).bind fun holds => ?_
    split
    · exact (evaluateBlock_moves body _ _ hbody).bind fun _ => .pure _
    · exact (evaluateBlock_moves alternate _ _ halternate).bind fun _ => .pure _
  | .loop target iterable body, _, _, h => by
    obtain ⟨hiterable, hbody⟩ := permits_loop h
    exact .inNewScope ((evaluate_moves iterable _ _ hiterable).bind fun iterable =>
      (loopOver_moves (evaluateBlock_moves body _ _ hbody) target iterable).bind fun _ => .pure _)
  | .name _, _, _, _ => .ofEnvironment _
  | .member owner property false, _, _, h => by
    simp only [Node.targets, permits_append] at h
    exact (evaluate_moves owner _ _ h.1).bind fun _ =>
      .of_works (memberByLabel_adds _ _).works
  | .member owner property true, _, _, h => by
    simp only [Node.targets, permits_append] at h
    obtain ⟨howner, hproperty⟩ := h
    have howner := evaluate_moves owner _ _ howner
    cases property
    case slice start stop step =>
      simp only [Node.targets, permits_append] at hproperty
      obtain ⟨⟨hstart, hstop⟩, hstep⟩ := hproperty
      refine howner.bind fun owner => ?_
      split
      · exact (evaluateBound_moves start _ _ hstart).bind fun _ =>
          (evaluateBound_moves stop _ _ hstop).bind fun _ =>
            (evaluateBound_moves step _ _ hstep).bind fun _ =>
              .of_works (slice_adds _ _ _ _).works
      · exact .fail _
    all_goals exact howner.bind fun _ => (evaluate_moves _ _ _ hproperty).bind fun _ =>
      .of_works (member_adds _ _).works
  | .call callee args, _, _, h => by
    simp only [Node.targets, permits_append] at h
    exact (evaluateArguments_moves args _ _ h.2).bind fun _ =>
      (Moves.of_works (bundled_adds _ _).works).bind fun _ =>
        (evaluate_moves callee _ _ h.1).bind fun _ => .of_works (callValue_adds _ _).works
  | .number n, _, _, _ => .of_works (ofNumber_adds n).works
  | .text _, _, _, _ => .pure _
  | .bool _, _, _, _ => .pure _
  | .null, _, _, _ => .pure _
  | .array items, _, _, h => by
    simp only [Node.targets] at h
    exact (evaluateAll_moves items _ _ h).bind fun _ => .pure _
  | .tuple items, _, _, h => by
    simp only [Node.targets] at h
    exact (evaluateAll_moves items _ _ h).bind fun _ => .pure _
  | .object pairs, _, _, h => by
    simp only [Node.targets] at h
    exact (evaluatePairs_moves pairs _ _ h).bind fun _ =>
      .of_works (newLabelled_adds _ _).works
  | .binary operator left right, _, _, h => by
    simp only [Node.targets, permits_append] at h
    have hright := evaluate_moves right _ _ h.2
    refine (evaluate_moves left _ _ h.1).bind fun left => ?_
    split
    · refine (Moves.of_works (truth_adds left).works).bind fun holds => ?_
      split
      · exact hright
      · exact .pure _
    · refine (Moves.of_works (truth_adds left).works).bind fun holds => ?_
      split
      · exact .pure _
      · exact hright
    · exact hright.bind fun _ => .of_works (applyBinary_adds _ _ _).works
  | .filter operand applied, _, _, h => by
    simp only [Node.targets, permits_append] at h
    obtain ⟨hoperand, happlied⟩ := h
    have hoperand := evaluate_moves operand _ _ hoperand
    cases applied
    case name name =>
      exact hoperand.bind fun _ => .of_works (applyFilter_adds _ _ _).works
    case call callee args =>
      simp only [Node.targets, permits_append] at happlied
      cases callee
      case name name =>
        exact hoperand.bind fun _ => (evaluateArguments_moves args _ _ happlied.2).bind fun _ =>
          (Moves.of_works (bundled_adds _ _).works).bind fun _ =>
            .of_works (applyFilter_adds _ _ _).works
      all_goals exact hoperand.bind fun _ => .of_works (failOfKind_adds _ _).works
    all_goals exact hoperand.bind fun _ => .of_works (failOfKind_adds _ _).works
  | .test operand negate predicate args, _, _, h => by
    simp only [Node.targets, permits_append] at h
    obtain ⟨⟨hoperand, _⟩, hargs⟩ := h
    exact (evaluate_moves operand _ _ hoperand).bind fun _ => (findTest_moves _).bind fun _ =>
      (evaluateArguments_moves args _ _ hargs).bind fun _ =>
        (Moves.of_works (bundled_adds _ _).works).bind fun _ =>
          (Moves.of_works (applyTest_adds _ _ _).works).bind fun _ => .pure _
  | .unary operator argument, _, _, h => by
    simp only [Node.targets] at h
    exact (evaluate_moves argument _ _ h).bind fun _ => .of_works (applyUnary_adds _ _).works
  | .slice _ _ _, _, _, _ => .fail _
  | .keyword _ _, _, _, _ => .fail _
  | .ternary condition whenTrue whenFalse, _, _, h => by
    simp only [Node.targets, permits_append] at h
    obtain ⟨⟨hcondition, htrue⟩, hfalse⟩ := h
    refine (evaluate_moves condition _ _ hcondition).bind fun condition =>
      (Moves.of_works (truth_adds condition).works).bind fun holds => ?_
    split
    · exact evaluate_moves whenTrue _ _ htrue
    · exact evaluate_moves whenFalse _ _ hfalse
  | .bare kind, _, _, _ => .of_works (failOfKind_adds _ _).works

theorem evaluateBlock_moves : ∀ (body : List Node) (here anywhere : String → Prop),
    Permits here anywhere (fun looped => Node.targetsOfAll looped body) →
    Moves here anywhere (evaluateBlock body)
  | [], _, _, _ => .pure _
  | statement :: rest, _, _, h => by
    simp only [Node.targetsOfAll, permits_append] at h
    refine (evaluate_moves statement _ _ h.1).bind fun value =>
      (contribution_moves statement value).bind fun text =>
        (evaluateBlock_moves rest _ _ h.2).bind fun texts => ?_
    split
    · exact .pure _
    · exact .fail _

theorem evaluateAll_moves : ∀ (items : List Node) (here anywhere : String → Prop),
    Permits here anywhere (fun looped => Node.targetsOfAll looped items) →
    Moves here anywhere (evaluateAll items)
  | [], _, _, _ => .pure _
  | item :: rest, _, _, h => by
    simp only [Node.targetsOfAll, permits_append] at h
    exact (evaluate_moves item _ _ h.1).bind fun _ =>
      (evaluateAll_moves rest _ _ h.2).bind fun _ => .pure _

theorem evaluateArguments_moves : ∀ (args : List Node) (here anywhere : String → Prop),
    Permits here anywhere (fun looped => Node.targetsOfAll looped args) →
    Moves here anywhere (evaluateArguments args)
  | [], _, _, _ => .pure _
  | arg :: rest, _, _, h => by
    simp only [Node.targetsOfAll, permits_append] at h
    have hrest := evaluateArguments_moves rest _ _ h.2
    cases arg
    case keyword key value =>
      simp only [Node.targets, permits_append] at h
      refine (evaluate_moves value _ _ h.1.2).bind fun value => ?_
      split
      · exact hrest.bind fun _ => .pure _
      · exact .fail _
    all_goals exact (evaluate_moves _ _ _ h.1).bind fun _ => hrest.bind fun _ => .pure _

theorem evaluatePairs_moves : ∀ (pairs : List (Node × Node)) (here anywhere : String → Prop),
    Permits here anywhere (fun looped => Node.targetsOfPairs looped pairs) →
    Moves here anywhere (evaluatePairs pairs)
  | [], _, _, _ => .pure _
  | (key, value) :: rest, here, anywhere, h => by
    simp only [Node.targetsOfPairs, permits_append] at h
    obtain ⟨⟨hkey, hvalue⟩, hrest⟩ := h
    have hboth : ∀ label : Label, Moves here anywhere (do
        let value ← evaluate value
        let fields ← evaluatePairs rest
        pure ((label, value) :: fields)) := fun _ =>
      (evaluate_moves value _ _ hvalue).bind fun _ =>
        (evaluatePairs_moves rest _ _ hrest).bind fun _ => .pure _
    refine (evaluate_moves key _ _ hkey).bind fun key => ?_
    split
    · exact hboth _
    · exact hboth _
    · exact .fail _

theorem evaluateBound_moves : ∀ (part : Option Node) (here anywhere : String → Prop),
    Permits here anywhere (fun looped => Node.targetsOfPart looped part) →
    Moves here anywhere (evaluateBound part)
  | none, _, _, _ => .pure _
  | some node, _, _, h => by
    simp only [Node.targetsOfPart] at h
    exact (evaluate_moves node _ _ h).bind fun _ => .of_works (sliceBound_adds _).works

end

/-! ## The frame of a tree -/

/-- What evaluating a tree leaves as it was, in the innermost scope and in those around it. -/
structure Frame (node : Node) (before after : Environment) : Prop where
  /-- An expression changes no binding. -/
  expression : node.isExpression → after = before
  /-- The scopes around the innermost one keep their names. -/
  outer : after.outer.map Scope.names = before.outer.map Scope.names
  /-- No name is removed from the innermost scope. -/
  kept : ∀ name ∈ before.inner.names, name ∈ after.inner.names
  /-- The names that are new there are set outside of loops. -/
  added : ∀ name ∈ after.inner.names, name ∈ before.inner.names ∨ name ∈ node.targets false
  /-- A loop adds no name to any scope. -/
  loop : node.isLoop → after.scopes.map Scope.names = before.scopes.map Scope.names
  /-- A name that no `set` statement is about keeps its binding in every scope. -/
  bound : ∀ name, (∀ looped, name ∉ node.targets looped) →
    after.scopes.map (·.bindings.get? name) = before.scopes.map (·.bindings.get? name)

/-- Whatever comes of evaluating a tree, it stays within the frame of that tree. -/
theorem evaluate_frame (node : Node) (context : Context) (state : State) :
    Frame node state.environment (evaluate node context state).2.environment := by
  have hpermits : Permits (· ∈ node.targets false)
      (fun name => ∃ looped, name ∈ node.targets looped)
      (fun looped => node.targets looped) :=
    ⟨fun _ h => ⟨h, false, h⟩, fun _ h => ⟨true, h⟩⟩
  have hreach := evaluate_moves node _ _ hpermits context state
  obtain ⟨houter, hkept, hadded⟩ := hreach.names
  refine ⟨fun hexpression => ?_, houter, hkept, hadded, fun hloop => ?_, fun name h => ?_⟩
  · have hnone := fun looped => Node.targets_of_isExpression looped node hexpression
    exact reach_eq_of_forall_not hreach (by simp [hnone]) (by simp [hnone])
  · exact hreach.names_of_forall_not (by simp [Node.targets_of_isLoop hloop])
  · exact hreach.get? (h false) fun ⟨looped, hmem⟩ => h looped hmem

end Eval

end TextTemplate
