import TextTemplate.Proofs.Syntax.Ending
import TextTemplate.Proofs.Syntax.Leaves

/-!
# The parser keeps accounts

Of the names and literals of a template, its tree holds each one, in the number in which it is
written, but for those that a subscript without a colon loses. Behind `is`, a literal is a name.
-/

namespace TextTemplate

namespace Parse

open Node Token

variable {naming : Bool} {tokens rest : List Token} {found : List Leaf} {bound : Nat}

/-! ## Names of tests -/

/-- The operands that may be the name of a test. -/
def IsTestOperand : Node → Prop
  | .bool _ | .null | .name _ => True
  | _ => False

theorem isTestOperand_of_testName {node name : Node} (h : testName node = .ok name) :
    IsTestOperand node := by
  cases node <;> trivial

section Simple

variable {level : Precedence} {step : Step}

theorem operatorStep_grown {node node' : Node}
    (h : operatorStep expression level node tokens = .ok (some (node', rest))) :
    ¬ IsTestOperand node' := by
  cases tokens with
  | nil => cases h
  | cons token after =>
    simp only [operatorStep, binaryStep] at h
    split at h
    · obtain ⟨_, _, h⟩ := Except.bind_eq_ok.mp h
      cases h
      exact id
    · cases h

theorem memberStep_grown {node node' : Node}
    (h : memberStep expression node tokens = .ok (some (node', rest))) :
    ¬ IsTestOperand node' := by
  unfold memberStep at h
  split at h
  · obtain ⟨_, _, h⟩ := Except.bind_eq_ok.mp h
    cases h
    exact id
  · obtain ⟨_, _, h⟩ := Except.bind_eq_ok.mp h
    obtain ⟨_, _, h⟩ := Except.bind_eq_ok.mp h
    cases h
    exact id
  · obtain ⟨_, _, h⟩ := Except.bind_eq_ok.mp h
    cases h
    exact id
  · cases h

theorem filterStep_grown {node node' : Node}
    (h : filterStep expression node tokens = .ok (some (node', rest))) :
    ¬ IsTestOperand node' := by
  unfold filterStep at h
  split at h
  · obtain ⟨_, _, h⟩ := Except.bind_eq_ok.mp h
    dsimp only at h
    split at h
    · obtain ⟨_, _, h⟩ := Except.bind_eq_ok.mp h
      cases h
      exact id
    · cases h
      exact id
  · cases h

theorem testStep_grown {node node' : Node}
    (h : testStep expression node tokens = .ok (some (node', rest))) :
    ¬ IsTestOperand node' := by
  unfold testStep at h
  split at h
  · obtain ⟨_, _, h⟩ := Except.bind_eq_ok.mp h
    obtain ⟨_, _, h⟩ := Except.bind_eq_ok.mp h
    split at h
    · obtain ⟨_, _, h⟩ := Except.bind_eq_ok.mp h
      cases h
      exact id
    · cases h
      exact id
  · cases h

/-- What has grown is not the name of a test. -/
theorem not_isTestOperand_of_step {node node' : Node}
    (hstep : stepAt? expression level = some step)
    (h : step node tokens = .ok (some (node', rest))) : ¬ IsTestOperand node' := by
  cases level <;> simp only [stepAt?, Option.some.injEq, reduceCtorEq] at hstep <;> subst hstep
  case member => exact memberStep_grown h
  case filter => exact filterStep_grown h
  case test => exact testStep_grown h
  all_goals exact operatorStep_grown h

theorem extend_isTestOperand (hstep : stepAt? expression level = some step) {node node' : Node}
    {rounds : Nat} (h : extend step rounds node tokens = .ok (node', rest))
    (hnode : IsTestOperand node') : node = node' ∧ tokens = rest := by
  induction rounds generalizing node tokens with
  | zero =>
    cases h
    exact ⟨rfl, rfl⟩
  | succ rounds ih =>
    obtain ⟨grown, hgrown, h⟩ := Except.bind_eq_ok.mp h
    cases grown with
    | none =>
      cases h
      exact ⟨rfl, rfl⟩
    | some grown =>
      obtain ⟨rfl, -⟩ := ih h
      exact absurd hnode (not_isTestOperand_of_step hstep hgrown)

theorem unary_isTestOperand {isOperator : Token → Bool} {operand : Parse Node} {node : Node}
    (h : unary isOperator operand tokens = .ok (node, rest)) (hnode : IsTestOperand node) :
    operand tokens = .ok (node, rest) := by
  cases tokens with
  | nil => exact h
  | cons token after =>
    simp only [unary] at h
    split at h
    · obtain ⟨_, _, h⟩ := Except.bind_eq_ok.mp h
      cases h
      exact hnode.elim
    · exact h

/-- What may be the name of a test is a primary expression. -/
theorem primary_of_isTestOperand {node : Node}
    (h : atLevel expression level tokens = .ok (node, rest)) (hnode : IsTestOperand node) :
    primary expression tokens = .ok (node, rest) := by
  induction level using Precedence.looser_induction with
  | hprimary => exact h
  | hstep level hne ih =>
    cases hs : stepAt? expression level with
    | some step =>
      rw [atLevel_eq_extend hs] at h
      obtain ⟨⟨first, after⟩, hfirst, h⟩ := Except.bind_eq_ok.mp h
      obtain ⟨rfl, rfl⟩ := extend_isTestOperand hs h hnode
      exact ih hfirst
    | none =>
      cases level <;> simp only [stepAt?, reduceCtorEq] at hs
      case ternary =>
        obtain ⟨⟨first, after⟩, hfirst, h⟩ := Except.bind_eq_ok.mp h
        dsimp only at h
        split at h
        · obtain ⟨_, _, h⟩ := Except.bind_eq_ok.mp h
          obtain ⟨_, _, h⟩ := Except.bind_eq_ok.mp h
          obtain ⟨_, _, h⟩ := Except.bind_eq_ok.mp h
          cases h
          exact hnode.elim
        · cases h
          exact ih hfirst
      case not => exact ih (unary_isTestOperand h hnode)
      case sign => exact ih (unary_isTestOperand h hnode)
      case primary => exact absurd rfl hne

theorem sequence_isTestOperand {node : Node}
    (h : sequence expression tokens = .ok (node, rest)) (hnode : IsTestOperand node) :
    primary expression tokens = .ok (node, rest) := by
  obtain ⟨⟨first, after⟩, hfirst, h⟩ := Except.bind_eq_ok.mp h
  obtain ⟨⟨others, after'⟩, hothers, h⟩ := Except.bind_eq_ok.mp h
  cases others with
  | cons second others =>
    cases h
    exact hnode.elim
  | nil =>
    cases h
    have hrest : after = rest := by
      cases hrounds : after.length with
      | zero =>
        rw [hrounds] at hothers
        cases hothers
        rfl
      | succ rounds =>
        rw [hrounds] at hothers
        simp only [afterCommas] at hothers
        split at hothers
        · obtain ⟨_, _, h⟩ := Except.bind_eq_ok.mp hothers
          obtain ⟨_, _, h⟩ := Except.bind_eq_ok.mp h
          cases h
        · cases hothers
          rfl
    rw [expression_eq] at hfirst
    have hfirst : atLevel expression .ternary tokens = .ok (_, after) := hfirst
    exact hrest ▸ primary_of_isTestOperand hfirst hnode

end Simple

/-- The name of a test keeps its leaf, which is a name, however many parentheses it stands in. -/
theorem testName_accounts {node name : Node} (h : primary expression tokens = .ok (node, rest))
    (hname : testName node = .ok name) : Accounts true tokens name.leaves rest := by
  induction hn : tokens.length using Nat.strongRecOn generalizing tokens rest with
  | ind n ih =>
    cases tokens with
    | nil => cases h
    | cons token tokens =>
      obtain ⟨kind, value⟩ := token
      simp only [primary] at h
      split at h
      case h_1 =>
        obtain ⟨_, _, h⟩ := Except.bind_eq_ok.mp h
        cases h
        cases hname
      case h_2 =>
        cases h
        cases hname
      case h_3 =>
        cases h
        cases hname
        exact .leaf rfl
      case h_4 =>
        cases h
        cases hname
        exact .leaf rfl
      case h_5 =>
        cases h
        cases hname
        exact .leaf rfl
      case h_6 =>
        obtain ⟨⟨inner, after⟩, hinner, h⟩ := Except.bind_eq_ok.mp h
        obtain ⟨after', hclose, h⟩ := Except.bind_eq_ok.mp h
        cases h
        have hprimary := sequence_isTestOperand hinner (isTestOperand_of_testName hname)
        have haccounts := ih tokens.length (by rw [← hn]; exact Nat.lt_succ_self _) hprimary rfl
        have hall := haccounts.skip (expect_accounts hclose rfl)
        exact ⟨Nat.le_succ_of_le hall.length_le, hall.count_eq⟩
      case h_7 =>
        obtain ⟨_, _, h⟩ := Except.bind_eq_ok.mp h
        cases h
        cases hname
      case h_8 =>
        obtain ⟨_, _, h⟩ := Except.bind_eq_ok.mp h
        cases h
        cases hname
      case h_9 => cases h

/-! ## Levels of precedence -/

section Levels

variable (hexpression : KeepsAccounts bound Node.leaves expression)
include hexpression

theorem nameOr_accounts (error : String → ParseError) :
    KeepsAccounts (bound + 1) Node.leaves (nameOr error expression) := by
  intro tokens node rest hlength h
  obtain ⟨⟨first, after⟩, hfirst, h⟩ := Except.bind_eq_ok.mp h
  dsimp only at h
  split at h
  · cases h
    exact primary_accounts hexpression hlength hfirst
  · cases h

theorem memberStep_accounts : StepKeepsAccounts (bound + 1) (memberStep expression) := by
  intro node tokens node' rest hlength h
  unfold memberStep at h
  split at h
  · obtain ⟨⟨property, after⟩, hproperty, h⟩ := Except.bind_eq_ok.mp h
    cases h
    rw [List.length_cons] at hlength
    have hproperty := nameOr_accounts hexpression _ (by omega) hproperty
    exact ⟨property.leaves, rfl, .behind rfl hproperty⟩
  · obtain ⟨⟨property, after⟩, hproperty, h⟩ := Except.bind_eq_ok.mp h
    obtain ⟨after', hclose, h⟩ := Except.bind_eq_ok.mp h
    cases h
    rw [List.length_cons] at hlength
    exact ⟨property.leaves, rfl, (subscript_accounts hexpression (by omega) hproperty).skip
      (expect_accounts hclose rfl)⟩
  · obtain ⟨⟨args, after⟩, hargs, h⟩ := Except.bind_eq_ok.mp h
    cases h
    exact ⟨leavesOfAll args, rfl, arguments_accounts hexpression hlength hargs⟩
  · cases h

theorem filterStep_accounts : StepKeepsAccounts (bound + 1) (filterStep expression) := by
  intro node tokens node' rest hlength h
  unfold filterStep at h
  split at h
  · obtain ⟨⟨name, after⟩, hname, h⟩ := Except.bind_eq_ok.mp h
    rw [List.length_cons] at hlength
    have hname := nameOr_accounts hexpression _ (by omega) hname
    dsimp only at h
    split at h
    · obtain ⟨⟨args, after'⟩, hargs, h⟩ := Except.bind_eq_ok.mp h
      cases h
      have hcall := called_accounts hexpression hname (by omega) hargs
      exact ⟨name.leaves ++ leavesOfAll args, rfl, .behind rfl hcall⟩
    · cases h
      exact ⟨name.leaves, rfl, .behind rfl hname⟩
  · cases h

omit hexpression in
/-- Behind `is` the name of a test is due, also behind the `not` that may follow. -/
theorem is_accounts {value : String} {after : List Token}
    (h : Accounts true (if (match tokens with | [] => false | token :: _ => isNot token) then
      tokens.drop 1 else tokens) found after) :
    Accounts false (⟨.is, value⟩ :: tokens) found after := by
  suffices h : Accounts true tokens found after from ⟨Nat.le_succ_of_le h.length_le, h.count_eq⟩
  cases tokens with
  | nil => exact h
  | cons token rest =>
    cases hnot : isNot token with
    | false => simpa [hnot] using h
    | true =>
      simp only [hnot, ↓reduceIte, List.drop_one, List.tail_cons] at h
      have hkind : token.kind = .unaryOperator := by
        simp only [isNot, Bool.and_eq_true, beq_iff_eq] at hnot
        exact hnot.1
      have hleaf : token.leaf? true = none := by simp [Token.leaf?, hkind]
      have hnames : namesTest true token = true := by simp [namesTest, hnot]
      refine ⟨Nat.le_succ_of_le h.length_le, fun x => ?_⟩
      have hcount := h.count_eq x
      simpa [leavesFrom, allLost, hleaf, hnames, hkind] using hcount

theorem testStep_accounts : StepKeepsAccounts (bound + 1) (testStep expression) := by
  intro node tokens node' rest hlength h
  unfold testStep at h
  split at h
  · rename_i value tokens
    obtain ⟨⟨operand, after⟩, hoperand, h⟩ := Except.bind_eq_ok.mp h
    obtain ⟨name, hname, h⟩ := Except.bind_eq_ok.mp h
    have hname : Accounts false (⟨.is, value⟩ :: tokens) name.leaves after :=
      is_accounts (testName_accounts hoperand hname)
    dsimp only at h
    split at h
    · obtain ⟨⟨args, after'⟩, hargs, h⟩ := Except.bind_eq_ok.mp h
      cases h
      exact ⟨name.leaves ++ leavesOfAll args, rfl,
        called_accounts hexpression hname hlength hargs⟩
    · cases h
      exact ⟨name.leaves ++ leavesOfAll [], rfl, hname.trans (.refl _)⟩
  · cases h

omit hexpression in
theorem operatorStep_accounts {level : Precedence} {operand : Parse Node}
    (hoperand : KeepsAccounts (bound + 1) Node.leaves operand)
    (hlevel : ∀ kind : TokenKind, kind.continues? = some level → isMark kind) :
    StepKeepsAccounts (bound + 1)
      (binaryStep (fun kind => kind.continues? == some level) operand) := by
  intro node tokens node' rest hlength h
  cases tokens with
  | nil => cases h
  | cons token tokens =>
    rw [List.length_cons] at hlength
    simp only [binaryStep] at h
    split at h
    · rename_i hkind
      obtain ⟨⟨right, after⟩, hright, h⟩ := Except.bind_eq_ok.mp h
      cases h
      exact ⟨right.leaves, rfl, .behind (hlevel _ (beq_iff_eq.mp hkind))
        (hoperand (by omega) hright)⟩
    · cases h

omit hexpression in
theorem unary_accounts {isOperator : Token → Bool} {operand : Parse Node}
    (hoperand : KeepsAccounts bound Node.leaves operand)
    (hoperator : ∀ token, isOperator token → token.kind = .unaryOperator) :
    KeepsAccounts bound Node.leaves (unary isOperator operand) := by
  intro tokens node rest hlength h
  induction tokens generalizing node with
  | nil => exact hoperand hlength h
  | cons token tokens ih =>
    simp only [unary] at h
    split at h
    · rename_i hkind
      obtain ⟨⟨argument, after⟩, hargument, h⟩ := Except.bind_eq_ok.mp h
      cases h
      rw [List.length_cons] at hlength
      have hargument := ih (by omega) hargument
      exact .behind (by rw [hoperator _ hkind]; rfl) hargument
    · exact hoperand hlength h

theorem stepAt?_accounts {level : Precedence} {step : Step}
    (hoperand : KeepsAccounts (bound + 1) Node.leaves (atLevel expression level.tighter))
    (hstep : stepAt? expression level = some step) : StepKeepsAccounts (bound + 1) step := by
  cases level <;> simp only [stepAt?, Option.some.injEq, reduceCtorEq] at hstep <;> subst hstep
  case member => exact memberStep_accounts hexpression
  case filter => exact filterStep_accounts hexpression
  case test => exact testStep_accounts hexpression
  all_goals exact operatorStep_accounts hoperand (by intro kind; cases kind <;> decide)

theorem atLevel_accounts (level : Precedence) :
    KeepsAccounts (bound + 1) Node.leaves (atLevel expression level) := by
  induction level using Precedence.looser_induction with
  | hprimary => exact primary_accounts hexpression
  | hstep level hne ih =>
    intro tokens node rest hlength h
    cases hs : stepAt? expression level with
    | some step =>
      rw [atLevel_eq_extend hs] at h
      obtain ⟨⟨first, after⟩, hfirst, h⟩ := Except.bind_eq_ok.mp h
      have hfirst := ih hlength hfirst
      obtain ⟨more, hleaves, hmore⟩ := extend_accounts (stepAt?_accounts hexpression ih hs)
        (Nat.lt_of_le_of_lt hfirst.length_le hlength) h
      rw [hleaves]
      exact hfirst.trans hmore
    | none =>
      cases level <;> simp only [stepAt?, reduceCtorEq] at hs
      case ternary =>
        obtain ⟨⟨whenTrue, after⟩, htrue, h⟩ := Except.bind_eq_ok.mp h
        have htrue := ih hlength htrue
        have hafter := Nat.lt_of_le_of_lt htrue.length_le hlength
        dsimp only at h
        split at h
        · obtain ⟨⟨condition, after'⟩, hcondition, h⟩ := Except.bind_eq_ok.mp h
          obtain ⟨behind, helse, h⟩ := Except.bind_eq_ok.mp h
          obtain ⟨⟨whenFalse, rest'⟩, hfalse, h⟩ := Except.bind_eq_ok.mp h
          cases h
          rw [List.length_cons] at hafter
          have hcondition := htrue.trans (.behind rfl (ih (by omega) hcondition))
          have helse := hcondition.skip (expect_accounts helse rfl)
          exact helse.trans (ih (Nat.lt_of_le_of_lt helse.length_le hlength) hfalse)
        · cases h
          exact htrue
      case not => exact unary_accounts ih isNot_kind hlength h
      case sign => exact unary_accounts ih isSign_kind hlength h
      case primary => exact absurd rfl hne

end Levels

/-- Expressions keep accounts. -/
theorem expression_accounts (bound : Nat) : KeepsAccounts bound Node.leaves expression := by
  induction bound with
  | zero => exact fun hlength _ => absurd hlength (Nat.not_lt_zero _)
  | succ bound ih =>
    intro tokens node rest hlength h
    rw [expression_eq] at h
    exact atLevel_accounts ih .ternary hlength h

theorem accounts_of_expression {node : Node} (h : expression tokens = .ok (node, rest)) :
    Accounts false tokens node.leaves rest :=
  expression_accounts _ (Nat.lt_succ_self _) h

/-! ## Statements -/

theorem setWithin_accounts {rounds : Nat} {node : Node}
    (h : setWithin rounds tokens = .ok (node, rest)) : Accounts false tokens node.leaves rest := by
  induction rounds generalizing tokens node with
  | zero => cases h
  | succ rounds ih =>
    obtain ⟨⟨target, after⟩, htarget, h⟩ := Except.bind_eq_ok.mp h
    have htarget := accounts_of_expression htarget
    dsimp only at h
    split at h
    · obtain ⟨⟨value, after'⟩, hvalue, h⟩ := Except.bind_eq_ok.mp h
      cases h
      exact htarget.trans (.behind rfl (ih hvalue))
    · cases h
      exact htarget

section Bodies

variable {statement : Parse Node} (hstatement : KeepsAccounts bound Node.leaves statement)
include hstatement

theorem blockWithin_accounts {terminators : List TokenKind} {rounds : Nat} {body : List Node}
    (hlength : tokens.length < bound)
    (h : blockWithin terminators statement rounds tokens = .ok (body, rest)) :
    Accounts false tokens (leavesOfAll body) rest := by
  induction rounds generalizing tokens body with
  | zero => cases h
  | succ rounds ih =>
    simp only [blockWithin] at h
    split at h
    · cases h
      exact .refl _
    · split at h
      · cases h
      · obtain ⟨⟨first, after⟩, hfirst, h⟩ := Except.bind_eq_ok.mp h
        obtain ⟨⟨others, after'⟩, hothers, h⟩ := Except.bind_eq_ok.mp h
        cases h
        have hfirst := hstatement hlength hfirst
        exact hfirst.trans (ih (Nat.lt_of_le_of_lt hfirst.length_le hlength) hothers)

theorem ifWithin_accounts {rounds : Nat} {node : Node} (hlength : tokens.length < bound)
    (h : ifWithin statement rounds tokens = .ok (node, rest)) :
    Accounts false tokens node.leaves rest := by
  induction rounds generalizing tokens node with
  | zero => cases h
  | succ rounds ih =>
    obtain ⟨⟨condition, after⟩, hcondition, h⟩ := Except.bind_eq_ok.mp h
    obtain ⟨after', hclose, h⟩ := Except.bind_eq_ok.mp h
    obtain ⟨⟨body, behind⟩, hbody, h⟩ := Except.bind_eq_ok.mp h
    have hcondition := (accounts_of_expression hcondition).skip (expect_accounts hclose rfl)
    have hbody := hcondition.trans (blockWithin_accounts hstatement
      (Nat.lt_of_le_of_lt hcondition.length_le hlength) hbody)
    have hbehind := Nat.lt_of_le_of_lt hbody.length_le hlength
    dsimp only at h
    split at h
    · obtain ⟨⟨alternate, after''⟩, halternate, h⟩ := Except.bind_eq_ok.mp h
      cases h
      simp only [List.length_cons] at hbehind
      have halternate := ih (by omega) halternate
      have hall := hbody.trans (.behind rfl (.behind rfl (halternate.trans (.refl _))))
      exact hall
    · obtain ⟨after'', hclose, h⟩ := Except.bind_eq_ok.mp h
      obtain ⟨⟨alternate, behind'⟩, halternate, h⟩ := Except.bind_eq_ok.mp h
      cases h
      simp only [List.length_cons] at hbehind
      have hclose := expect_accounts hclose rfl
      have halternate := blockWithin_accounts hstatement
        (Nat.lt_of_le_of_lt hclose.length_le (by omega)) halternate
      exact hbody.trans (.behind rfl (.behind rfl (hclose.trans halternate)))
    · cases h
      exact hbody.trans (.refl _)

theorem forLoop_accounts : KeepsAccounts bound Node.leaves (forLoop statement) := by
  intro tokens node rest hlength h
  obtain ⟨⟨target, after⟩, htarget, h⟩ := Except.bind_eq_ok.mp h
  have htargets : KeepsAccounts (bound + 1) Node.leaves (sequence (primary expression)) :=
    sequence_accounts (primary_accounts (expression_accounts bound))
  have htarget := htargets (by omega) htarget
  cases target
  case name | tuple =>
    obtain ⟨after', hin, h⟩ := Except.bind_eq_ok.mp h
    obtain ⟨⟨iterable, behind⟩, hiterable, h⟩ := Except.bind_eq_ok.mp h
    obtain ⟨behind', hclose, h⟩ := Except.bind_eq_ok.mp h
    obtain ⟨⟨body, rest'⟩, hbody, h⟩ := Except.bind_eq_ok.mp h
    cases h
    have hin := htarget.skip (expect_accounts hin rfl)
    have hiterable := hin.trans (accounts_of_expression hiterable)
    have hclose := hiterable.skip (expect_accounts hclose rfl)
    exact hclose.trans (blockWithin_accounts hstatement
      (Nat.lt_of_le_of_lt hclose.length_le hlength) hbody)
  all_goals cases h

omit hstatement in
theorem closing_accounts {kind : TokenKind} {what : String}
    (h : closing kind what tokens = .ok rest) (hkind : isMark kind) :
    Accounts false tokens [] rest := by
  obtain ⟨after, hopen, h⟩ := Except.bind_eq_ok.mp h
  obtain ⟨after', hmark, h⟩ := Except.bind_eq_ok.mp h
  exact ((expect_accounts hopen rfl).skip (expect_accounts hmark hkind)).skip
    (expect_accounts h rfl)

theorem statementBody_accounts :
    KeepsAccounts (bound + 1) Node.leaves (statementBody statement) := by
  intro tokens node rest hlength h
  cases tokens with
  | nil => cases h
  | cons token tokens =>
    obtain ⟨kind, value⟩ := token
    rw [List.length_cons] at hlength
    simp only [statementBody] at h
    split at h
    · obtain ⟨⟨inner, after⟩, hinner, h⟩ := Except.bind_eq_ok.mp h
      obtain ⟨after', hclose, h⟩ := Except.bind_eq_ok.mp h
      cases h
      exact .behind rfl ((setWithin_accounts hinner).skip (expect_accounts hclose rfl))
    · obtain ⟨⟨inner, after⟩, hinner, h⟩ := Except.bind_eq_ok.mp h
      obtain ⟨after', hclose, h⟩ := Except.bind_eq_ok.mp h
      cases h
      exact .behind rfl ((ifWithin_accounts hstatement (by omega) hinner).skip
        (closing_accounts hclose rfl))
    · obtain ⟨⟨inner, after⟩, hinner, h⟩ := Except.bind_eq_ok.mp h
      obtain ⟨after', hclose, h⟩ := Except.bind_eq_ok.mp h
      cases h
      have hinner := forLoop_accounts hstatement (by omega) hinner
      exact .behind rfl (hinner.skip (closing_accounts hclose rfl))
    · cases h

theorem statementStep_accounts :
    KeepsAccounts (bound + 1) Node.leaves (statementStep statement) := by
  intro tokens node rest hlength h
  cases tokens with
  | nil => cases h
  | cons token tokens =>
    obtain ⟨kind, value⟩ := token
    rw [List.length_cons] at hlength
    simp only [statementStep] at h
    split at h
    · cases h
      exact .leaf rfl
    · exact .behind rfl (statementBody_accounts hstatement (by omega) h)
    · obtain ⟨⟨inner, after⟩, hinner, h⟩ := Except.bind_eq_ok.mp h
      obtain ⟨after', hclose, h⟩ := Except.bind_eq_ok.mp h
      cases h
      exact .behind rfl ((accounts_of_expression hinner).skip (expect_accounts hclose rfl))
    · cases h

end Bodies

/-- Statements keep accounts. -/
theorem statement_accounts (bound : Nat) : KeepsAccounts bound Node.leaves statement := by
  induction bound with
  | zero => exact fun hlength _ => absurd hlength (Nat.not_lt_zero _)
  | succ bound ih =>
    intro tokens node rest hlength h
    rw [statement_eq] at h
    exact statementStep_accounts ih hlength h

theorem statementsWithin_accounts {rounds : Nat} {body : List Node}
    (h : statementsWithin rounds tokens = .ok body) :
    Accounts false tokens (leavesOfAll body) [] := by
  induction rounds generalizing tokens body with
  | zero =>
    cases tokens with
    | nil =>
      cases h
      exact .refl _
    | cons token tokens => cases h
  | succ rounds ih =>
    cases tokens with
    | nil =>
      cases h
      exact .refl _
    | cons token tokens =>
      obtain ⟨⟨first, after⟩, hfirst, h⟩ := Except.bind_eq_ok.mp h
      obtain ⟨others, hothers, h⟩ := Except.bind_eq_ok.mp h
      cases h
      exact (statement_accounts _ (Nat.lt_succ_self _) hfirst).trans (ih hothers)

end Parse

/-- The names and literals of a template are those of its tree and those that are lost, in the
number in which they are written. So a tree holds all of them just if none is lost, which is to say
that only the first part of a subscript without a colon holds any. -/
theorem Node.leaves_of_ofTokens {tokens : List Token} {tree : Node}
    (h : Node.ofTokens tokens = .ok tree) :
    (Token.leavesIn tokens).Perm (tree.leaves ++ Parse.allLost tokens) ∧
      ((Token.leavesIn tokens).Perm tree.leaves ↔ Parse.allLost tokens = []) := by
  obtain ⟨body, hbody, rfl⟩ : ∃ body,
      Parse.statementsWithin tokens.length tokens = .ok body ∧ .program body = tree := by
    unfold Node.ofTokens at h
    cases hbody : Parse.statementsWithin tokens.length tokens with
    | error e => rw [hbody] at h; cases h
    | ok body => rw [hbody] at h; exact ⟨body, rfl, Except.ok.inj h⟩
  have hperm : (Token.leavesIn tokens).Perm
      ((Node.program body).leaves ++ Parse.allLost tokens) := by
    refine List.perm_iff_count.mpr fun x => ?_
    have hcount := (Parse.statementsWithin_accounts hbody).count_eq x
    simpa [Token.leavesIn, Token.leavesFrom, Parse.allLost, Node.leaves] using hcount
  refine ⟨hperm, fun hkept => ?_, fun hlost => ?_⟩
  · have hlength := (hperm.symm.trans hkept).length_eq
    rw [List.length_append] at hlength
    exact List.eq_nil_of_length_eq_zero (by omega)
  · rwa [hlost, List.append_nil] at hperm

/-- In `a[1 2] is not none` the second part of the subscript is lost. -/
theorem Node.leaves_of_ofTokens_lost :
    let tokens : List Token := [⟨.openExpression, "\x7b\x7b"⟩, ⟨.identifier, "a"⟩,
      ⟨.openSquareBracket, "["⟩, ⟨.numericLiteral, "1"⟩, ⟨.numericLiteral, "2"⟩,
      ⟨.closeSquareBracket, "]"⟩, ⟨.is, "is"⟩, ⟨.unaryOperator, "not"⟩, ⟨.nullLiteral, "none"⟩,
      ⟨.closeExpression, "\x7d\x7d"⟩]
    let tree : Node := .program
      [.test (.member (.name "a") (.number (.int 1)) true) true (.name "none") []]
    Node.ofTokens tokens = .ok tree ∧ Parse.allLost tokens = [.number 2] ∧
      (Token.leavesIn tokens).Perm (tree.leaves ++ Parse.allLost tokens) ∧
      ¬ (Token.leavesIn tokens).Perm tree.leaves := by
  intro tokens tree
  have htree : Node.ofTokens tokens = .ok tree := by rfl
  have hlost : Parse.allLost tokens = [.number 2] := by rfl
  obtain ⟨hperm, hkept⟩ := leaves_of_ofTokens htree
  refine ⟨htree, hlost, hperm, fun h => ?_⟩
  rw [hkept, hlost] at h
  cases h

end TextTemplate
