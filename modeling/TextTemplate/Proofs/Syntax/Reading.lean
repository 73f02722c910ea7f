import TextTemplate.Proofs.Syntax.Grammar
import TextTemplate.Proofs.Syntax.Printer

/-!
# Levels of precedence and their parsers

Each level of precedence has a parser. A parser stops in front of a token that only continues looser
levels, so what one level reads every looser one reads too, and a level whose operands are grouped
from the left goes on from what it has read so far.
-/

namespace TextTemplate.Parse

/-- One round of growing a node. -/
abbrev Step := Node → List Token → Except ParseError (Option (Node × List Token))

/-- The parser of a level. -/
def atLevel (expression : Parse Node) : Precedence → Parse Node
  | .ternary => ternary expression
  | .or => disjunction expression
  | .and => conjunction expression
  | .not => unary isNot (comparison expression)
  | .comparison => comparison expression
  | .additive => additive expression
  | .multiplicative => multiplicative expression
  | .sign => unary isSign (tests expression)
  | .test => tests expression
  | .filter => filters expression
  | .member => callMember expression
  | .primary => primary expression

/-- How a binary operator of a level continues its left operand. -/
def operatorStep (expression : Parse Node) (level : Precedence) : Step :=
  binaryStep (fun kind => kind.continues? == some level) (atLevel expression level.tighter)

/-- How a node grows at a level whose operands are grouped from the left. -/
def stepAt? (expression : Parse Node) : Precedence → Option Step
  | .or => some (operatorStep expression .or)
  | .and => some (operatorStep expression .and)
  | .comparison => some (operatorStep expression .comparison)
  | .additive => some (operatorStep expression .additive)
  | .multiplicative => some (operatorStep expression .multiplicative)
  | .test => some (testStep expression)
  | .filter => some (filterStep expression)
  | .member => some (memberStep expression)
  | .ternary | .not | .sign | .primary => none

/-- Nothing of the level or of a tighter one goes on with these tokens. -/
def Stops (level : Precedence) : List Token → Prop
  | [] => True
  | token :: _ => ∀ next, token.kind.continues? = some next → next.rank < level.rank

/-- In front of what may follow, a parser reads the tokens as `a`. -/
def Reads {α : Type} (p : Parse α) (follows : List Token → Prop) (tokens : List Token) (a : α) :
    Prop :=
  ∀ rest, follows rest → p (tokens ++ rest) = .ok (a, rest)

/-- In front of what may follow, a parser has grown `node` from the tokens, and has rounds left for
all the tokens to come. -/
def Grows (p : Parse Node) (step : Step) (follows : List Token → Prop) (tokens : List Token)
    (node : Node) : Prop :=
  ∀ rest, follows rest →
    ∃ rounds, rest.length ≤ rounds ∧ p (tokens ++ rest) = extend step rounds node rest

variable {expression : Parse Node} {level : Precedence} {step : Step} {tokens : List Token}
  {node : Node}

/-! ## Stopping -/

theorem Stops.mono {level' : Precedence} {rest : List Token} (h : Stops level rest)
    (hle : level.rank ≤ level'.rank) : Stops level' rest := by
  cases rest with
  | nil => trivial
  | cons token rest => exact fun next hnext => Nat.lt_of_lt_of_le (h next hnext) hle

theorem Stops.tighter {rest : List Token} (h : Stops level rest) : Stops level.tighter rest := by
  by_cases hp : level = .primary
  · subst hp
    exact h
  · exact h.mono (by rw [Precedence.rank_tighter hp]; omega)

/-- A token of a kind that continues no operand stops every level. -/
theorem stops_of_continues?_eq_none {token : Token} {rest : List Token}
    (h : token.kind.continues? = none) : Stops level (token :: rest) := by
  intro next hnext
  rw [h] at hnext
  cases hnext

theorem not_nextIs_of_stops {kind : TokenKind} {next : Precedence} {rest : List Token}
    (h : Stops level rest) (hkind : kind.continues? = some next) (hle : level.rank ≤ next.rank) :
    nextIs kind rest = false := by
  cases rest with
  | nil => rfl
  | cons token rest =>
    simp only [nextIs, beq_eq_false_iff_ne]
    rintro rfl
    have := h next hkind
    omega

/-- Where a level stops, nothing grows. -/
theorem stepAt?_stops {rest : List Token} (hstep : stepAt? expression level = some step)
    (h : Stops level rest) : step node rest = .ok none := by
  have hoperator : ∀ level, Stops level rest →
      operatorStep expression level node rest = .ok none := by
    intro level h
    cases rest with
    | nil => rfl
    | cons token rest =>
      have hne : (token.kind.continues? == some level) = false := by
        rw [beq_eq_false_iff_ne]
        exact fun heq => Nat.lt_irrefl _ (h level heq)
      simp [operatorStep, binaryStep, hne]
  cases level <;> simp only [stepAt?, Option.some.injEq, reduceCtorEq] at hstep <;> subst hstep
  case test =>
    unfold testStep
    split
    · exact absurd (h .test rfl) (Nat.lt_irrefl _)
    · rfl
  case filter =>
    unfold filterStep
    split
    · exact absurd (h .filter rfl) (Nat.lt_irrefl _)
    · rfl
  case member =>
    unfold memberStep
    split
    · exact absurd (h .member rfl) (Nat.lt_irrefl _)
    · exact absurd (h .member rfl) (Nat.lt_irrefl _)
    · exact absurd (h .member rfl) (Nat.lt_irrefl _)
    · rfl
  all_goals exact hoperator _ h

theorem extend_of_stop {rounds : Nat} {rest : List Token} (h : step node rest = .ok none) :
    extend step rounds node rest = .ok (node, rest) := by
  cases rounds with
  | zero => rfl
  | succ rounds => simp [extend, h, bind, Except.bind]

/-! ## Growing -/

theorem binary_eq_operatorStep (level : Precedence) {isOperator : TokenKind → Bool}
    {operand : Parse Node}
    (hop : ∀ kind : TokenKind, isOperator kind = (kind.continues? == some level)) :
    binary isOperator operand =
      binary (fun kind => kind.continues? == some level) operand := by
  rw [show isOperator = fun kind => kind.continues? == some level from funext hop]

/-- A level whose operands are grouped from the left reads one operand and grows it. -/
theorem atLevel_eq_extend (hstep : stepAt? expression level = some step) (tokens : List Token) :
    atLevel expression level tokens = (do
      let (node, rest) ← atLevel expression level.tighter tokens
      extend step rest.length node rest) := by
  cases level <;> simp only [stepAt?, Option.some.injEq, reduceCtorEq] at hstep <;> subst hstep
  case or =>
    show binary _ _ tokens = _
    rw [binary_eq_operatorStep .or (by intro kind; cases kind <;> rfl)]
    rfl
  case and =>
    show binary _ _ tokens = _
    rw [binary_eq_operatorStep .and (by intro kind; cases kind <;> rfl)]
    rfl
  case comparison =>
    show binary _ _ tokens = _
    rw [binary_eq_operatorStep .comparison (by intro kind; cases kind <;> rfl)]
    rfl
  case additive =>
    show binary _ _ tokens = _
    rw [binary_eq_operatorStep .additive (by intro kind; cases kind <;> rfl)]
    rfl
  case multiplicative =>
    show binary _ _ tokens = _
    rw [binary_eq_operatorStep .multiplicative (by intro kind; cases kind <;> rfl)]
    rfl
  case test => rfl
  case filter => rfl
  case member => rfl

theorem Reads.grows (hstep : stepAt? expression level = some step)
    (h : Reads (atLevel expression level.tighter) (Stops level.tighter) tokens node) :
    Grows (atLevel expression level) step (Stops level.tighter) tokens node := by
  intro rest hrest
  refine ⟨rest.length, Nat.le_refl _, ?_⟩
  rw [atLevel_eq_extend hstep, h rest hrest]
  rfl

theorem Grows.reads (hstep : stepAt? expression level = some step)
    (h : Grows (atLevel expression level) step (Stops level.tighter) tokens node) :
    Reads (atLevel expression level) (Stops level) tokens node := by
  intro rest hrest
  obtain ⟨rounds, -, heq⟩ := h rest hrest.tighter
  rw [heq, extend_of_stop (stepAt?_stops hstep hrest)]

/-- Another round takes more tokens. -/
theorem Grows.next {p : Parse Node} {follows follows' : List Token → Prop} {more : List Token}
    {node' : Node} (h : Grows p step follows tokens node)
    (hstep : ∀ rest, follows' rest → step node (more ++ rest) = .ok (some (node', rest)))
    (hfollows : ∀ rest, follows (more ++ rest)) (hne : more ≠ []) :
    Grows p step follows' (tokens ++ more) node' := by
  intro rest hrest
  obtain ⟨rounds, hrounds, heq⟩ := h (more ++ rest) (hfollows rest)
  have hpos := List.length_pos_iff.mpr hne
  rw [List.length_append] at hrounds
  obtain ⟨rounds, rfl⟩ : ∃ n, rounds = n + 1 := ⟨rounds - 1, by omega⟩
  refine ⟨rounds, by omega, ?_⟩
  rw [List.append_assoc, heq]
  simp [extend, hstep rest hrest, bind, Except.bind]

/-! ## First tokens -/

/-- Primary expressions start with a token of such a kind. -/
def startsPrimary : TokenKind → Bool
  | .numericLiteral | .stringLiteral | .booleanLiteral | .nullLiteral | .identifier | .openParen
  | .openSquareBracket | .openCurlyBracket => true
  | _ => false

/-- What an expression of a level starts with: operators stand in front at the levels of `not` and
of signs, and at looser ones. -/
def StartsAt (level : Precedence) : List Token → Prop
  | [] => False
  | token :: _ => startsPrimary token.kind ∨ (isSign token ∧ level.rank ≤ Precedence.sign.rank) ∨
      (isNot token ∧ level.rank ≤ Precedence.not.rank)

theorem StartsAt.mono {level' : Precedence} {tokens : List Token} (h : StartsAt level tokens)
    (hle : level'.rank ≤ level.rank) : StartsAt level' tokens := by
  cases tokens with
  | nil => exact h
  | cons token rest =>
    rcases h with h | ⟨h, hs⟩ | ⟨h, hn⟩
    · exact .inl h
    · exact .inr (.inl ⟨h, Nat.le_trans hle hs⟩)
    · exact .inr (.inr ⟨h, Nat.le_trans hle hn⟩)

theorem primary_starts {result : Node × List Token} (h : primary expression tokens = .ok result) :
    StartsAt .primary tokens := by
  cases tokens with
  | nil => cases h
  | cons token rest =>
    simp only [primary] at h
    refine .inl ?_
    split at h <;> first | (rename_i hkind; rw [hkind]; rfl) | cases h

theorem unary_starts {isOperator : Token → Bool} {operand : Parse Node}
    {result : Node × List Token} (h : unary isOperator operand tokens = .ok result) :
    (∃ token rest, tokens = token :: rest ∧ isOperator token) ∨ operand tokens = .ok result := by
  cases tokens with
  | nil => exact .inr h
  | cons token rest =>
    by_cases hop : isOperator token
    · exact .inl ⟨token, rest, rfl, hop⟩
    · simp only [unary, hop, Bool.false_eq_true, ↓reduceIte] at h
      exact .inr h

/-- What a parser accepts starts as expressions of its level do. -/
theorem atLevel_starts {result : Node × List Token}
    (h : atLevel expression level tokens = .ok result) : StartsAt level tokens := by
  induction level using Precedence.looser_induction generalizing result with
  | hprimary => exact primary_starts h
  | hstep level hne ih =>
    have hle : level.rank ≤ level.tighter.rank := by
      rw [Precedence.rank_tighter hne]
      omega
    cases hs : stepAt? expression level with
    | some step =>
      rw [atLevel_eq_extend hs] at h
      obtain ⟨first, hfirst, -⟩ := Except.bind_eq_ok.mp h
      exact (ih hfirst).mono hle
    | none =>
      cases level <;> simp only [stepAt?, reduceCtorEq] at hs
      case ternary =>
        obtain ⟨first, hfirst, -⟩ := Except.bind_eq_ok.mp h
        exact (ih hfirst).mono hle
      case not =>
        rcases unary_starts h with ⟨token, rest, rfl, hop⟩ | hoperand
        · exact .inr (.inr ⟨hop, Nat.le_refl _⟩)
        · exact (ih hoperand).mono hle
      case sign =>
        rcases unary_starts h with ⟨token, rest, rfl, hop⟩ | hoperand
        · exact .inr (.inl ⟨hop, Nat.le_refl _⟩)
        · exact (ih hoperand).mono hle
      case primary => exact absurd rfl hne

theorem startsPrimary_ne_unaryOperator {token : Token} (h : startsPrimary token.kind) :
    token.kind ≠ .unaryOperator := by
  intro heq
  rw [heq] at h
  cases h

theorem not_isNot_of_isSign {token : Token} (h : isSign token) : isNot token = false := by
  simp only [isSign, Bool.and_eq_true, Bool.or_eq_true, beq_iff_eq] at h
  rcases h with ⟨hkind, hvalue | hvalue⟩ <;> simp [isNot, hkind, hvalue]

/-- An operator in front does not belong to the operand of its own level. -/
theorem not_isNot_of_startsAt {token : Token} {rest : List Token}
    (h : StartsAt .comparison (token :: rest)) : isNot token = false := by
  rcases h with h | ⟨h, -⟩ | ⟨-, hle⟩
  · simp [isNot, startsPrimary_ne_unaryOperator h]
  · exact not_isNot_of_isSign h
  · exact absurd hle (by decide)

theorem not_isSign_of_startsAt {token : Token} {rest : List Token}
    (h : StartsAt .test (token :: rest)) : isSign token = false := by
  rcases h with h | ⟨-, hle⟩ | ⟨-, hle⟩
  · simp [isSign, startsPrimary_ne_unaryOperator h]
  · exact absurd hle (by decide)
  · exact absurd hle (by decide)

theorem unary_of_not_operator {isOperator : Token → Bool} {operand : Parse Node}
    {tokens : List Token} (h : ∀ token rest, tokens = token :: rest → isOperator token = false) :
    unary isOperator operand tokens = operand tokens := by
  cases tokens with
  | nil => rfl
  | cons token rest => simp [unary, h token rest rfl]

/-! ## Looser levels -/

/-- What a level reads, the next looser one reads too. -/
theorem reads_of_tighter
    (h : Reads (atLevel expression level.tighter) (Stops level.tighter) tokens node) :
    Reads (atLevel expression level) (Stops level) tokens node := by
  cases hs : stepAt? expression level with
  | some step => exact (h.grows hs).reads hs
  | none =>
    intro rest hrest
    have hread := h rest hrest.tighter
    have hstarts := atLevel_starts hread
    cases level <;> simp only [stepAt?, reduceCtorEq] at hs
    case ternary =>
      have hif : nextIs .if_ rest = false := not_nextIs_of_stops hrest rfl (Nat.le_refl _)
      show ternary expression (tokens ++ rest) = _
      simp only [atLevel, Precedence.tighter] at hread
      simp only [ternary, hread, bind, Except.bind]
      split
      · simp [nextIs] at hif
      · rfl
    case not =>
      show unary isNot (comparison expression) (tokens ++ rest) = _
      rw [unary_of_not_operator (fun token rest' heq => by
        rw [heq] at hstarts
        exact not_isNot_of_startsAt hstarts)]
      exact hread
    case sign =>
      show unary isSign (tests expression) (tokens ++ rest) = _
      rw [unary_of_not_operator (fun token rest' heq => by
        rw [heq] at hstarts
        exact not_isSign_of_startsAt hstarts)]
      exact hread
    case primary => exact hread

/-- What a level reads, every looser one reads too. -/
theorem Reads.looser {level' : Precedence}
    (h : Reads (atLevel expression level) (Stops level) tokens node)
    (hle : level'.rank ≤ level.rank) :
    Reads (atLevel expression level') (Stops level') tokens node := by
  induction level' using Precedence.looser_induction with
  | hprimary =>
    have heq : level = .primary := Precedence.rank_injective (by
      cases level <;> simp_all [Precedence.rank])
    exact heq ▸ h
  | hstep level' hne ih =>
    by_cases heq : level'.rank = level.rank
    · exact Precedence.rank_injective heq ▸ h
    · exact reads_of_tighter (ih (by rw [Precedence.rank_tighter hne]; omega))

end TextTemplate.Parse
