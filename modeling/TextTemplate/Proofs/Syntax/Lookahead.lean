import TextTemplate.Proofs.Syntax.Progress

/-!
# What is read stays read

A parser takes tokens and looks at the tokens behind them. So what it has read it reads again when
there are more tokens at the end, as long as those that it looks at are left. For an expression that
is one token, whatever operators, brackets and names of tests it is made of.
-/

namespace TextTemplate

theorem Except.ite_bind {ε α β : Type} {c : Prop} [Decidable c] {x y : Except ε α}
    {f : α → Except ε β} :
    (if c then x else y) >>= f = if c then x >>= f else y >>= f := by
  split <;> rfl

namespace Parse

variable {α β : Type} {more tokens rest : List Token} {ahead count n m : Nat}

/-! ## Answers that stand -/

/-- An answer in front of the tokens is given again in front of more of them, unless fewer than
`ahead` are left of the tokens; `count` of them are taken for it, or more. -/
def Stands (more tokens : List Token) (ahead count : Nat)
    (x y : Except ParseError (α × List Token)) : Prop :=
  ∀ a rest, x = .ok (a, rest) → ahead ≤ rest.length →
    Took tokens count rest ∧ y = .ok (a, rest ++ more)

/-- What one parser reads in front of any tokens, another one reads in front of more of them. The
two are one parser with two bounds, since a bound grows with the tokens. -/
def StandsBy (more : List Token) (ahead count : Nat) (p q : Parse α) : Prop :=
  ∀ tokens, Stands more tokens ahead count (p tokens) (q (tokens ++ more))

namespace Stands

variable {x y x' y' : Except ParseError (α × List Token)}

protected theorem ok {a : α} :
    Stands more tokens ahead 0 (.ok (a, tokens)) (.ok (a, tokens ++ more)) := by
  intro b rest h _
  cases h
  exact ⟨.refl, rfl⟩

protected theorem error {e : ParseError} : Stands more tokens ahead count (.error e) y := nofun

/-- With too few tokens left, nothing is said. -/
theorem spent {a : α} (h : rest.length < ahead) :
    Stands more tokens ahead count (.ok (a, rest)) y := by
  intro b after hx hafter
  cases hx
  omega

/-- In front of too few tokens, nothing is said. -/
theorem short (h : Stands more tokens ahead count x y) (hlength : tokens.length < ahead) :
    Stands more tokens ahead count x y' := by
  intro a rest hx hrest
  have htook := (h a rest hx hrest).1.2
  omega

theorem weaken {ahead' count' : Nat} (h : Stands more tokens ahead count x y)
    (hahead : ahead ≤ ahead') (hcount : count' ≤ count) :
    Stands more tokens ahead' count' x y := by
  intro a rest hx hrest
  obtain ⟨htook, hy⟩ := h a rest hx (Nat.le_trans hahead hrest)
  exact ⟨htook.weaken hcount, hy⟩

/-- Takes no account of the tokens that are taken. -/
theorem free (h : Stands more tokens ahead count x y) : Stands more tokens ahead 0 x y :=
  h.weaken (Nat.le_refl _) (Nat.zero_le _)

/-- More tokens may be looked at. -/
theorem farther {ahead' : Nat} (h : Stands more tokens ahead count x y) (hle : ahead ≤ ahead') :
    Stands more tokens ahead' count x y :=
  h.weaken hle (Nat.le_refl _)

theorem cons {token : Token} (h : Stands more tokens ahead count x y) :
    Stands more (token :: tokens) ahead (count + 1) x y := by
  intro a rest hx hrest
  obtain ⟨htook, hy⟩ := h a rest hx hrest
  exact ⟨(Took.cons.trans htook).weaken (by omega), hy⟩

theorem later {token : Token} (h : Stands more tokens ahead count x y) :
    Stands more (token :: tokens) ahead count x y :=
  h.cons.weaken (Nat.le_refl _) (Nat.le_succ _)

/-- What comes first may look at the tokens that are taken later. What comes later has fewer tokens
in front of it, if enough of them are left. -/
theorem andThen {ahead' count' : Nat} {k k' : α × List Token → Except ParseError (β × List Token)}
    (h : Stands more tokens ahead count x y)
    (hk : ∀ a rest, (ahead ≤ rest.length → rest.length + count ≤ tokens.length) →
      Stands more rest ahead' count' (k (a, rest)) (k' (a, rest ++ more)))
    (hle : ahead ≤ ahead' + count') :
    Stands more tokens ahead' (count + count') (x >>= k) (y >>= k') := by
  intro b rest hresult hrest
  obtain ⟨⟨a, after⟩, hx, hnext⟩ := Except.bind_eq_ok.mp hresult
  have hafter := h a after hx
  obtain ⟨hlater, hsame⟩ := hk a after (fun hleft => (hafter hleft).1.2) b rest hnext hrest
  obtain ⟨htook, hy⟩ := hafter (by have := hlater.2; omega)
  exact ⟨htook.trans hlater, by rw [hy]; exact hsame⟩

protected theorem bind {k k' : α × List Token → Except ParseError (β × List Token)}
    (h : Stands more tokens ahead count x y)
    (hk : ∀ a rest, Stands more rest ahead 0 (k (a, rest)) (k' (a, rest ++ more))) :
    Stands more tokens ahead count (x >>= k) (y >>= k') :=
  h.andThen (fun a rest _ => hk a rest) (Nat.le_refl _)

theorem bindShorter {k k' : α × List Token → Except ParseError (β × List Token)}
    (h : Stands more tokens 1 count x y)
    (hk : ∀ a rest, rest.length ≤ tokens.length - count →
      Stands more rest 1 0 (k (a, rest)) (k' (a, rest ++ more))) :
    Stands more tokens 1 count (x >>= k) (y >>= k') :=
  h.andThen (fun a rest hless => hk a rest (by omega)) (Nat.le_refl 1)

theorem expect {kind : TokenKind} {what : String}
    {k k' : List Token → Except ParseError (β × List Token)}
    (hk : ∀ rest, Stands more rest ahead count (k rest) (k' (rest ++ more))) :
    Stands more tokens ahead (count + 1) (expect kind what tokens >>= k)
      (Parse.expect kind what (tokens ++ more) >>= k') := by
  cases tokens with
  | nil => exact .error
  | cons token rest =>
    simp only [List.cons_append, Parse.expect]
    by_cases h : token.kind == kind
    · simp only [h, if_true]
      exact (hk rest).cons
    · simp only [h, Bool.false_eq_true, if_false]
      exact .error

/-- A token of a certain kind is passed over. -/
theorem skip {kind : TokenKind} {what : String}
    {k k' : List Token → Except ParseError (β × List Token)}
    (hk : ∀ rest, Stands more rest ahead count (k rest) (k' (rest ++ more))) :
    Stands more tokens ahead count (Parse.expect kind what tokens >>= k)
      (Parse.expect kind what (tokens ++ more) >>= k') :=
  (expect hk).weaken (Nat.le_refl _) (Nat.le_succ _)

/-- If there is a token, then more tokens do not change of what kind the next one is. -/
theorem ite_nextIs {kind : TokenKind} (hthen : Stands more tokens 1 count x y)
    (helse : Stands more tokens 1 count x' y') :
    Stands more tokens 1 count (if nextIs kind tokens then x else x')
      (if nextIs kind (tokens ++ more) then y else y') := by
  cases tokens with
  | nil => exact helse.short Nat.zero_lt_one
  | cons token rest =>
    have hsame : nextIs kind (token :: rest ++ more) = nextIs kind (token :: rest) := rfl
    rw [hsame]
    split
    · exact hthen
    · exact helse

end Stands

/-! ## Loops -/

section Loops

variable {item item' : Parse α}

theorem itemsUntil_stands (close : TokenKind) (comma : String) (h : StandsBy more 1 1 item item')
    (hle : n ≤ m) :
    StandsBy more 1 0 (itemsUntil close comma item n) (itemsUntil close comma item' m) := by
  induction n generalizing m with
  | zero => exact fun _ => .error
  | succ n ih =>
    obtain ⟨m, rfl⟩ : ∃ k, m = k + 1 := ⟨m - 1, by omega⟩
    intro tokens
    refine .ite_nextIs .ok ((h tokens).free.bind fun first rest => .ite_nextIs .ok ?_)
    exact .skip fun rest => (ih (by omega) rest).bind fun others rest => .ok

theorem items_stands (close : TokenKind) (comma closing : String)
    (h : StandsBy more 1 1 item item') :
    StandsBy more 1 0 (items close comma closing item) (items close comma closing item') := by
  intro tokens
  have hitems := itemsUntil_stands close comma h
    (show tokens.length + 1 ≤ (tokens ++ more).length + 1 by simp)
  exact (hitems tokens).bind fun found rest => .skip fun rest => .ok

theorem afterCommas_stands {item item' : Parse Node} (h : StandsBy more 1 1 item item')
    (hlength : tokens.length ≤ n) (hle : n ≤ m) :
    Stands more tokens 1 0 (afterCommas item n tokens) (afterCommas item' m (tokens ++ more)) := by
  induction n generalizing m tokens with
  | zero => exact .spent (by omega)
  | succ n ih =>
    obtain ⟨m, rfl⟩ : ∃ k, m = k + 1 := ⟨m - 1, by omega⟩
    cases tokens with
    | nil => exact .spent Nat.zero_lt_one
    | cons token rest =>
      rw [List.length_cons] at hlength
      obtain ⟨kind, value⟩ := token
      -- nothing but the kind of the next token decides, and all kinds but one go the same way
      cases kind
      case comma =>
        refine ((h rest).bindShorter fun first after hafter => ?_).free.later
        exact (ih (by omega) (by omega)).bind fun others after => .ok
      all_goals exact .ok

theorem sequence_stands {item item' : Parse Node} (h : StandsBy more 1 1 item item') :
    StandsBy more 1 1 (sequence item) (sequence item') := by
  intro tokens
  refine (h tokens).bind fun first rest => ?_
  have hcommas := afterCommas_stands (n := rest.length) (m := (rest ++ more).length) h
    (Nat.le_refl _) (by simp)
  exact hcommas.bind fun others rest => .ok

/-- What a step makes of a node, where it makes something of it. -/
def grownBy (step : Step) (node : Node) : Parse Node := fun tokens => do
  match ← step node tokens with
  | some grown => .ok grown
  | none => .error .unexpectedEnd

theorem grownBy_eq_ok {step : Step} {node : Node} {found : Node × List Token} :
    grownBy step node tokens = .ok found ↔ step node tokens = .ok (some found) := by
  unfold grownBy
  rcases step node tokens with e | _ | grown <;> simp [bind, Except.bind]

/-- One way to grow a node goes on as another one does in front of more tokens, if a token is left,
and it takes tokens. -/
structure StepStandsBy (more : List Token) (step step' : Step) : Prop where
  stops {node : Node} {tokens : List Token} (h : step node tokens = .ok none)
    (hne : tokens ≠ []) : step' node (tokens ++ more) = .ok none
  grows (node : Node) : StandsBy more 1 1 (grownBy step node) (grownBy step' node)

theorem extend_stands {step step' : Step} (h : StepStandsBy more step step') (node : Node)
    (hlength : tokens.length ≤ n) (hle : n ≤ m) :
    Stands more tokens 1 0 (extend step n node tokens) (extend step' m node (tokens ++ more)) := by
  induction n generalizing m node tokens with
  | zero => exact .spent (by omega)
  | succ n ih =>
    obtain ⟨m, rfl⟩ : ∃ k, m = k + 1 := ⟨m - 1, by omega⟩
    intro last rest hresult hrest
    obtain ⟨found, hfound, hresult⟩ := Except.bind_eq_ok.mp hresult
    cases found with
    | none =>
      cases hresult
      have hsame := h.stops hfound (List.ne_nil_of_length_pos hrest)
      exact ⟨.refl, by rw [extend, hsame]; rfl⟩
    | some found =>
      obtain ⟨grown, after⟩ := found
      have hgrows := h.grows node tokens grown after (grownBy_eq_ok.mpr hfound)
      -- the step takes a token, or else none is left and no round either
      have hshort : after.length ≤ n := by
        by_cases hnil : after.length = 0
        · omega
        · have := (hgrows (by omega)).1.2
          omega
      obtain ⟨hlater, hsame⟩ := @ih after m grown hshort (by omega) last rest hresult hrest
      obtain ⟨htook, hstep⟩ := hgrows (by have := hlater.2; omega)
      rw [grownBy_eq_ok] at hstep
      exact ⟨(htook.trans hlater).weaken (by omega), by rw [extend, hstep]; exact hsame⟩

theorem subscriptParts_nil (expression : Parse Node) (bound : Nat) :
    subscriptParts expression bound [] = .error .unclosedSubscript := by
  cases bound <;> rfl

theorem subscriptParts_stands {expression expression' : Parse Node}
    (h : StandsBy more 1 1 expression expression') (hle : n ≤ m) :
    StandsBy more 1 0 (subscriptParts expression n) (subscriptParts expression' m) := by
  induction n generalizing m with
  | zero => exact fun _ => .error
  | succ n ih =>
    obtain ⟨m, rfl⟩ : ∃ k, m = k + 1 := ⟨m - 1, by omega⟩
    intro tokens
    have hparts (rest : List Token) := ih (by omega : n ≤ m) rest
    unfold subscriptParts
    split
    · exact .error
    · exact .ok
    · refine (Stands.bind (hparts _) fun parts after => ?_).later
      exact .ok
    · rename_i hnil hclose hcolon
      cases tokens with
      | nil => exact absurd rfl hnil
      | cons token rest =>
        rw [List.cons_append]
        split
        · rename_i heq
          cases heq
        · rename_i heq
          cases heq
          exact absurd rfl (hclose _ _)
        · rename_i heq
          cases heq
          exact absurd rfl (hcolon _ _)
        · -- an expression, and then perhaps a colon
          refine (h (token :: rest)).free.bind fun part after => ?_
          cases after with
          | nil =>
            dsimp only
            rw [subscriptParts_nil]
            exact .error
          | cons token after =>
            obtain ⟨kind, value⟩ := token
            cases kind
            case colon =>
              refine (Stands.bind (hparts after) fun parts rest => ?_).later
              exact .ok
            all_goals
              refine (hparts _).bind fun parts rest => ?_
              exact .ok

end Loops

/-! ## Levels of precedence -/

section Levels

variable {expression expression' : Parse Node} {level : Precedence} {step : Step}

theorem pair_stands (h : StandsBy more 1 1 expression expression') :
    StandsBy more 1 1 (pair expression) (pair expression') := by
  intro tokens
  refine (h tokens).bind fun key rest => .skip fun rest => ?_
  exact (h rest).free.bind fun value rest => .ok

theorem primary_stands (h : StandsBy more 1 1 expression expression') :
    StandsBy more 1 1 (primary expression) (primary expression') := by
  intro tokens
  cases tokens with
  | nil => exact .error
  | cons token rest =>
    obtain ⟨kind, value⟩ := token
    cases kind
    case numericLiteral =>
      show Stands more _ 1 1 (numeral value >>= fun i => .ok (Node.number (.int i), rest))
        (numeral value >>= fun i => .ok (Node.number (.int i), rest ++ more))
      cases numeral value with
      | error e => exact .error
      | ok i => exact Stands.ok.cons
    case openParen =>
      refine (Stands.bind (sequence_stands h rest).free fun node rest => ?_).cons
      exact .skip fun rest => .ok
    case openSquareBracket =>
      refine (Stands.bind (items_stands _ _ _ h rest) fun found rest => ?_).cons
      exact .ok
    case openCurlyBracket =>
      refine (Stands.bind (items_stands _ _ _ (pair_stands h) rest) fun found rest => ?_).cons
      exact .ok
    all_goals first | exact .error | exact Stands.ok.cons

theorem argument_stands (h : StandsBy more 1 1 expression expression') :
    StandsBy more 1 1 (argument expression) (argument expression') := by
  intro tokens
  cases tokens with
  | nil => exact .error
  | cons token rest =>
    refine (h (token :: rest)).bind fun node after => ?_
    cases after with
    | nil => exact .spent Nat.zero_lt_one
    | cons token after =>
      obtain ⟨kind, value⟩ := token
      cases kind
      case equals =>
        cases node
        case name =>
          refine (Stands.bind (h after).free fun value rest => ?_).later
          exact .ok
        all_goals exact .error
      all_goals exact .ok

theorem arguments_stands (h : StandsBy more 1 1 expression expression') :
    StandsBy more 1 1 (arguments expression) (arguments expression') := by
  intro tokens
  exact .expect fun rest => items_stands _ _ _ (argument_stands h) rest

theorem subscript_stands (h : StandsBy more 1 1 expression expression') :
    StandsBy more 1 0 (subscript expression) (subscript expression') := by
  intro tokens
  have hparts := subscriptParts_stands h
    (show tokens.length + 1 ≤ (tokens ++ more).length + 1 by simp) tokens
  refine hparts.bind fun parts rest => ?_
  dsimp only
  cases subscriptNode parts with
  | error e => exact .error
  | ok node => exact .ok

theorem nameOr_stands (error : String → ParseError) (h : StandsBy more 1 1 expression expression') :
    StandsBy more 1 1 (nameOr error expression) (nameOr error expression') := by
  intro tokens
  refine (primary_stands h tokens).bind fun node rest => ?_
  cases node
  case name => exact .ok
  all_goals exact .error

theorem bind_some_ne_none {x : Except ParseError α} {f : α → Node × List Token} :
    (x >>= fun found => .ok (some (f found))) ≠ .ok none := by
  intro h
  obtain ⟨_, _, h⟩ := Except.bind_eq_ok.mp h
  cases h

theorem memberStep_stands (h : StandsBy more 1 1 expression expression') :
    StepStandsBy more (memberStep expression) (memberStep expression') where
  stops {node tokens} hstop hne := by
    cases tokens with
    | nil => exact absurd rfl hne
    | cons token rest =>
      obtain ⟨kind, value⟩ := token
      cases kind
      case dot | openParen => exact absurd hstop bind_some_ne_none
      case openSquareBracket =>
        obtain ⟨_, _, hstop⟩ := Except.bind_eq_ok.mp hstop
        exact absurd hstop bind_some_ne_none
      all_goals rfl
  grows node tokens := by
    cases tokens with
    | nil => exact .error
    | cons token rest =>
      obtain ⟨kind, value⟩ := token
      cases kind
      case dot =>
        simp only [grownBy, memberStep, List.cons_append, bind_assoc]
        refine (Stands.bind (nameOr_stands .memberName h rest) fun name rest => ?_).later
        exact .ok
      case openSquareBracket =>
        simp only [grownBy, memberStep, List.cons_append, bind_assoc]
        exact .cons (.bind (subscript_stands h rest) fun property rest => .skip fun rest => .ok)
      case openParen =>
        simp only [grownBy, memberStep, List.cons_append, bind_assoc]
        exact (arguments_stands h _).bind fun args rest => .ok
      all_goals exact .error

theorem filterStep_stands (h : StandsBy more 1 1 expression expression') :
    StepStandsBy more (filterStep expression) (filterStep expression') where
  stops {node tokens} hstop hne := by
    cases tokens with
    | nil => exact absurd rfl hne
    | cons token rest =>
      obtain ⟨kind, value⟩ := token
      cases kind
      case pipe =>
        obtain ⟨⟨name, after⟩, -, hstop⟩ := Except.bind_eq_ok.mp hstop
        dsimp only at hstop
        split at hstop
        · exact absurd hstop bind_some_ne_none
        · cases hstop
      all_goals rfl
  grows node tokens := by
    cases tokens with
    | nil => exact .error
    | cons token rest =>
      obtain ⟨kind, value⟩ := token
      cases kind
      case pipe =>
        simp only [grownBy, filterStep, List.cons_append, bind_assoc]
        refine (Stands.bind (nameOr_stands .filterName h rest) fun name after => ?_).later
        simp only [Except.ite_bind, bind_assoc]
        refine .ite_nextIs ?_ .ok
        refine (Stands.bind (arguments_stands h after).free fun args rest => ?_)
        exact .ok
      all_goals exact .error

theorem testStep_stands (h : StandsBy more 1 1 expression expression') :
    StepStandsBy more (testStep expression) (testStep expression') where
  stops {node tokens} hstop hne := by
    cases tokens with
    | nil => exact absurd rfl hne
    | cons token rest =>
      obtain ⟨kind, value⟩ := token
      cases kind
      case is =>
        obtain ⟨⟨operand, after⟩, -, hstop⟩ := Except.bind_eq_ok.mp hstop
        obtain ⟨name, -, hstop⟩ := Except.bind_eq_ok.mp hstop
        dsimp only at hstop
        split at hstop
        · exact absurd hstop bind_some_ne_none
        · cases hstop
      all_goals rfl
  grows node tokens := by
    cases tokens with
    | nil => exact .error
    | cons token rest =>
      obtain ⟨kind, value⟩ := token
      cases kind
      case is =>
        cases rest with
        | nil => exact .error
        | cons token rest =>
          simp only [grownBy, testStep, List.cons_append, bind_assoc]
          have hname : Stands more (token :: rest) 1 1
              (primary expression (if isNot token then List.drop 1 (token :: rest)
                else token :: rest))
              (primary expression' (if isNot token then List.drop 1 (token :: (rest ++ more))
                else token :: (rest ++ more))) := by
            split
            · exact (primary_stands h rest).later
            · exact primary_stands h (token :: rest)
          refine (Stands.bind hname fun name after => ?_).later
          dsimp only
          cases testName name with
          | error e => exact .error
          | ok name =>
            show Stands more after 1 0 ((if nextIs .openParen after then _ else _) >>= _)
              ((if nextIs .openParen (after ++ more) then _ else _) >>= _)
            simp only [Except.ite_bind, bind_assoc]
            refine .ite_nextIs ?_ .ok
            refine (Stands.bind (arguments_stands h after).free fun args rest => ?_)
            exact .ok
      all_goals exact .error

theorem binaryStep_stands (isOperator : TokenKind → Bool) {operand operand' : Parse Node}
    (h : StandsBy more 1 1 operand operand') :
    StepStandsBy more (binaryStep isOperator operand) (binaryStep isOperator operand') where
  stops {node tokens} hstop hne := by
    cases tokens with
    | nil => exact absurd rfl hne
    | cons token rest =>
      simp only [binaryStep, List.cons_append] at hstop ⊢
      split at hstop
      · exact absurd hstop bind_some_ne_none
      · rename_i hoperator
        rw [if_neg hoperator]
  grows node tokens := by
    cases tokens with
    | nil => exact .error
    | cons token rest =>
      simp only [grownBy, binaryStep, List.cons_append, Except.ite_bind, bind_assoc]
      by_cases hoperator : isOperator token.kind
      · rw [if_pos hoperator, if_pos hoperator]
        refine (Stands.bind (h rest) fun right after => ?_).later
        exact .ok
      · rw [if_neg hoperator, if_neg hoperator]
        exact .error

theorem unary_stands (isOperator : Token → Bool) {operand operand' : Parse Node}
    (h : StandsBy more 1 1 operand operand') :
    StandsBy more 1 1 (unary isOperator operand) (unary isOperator operand') := by
  intro tokens
  induction tokens with
  | nil => exact (h []).short Nat.zero_lt_one
  | cons token rest ih =>
    simp only [unary, List.cons_append]
    by_cases hoperator : isOperator token
    · rw [if_pos hoperator, if_pos hoperator]
      refine (Stands.bind ih fun node after => ?_).later
      exact .ok
    · rw [if_neg hoperator, if_neg hoperator]
      exact h (token :: rest)

theorem stepAt?_stands (h : StandsBy more 1 1 expression expression')
    (hoperand : StandsBy more 1 1 (atLevel expression level.tighter)
      (atLevel expression' level.tighter)) (hstep : stepAt? expression level = some step) :
    ∃ step', stepAt? expression' level = some step' ∧ StepStandsBy more step step' := by
  cases level <;> simp only [stepAt?, Option.some.injEq, reduceCtorEq] at hstep <;> subst hstep
  case member => exact ⟨_, rfl, memberStep_stands h⟩
  case filter => exact ⟨_, rfl, filterStep_stands h⟩
  case test => exact ⟨_, rfl, testStep_stands h⟩
  all_goals exact ⟨_, rfl, binaryStep_stands _ hoperand⟩

theorem ternary_stands (h : StandsBy more 1 1 (disjunction expression) (disjunction expression')) :
    StandsBy more 1 1 (ternary expression) (ternary expression') := by
  intro tokens
  refine (h tokens).bind fun whenTrue rest => ?_
  cases rest with
  | nil => exact .spent Nat.zero_lt_one
  | cons token rest =>
    obtain ⟨kind, value⟩ := token
    cases kind
    case if_ =>
      refine (Stands.bind (h rest).free fun condition rest => .skip fun rest => ?_).later
      exact (h rest).free.bind fun whenFalse rest => .ok
    all_goals exact .ok

/-- What stands at the levels within stands at every level, if it does behind brackets. -/
theorem atLevel_stands (h : StandsBy more 1 1 expression expression') (level : Precedence) :
    StandsBy more 1 1 (atLevel expression level) (atLevel expression' level) := by
  induction level using Precedence.looser_induction with
  | hprimary => exact primary_stands h
  | hstep level hne ih =>
    cases hs : stepAt? expression level with
    | some step =>
      obtain ⟨step', hs', hstep⟩ := stepAt?_stands h ih hs
      intro tokens
      rw [atLevel_eq_extend hs, atLevel_eq_extend hs']
      refine (ih tokens).bind fun node rest => ?_
      exact extend_stands hstep node (Nat.le_refl _) (by simp)
    | none =>
      cases level <;> simp only [stepAt?, reduceCtorEq] at hs
      case ternary => exact ternary_stands ih
      case not => exact unary_stands isNot ih
      case sign => exact unary_stands isSign ih
      case primary => exact absurd rfl hne

end Levels

theorem expressionWithin_stands (hle : n ≤ m) :
    StandsBy more 1 1 (expressionWithin n) (expressionWithin m) := by
  induction n generalizing m with
  | zero => exact fun _ => .error
  | succ n ih =>
    obtain ⟨m, rfl⟩ : ∃ k, m = k + 1 := ⟨m - 1, by omega⟩
    exact atLevel_stands (ih (by omega)) .ternary

theorem expression_stands : StandsBy more 1 1 expression expression :=
  fun tokens => expressionWithin_stands (by simp) tokens

end Parse

end TextTemplate
