import TextTemplate.Proofs.Syntax.Ending
import TextTemplate.Proofs.Syntax.Lookahead

/-!
# Templates one after the other

A block looks at the two tokens that may end it. A statement ends with a token of its own and looks
at nothing behind it. So the tokens of a template may be followed by any others: its statements are
read as before, and what follows is read as if it stood alone.
-/

namespace TextTemplate

namespace Parse

variable {α : Type} {more tokens rest : List Token} {ahead count n m : Nat}

/-! ## Statements -/

section Ends

variable {x y : Except ParseError (α × List Token)} {kind : TokenKind} {what : String}

/-- With a token behind it, an answer stands whatever else is left. -/
theorem Stands.expected (h : Stands more tokens 1 count x y) :
    Stands more tokens 0 count
      (do
        let (a, rest) ← x
        let rest ← Parse.expect kind what rest
        .ok (a, rest))
      (do
        let (a, rest) ← y
        let rest ← Parse.expect kind what rest
        .ok (a, rest)) := by
  have hlast (a : α) (rest : List Token) :
      Stands more rest 0 1 (Parse.expect kind what rest >>= fun rest => .ok (a, rest))
        (Parse.expect kind what (rest ++ more) >>= fun rest => .ok (a, rest)) :=
    .expect fun rest => .ok
  exact (h.andThen (fun a rest _ => hlast a rest) (Nat.le_refl 1)).weaken (Nat.le_refl 0)
    (Nat.le_add_right _ _)

/-- With an end tag behind it, an answer stands whatever else is left. -/
theorem Stands.closed (h : Stands more tokens 2 count x y) :
    Stands more tokens 0 count
      (do
        let (a, rest) ← x
        let rest ← closing kind what rest
        .ok (a, rest))
      (do
        let (a, rest) ← y
        let rest ← closing kind what rest
        .ok (a, rest)) := by
  have hlast (a : α) (rest : List Token) :
      Stands more rest 0 3 (closing kind what rest >>= fun rest => .ok (a, rest))
        (closing kind what (rest ++ more) >>= fun rest => .ok (a, rest)) := by
    simp only [closing, bind_assoc]
    exact .expect fun rest => .expect fun rest => .expect fun rest => .ok
  exact (h.andThen (fun a rest _ => hlast a rest) (by omega)).weaken (Nat.le_refl 0)
    (Nat.le_add_right _ _)

end Ends

theorem setWithin_stands (hle : n ≤ m) : StandsBy more 1 1 (setWithin n) (setWithin m) := by
  induction n generalizing m with
  | zero => exact fun _ => .error
  | succ n ih =>
    obtain ⟨m, rfl⟩ : ∃ k, m = k + 1 := ⟨m - 1, by omega⟩
    intro tokens
    refine (expression_stands tokens).bind fun node rest => ?_
    cases rest with
    | nil => exact .spent Nat.zero_lt_one
    | cons token rest =>
      obtain ⟨kind, value⟩ := token
      cases kind
      case equals =>
        refine (Stands.bind (ih (by omega) rest).free fun value rest => ?_).later
        exact .ok
      all_goals exact .ok

section Bodies

variable {statement statement' : Parse Node}

/-- A block looks at the two tokens that may end it. -/
theorem blockWithin_stands (terminators : List TokenKind)
    (h : StandsBy more 0 1 statement statement') (hle : n ≤ m) :
    StandsBy more 2 0 (blockWithin terminators statement n)
      (blockWithin terminators statement' m) := by
  induction n generalizing m with
  | zero => exact fun _ => .error
  | succ n ih =>
    obtain ⟨m, rfl⟩ : ∃ k, m = k + 1 := ⟨m - 1, by omega⟩
    intro tokens
    have hbody : Stands more tokens 2 0
        (do
          let first ← statement tokens
          let others ← blockWithin terminators statement n first.2
          .ok (first.1 :: others.1, others.2))
        (do
          let first ← statement' (tokens ++ more)
          let others ← blockWithin terminators statement' m first.2
          .ok (first.1 :: others.1, others.2)) := by
      refine ((h tokens).free.farther (Nat.zero_le 2)).bind fun first rest => ?_
      exact (ih (by omega) rest).bind fun others rest => .ok
    rcases tokens with _ | ⟨first, _ | ⟨second, rest⟩⟩
    · exact .error
    · -- one token ends no block, so a statement has to take it, and then none is left
      exact hbody.short (by simp)
    · simp only [blockWithin, List.cons_append, atTerminator, List.isEmpty_cons] at hbody ⊢
      split
      · exact .ok
      · exact hbody

theorem block_stands (terminators : List TokenKind)
    (h : StandsBy more 0 1 statement statement') :
    StandsBy more 2 0 (block terminators statement) (block terminators statement') :=
  fun tokens => blockWithin_stands terminators h (by simp) tokens

theorem ifWithin_stands (h : StandsBy more 0 1 statement statement') (hle : n ≤ m) :
    StandsBy more 2 1 (ifWithin statement n) (ifWithin statement' m) := by
  induction n generalizing m with
  | zero => exact fun _ => .error
  | succ n ih =>
    obtain ⟨m, rfl⟩ : ∃ k, m = k + 1 := ⟨m - 1, by omega⟩
    intro tokens
    refine ((expression_stands tokens).farther (by omega)).bind fun test rest => ?_
    refine .skip fun rest => (block_stands _ h rest).bind fun body rest => ?_
    match rest with
    | [] => exact .spent Nat.zero_lt_two
    | [⟨kind, _⟩] => cases kind <;> exact .spent Nat.one_lt_two
    | ⟨kind, _⟩ :: ⟨kind', _⟩ :: rest =>
      cases kind
      case openStatement =>
        cases kind'
        case elseIf =>
          refine (Stands.bind (ih (by omega) rest).free fun alternate rest => ?_).later.later
          exact .ok
        case else_ =>
          have halternate (rest : List Token) := block_stands [.endIf] h rest
          refine (Stands.skip fun rest => (halternate rest).bind fun body rest => ?_).later.later
          exact .ok
        all_goals exact .ok
      all_goals exact .ok

theorem forLoop_stands (h : StandsBy more 0 1 statement statement') :
    StandsBy more 2 1 (forLoop statement) (forLoop statement') := by
  intro tokens
  have htarget : StandsBy more 1 1 (sequence (primary expression))
      (sequence (primary expression)) := sequence_stands (primary_stands expression_stands)
  refine ((htarget tokens).farther (by omega)).bind fun target rest => ?_
  cases target
  case name | tuple =>
    refine .skip fun rest => ?_
    refine ((expression_stands rest).free.farther (by omega)).bind fun iterable rest => ?_
    exact .skip fun rest => (block_stands _ h rest).bind fun body rest => .ok
  all_goals exact .error

theorem statementBody_stands (h : StandsBy more 0 1 statement statement') :
    StandsBy more 0 1 (statementBody statement) (statementBody statement') := by
  intro tokens
  cases tokens with
  | nil => exact .error
  | cons token rest =>
    obtain ⟨kind, value⟩ := token
    cases kind
    case set =>
      have hlength : rest.length + 1 ≤ (rest ++ more).length + 1 := by simp
      exact (setWithin_stands hlength rest).expected.later
    case if_ =>
      have hlength : rest.length + 1 ≤ (rest ++ more).length + 1 := by simp
      exact (ifWithin_stands h hlength rest).closed.later
    case for_ => exact (forLoop_stands h rest).closed.later
    all_goals exact .error

theorem statementStep_stands (h : StandsBy more 0 1 statement statement') :
    StandsBy more 0 1 (statementStep statement) (statementStep statement') := by
  intro tokens
  cases tokens with
  | nil => exact .error
  | cons token rest =>
    obtain ⟨kind, value⟩ := token
    cases kind
    case text => exact Stands.ok.cons
    case openStatement => exact (statementBody_stands h rest).later
    case openExpression => exact (expression_stands rest).expected.later
    all_goals exact .error

end Bodies

/-- A statement looks at no token behind it. -/
theorem statementWithin_stands (hle : n ≤ m) :
    StandsBy more 0 1 (statementWithin n) (statementWithin m) := by
  induction n generalizing m with
  | zero => exact fun _ => .error
  | succ n ih =>
    obtain ⟨m, rfl⟩ : ∃ k, m = k + 1 := ⟨m - 1, by omega⟩
    exact statementStep_stands (ih (by omega))

theorem statement_stands : StandsBy more 0 1 statement statement :=
  fun tokens => statementWithin_stands (by simp) tokens

/-! ## Templates -/

/-- All bounds that are large enough are as good as each other. -/
theorem statementsWithin_eq (h : tokens.length ≤ n) :
    statementsWithin n tokens = statementsWithin tokens.length tokens := by
  have hends {n : Nat} (h : tokens.length ≤ n) :
      Ends templateRound tokens (statementsWithin n tokens) :=
    template_unrolls.ends_of_le templateRound_relates Agree.eq
      (fun rest hrest => by rw [List.eq_nil_of_length_eq_zero hrest]; rfl) h
  exact (hends h).unique (hends (Nat.le_refl _)) fun _ => .ok []

/-- The statements at the end are read as if they stood alone. -/
theorem statementsWithin_append {body : List Node}
    (h : statementsWithin n tokens = .ok body) (hlength : (tokens ++ more).length ≤ m) :
    statementsWithin m (tokens ++ more) =
      (body ++ ·) <$> statementsWithin more.length more := by
  induction n generalizing m tokens body with
  | zero =>
    cases tokens with
    | nil =>
      cases h
      exact (statementsWithin_eq hlength).trans (id_map _).symm
    | cons token rest => cases h
  | succ n ih =>
    cases tokens with
    | nil =>
      cases h
      exact (statementsWithin_eq hlength).trans (id_map _).symm
    | cons token rest =>
      obtain ⟨m, rfl⟩ : ∃ k, m = k + 1 := ⟨m - 1, by simp at hlength; omega⟩
      obtain ⟨⟨first, after⟩, hfirst, h⟩ := Except.bind_eq_ok.mp h
      obtain ⟨others, hothers, h⟩ := Except.bind_eq_ok.mp h
      cases h
      obtain ⟨htook, hsame⟩ := statement_stands (token :: rest) first after hfirst (Nat.zero_le _)
      have hafter : (after ++ more).length ≤ m := by
        have := htook.2
        simp only [List.cons_append, List.length_cons, List.length_append] at hlength this ⊢
        omega
      show (statement (token :: rest ++ more) >>= _) = _
      rw [hsame]
      show (statementsWithin m (after ++ more) >>= _) = _
      rw [ih hothers hafter]
      cases statementsWithin more.length more <;> rfl

end Parse

/-- Templates can be written one after the other: the second is read as if it stood alone. -/
theorem Node.ofTokens_append {tokens : List Token} {body : List Node}
    (h : Node.ofTokens tokens = .ok (.program body)) (more : List Token) :
    Node.ofTokens (tokens ++ more) =
      (fun others => .program (body ++ others)) <$> Parse.statementsWithin more.length more := by
  unfold Node.ofTokens at h ⊢
  cases hread : Parse.statementsWithin tokens.length tokens with
  | error e =>
    rw [hread] at h
    cases h
  | ok found =>
    rw [hread] at h
    cases h
    rw [Parse.statementsWithin_append hread (Nat.le_refl _)]
    cases Parse.statementsWithin more.length more <;> rfl

end TextTemplate
