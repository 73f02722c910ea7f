import TextTemplate.Proofs.Eval.Failures
import TextTemplate.Proofs.Matching.Start
import TextTemplate.Proofs.Syntax.Appending

/-!
# Templates compose

The tokens of one template and those of another are, one after the other, the tokens of the template
that has the statements of both. Its text is the text of the first and that of the second, which
starts in the state in which the first ends. It fails as the first does if the first fails.

A block joins what its statements contribute only after the last of them. A label contributes no
text, and that comes to light in the joining, when all statements have been evaluated. No template
has a label, but a state made by hand can hold one.
-/

namespace TextTemplate.Eval

open Node (Fits)

variable {x y body : List Node} {context : Context} {s t : State} {parts : List (Option String)}

/-! ## What the statements contribute -/

/-- What the statements of a block contribute, one after the other. -/
def contributions : List Node → Eval (List (Option String))
  | [] => pure []
  | statement :: rest => do
    let value ← evaluate statement
    let part ← contribution statement value
    let parts ← contributions rest
    pure (part :: parts)

/-- The text that parts come to, if none of them is missing. -/
def joined? : List (Option String) → Option String
  | [] => some ""
  | part :: rest => do
    let text ← part
    let texts ← joined? rest
    some (text ++ texts)

/-- Joins parts to a text. -/
def joinParts (parts : List (Option String)) : Eval String :=
  match joined? parts with
  | some text => pure text
  | none => fail .unfit

theorem joined?_append (parts others : List (Option String)) :
    joined? (parts ++ others) = (do
      let text ← joined? parts
      let texts ← joined? others
      some (text ++ texts)) := by
  induction parts with
  | nil => cases h : joined? others <;> simp [joined?, h]
  | cons part rest ih =>
    cases part with
    | none => rfl
    | some text =>
      simp only [List.cons_append, joined?, ih]
      cases joined? rest with
      | none => rfl
      | some texts => cases joined? others <;> simp [String.append_assoc]

theorem joined?_eq_none : joined? parts = none ↔ none ∈ parts := by
  induction parts with
  | nil => simp [joined?]
  | cons part rest ih =>
    cases part with
    | none => simp [joined?]
    | some text => cases h : joined? rest <;> simp_all [joined?]

theorem joinParts_of_missing (h : none ∈ parts) : joinParts parts = fail .unfit := by
  rw [joinParts, joined?_eq_none.mpr h]

theorem joinParts_append {text : String} (h : joined? parts = some text)
    (others : List (Option String)) :
    joinParts (parts ++ others) = (do
      let texts ← joinParts others
      pure (text ++ texts)) := by
  unfold joinParts
  rw [joined?_append, h]
  cases joined? others <;> rfl

/-- A block evaluates its statements and then joins what they have contributed. -/
theorem evaluateBlock_eq (body : List Node) :
    evaluateBlock body = contributions body >>= joinParts := by
  induction body with
  | nil => rfl
  | cons statement rest ih =>
    simp only [evaluateBlock, contributions, bind_assoc, ih]
    refine congrArg (evaluate statement >>= ·) (funext fun value => ?_)
    refine congrArg (contribution statement value >>= ·) (funext fun part => ?_)
    refine congrArg (contributions rest >>= ·) (funext fun parts => ?_)
    show joinParts parts >>= _ = joinParts (part :: parts)
    unfold joinParts
    cases h : joined? parts <;> cases part <;> simp [joined?, h] <;> rfl

theorem contributions_append (x y : List Node) :
    contributions (x ++ y) = (do
      let parts ← contributions x
      let others ← contributions y
      pure (parts ++ others)) := by
  induction x with
  | nil =>
    have hpure : contributions y >>= pure = contributions y := by
      funext context s
      show Eval.bind (contributions y) Eval.pure context s = contributions y context s
      unfold Eval.bind
      split <;> simp_all [Eval.pure]
    exact hpure.symm
  | cons statement rest ih =>
    simp only [List.cons_append, contributions, bind_assoc, ih]
    rfl

/-- A part that is missing is due to a label. -/
theorem exists_label_of_contributions (h : contributions body context s = (.ok parts, t))
    (hmissing : none ∈ parts) : ∃ statement ∈ body, ∃ label u v,
      evaluate statement context u = (.ok (.label label), v) := by
  induction body generalizing s parts with
  | nil =>
    cases h
    cases hmissing
  | cons statement rest ih =>
    obtain ⟨value, u, hvalue, h⟩ := bind_eq_ok h
    obtain ⟨part, v, hpart, h⟩ := bind_eq_ok h
    obtain ⟨others, w, hothers, h⟩ := bind_eq_ok h
    cases h
    rcases List.mem_cons.mp hmissing with hnone | hmem
    · subst hnone
      refine ⟨statement, List.mem_cons_self, ?_⟩
      cases value with
      | label label => exact ⟨label, s, u, hvalue⟩
      | undefined =>
        obtain ⟨_, _, _, hpart⟩ := bind_eq_ok hpart
        split at hpart
        · split at hpart <;> cases hpart
        · cases hpart
      | number n =>
        obtain ⟨_, _, _, hpart⟩ := bind_eq_ok hpart
        cases hpart
      | _ => cases hpart
    · obtain ⟨other, hother, hlabel⟩ := ih hothers hmem
      exact ⟨other, List.mem_cons_of_mem _ hother, hlabel⟩

/-! ## One block after another -/

/-- From a state, statements `x` with statements `y` behind them do what `x` do and then what `y` do
in the state in which `x` end. They fail as `x` fail. If `x` fail only because a label among their
values is no text, then `y` are evaluated before that comes to light, and everything fails. -/
structure Compose (x y : List Node) (context : Context) (s : State) : Prop where
  text {text : String} {t : State} (h : evaluateBlock x context s = (.ok text, t)) :
    evaluateBlock (x ++ y) context s = (do
      let others ← evaluateBlock y
      pure (text ++ others)) context t
  fault {fault : Fault} {t : State} (h : evaluateBlock x context s = (.error fault, t))
    (hlabels : ∀ parts u, contributions x context s = (.ok parts, u) → none ∉ parts) :
    evaluateBlock (x ++ y) context s = (.error fault, t)
  label {parts : List (Option String)} {t : State}
    (h : contributions x context s = (.ok parts, t)) (hmissing : none ∈ parts) :
    (∃ statement ∈ x, ∃ label u v, evaluate statement context u = (.ok (.label label), v)) ∧
      evaluateBlock x context s = (.error .unfit, t) ∧
      ∃ fault u, evaluateBlock (x ++ y) context s = (.error fault, u)

theorem evaluateBlock_append (x y : List Node) :
    evaluateBlock (x ++ y) = (do
      let parts ← contributions x
      let others ← contributions y
      joinParts (parts ++ others)) := by
  rw [evaluateBlock_eq, contributions_append, bind_assoc]
  exact congrArg (contributions x >>= ·) (funext fun parts => bind_assoc _ _ _)

theorem compose (x y : List Node) (context : Context) (s : State) : Compose x y context s where
  text {text t} h := by
    rw [evaluateBlock_eq] at h
    obtain ⟨parts, u, hparts, hjoin⟩ := bind_eq_ok h
    cases hjoined : joined? parts with
    | none =>
      rw [joinParts, hjoined] at hjoin
      cases hjoin
    | some found =>
      rw [joinParts, hjoined] at hjoin
      cases hjoin
      rw [evaluateBlock_append, run_bind hparts, evaluateBlock_eq y, bind_assoc]
      simp only [joinParts_append hjoined]
  fault {fault t} h hlabels := by
    rw [evaluateBlock_eq] at h
    rw [evaluateBlock_append]
    rcases hrun : contributions x context s with ⟨_ | parts, u⟩
    · rw [run_bind_error hrun] at h ⊢
      exact h
    · rw [run_bind hrun] at h
      cases hjoined : joined? parts with
      | none => exact absurd (joined?_eq_none.mp hjoined) (hlabels parts u hrun)
      | some found =>
        rw [joinParts, hjoined] at h
        cases h
  label {parts t} h hmissing := by
    have hfail (others : List (Option String)) (hmem : none ∈ others) (u : State) :
        joinParts others context u = (.error .unfit, u) := by
      rw [joinParts_of_missing hmem]
      rfl
    refine ⟨exists_label_of_contributions h hmissing, ?_, ?_⟩
    · rw [evaluateBlock_eq, run_bind h, hfail parts hmissing]
    · rw [evaluateBlock_append, run_bind h]
      rcases hrest : contributions y context t with ⟨fault | others, u⟩
      · exact ⟨fault, u, run_bind_error hrest _⟩
      · refine ⟨.unfit, u, ?_⟩
        rw [run_bind hrest, hfail _ (List.mem_append_left others hmissing)]

/-! ## Plain states -/

/-- In a plain state no statement of a template has a label for its value. -/
theorem contributions_sound (h : ∀ node ∈ body, Fits .statement node) :
    Sound (none ∉ ·) (contributions body) := by
  induction body with
  | nil => exact .pure List.not_mem_nil
  | cons statement rest ih =>
    obtain ⟨hstatement, hrest⟩ := List.forall_mem_cons.mp h
    refine (statement_sound hstatement (.inr rfl)).bind fun value hvalue => ?_
    refine (contribution_sound statement hvalue).bind fun part hpart => ?_
    refine (ih hrest).bind fun parts hparts => .pure ?_
    rw [List.mem_cons, not_or]
    refine ⟨fun hnone => ?_, hparts⟩
    rw [← hnone] at hpart
    cases hpart

/-- In a plain state statements of a template and what follows them is one computation after the
other. -/
theorem evaluateBlock_append_of_plain (h : ∀ node ∈ x, Fits .statement node) (y : List Node)
    (hfilters : context.filters = []) (hs : s.Plain) :
    evaluateBlock (x ++ y) context s = (do
      let text ← evaluateBlock x
      let others ← evaluateBlock y
      pure (text ++ others)) context s := by
  have hlabels : ∀ parts u, contributions x context s = (.ok parts, u) → none ∉ parts := by
    intro parts u hparts
    have hsound := contributions_sound h context s hfilters hs
    rw [hparts] at hsound
    exact hsound.1
  rcases hrun : evaluateBlock x context s with ⟨fault | text, t⟩
  · rw [(compose x y context s).fault hrun hlabels, run_bind_error hrun]
  · rw [(compose x y context s).text hrun, run_bind hrun]

/-! ## One template after another -/

/-- Behind the tokens of a template others are the tokens of a template just if they are so alone,
and then the tree has the statements of both. Its evaluation is that of the first and then that of
the second. -/
theorem templates_compose {tokens : List Token} (h : Node.ofTokens tokens = .ok (.program x))
    (more : List Token) :
    ((∃ tree, Node.ofTokens (tokens ++ more) = .ok tree) ↔
      ∃ tree, Node.ofTokens more = .ok tree) ∧
    (∀ e, Node.ofTokens more = .error e → Node.ofTokens (tokens ++ more) = .error e) ∧
    ∀ y, Node.ofTokens more = .ok (.program y) →
      Node.ofTokens (tokens ++ more) = .ok (.program (x ++ y)) ∧
      ∀ context s, Compose x y context s := by
  rw [Node.ofTokens_append h more]
  unfold Node.ofTokens
  cases Parse.statementsWithin more.length more with
  | error e =>
    refine ⟨⟨?_, ?_⟩, ?_, ?_⟩
    · rintro ⟨_, htree⟩
      cases htree
    · rintro ⟨_, htree⟩
      cases htree
    · exact fun _ he => he
    · exact fun _ hy => nomatch hy
  | ok others =>
    refine ⟨⟨fun _ => ⟨_, rfl⟩, fun _ => ⟨_, rfl⟩⟩, ?_, ?_⟩
    · exact fun _ he => nomatch he
    · intro y hy
      cases hy
      exact ⟨rfl, compose x others⟩

/-- What follows a template finds the variables as the template leaves them. -/
theorem templates_compose_set :
    let tokens : List Token := [⟨.openStatement, "\x7b%"⟩, ⟨.set, "set"⟩, ⟨.identifier, "v"⟩,
      ⟨.equals, "="⟩, ⟨.stringLiteral, "a"⟩, ⟨.closeStatement, "%\x7d"⟩]
    let more : List Token := [⟨.openExpression, "\x7b\x7b"⟩, ⟨.identifier, "v"⟩,
      ⟨.closeExpression, "\x7d\x7d"⟩]
    let body : List Node := [.set (.name "v") (.text "a"), .name "v"]
    Node.ofTokens tokens = .ok (.program [.set (.name "v") (.text "a")]) ∧
      Node.ofTokens (tokens ++ more) = .ok (.program body) ∧
      (evaluateBlock body (.ofLibrary Host.stock [] false) .initial).1 = .ok "a" := by
  intro tokens more body
  have htokens : Node.ofTokens tokens = .ok (.program [.set (.name "v") (.text "a")]) := rfl
  obtain ⟨-, -, hcompose⟩ := templates_compose htokens more
  obtain ⟨htree, hevaluation⟩ := hcompose [.name "v"] rfl
  refine ⟨htokens, htree, ?_⟩
  have hfirst : evaluateBlock [.set (.name "v") (.text "a")] (.ofLibrary Host.stock [] false)
      .initial = (.ok "", { State.initial with
        environment := State.initial.environment.assign "v" (.text "a") }) := rfl
  exact congrArg Prod.fst ((hevaluation _ _).text hfirst)

end TextTemplate.Eval
