import TextTemplate.Host.Stock
import TextTemplate.Proofs.Eval.Reading
import TextTemplate.Proofs.Eval.Scoping
import TextTemplate.Proofs.Scope.Writing
import TextTemplate.Proofs.Syntax.Compiling
import TextTemplate.Proofs.Syntax.Ending
import TextTemplate.Proofs.Syntax.RoundTrip

/-!
# Chains of assignments

A `set` statement can have several targets in front of its value. It is read as the assignment to
the first target of the assignment to those behind it. An assignment answers nothing, so it is only
the target next to the value that is set to the value; those in front of it are set to nothing.
-/

namespace TextTemplate

open Parse Token

/-! ## Reading a chain -/

namespace Node

/-- The assignment of a value to several targets. -/
def chain (targets : List String) (value : Node) : Node :=
  targets.foldr (fun name assigned => .set (.name name) assigned) value

theorem chain_cons (name : String) (others : List String) (value : Node) :
    chain (name :: others) value = .set (.name name) (chain others value) := rfl

theorem areExpressions_of_forall {items : List Node} (h : ∀ item ∈ items, item.isExpression) :
    areExpressions items := by
  induction items with
  | nil => rfl
  | cons item rest ih =>
    rw [areExpressions, h item List.mem_cons_self, ih fun other hmem =>
      h other (List.mem_cons_of_mem _ hmem)]
    rfl

theorem pairsAreExpressions_of_forall {pairs : List (Node × Node)}
    (hkeys : ∀ pair ∈ pairs, pair.1.isExpression) (hvalues : ∀ pair ∈ pairs, pair.2.isExpression) :
    pairsAreExpressions pairs := by
  induction pairs with
  | nil => rfl
  | cons pair rest ih =>
    rw [pairsAreExpressions, hkeys pair List.mem_cons_self, hvalues pair List.mem_cons_self,
      ih (fun other hmem => hkeys other (List.mem_cons_of_mem _ hmem))
        fun other hmem => hvalues other (List.mem_cons_of_mem _ hmem)]
    rfl

theorem partIsExpression_of_forall {part : Option Node} (h : ∀ node ∈ part, node.isExpression) :
    partIsExpression part := by
  cases part with
  | none => rfl
  | some node => exact h node rfl

/-- What a place takes for a value is an expression all through. -/
def ExpressionIn : Place → Node → Prop
  | .expression, node | .argument, node => node.isExpression
  | _, _ => True

/-- There is no statement in what the grammar has for an expression. -/
theorem Fits.expressionIn {place : Place} {node : Node} (h : Fits place node) :
    ExpressionIn place node := by
  have and_true {a b : Bool} (ha : a = true) (hb : b = true) : (a && b) = true :=
    Bool.and_eq_true_iff.mpr ⟨ha, hb⟩
  induction h with
  | name | number | text | bool | null => rfl
  | array _ ih => exact areExpressions_of_forall ih
  | tuple _ _ ih => exact areExpressions_of_forall ih
  | object _ _ ihkeys ihvalues => exact pairsAreExpressions_of_forall ihkeys ihvalues
  | ternary _ _ _ ihc iht ihf => exact and_true (and_true ihc iht) ihf
  | binary _ _ _ ihl ihr => exact and_true ihl ihr
  | unary _ _ iha => exact iha
  | test _ _ _ iho iha => exact and_true (and_true iho rfl) (areExpressions_of_forall iha)
  | filter _ _ iho => exact and_true iho rfl
  | filterCall _ _ _ iho iha => exact and_true iho (and_true rfl (areExpressions_of_forall iha))
  | member _ _ iho => exact and_true iho rfl
  | item _ _ iho ihp => exact and_true iho ihp
  | slice _ _ _ _ iho ihstart ihstop ihstep =>
    exact and_true iho (and_true (and_true (partIsExpression_of_forall ihstart)
      (partIsExpression_of_forall ihstop)) (partIsExpression_of_forall ihstep))
  | call _ _ ihc iha => exact and_true ihc (areExpressions_of_forall iha)
  | positional _ ih => exact ih
  | keyword _ _ ihv => exact and_true rfl ihv
  | value | assign | output | branch | loop => trivial

end Node

/-- The targets of a chain, each with the sign behind it. -/
def Token.ofTargets (targets : List String) : List Token :=
  targets.flatMap fun name => [⟨.identifier, name⟩, ⟨.equals, "="⟩]

theorem Token.length_le_ofTargets (targets : List String) (rest : List Token) :
    targets.length ≤ (ofTargets targets ++ rest).length := by
  have hlength : (ofTargets targets).length = targets.length * 2 := by
    simp [ofTargets, List.length_flatMap, List.sum_replicate]
  rw [List.length_append]
  omega

namespace Parse

open Node

variable {targets : List String} {tokens rest : List Token} {value : Node}

theorem expression_target {name : String} (h : IsPlainName name) (rest : List Token) :
    expression (⟨.identifier, name⟩ :: ⟨.equals, "="⟩ :: rest) =
      .ok (.name name, ⟨.equals, "="⟩ :: rest) := by
  have hread := (name_readable h).expression (⟨.equals, "="⟩ :: rest)
    (stops_of_continues?_eq_none rfl)
  rwa [Node.tokens, ofName_eq_of_isPlainName h] at hread

theorem setWithin_chain (hnames : ∀ name ∈ targets, IsPlainName name)
    (hvalue : expression tokens = .ok (value, rest)) (hrest : nextIs .equals rest = false)
    {bound : Nat} (hbound : targets.length < bound) :
    setWithin bound (ofTargets targets ++ tokens) = .ok (chain targets value, rest) := by
  induction targets generalizing bound with
  | nil =>
    obtain ⟨bound, rfl⟩ : ∃ n, bound = n + 1 := ⟨bound - 1, by omega⟩
    simp only [ofTargets, List.flatMap_nil, List.nil_append, setWithin, hvalue, bind, Except.bind]
    split
    · cases hrest
    · rfl
  | cons name others ih =>
    rw [List.length_cons] at hbound
    obtain ⟨bound, rfl⟩ : ∃ n, bound = n + 1 := ⟨bound - 1, by omega⟩
    have htarget := expression_target (hnames name List.mem_cons_self) (ofTargets others ++ tokens)
    have hothers : setWithin bound (ofTargets others ++ tokens) = .ok (chain others value, rest) :=
      ih (fun other h => hnames other (List.mem_cons_of_mem _ h)) (by omega)
    show setWithin (bound + 1)
      (⟨.identifier, name⟩ :: ⟨.equals, "="⟩ :: (ofTargets others ++ tokens)) = _
    simp only [setWithin, htarget, hothers, bind, Except.bind]
    rfl

/-- A statement of its own is a whole template. -/
theorem statements_of_statement {tokens : List Token} {node : Node}
    (h : statement tokens = .ok (node, [])) (hne : tokens ≠ []) :
    Node.ofTokens tokens = .ok (.program [node]) := by
  obtain ⟨token, rest, rfl⟩ := List.exists_cons_of_ne_nil hne
  rw [Node.ofTokens, List.length_cons, statementsWithin, h]
  · cases rest.length <;> rfl
  · exact List.cons_ne_nil token rest

end Parse

/-- A source is the statement that sets the targets to the value of an expression. -/
def SetsTo (trimming : Source.Trimming) (source : String) (targets : List String) (value : Node) :
    Prop :=
  ∃ opening keyword tokens closing,
    Token.ofSource trimming source = .ok (⟨.openStatement, opening⟩ :: ⟨.set, keyword⟩ ::
      (ofTargets targets ++ (tokens ++ [⟨.closeStatement, closing⟩]))) ∧
    expression (tokens ++ [⟨.closeStatement, closing⟩]) = .ok (value, [⟨.closeStatement, closing⟩])

section SetsTo

variable {trimming : Source.Trimming} {source : String} {targets : List String} {value : Node}

theorem SetsTo.isExpression (h : SetsTo trimming source targets value) : value.isExpression := by
  obtain ⟨opening, keyword, tokens, closing, htokens, hvalue⟩ := h
  have hlexical : AllLexical (tokens ++ [⟨.closeStatement, closing⟩]) := fun token hmem =>
    IsScanned.lexical ⟨trimming, source, _, htokens, by simp [hmem]⟩
  exact (expression_yields hlexical hvalue).1.expressionIn

theorem SetsTo.compile_eq (h : SetsTo trimming source targets value) :
    compile trimming source = .ok (.program [.chain targets value]) := by
  obtain ⟨opening, keyword, tokens, closing, htokens, hvalue⟩ := h
  have hnames : ∀ name ∈ targets, Node.IsPlainName name := fun name hname => by
    have hmem : (⟨.identifier, name⟩ : Token) ∈ ofTargets targets :=
      List.mem_flatMap.mpr ⟨name, hname, List.mem_cons_self⟩
    have hscanned : IsScanned ⟨.identifier, name⟩ :=
      ⟨trimming, source, _, htokens, by simp [hmem]⟩
    exact hscanned.lexical
  refine compile_of_analyse (analyse_of_ofSource htokens (statements_of_statement ?_ nofun))
  have hset := setWithin_chain hnames hvalue rfl
    (Nat.lt_succ_of_le (length_le_ofTargets targets (tokens ++ [⟨.closeStatement, closing⟩])))
  rw [statement_eq, statementStep, statementBody]
  simp only [hset, bind, Except.bind]
  rfl

end SetsTo

/-! ## Evaluating a chain -/

/-- What becomes of the variables in a chain of assignments: the target next to the value is set to
the value, and those in front of it to nothing. -/
structure Chained (earlier : List String) (last : String) (value : Value)
    (before after : Environment) : Prop where
  lookup : ∀ name, after.lookup name =
    if name ∈ earlier then .null else if name = last then value else before.lookup name
  /-- Each target is written in the scope that resolves it, or else in the innermost one. -/
  written : ∀ depth name, after.bindingAt? depth name =
    if (name ∈ earlier ∨ name = last) ∧ depth = before.writeDepth name then
      some (if name ∈ earlier then .null else value)
    else before.bindingAt? depth name
  depths : ∀ name, after.writeDepth name = before.writeDepth name
  tests : after.scopes.map (·.tests) = before.scopes.map (·.tests)

namespace Chained

variable {earlier : List String} {last : String} {value : Value} {before after : Environment}

theorem single (before : Environment) (last : String) (value : Value) :
    Chained [] last value before (before.assign last value) where
  lookup name := by simp [before.lookup_assign]
  written depth name := by
    rw [before.bindingAt?_assign]
    by_cases hname : name = last
    · subst hname
      simp
    · simp [hname]
  depths name := before.writeDepth_assign last name value
  tests := before.tests_assign last value

theorem cons (h : Chained earlier last value before after) (first : String) :
    Chained (first :: earlier) last value before (after.assign first .null) where
  lookup name := by
    rw [after.lookup_assign, h.lookup]
    by_cases hname : name = first <;> simp [hname]
  written depth name := by
    rw [after.bindingAt?_assign, h.written, h.depths]
    by_cases hname : name = first
    · subst hname
      by_cases hdepth : depth = before.writeDepth name <;> simp [hdepth]
    · simp [hname]
  depths name := (after.writeDepth_assign first name .null).trans (h.depths name)
  tests := (after.tests_assign first .null).trans h.tests

/-- All targets are set to the value just if there is but one, or the value is nothing. -/
theorem lookup_eq_iff (h : Chained earlier last value before after) :
    (∀ name ∈ earlier ++ [last], after.lookup name = value) ↔ earlier = [] ∨ value = .null := by
  constructor
  · intro hall
    cases earlier with
    | nil => exact .inl rfl
    | cons first others =>
      have hfirst := hall first (by simp)
      rw [h.lookup, if_pos List.mem_cons_self] at hfirst
      exact .inr hfirst.symm
  · rintro (rfl | rfl) name hname
    · rw [h.lookup, if_neg (List.not_mem_nil), if_pos (by simpa using hname)]
    · rw [h.lookup]
      split
      · rfl
      · rename_i hearlier
        rw [if_pos (by simpa [hearlier] using hname)]

end Chained

namespace Eval

variable {context : Context} {s t : State} {node : Node} {value : Value}

/-- A chain is evaluated from the value to the front. -/
theorem evaluate_chain (h : evaluate node context s = (.ok value, t)) (earlier : List String)
    (last : String) :
    ∃ after, evaluate (.chain (earlier ++ [last]) node) context s = (.ok .null, ⟨t.memory, after⟩) ∧
      Chained earlier last value t.environment after := by
  induction earlier with
  | nil => exact ⟨_, evaluate_set h, .single _ _ _⟩
  | cons first others ih =>
    obtain ⟨after, hothers, hchained⟩ := ih
    refine ⟨after.assign first .null, ?_, hchained.cons first⟩
    rw [List.cons_append, Node.chain_cons]
    exact evaluate_set hothers

/-- A statement with any number of targets renders nothing. The target next to the value is set to
it, and those in front to nothing. -/
theorem evaluate_setsTo {trimming : Source.Trimming} {source : String} {earlier : List String}
    {last : String} (h : SetsTo trimming source (earlier ++ [last]) node) :
    ∃ tree, compile trimming source = .ok tree ∧
      ∀ context s value t, evaluate node context s = (.ok value, t) →
        ∃ after, evaluate tree context s = (.ok (.text ""), ⟨t.memory, after⟩) ∧
          Chained earlier last value s.environment after ∧
          ((∀ name ∈ earlier ++ [last], after.lookup name = value) ↔
            earlier = [] ∨ value = .null) := by
  refine ⟨_, h.compile_eq, fun context s value t hvalue => ?_⟩
  have hkept : t.environment = s.environment := by
    have hframe := (evaluate_frame node context s).expression h.isExpression
    rwa [hvalue] at hframe
  obtain ⟨after, hchain, hchained⟩ := evaluate_chain hvalue earlier last
  rw [hkept] at hchained
  refine ⟨after, ?_, hchained, hchained.lookup_eq_iff⟩
  rw [evaluate]
  refine (run_bind (evaluateBlock_cons hchain rfl evaluateBlock_nil) _).trans ?_
  rfl

theorem evaluate_setsTo_two_targets :
    let source := "\x7b% set a = b = 1 %\x7d"
    let context := Context.ofLibrary Host.stock [] false
    SetsTo .full source (["a"] ++ ["b"]) (.number (.int 1)) ∧
      ∃ tree after, compile .full source = .ok tree ∧
        evaluate tree context .initial = (.ok (.text ""), ⟨Memory.empty, after⟩) ∧
        after.lookup "a" = .null ∧ after.lookup "b" = .number (.int 1) := by
  intro source context
  have hsets : SetsTo .full source (["a"] ++ ["b"]) (.number (.int 1)) := by
    refine ⟨"\x7b%", "set", [⟨.numericLiteral, "1"⟩], "%\x7d", ?_, rfl⟩
    let cs := ['\x7b', '%', ' ', 's', 'e', 't', ' ', 'a', ' ', '=', ' ', 'b', ' ', '=', ' ', '1', ' ',
      '%', '\x7d']
    have hchars : source.toList = cs := String.toList_ofList
    have hprepared : Source.prepareChars .full cs = cs := by decide +kernel
    simp only [Token.ofSource, hchars, hprepared]
    rfl
  obtain ⟨tree, htree, heval⟩ := evaluate_setsTo hsets
  obtain ⟨after, hafter, hchained, -⟩ := heval context .initial (.number (.int 1)) .initial rfl
  exact ⟨hsets, tree, after, htree, hafter, hchained.lookup "a", hchained.lookup "b"⟩

end Eval

end TextTemplate
