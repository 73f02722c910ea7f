import TextTemplate.Proofs.Syntax.Expression

/-!
# Templates read back

Statements and blocks of them read back, and so do whole templates: the tokens that the syntax tree
of a template is written as are read as the same tree.
-/

namespace TextTemplate

open Parse Token

namespace Node

/-! ## Tags without a body -/

theorem Readable.expression {node : Node} (h : node.Readable) :
    Reads Parse.expression (Stops .ternary) node.tokens node :=
  h.within (readsWithin_expression _) (Nat.lt_succ_self _)

/-- Where the tag of a statement ends, so does what stands in it. -/
theorem Fits.setWithin_reads {place : Place} {node : Node} (h : Fits place node)
    (hplace : place = .assignment) (bound : Nat) (hb : node.tokens.length < bound)
    (rest : List Token) :
    setWithin bound (node.tokens ++ ⟨.closeStatement, "%\x7d"⟩ :: rest) =
      .ok (node, ⟨.closeStatement, "%\x7d"⟩ :: rest) := by
  induction h generalizing bound with
  | value h =>
    obtain ⟨bound, rfl⟩ : ∃ n, bound = n + 1 := ⟨bound - 1, by omega⟩
    have hread := h.readable.expression (⟨.closeStatement, "%\x7d"⟩ :: rest)
      (stops_of_continues?_eq_none rfl)
    simp only [setWithin, hread, bind, Except.bind]
  | @assign target assigned ht hv _ ih =>
    obtain ⟨bound, rfl⟩ : ∃ n, bound = n + 1 := ⟨bound - 1, by omega⟩
    simp only [tokens, List.length_append, List.length_cons] at hb
    have hread := ht.readable.expression
      (⟨.equals, "="⟩ :: (assigned.tokens ++ ⟨.closeStatement, "%\x7d"⟩ :: rest))
      (stops_of_continues?_eq_none rfl)
    have hvalue := ih rfl bound (by omega)
    simp only [tokens, List.append_assoc, List.cons_append]
    simp only [setWithin, hread, bind, Except.bind, hvalue]
  | _ => cases hplace

/-! ## Blocks -/

/-- Kinds of the tokens that end a block, behind an opening delimiter. -/
def endsBlock : TokenKind → Bool
  | .elseIf | .else_ | .endIf | .endFor => true
  | _ => false

/-- A statement reads back within every bound on nesting that is no less than the number of its
tokens, and it does not end the block that it stands in. -/
structure ReadableStatement (node : Node) : Prop where
  reads : ∀ bound, node.statementTokens.length ≤ bound → ∀ rest,
    statementWithin bound (node.statementTokens ++ rest) = .ok (node, rest)
  opens : ∀ terminators rest, (∀ kind ∈ terminators, endsBlock kind) →
    atTerminator terminators (node.statementTokens ++ rest) = false

theorem ReadableStatement.ne_nil {node : Node} (h : node.ReadableStatement) :
    node.statementTokens ≠ [] := by
  intro hnil
  have hread := h.reads 1 (by simp [hnil]) []
  rw [hnil] at hread
  cases hread

theorem length_le_blockTokens {body : List Node} (h : ∀ node ∈ body, node.ReadableStatement) :
    body.length ≤ (blockTokens body).length := by
  induction body with
  | nil => simp
  | cons node body ih =>
    have hfirst := List.length_pos_iff.mpr (h node List.mem_cons_self).ne_nil
    have hothers := ih fun n hn => h n (List.mem_cons_of_mem _ hn)
    simp only [blockTokens, List.length_append, List.length_cons]
    omega

theorem length_statementTokens_le {body : List Node} {node : Node} (h : node ∈ body) :
    node.statementTokens.length ≤ (blockTokens body).length := by
  induction body with
  | nil => cases h
  | cons first body ih =>
    simp only [blockTokens, List.length_append]
    rcases List.mem_cons.mp h with rfl | h
    · omega
    · have := ih h
      omega

theorem blockWithin_reads {terminators : List TokenKind} {body : List Node} {bound : Nat}
    {rest : List Token} (h : ∀ node ∈ body, node.ReadableStatement)
    (hkinds : ∀ kind ∈ terminators, endsBlock kind) (hb : (blockTokens body).length ≤ bound)
    (hend : atTerminator terminators rest) (rounds : Nat) (hrounds : body.length < rounds) :
    blockWithin terminators (statementWithin bound) rounds (blockTokens body ++ rest) =
      .ok (body, rest) := by
  obtain ⟨rounds, rfl⟩ : ∃ n, rounds = n + 1 := ⟨rounds - 1, by omega⟩
  induction body generalizing rounds with
  | nil => simp only [blockTokens, List.nil_append, blockWithin, hend, ↓reduceIte]
  | cons node body ih =>
    obtain ⟨rounds, rfl⟩ : ∃ n, rounds = n + 1 :=
      ⟨rounds - 1, by rw [List.length_cons] at hrounds; omega⟩
    have hnode := h node List.mem_cons_self
    simp only [blockTokens, List.length_append] at hb
    have hread := hnode.reads bound (by omega) (blockTokens body ++ rest)
    have hopens := hnode.opens terminators (blockTokens body ++ rest) hkinds
    have hempty : (node.statementTokens ++ (blockTokens body ++ rest)).isEmpty = false := by
      cases htokens : node.statementTokens with
      | nil => exact absurd htokens hnode.ne_nil
      | cons token tokens => rfl
    have hothers := ih (fun n hn => h n (List.mem_cons_of_mem _ hn)) (by omega) rounds
      (by rw [List.length_cons] at hrounds; omega)
    rw [blockTokens, List.append_assoc, blockWithin]
    simp only [hopens, hempty, Bool.false_eq_true, ↓reduceIte, hread, bind, Except.bind, hothers]

theorem block_reads {terminators : List TokenKind} {body : List Node} {bound : Nat}
    {rest : List Token} (h : ∀ node ∈ body, node.ReadableStatement)
    (hkinds : ∀ kind ∈ terminators, endsBlock kind) (hb : (blockTokens body).length ≤ bound)
    (hend : atTerminator terminators rest) :
    block terminators (statementWithin bound) (blockTokens body ++ rest) = .ok (body, rest) := by
  have hlength := length_le_blockTokens h
  exact blockWithin_reads h hkinds hb hend _ (by rw [List.length_append]; omega)

/-! ## Statements -/

theorem text_readableStatement (s : String) : (Node.text s).ReadableStatement := by
  refine ⟨fun bound hb rest => ?_, fun terminators rest _ => ?_⟩
  · obtain ⟨bound, rfl⟩ : ∃ n, bound = n + 1 := ⟨bound - 1, by simp [statementTokens] at hb; omega⟩
    rfl
  · cases rest <;> rfl

/-- An expression in a tag of its own. -/
theorem output_readableStatement {node : Node} (h : node.Readable)
    (htokens : node.statementTokens = inExpression node.tokens) : node.ReadableStatement := by
  rw [inExpression] at htokens
  refine ⟨fun bound hb rest => ?_, fun terminators rest _ => ?_⟩
  · rw [htokens] at hb ⊢
    obtain ⟨bound, rfl⟩ : ∃ n, bound = n + 1 := ⟨bound - 1, by simp at hb; omega⟩
    have hread := h.expression (⟨.closeExpression, "\x7d\x7d"⟩ :: rest)
      (stops_of_continues?_eq_none rfl)
    simp only [List.cons_append, List.append_assoc, List.nil_append]
    simp only [statementWithin, statementStep, hread, bind, Except.bind, expect_self]
  · rw [htokens]
    cases node.tokens <;> rfl

theorem set_readableStatement {target value : Node} (h : Fits .assignment (.set target value)) :
    (Node.set target value).ReadableStatement := by
  refine ⟨fun bound hb rest => ?_, fun terminators rest hkinds => ?_⟩
  · simp only [statementTokens, inStatement, List.length_append, List.length_cons] at hb
    obtain ⟨bound, rfl⟩ : ∃ n, bound = n + 1 := ⟨bound - 1, by omega⟩
    have hread := h.setWithin_reads rfl
      (((Node.set target value).tokens ++ ⟨.closeStatement, "%\x7d"⟩ :: rest).length + 1)
      (by rw [List.length_append]; omega) rest
    simp only [statementTokens, inStatement, List.cons_append, List.append_assoc, List.nil_append]
    simp only [statementWithin, statementStep, statementBody, hread, bind, Except.bind, expect_self]
  · have hset : TokenKind.set ∉ terminators := fun hmem => absurd (hkinds _ hmem) (by decide)
    simp [statementTokens, inStatement, atTerminator, hset]

/-- The other branch of an `if` statement, behind `else` if there is any. -/
def alternateTokens (alternate : List Node) : List Token :=
  if alternate.isEmpty then [] else inStatement [⟨.else_, "else"⟩] ++ blockTokens alternate

theorem length_blockTokens_le_alternateTokens (alternate : List Node) :
    (blockTokens alternate).length ≤ (alternateTokens alternate).length := by
  cases alternate with
  | nil => simp [blockTokens]
  | cons node others =>
    simp only [alternateTokens, List.isEmpty_cons, Bool.false_eq_true, ↓reduceIte,
      List.length_append]
    omega

/-- What stands between the first delimiter of an `if` statement and its last tag. -/
theorem ifWithin_reads {condition : Node} {body alternate : List Node} {bound : Nat}
    (hc : condition.Readable) (hb : ∀ node ∈ body, node.ReadableStatement)
    (hbody : (blockTokens body).length ≤ bound)
    (ha : ∀ node ∈ alternate, node.ReadableStatement)
    (halternate : (blockTokens alternate).length ≤ bound) (rounds : Nat) (rest : List Token) :
    ifWithin (statementWithin bound) (rounds + 1) (condition.tokens ++
      ⟨.closeStatement, "%\x7d"⟩ :: (blockTokens body ++ (alternateTokens alternate ++
        ⟨.openStatement, "\x7b%"⟩ :: ⟨.endIf, "endif"⟩ :: rest))) =
      .ok (.branch condition body alternate,
        ⟨.openStatement, "\x7b%"⟩ :: ⟨.endIf, "endif"⟩ :: rest) := by
  have hend : ∀ terminators : List TokenKind, .endIf ∈ terminators → atTerminator terminators
      (⟨.openStatement, "\x7b%"⟩ :: ⟨.endIf, "endif"⟩ :: rest) := by
    intro terminators hmem
    simp [atTerminator, hmem]
  rw [ifWithin, hc.expression _ (stops_of_continues?_eq_none rfl)]
  cases alternate with
  | nil =>
    have hread := block_reads hb (by decide) hbody (hend [.elseIf, .else_, .endIf] (by decide))
    simp only [alternateTokens, List.isEmpty_nil, ↓reduceIte, List.nil_append]
    simp only [bind, Except.bind, expect_self, hread]
  | cons node others =>
    have hother := block_reads ha (by decide) halternate (hend [.endIf] (by decide))
    have helse : atTerminator [.elseIf, .else_, .endIf] (⟨.openStatement, "\x7b%"⟩ ::
        ⟨.else_, "else"⟩ :: ⟨.closeStatement, "%\x7d"⟩ :: (blockTokens (node :: others) ++
          ⟨.openStatement, "\x7b%"⟩ :: ⟨.endIf, "endif"⟩ :: rest)) := rfl
    have hread := block_reads hb (by decide) hbody helse
    simp only [alternateTokens, List.isEmpty_cons, Bool.false_eq_true, ↓reduceIte, inStatement,
      List.cons_append, List.nil_append]
    simp only [bind, Except.bind, expect_self, hread, hother]

theorem branch_readableStatement {condition : Node} {body alternate : List Node}
    (hc : condition.Readable) (hb : ∀ node ∈ body, node.ReadableStatement)
    (ha : ∀ node ∈ alternate, node.ReadableStatement) :
    (Node.branch condition body alternate).ReadableStatement := by
  have htokens : (Node.branch condition body alternate).statementTokens =
      ⟨.openStatement, "\x7b%"⟩ :: ⟨.if_, "if"⟩ :: (condition.tokens ++
        ⟨.closeStatement, "%\x7d"⟩ :: (blockTokens body ++ (alternateTokens alternate ++
          [⟨.openStatement, "\x7b%"⟩, ⟨.endIf, "endif"⟩, ⟨.closeStatement, "%\x7d"⟩]))) := by
    simp only [statementTokens, inStatement, alternateTokens, List.append_assoc, List.cons_append,
      List.nil_append]
  refine ⟨fun bound hlength rest => ?_, fun terminators rest hkinds => ?_⟩
  · rw [htokens] at hlength ⊢
    have halternate := length_blockTokens_le_alternateTokens alternate
    simp only [List.length_append, List.length_cons] at hlength
    obtain ⟨bound, rfl⟩ : ∃ n, bound = n + 1 := ⟨bound - 1, by omega⟩
    simp only [List.cons_append, List.append_assoc, List.nil_append]
    simp only [statementWithin, statementStep, statementBody]
    rw [ifWithin_reads hc hb (by omega) ha (by omega)]
    simp only [bind, Except.bind, closing, expect_self]
  · have hif : TokenKind.if_ ∉ terminators := fun hmem => absurd (hkinds _ hmem) (by decide)
    rw [htokens]
    simp [atTerminator, hif]

/-- The target of a loop in front of `in`. -/
theorem target_reads {target : Node} (h : Fits .expression target) (hform : target.IsTarget)
    (value : String) (rest : List Token) :
    sequence (primary Parse.expression) (target.targetTokens ++ ⟨.in_, value⟩ :: rest) =
      .ok (target, ⟨.in_, value⟩ :: rest) := by
  have hin : nextIs .comma (⟨.in_, value⟩ :: rest) = false := nextIs_of_ne (by decide) _ _
  have hstops : Stops .primary (⟨.in_, value⟩ :: rest) := by
    intro next hnext
    cases hnext
    decide
  cases h with
  | name h =>
    have hread := (name_readable h).readsBack (readsWithin_expression _) (Nat.le_refl _)
    exact sequence_reads_single (hread.reads _ hstops) hin
  | tuple hmany h =>
    have hitem := fun item hi =>
      (h item hi).readable.readsAt (readsWithin_expression _) .primary (Nat.le_refl _)
    exact sequence_reads_tuple hmany hitem (fun _ hcomma => stops_of_nextIs hcomma rfl) hstops hin
  | _ => exact hform.elim

/-- What stands between the first delimiter of a `for` statement and its last tag. -/
theorem forLoop_reads {target iterable : Node} {body : List Node} {bound : Nat}
    (ht : Fits .expression target) (hform : target.IsTarget) (hi : iterable.Readable)
    (hb : ∀ node ∈ body, node.ReadableStatement) (hbody : (blockTokens body).length ≤ bound)
    (rest : List Token) :
    forLoop (statementWithin bound) (target.targetTokens ++ ⟨.in_, "in"⟩ :: (iterable.tokens ++
      ⟨.closeStatement, "%\x7d"⟩ :: (blockTokens body ++
        ⟨.openStatement, "\x7b%"⟩ :: ⟨.endFor, "endfor"⟩ :: rest))) =
      .ok (.loop target iterable body,
        ⟨.openStatement, "\x7b%"⟩ :: ⟨.endFor, "endfor"⟩ :: rest) := by
  have hend : atTerminator [.endFor]
      (⟨.openStatement, "\x7b%"⟩ :: ⟨.endFor, "endfor"⟩ :: rest) := rfl
  have hread := block_reads hb (by decide) hbody hend
  have hiterable := hi.expression (⟨.closeStatement, "%\x7d"⟩ :: (blockTokens body ++
    ⟨.openStatement, "\x7b%"⟩ :: ⟨.endFor, "endfor"⟩ :: rest)) (stops_of_continues?_eq_none rfl)
  rw [forLoop, target_reads ht hform]
  cases target with
  | name s => simp only [bind, Except.bind, expect_self, hiterable, hread]
  | tuple items => simp only [bind, Except.bind, expect_self, hiterable, hread]
  | _ => exact hform.elim

theorem loop_readableStatement {target iterable : Node} {body : List Node}
    (ht : Fits .expression target) (hform : target.IsTarget) (hi : iterable.Readable)
    (hb : ∀ node ∈ body, node.ReadableStatement) :
    (Node.loop target iterable body).ReadableStatement := by
  have htokens : (Node.loop target iterable body).statementTokens =
      ⟨.openStatement, "\x7b%"⟩ :: ⟨.for_, "for"⟩ :: (target.targetTokens ++ ⟨.in_, "in"⟩ ::
        (iterable.tokens ++ ⟨.closeStatement, "%\x7d"⟩ :: (blockTokens body ++
          [⟨.openStatement, "\x7b%"⟩, ⟨.endFor, "endfor"⟩, ⟨.closeStatement, "%\x7d"⟩]))) := by
    simp only [statementTokens, inStatement, List.append_assoc, List.cons_append, List.nil_append]
  refine ⟨fun bound hlength rest => ?_, fun terminators rest hkinds => ?_⟩
  · rw [htokens] at hlength ⊢
    simp only [List.length_append, List.length_cons] at hlength
    obtain ⟨bound, rfl⟩ : ∃ n, bound = n + 1 := ⟨bound - 1, by omega⟩
    simp only [List.cons_append, List.append_assoc, List.nil_append]
    simp only [statementWithin, statementStep, statementBody]
    rw [forLoop_reads ht hform hi hb (by omega)]
    simp only [bind, Except.bind, closing, expect_self]
  · have hfor : TokenKind.for_ ∉ terminators := fun hmem => absurd (hkinds _ hmem) (by decide)
    rw [htokens]
    simp [atTerminator, hfor]

/-! ## Templates -/

/-- Every statement of the grammar reads back. -/
theorem Fits.readableStatement {place : Place} {node : Node} (h : Fits place node)
    (hplace : place = .statement) : node.ReadableStatement := by
  induction h with
  | @output node h =>
    cases h with
    | value h =>
      by_cases htext : ∃ s, node = .text s
      · obtain ⟨s, rfl⟩ := htext
        exact text_readableStatement s
      · refine output_readableStatement h.readable ?_
        cases h <;> first | rfl | exact absurd ⟨_, rfl⟩ htext
    | assign ht hv => exact set_readableStatement (.assign ht hv)
  | branch hc _ _ _ ihb iha =>
    exact branch_readableStatement hc.readable (fun n hn => ihb n hn rfl) (fun n hn => iha n hn rfl)
  | loop ht hform hi _ _ _ ihb =>
    exact loop_readableStatement ht hform hi.readable (fun n hn => ihb n hn rfl)
  | _ => cases hplace

theorem statementsWithin_reads {body : List Node} (h : ∀ node ∈ body, node.ReadableStatement)
    (bound : Nat) (hb : (blockTokens body).length ≤ bound) :
    statementsWithin bound (blockTokens body) = .ok body := by
  induction body generalizing bound with
  | nil => cases bound <;> rfl
  | cons node body ih =>
    have hnode := h node List.mem_cons_self
    have hread := hnode.reads (blockTokens (node :: body)).length
      (length_statementTokens_le List.mem_cons_self) (blockTokens body)
    have hpos := List.length_pos_iff.mpr hnode.ne_nil
    simp only [blockTokens, List.length_append] at hb hread ⊢
    obtain ⟨bound, rfl⟩ : ∃ n, bound = n + 1 := ⟨bound - 1, by omega⟩
    have hothers := ih (fun n hn => h n (List.mem_cons_of_mem _ hn)) bound (by omega)
    cases htokens : node.statementTokens ++ blockTokens body with
    | nil => exact absurd (List.append_eq_nil_iff.mp htokens).1 hnode.ne_nil
    | cons token tokens =>
      rw [statementsWithin, ← htokens, statement, List.length_append, hread]
      · simp only [bind, Except.bind, hothers]
      · exact List.cons_ne_nil _ _

/-- Every template of the grammar reads back. -/
theorem IsTemplate.ofTokens_toTokens {tree : Node} (h : tree.IsTemplate) :
    Node.ofTokens tree.toTokens = .ok tree := by
  cases tree with
  | program body =>
    have hbody := statementsWithin_reads (fun node hn => (h node hn).readableStatement rfl) _
      (Nat.le_refl _)
    rw [toTokens, ofTokens, hbody]
    rfl
  | _ => exact h.elim

end Node

/-- The tree of a template is read back from the tokens that it is written as. -/
theorem Node.ofTokens_toTokens_of_ofTokens {tokens : List Token} {tree : Node}
    (hscanned : ∀ token ∈ tokens, token.IsScanned) (h : Node.ofTokens tokens = .ok tree) :
    Node.ofTokens tree.toTokens = .ok tree :=
  (isTemplate_of_ofTokens (fun token ht => (hscanned token ht).lexical) h).ofTokens_toTokens

/-- The tree of `(a or b)[1:]` keeps its parentheses, and its slice gets the colon it lacks. -/
theorem Node.ofTokens_toTokens_slice :
    let tokens : List Token :=
      [⟨.openExpression, "\x7b\x7b"⟩, ⟨.openParen, "("⟩, ⟨.identifier, "a"⟩, ⟨.or, "or"⟩,
        ⟨.identifier, "b"⟩, ⟨.closeParen, ")"⟩, ⟨.openSquareBracket, "["⟩,
        ⟨.numericLiteral, "1"⟩, ⟨.colon, ":"⟩, ⟨.closeSquareBracket, "]"⟩,
        ⟨.closeExpression, "\x7d\x7d"⟩]
    let tree : Node := .program [.member (.binary "or" (.name "a") (.name "b"))
      (.slice (some (.number (.int 1))) none none) true]
    (∀ token ∈ tokens, token.IsScanned) ∧ Node.ofTokens tokens = .ok tree ∧
      Node.ofTokens tree.toTokens = .ok tree := by
  intro tokens tree
  have hsource : ofSource {} "\x7b\x7b (a or b)[1:] \x7d\x7d" = .ok tokens := by cbv
  have hscanned : ∀ token ∈ tokens, token.IsScanned := fun _ ht => ⟨_, _, _, hsource, ht⟩
  have htree : Node.ofTokens tokens = .ok tree := by rfl
  exact ⟨hscanned, htree, ofTokens_toTokens_of_ofTokens hscanned htree⟩

end TextTemplate
