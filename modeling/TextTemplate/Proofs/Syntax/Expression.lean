import TextTemplate.Proofs.Syntax.Bracket

/-!
# Expressions read back

Every expression that fits the grammar reads back, by induction on how it fits: one lemma for each
kind of node.
-/

namespace TextTemplate

open Parse Token

namespace Node

variable {expression : Parse Node} {bound : Nat}

/-! ## Primary expressions -/

theorem ofName_eq_of_isPlainName {s : String} (h : IsPlainName s) :
    ofName s = ⟨.identifier, s⟩ := by
  rw [ofName, show keyword? s.toList = none from h]
  rfl

theorem name_readable {s : String} (h : IsPlainName s) : (Node.name s).Readable := by
  refine ⟨.name h, fun _ _ => .of_primary rfl fun rest => ?_⟩
  simp only [tokens, ofName_eq_of_isPlainName h]
  rfl

theorem number_readable {i : Int} (h : (decimalDigits i.natAbs).length ≤ digitLimit) :
    (Node.number (.int i)).Readable := by
  refine ⟨.number h, fun {expression _} _ _ => .of_primary rfl fun rest => ?_⟩
  have hread : numeral (ofInt i).value = .ok i := by
    simp only [ofInt, ofChars, numeral, String.toList_ofList, Numeral.wholeOfChars_integerChars h]
  show (do let value ← numeral (ofInt i).value; Except.ok (Node.number (.int value), rest)) = _
  rw [hread]
  rfl

theorem text_readable (s : String) : (Node.text s).Readable :=
  ⟨.text s, fun _ _ => .of_primary rfl fun _ => rfl⟩

theorem bool_readable (b : Bool) : (Node.bool b).Readable := by
  refine ⟨.bool b, fun _ _ => .of_primary rfl fun rest => ?_⟩
  cases b <;> rfl

theorem null_readable : Node.null.Readable :=
  ⟨.null, fun _ _ => .of_primary rfl fun _ => rfl⟩

theorem array_readable {items : List Node} (h : ∀ item ∈ items, item.Readable) :
    (Node.array items).Readable := by
  refine ⟨.array fun item hi => (h item hi).fits, fun {expression bound} hex hb =>
    .of_primary rfl fun rest => ?_⟩
  simp only [tokens, tokensOfAll_eq, List.length_append, List.length_cons] at hb
  have hlength : ∀ item ∈ items, item.tokens.length < bound := by
    intro item hi
    have := length_le_separated (List.mem_map_of_mem (f := tokens) hi)
    omega
  have hitem : ∀ item ∈ items, Reads expression (EndsItem .closeSquareBracket) item.tokens item :=
    fun item hi => (h item hi).inList hex (hlength item hi) rfl
  have hstart : ∀ item ∈ items, ∀ rest, nextIs .closeSquareBracket (item.tokens ++ rest) = false :=
    fun item hi rest =>
      ((h item hi).starts hex (Nat.le_of_lt (hlength item hi))).not_nextIs _ rfl (by decide) rest
  have hread := items_reads "comma in array literal" "closing square bracket" "]" (by decide)
    hitem hstart rest
  simp only [tokens, tokensOfAll_eq, List.cons_append, List.append_assoc, List.nil_append, primary]
  simp only [hread, bind, Except.bind]

theorem tuple_readable {items : List Node} (hmany : 2 ≤ items.length)
    (h : ∀ item ∈ items, item.Readable) : (Node.tuple items).Readable := by
  refine ⟨.tuple hmany fun item hi => (h item hi).fits, fun {expression bound} hex hb =>
    .of_primary rfl fun rest => ?_⟩
  simp only [tokens, tokensOfAll_eq, parenthesised, List.length_append, List.length_cons] at hb
  have hitem : ∀ item ∈ items, Reads expression (EndsItem .closeParen) item.tokens item := by
    intro item hi
    have hlength := length_le_separated (List.mem_map_of_mem (f := tokens) hi)
    exact (h item hi).inList hex (by omega) rfl
  have hread := sequence_reads_tuple hmany hitem (fun _ => .inl)
    (.inr (nextIs_self .closeParen ")" rest)) (nextIs_of_ne (by decide) _ _)
  simp only [tokens, tokensOfAll_eq, parenthesised, List.cons_append, List.append_assoc,
    List.nil_append, primary]
  simp only [hread, bind, Except.bind, expect_self]

theorem pair_reads {p : Node × Node} {close : TokenKind} (hkey : p.1.Readable)
    (hvalue : p.2.Readable) (hex : ReadsWithin expression bound)
    (hb : (pairTokens p).length < bound) (hclose : close.continues? = none) :
    Reads (pair expression) (EndsItem close) (pairTokens p) p := by
  intro rest hrest
  simp only [pairTokens, List.length_append, List.length_cons] at hb
  have hk := hkey.within hex (by omega) (⟨.colon, ":"⟩ :: (p.2.tokens ++ rest))
    (stops_of_continues?_eq_none rfl)
  have hv := hvalue.inList hex (by omega) hclose rest hrest
  simp only [pair, pairTokens, List.append_assoc, List.cons_append]
  simp only [hk, bind, Except.bind, expect_self, hv]

theorem object_readable {pairs : List (Node × Node)} (hkeys : ∀ pair ∈ pairs, pair.1.Readable)
    (hvalues : ∀ pair ∈ pairs, pair.2.Readable) : (Node.object pairs).Readable := by
  refine ⟨.object (fun p hp => (hkeys p hp).fits) (fun p hp => (hvalues p hp).fits),
    fun {expression bound} hex hb => .of_primary rfl fun rest => ?_⟩
  simp only [tokens, tokensOfPairs_eq, List.length_append, List.length_cons] at hb
  have hlength : ∀ p ∈ pairs, (pairTokens p).length < bound := by
    intro p hp
    have := length_le_separated (List.mem_map_of_mem (f := pairTokens) hp)
    omega
  have hitem : ∀ p ∈ pairs,
      Reads (pair expression) (EndsItem .closeCurlyBracket) (pairTokens p) p :=
    fun p hp => pair_reads (hkeys p hp) (hvalues p hp) hex (hlength p hp) rfl
  have hstart : ∀ p ∈ pairs, ∀ rest, nextIs .closeCurlyBracket (pairTokens p ++ rest) = false := by
    intro p hp rest
    have hkey := hlength p hp
    rw [pairTokens, List.length_append] at hkey
    rw [pairTokens, List.append_assoc]
    exact ((hkeys p hp).starts hex (by omega)).not_nextIs _ rfl (by decide) _
  have hread := items_reads "comma in object literal" "closing curly bracket" "\x7d" (by decide)
    hitem hstart rest
  simp only [tokens, tokensOfPairs_eq, List.cons_append, List.append_assoc, List.nil_append,
    primary]
  simp only [hread, bind, Except.bind]

/-! ## Operators -/

theorem ternary_readable {condition whenTrue whenFalse : Node} (hc : condition.Readable)
    (ht : whenTrue.Readable) (hf : whenFalse.Readable) :
    (Node.ternary condition whenTrue whenFalse).Readable := by
  refine ⟨.ternary hc.fits ht.fits hf.fits, fun {expression bound} hex hb =>
    .of_reads rfl fun rest hrest => ?_⟩
  have htokens : (Node.ternary condition whenTrue whenFalse).tokens =
      tokensAt .or whenTrue ++ ⟨.if_, "if"⟩ :: (tokensAt .or condition ++ ⟨.else_, "else"⟩ ::
        tokensAt .or whenFalse) := by
    simp only [tokens, tokensAt, List.append_assoc, List.cons_append]
  rw [htokens] at hb ⊢
  simp only [List.length_append, List.length_cons] at hb
  have htrue := ht.readsAt hex .or (by omega) (⟨.if_, "if"⟩ :: (tokensAt .or condition ++
    ⟨.else_, "else"⟩ :: (tokensAt .or whenFalse ++ rest))) (by
      intro next hnext
      cases hnext
      decide)
  have hcondition := hc.readsAt hex .or (by omega)
    (⟨.else_, "else"⟩ :: (tokensAt .or whenFalse ++ rest)) (stops_of_continues?_eq_none rfl)
  have hfalse := hf.readsAt hex .or (by omega) rest hrest.tighter
  simp only [atLevel] at htrue hcondition hfalse
  show Parse.ternary expression _ = _
  simp only [Parse.ternary, List.append_assoc, List.cons_append]
  simp only [htrue, bind, Except.bind, hcondition, expect_self, hfalse]

theorem binaryPrecedence_of_mem {operator : String} {kind : TokenKind}
    (h : (operator, kind) ∈ binaryOperators) :
    binaryKind operator = kind ∧ kind.continues? = some (binaryPrecedence operator) ∧
      binaryPrecedence operator ∈
        [Precedence.or, .and, .comparison, .additive, .multiplicative] := by
  have hall : ∀ p ∈ binaryOperators, binaryKind p.1 = p.2 ∧
      p.2.continues? = some (binaryPrecedence p.1) ∧
      binaryPrecedence p.1 ∈
        [Precedence.or, .and, .comparison, .additive, .multiplicative] := by
    decide
  exact hall _ h

theorem stepAt?_operator {level : Precedence}
    (h : level ∈ [Precedence.or, .and, .comparison, .additive, .multiplicative]) :
    stepAt? expression level = some (operatorStep expression level) := by
  simp only [List.mem_cons, List.not_mem_nil, or_false] at h
  rcases h with rfl | rfl | rfl | rfl | rfl <;> rfl

theorem binary_readable {operator : String} {kind : TokenKind} {left right : Node}
    (ho : (operator, kind) ∈ binaryOperators) (hl : left.Readable) (hr : right.Readable) :
    (Node.binary operator left right).Readable := by
  obtain ⟨hkind, hcontinues, hmem⟩ := binaryPrecedence_of_mem ho
  have htokens : (Node.binary operator left right).tokens =
      tokensAt (binaryPrecedence operator) left ++
        ⟨kind, operator⟩ :: tokensAt (binaryPrecedence operator).tighter right := by
    simp only [tokens, tokensAt, ofBinary, hkind]
  refine hl.grow (binaryPrecedence operator) rfl (.binary ho hl.fits hr.fits) htokens hcontinues
    fun hex hb => ⟨_, stepAt?_operator hmem, fun rest hrest => ?_⟩
  have hright := hr.readsAt hex (binaryPrecedence operator).tighter (Nat.le_of_lt hb) rest hrest
  simp only [operatorStep, binaryStep, hcontinues, beq_self_eq_true, ↓reduceIte, hright, bind,
    Except.bind]

theorem unary_readable {operator : String} {argument : Node} (ho : operator ∈ unaryOperators)
    (ha : argument.Readable) : (Node.unary operator argument).Readable := by
  refine ⟨.unary ho ha.fits, fun {expression bound} hex hb => ?_⟩
  have htokens : (Node.unary operator argument).tokens =
      ⟨.unaryOperator, operator⟩ ::
        tokensAt (Node.unary operator argument).precedence argument := by
    simp only [tokens, tokensAt]
  rw [htokens, List.length_cons] at hb
  have hread := ha.readsAt hex (Node.unary operator argument).precedence (by omega)
  simp only [unaryOperators, List.mem_cons, List.not_mem_nil, or_false] at ho
  -- the operand is read by the very level of the operator, so operators may be repeated
  rcases ho with rfl | rfl | rfl
  all_goals
    refine .of_reads rfl fun rest hrest => ?_
    have hargument := hread rest hrest
    rw [htokens]
    simp only [precedence, String.reduceBEq, Bool.false_eq_true, ↓reduceIte, atLevel] at hargument ⊢
    simp [Parse.unary, isNot, isSign, hargument, bind, Except.bind]

/-! ## Arguments -/

/-- The parser of arguments reads a node back, and does not take it for the end of the list. -/
def ReadableArgument (node : Node) : Prop :=
  ∀ {expression bound}, ReadsWithin expression bound → node.tokens.length < bound →
    Reads (Parse.argument expression) (EndsItem .closeParen) node.tokens node ∧
      StartsAt .ternary node.tokens

theorem not_equals_of_endsItem {close : TokenKind} {rest : List Token} (h : EndsItem close rest)
    (hclose : close ≠ .equals) : nextIs .equals rest = false := by
  cases rest with
  | nil => rfl
  | cons token rest =>
    simp only [EndsItem, nextIs, beq_iff_eq] at h
    simp only [nextIs, beq_eq_false_iff_ne]
    rintro heq
    rcases h with h | h
    · rw [heq] at h
      cases h
    · exact hclose (h.symm.trans heq)

theorem Readable.argument {node : Node} (h : node.Readable) : node.ReadableArgument := by
  intro expression bound hex hb
  have hstarts := h.starts hex (Nat.le_of_lt hb)
  refine ⟨fun rest hrest => ?_, hstarts⟩
  have hread := h.inList hex hb rfl rest hrest
  have hequals := not_equals_of_endsItem hrest (by decide)
  cases htokens : node.tokens with
  | nil =>
    rw [htokens] at hstarts
    exact hstarts.elim
  | cons token others =>
    rw [htokens, List.cons_append] at hread
    simp only [List.cons_append, Parse.argument, hread, bind, Except.bind]
    split
    · simp [nextIs] at hequals
    · rfl

theorem keyword_readable {name : String} {value : Node} (hn : IsPlainName name)
    (hv : value.Readable) : (Node.keyword (.name name) value).ReadableArgument := by
  have hofName := ofName_eq_of_isPlainName hn
  have htokens : (Node.keyword (.name name) value).tokens =
      ⟨.identifier, name⟩ :: ⟨.equals, "="⟩ :: value.tokens := by
    simp only [tokens, hofName, List.cons_append, List.nil_append]
  intro expression bound hex hb
  rw [htokens] at hb ⊢
  refine ⟨fun rest hrest => ?_, .inl rfl⟩
  simp only [List.length_cons] at hb
  have hname := (name_readable hn).within hex
    (by simp only [tokens, List.length_singleton]; omega)
    (⟨.equals, "="⟩ :: (value.tokens ++ rest)) (stops_of_continues?_eq_none rfl)
  have hvalue := hv.inList hex (by omega) rfl rest hrest
  simp only [tokens, hofName, List.cons_append, List.nil_append] at hname
  simp only [List.cons_append, Parse.argument, hname, bind, Except.bind, hvalue]

theorem arguments_reads {args : List Node} (h : ∀ arg ∈ args, arg.ReadableArgument)
    (hex : ReadsWithin expression bound) (hb : (separated (args.map tokens)).length < bound)
    (rest : List Token) :
    arguments expression (parenthesised (args.map tokens) ++ rest) = .ok (args, rest) := by
  have hlength : ∀ arg ∈ args, arg.tokens.length < bound := by
    intro arg ha
    have := length_le_separated (List.mem_map_of_mem (f := tokens) ha)
    omega
  have hitem : ∀ arg ∈ args, Reads (argument expression) (EndsItem .closeParen) arg.tokens arg :=
    fun arg ha => (h arg ha hex (hlength arg ha)).1
  have hstart : ∀ arg ∈ args, ∀ rest, nextIs .closeParen (arg.tokens ++ rest) = false :=
    fun arg ha rest => (h arg ha hex (hlength arg ha)).2.not_nextIs _ rfl (by decide) rest
  have hread := items_reads "comma between arguments" "closing parenthesis for arguments list" ")"
    (by decide) hitem hstart rest
  simp only [arguments, parenthesised, List.cons_append, List.append_assoc, List.nil_append,
    expect_self, bind, Except.bind, hread]

theorem nextIs_parenthesised (parts : List (List Token)) (rest : List Token) :
    nextIs .openParen (parenthesised parts ++ rest) = true := rfl

/-! ## Tests and filters -/

/-- The name of a test is read as the literal that it spells, if any, and taken as a name again. -/
theorem testName_reads {name : String} (hn : IsTestName name) (expression : Parse Node) :
    isNot (ofName name) = false ∧ ∃ node, testName node = .ok (.name name) ∧
      ∀ rest, primary expression (ofName name :: rest) = .ok (node, rest) := by
  rcases hn with hn | rfl | rfl | rfl
  · rw [ofName_eq_of_isPlainName hn]
    exact ⟨rfl, .name name, rfl, fun _ => rfl⟩
  · exact ⟨rfl, .bool true, rfl, fun _ => rfl⟩
  · exact ⟨rfl, .bool false, rfl, fun _ => rfl⟩
  · exact ⟨rfl, .null, rfl, fun _ => rfl⟩

theorem test_readable {operand : Node} {negate : Bool} {name : String} {args : List Node}
    (hfits : Fits .expression (.test operand negate (.name name) args)) (ho : operand.Readable)
    (hn : IsTestName name) (ha : ∀ arg ∈ args, arg.ReadableArgument) :
    (Node.test operand negate (.name name) args).Readable := by
  have htokens : (Node.test operand negate (.name name) args).tokens =
      tokensAt .test operand ++ (⟨.is, "is"⟩ ::
        ((if negate then [⟨.unaryOperator, "not"⟩] else []) ++
          (ofName name :: (if args.isEmpty then [] else parenthesised (args.map tokens))))) := by
    simp only [tokens, tokensAt, tokensOfAll_eq, List.append_assoc, List.cons_append,
      List.nil_append]
  refine ho.grow .test rfl hfits htokens rfl fun {expression bound} hex hb =>
    ⟨_, rfl, fun rest hrest => ?_⟩
  obtain ⟨hnot, node, hname, hread⟩ := testName_reads hn expression
  have hparen : nextIs .openParen rest = false := not_nextIs_of_stops hrest rfl (by decide)
  cases args with
  | nil =>
    cases negate
    · simp [testStep, hnot, hread, hname, hparen, bind, Except.bind]
    · simp [testStep, isNot, hread, hname, hparen, bind, Except.bind]
  | cons arg args =>
    simp only [List.length_append, List.length_cons, List.isEmpty_cons, Bool.false_eq_true,
      ↓reduceIte, parenthesised] at hb
    have hargs := arguments_reads ha hex (by omega) rest
    rw [List.map_cons] at hargs
    cases negate
    · simp [testStep, hnot, hread, hname, nextIs_parenthesised, hargs, bind, Except.bind]
    · simp [testStep, isNot, hread, hname, nextIs_parenthesised, hargs, bind, Except.bind]

theorem filter_readable {operand : Node} {name : String} (ho : operand.Readable)
    (hn : IsPlainName name) : (Node.filter operand (.name name)).Readable := by
  have htokens : (Node.filter operand (.name name)).tokens =
      tokensAt .filter operand ++ ⟨.pipe, "|"⟩ :: [⟨.identifier, name⟩] := by
    simp only [tokens, tokensAt, ofName_eq_of_isPlainName hn]
  refine ho.grow .filter rfl (.filter ho.fits hn) htokens rfl fun _ _ =>
    ⟨_, rfl, fun rest hrest => ?_⟩
  have hparen : nextIs .openParen rest = false := not_nextIs_of_stops hrest rfl (by decide)
  simp [filterStep, nameOr, primary, hparen, bind, Except.bind]

theorem filterCall_readable {operand : Node} {name : String} {args : List Node}
    (hfits : Fits .expression (.filter operand (.call (.name name) args))) (ho : operand.Readable)
    (hn : IsPlainName name) (ha : ∀ arg ∈ args, arg.ReadableArgument) :
    (Node.filter operand (.call (.name name) args)).Readable := by
  have htokens : (Node.filter operand (.call (.name name) args)).tokens =
      tokensAt .filter operand ++ (⟨.pipe, "|"⟩ :: ⟨.identifier, name⟩ ::
        parenthesised (args.map tokens)) := by
    simp only [tokens, tokensAt, tokensOfAll_eq, ofName_eq_of_isPlainName hn]
    rfl
  refine ho.grow .filter rfl hfits htokens rfl fun hex hb => ⟨_, rfl, fun rest _ => ?_⟩
  simp only [parenthesised, List.length_append, List.length_cons] at hb
  have hargs := arguments_reads ha hex (by omega) rest
  simp [filterStep, nameOr, primary, nextIs_parenthesised, hargs, bind, Except.bind]

/-! ## Members and calls -/

theorem member_readable {owner : Node} {name : String} (ho : owner.Readable)
    (hn : IsPlainName name) : (Node.member owner (.name name) false).Readable := by
  have htokens : (Node.member owner (.name name) false).tokens =
      tokensAt .member owner ++ ⟨.dot, "."⟩ :: [⟨.identifier, name⟩] := by
    simp only [tokens, tokensAt, ofName_eq_of_isPlainName hn]
  refine ho.grow .member rfl (.member ho.fits hn) htokens rfl fun _ _ => ⟨_, rfl, fun rest _ => ?_⟩
  simp [memberStep, nameOr, primary, bind, Except.bind]

theorem call_readable {callee : Node} {args : List Node}
    (hfits : Fits .expression (.call callee args)) (hc : callee.Readable)
    (ha : ∀ arg ∈ args, arg.ReadableArgument) : (Node.call callee args).Readable := by
  have htokens : (Node.call callee args).tokens = tokensAt .member callee ++
      ⟨.openParen, "("⟩ :: (separated (args.map tokens) ++ [⟨.closeParen, ")"⟩]) := by
    simp only [tokens, tokensAt, tokensOfAll_eq, parenthesised, List.cons_append]
  refine hc.grow .member rfl hfits htokens rfl fun hex hb => ⟨_, rfl, fun rest _ => ?_⟩
  rw [List.length_append, List.length_singleton] at hb
  have hargs := arguments_reads ha hex (by omega) rest
  simp only [parenthesised, List.cons_append, List.append_assoc, List.nil_append] at hargs
  simp only [memberStep, List.append_assoc, List.cons_append, List.nil_append, hargs, bind,
    Except.bind]

/-! ## Subscripts -/

/-- An expression is a part of a subscript, and takes the colon behind it. -/
theorem subscriptParts_of_reads {tokens rest after : List Token} {node : Node}
    {parts : List (Option Node)} {sliced : Bool} {rounds : Nat} (hstarts : StartsAt .ternary tokens)
    (hread : expression (tokens ++ rest) = .ok (node, rest))
    (hnext : subscriptParts expression rounds (if nextIs .colon rest then rest.drop 1 else rest) =
      .ok ((parts, sliced), after)) :
    subscriptParts expression (rounds + 1) (tokens ++ rest) =
      .ok ((some node :: parts, nextIs .colon rest || sliced), after) := by
  have hclose := hstarts.not_nextIs .closeSquareBracket rfl (by decide) rest
  have hcolon := hstarts.not_nextIs .colon rfl (by decide) rest
  unfold subscriptParts
  split
  · rename_i heq
    rw [(List.append_eq_nil_iff.mp heq).1] at hstarts
    exact hstarts.elim
  · rename_i heq
    simp [heq, nextIs] at hclose
  · rename_i heq
    simp [heq, nextIs] at hcolon
  · simp only [hread, bind, Except.bind]
    split
    · simp only [nextIs_self, ↓reduceIte, List.drop_one, List.tail_cons] at hnext
      simp only [hnext, nextIs_self, Bool.true_or]
    · rename_i hne
      have hrest : nextIs .colon rest = false := by
        cases rest with
        | nil => rfl
        | cons token rest =>
          simp only [nextIs, beq_eq_false_iff_ne]
          rintro heq
          exact hne token.value rest (by rw [← heq])
      simp only [hrest, Bool.false_eq_true, ↓reduceIte] at hnext
      simp only [hnext, hrest, Bool.false_or]

/-- The last part stands in front of the closing bracket. -/
theorem subscriptParts_reads_last {part : Option Node} (h : ∀ node ∈ part, node.Readable)
    (hex : ReadsWithin expression bound) (hb : (tokensOfPart part).length < bound) (rounds : Nat)
    (rest : List Token) :
    subscriptParts expression (rounds + 2)
      (tokensOfPart part ++ ⟨.closeSquareBracket, "]"⟩ :: rest) =
      .ok ((part.toList.map some, false), ⟨.closeSquareBracket, "]"⟩ :: rest) := by
  cases part with
  | none => rfl
  | some node =>
    have hnode := h node rfl
    have hread := hnode.within hex hb (⟨.closeSquareBracket, "]"⟩ :: rest)
      (stops_of_continues?_eq_none rfl)
    exact subscriptParts_of_reads (hnode.starts hex (Nat.le_of_lt hb)) hread rfl

/-- Every other part stands in front of a colon. -/
theorem subscriptParts_reads_part {part : Option Node} (h : ∀ node ∈ part, node.Readable)
    (hex : ReadsWithin expression bound) (hb : (tokensOfPart part).length < bound) {rounds : Nat}
    {rest after : List Token} {parts : List (Option Node)} {sliced : Bool}
    (hnext : subscriptParts expression rounds rest = .ok ((parts, sliced), after)) :
    subscriptParts expression (rounds + 1) (tokensOfPart part ++ ⟨.colon, ":"⟩ :: rest) =
      .ok ((part :: parts, true), after) := by
  cases part with
  | none => simp only [tokensOfPart, List.nil_append, subscriptParts, hnext, bind, Except.bind]
  | some node =>
    have hnode := h node rfl
    have hread := hnode.within hex hb (⟨.colon, ":"⟩ :: rest) (stops_of_continues?_eq_none rfl)
    exact subscriptParts_of_reads (hnode.starts hex (Nat.le_of_lt hb)) hread hnext

/-- The parts of a subscript that reads back grow the operand before it. -/
theorem memberStep_of_parts {property : Node} {more rest : List Token} {rounds : Nat}
    {found : List (Option Node) × Bool} (owner : Node)
    (hparts : subscriptParts expression rounds more =
      .ok (found, ⟨.closeSquareBracket, "]"⟩ :: rest))
    (hrounds : rounds = more.length + 1) (hnode : subscriptNode found = .ok property) :
    memberStep expression owner (⟨.openSquareBracket, "["⟩ :: more) =
      .ok (some (.member owner property true, rest)) := by
  subst hrounds
  simp only [memberStep, subscript, hparts, hnode, bind, Except.bind, expect_self]

theorem item_readable {owner property : Node} (ho : owner.Readable) (hp : property.Readable) :
    (Node.member owner property true).Readable := by
  have htokens : (Node.member owner property true).tokens = tokensAt .member owner ++
      ⟨.openSquareBracket, "["⟩ ::
        (tokensOfPart (some property) ++ [⟨.closeSquareBracket, "]"⟩]) := by
    simp only [tokens, tokensAt, tokensOfPart, List.append_assoc, List.cons_append]
  refine ho.grow .member rfl (.item ho.fits hp.fits) htokens rfl fun hex hb =>
    ⟨_, rfl, fun rest _ => ?_⟩
  rw [List.length_append, List.length_singleton] at hb
  have hparts := subscriptParts_reads_last (fun _ h => Option.some.inj h ▸ hp) hex (by omega)
    ((tokensOfPart (some property)).length + rest.length) rest
  rw [List.append_assoc]
  refine memberStep_of_parts owner hparts ?_ rfl
  simp only [List.length_append, List.length_cons, List.length_nil]
  omega

theorem slice_readable {owner : Node} {start stop step : Option Node} (ho : owner.Readable)
    (hstart : ∀ node ∈ start, node.Readable) (hstop : ∀ node ∈ stop, node.Readable)
    (hstep : ∀ node ∈ step, node.Readable) :
    (Node.member owner (.slice start stop step) true).Readable := by
  have hfits : Fits .expression (.member owner (.slice start stop step) true) :=
    .slice ho.fits (fun node h => (hstart node h).fits) (fun node h => (hstop node h).fits)
      (fun node h => (hstep node h).fits)
  have htokens : (Node.member owner (.slice start stop step) true).tokens =
      tokensAt .member owner ++ ⟨.openSquareBracket, "["⟩ :: (tokensOfPart start ++
        (⟨.colon, ":"⟩ :: (tokensOfPart stop ++ (⟨.colon, ":"⟩ :: (tokensOfPart step ++
          [⟨.closeSquareBracket, "]"⟩]))))) := by
    simp only [tokens, tokensAt, List.append_assoc, List.cons_append]
  refine ho.grow .member rfl hfits htokens rfl fun hex hb => ⟨_, rfl, fun rest _ => ?_⟩
  simp only [List.length_append, List.length_cons, List.length_nil] at hb
  have hlast := subscriptParts_reads_last hstep hex (by omega)
    ((tokensOfPart start).length + (tokensOfPart stop).length + (tokensOfPart step).length +
      rest.length) rest
  have hmiddle := subscriptParts_reads_part hstop hex (by omega) hlast
  have hparts := subscriptParts_reads_part hstart hex (by omega) hmiddle
  simp only [List.append_assoc, List.cons_append, List.nil_append]
  refine memberStep_of_parts owner hparts ?_ ?_
  · simp only [List.length_append, List.length_cons]
    omega
  · cases step <;> rfl

/-! ## All expressions -/

/-- What it is for a node to read back in an expression; statements are left to a later module. -/
def ReadableIn : Place → Node → Prop
  | .expression, node => node.Readable
  | .argument, node => node.ReadableArgument
  | .assignment, _ | .statement, _ => True

theorem Fits.readableIn {place : Place} {node : Node} (h : Fits place node) :
    ReadableIn place node := by
  induction h with
  | name h => exact name_readable h
  | number h => exact number_readable h
  | text s => exact text_readable s
  | bool b => exact bool_readable b
  | null => exact null_readable
  | array _ ih => exact array_readable ih
  | tuple hmany _ ih => exact tuple_readable hmany ih
  | object _ _ ihkeys ihvalues => exact object_readable ihkeys ihvalues
  | ternary _ _ _ ihc iht ihf => exact ternary_readable ihc iht ihf
  | binary ho _ _ ihl ihr => exact binary_readable ho ihl ihr
  | unary ho _ iha => exact unary_readable ho iha
  | test ho hn ha iho iha => exact test_readable (.test ho hn ha) iho hn iha
  | filter _ hn iho => exact filter_readable iho hn
  | filterCall ho hn ha iho iha => exact filterCall_readable (.filterCall ho hn ha) iho hn iha
  | member _ hn iho => exact member_readable iho hn
  | item _ _ iho ihp => exact item_readable iho ihp
  | slice _ _ _ _ iho ihstart ihstop ihstep => exact slice_readable iho ihstart ihstop ihstep
  | call hc ha ihc iha => exact call_readable (.call hc ha) ihc iha
  | positional _ ih => exact Readable.argument ih
  | keyword hn _ ihv => exact keyword_readable hn ihv
  | value | assign | output | branch | loop => trivial

/-- Every expression of the grammar reads back. -/
theorem Fits.readable {node : Node} (h : Fits .expression node) : node.Readable := h.readableIn

/-- So nesting is bounded by the number of tokens. -/
theorem readsWithin_expressionWithin (bound : Nat) :
    ReadsWithin (expressionWithin bound) bound := by
  induction bound with
  | zero => exact fun node _ hb => absurd hb (Nat.not_lt_zero _)
  | succ bound ih =>
    intro node h hb
    exact (h.readable.readsBack ih (Nat.le_of_lt_succ hb)).reads.looser (Nat.zero_le _)

theorem readsWithin_expression (bound : Nat) : ReadsWithin Parse.expression bound := by
  intro node h _ rest hrest
  refine readsWithin_expressionWithin _ node h ?_ rest hrest
  rw [List.length_append]
  omega

end Node

end TextTemplate
