import TextTemplate.Proofs.Syntax.Progress
import TextTemplate.Proofs.Syntax.Respelling

/-!
# Reading a template ends

Statements take tokens as expressions do, so the reading of every list of tokens ends, whatever
their order: with a tree, with an error in the structure of the template, or with a numeral that is
no number. The reading of a text as tokens ends as well.
-/

namespace TextTemplate

namespace Parse

variable {tokens rest : List Token} {bound : Nat}

/-! ## Rounds of the statements -/

/-- One value or target of a `set` statement. -/
def setRound (again : Parse Node) : Parse Node := fun tokens => do
  let (node, tokens) ← expression tokens
  match tokens with
  | ⟨.equals, _⟩ :: rest => do
    let (value, rest) ← again rest
    .ok (.set node value, rest)
  | _ => .ok (node, tokens)

/-- One statement of a block. -/
def blockRound (terminators : List TokenKind) (statement : Parse Node)
    (again : Parse (List Node)) : Parse (List Node) := fun tokens =>
  if atTerminator terminators tokens then .ok ([], tokens)
  else if tokens.isEmpty then .error (.unclosedBlock terminators)
  else do
    let (first, tokens) ← statement tokens
    let (others, tokens) ← again tokens
    .ok (first :: others, tokens)

/-- One branch of an `if` statement. -/
def branchRound (statement : Parse Node) (again : Parse Node) : Parse Node := fun tokens => do
  let (test, tokens) ← expression tokens
  let tokens ← expect .closeStatement "closing statement token" tokens
  let (body, tokens) ← block [.elseIf, .else_, .endIf] statement tokens
  match tokens with
  | ⟨.openStatement, _⟩ :: ⟨.elseIf, _⟩ :: rest => do
    let (alternate, rest) ← again rest
    .ok (.branch test body [alternate], rest)
  | ⟨.openStatement, _⟩ :: ⟨.else_, _⟩ :: rest => do
    let rest ← expect .closeStatement "closing statement token" rest
    let (alternate, rest) ← block [.endIf] statement rest
    .ok (.branch test body alternate, rest)
  | _ => .ok (.branch test body [], tokens)

/-- One statement of a whole template. -/
def templateRound (again : List Token → Except ParseError (List Node)) :
    List Token → Except ParseError (List Node)
  | [] => .ok []
  | tokens => do
    let (first, tokens) ← statement tokens
    let others ← again tokens
    .ok (first :: others)

theorem set_unrolls : Unrolls setRound setWithin := fun _ => rfl

theorem block_unrolls (terminators : List TokenKind) (statement : Parse Node) :
    Unrolls (blockRound terminators statement) (blockWithin terminators statement) := fun _ => rfl

theorem branch_unrolls (statement : Parse Node) :
    Unrolls (branchRound statement) (ifWithin statement) := fun _ => rfl

theorem statement_unrolls : Unrolls statementStep statementWithin := fun _ => rfl

theorem template_unrolls : Unrolls templateRound statementsWithin := by
  intro bound
  funext tokens
  cases tokens <;> rfl

/-! ## Statements take tokens -/

theorem setRound_relates : Relates List.length (TakeAlike · 1) setRound setRound := by
  intro again again' tokens hagain
  have hagain : AgreeBelow tokens.length 1 again again' := hagain
  refine (expression_agree _ tokens (Nat.lt_succ_self _)).bind fun ⟨node, rest⟩ hnode => ?_
  dsimp only
  split
  · refine (hagain.after (hnode.trans .cons) (by omega)).bind fun ⟨value, rest⟩ hvalue => ?_
    exact .ok (hvalue.weaken (by omega))
  · exact .ok hnode

theorem setWithin_agree (tokens : List Token) :
    TakeAlike tokens 1 (setWithin (tokens.length + 1) tokens)
      (setWithin (tokens.length + 1) tokens) :=
  set_unrolls.related_of_lt set_unrolls setRound_relates (Nat.lt_succ_self _)

section Bodies

variable {statement statement' : Parse Node}

theorem blockRound_relates (terminators : List TokenKind)
    (h : AgreeBelow bound 1 statement statement') :
    Relates List.length (Alike 0 bound) (blockRound terminators statement)
      (blockRound terminators statement') := by
  intro again again' tokens hagain hlength
  have hagain : AgreeBelow tokens.length 0 again again' :=
    fun rest hrest => hagain rest hrest (by omega)
  unfold blockRound
  split
  · exact .ok .refl
  · split
    · exact .structural nofun nofun
    · refine (h tokens hlength).bind fun ⟨first, rest⟩ hfirst => ?_
      refine (hagain.after hfirst (by omega)).bind fun ⟨others, rest⟩ hothers => ?_
      exact .ok (hothers.weaken (by omega))

theorem block_agree (terminators : List TokenKind) (h : AgreeBelow bound 1 statement statement') :
    AgreeBelow bound 0 (block terminators statement) (block terminators statement') :=
  fun _ hlength => (block_unrolls terminators statement).related_of_lt
    (block_unrolls terminators statement') (blockRound_relates terminators h)
    (Nat.lt_succ_self _) hlength

theorem branchRound_relates (h : AgreeBelow bound 1 statement statement') :
    Relates List.length (Alike 1 bound) (branchRound statement) (branchRound statement') := by
  intro again again' tokens hagain hlength
  have hagain : AgreeBelow tokens.length 1 again again' :=
    fun rest hrest => hagain rest hrest (by omega)
  refine (expression_agree _ tokens hlength).bind fun ⟨test, rest⟩ htest => ?_
  refine (expect_agree htest).bind fun rest hclose => ?_
  refine ((block_agree _ h).after hclose (by omega)).bind fun ⟨body, rest⟩ hbody => ?_
  dsimp only
  split
  · have helse := (hbody.trans .cons).trans .cons
    refine (hagain.after helse (by omega)).bind fun ⟨alternate, rest⟩ halternate => ?_
    exact .ok (halternate.weaken (by omega))
  · have helse := (hbody.trans .cons).trans .cons
    refine (expect_agree helse).bind fun rest hclose => ?_
    refine ((block_agree _ h).after hclose (by omega)).bind fun ⟨alternate, rest⟩ hrest => ?_
    exact .ok (hrest.weaken (by omega))
  · exact .ok (hbody.weaken (by omega))

theorem ifWithin_agree (h : AgreeBelow bound 1 statement statement')
    (hlength : tokens.length < bound) :
    TakeAlike tokens 1 (ifWithin statement (tokens.length + 1) tokens)
      (ifWithin statement' (tokens.length + 1) tokens) :=
  (branch_unrolls statement).related_of_lt (branch_unrolls statement') (branchRound_relates h)
    (Nat.lt_succ_self _) hlength

theorem forLoop_agree (h : AgreeBelow bound 1 statement statement') :
    AgreeBelow bound 1 (forLoop statement) (forLoop statement') := by
  intro tokens hlength
  have htargets := sequence_agree (primary_agree (expression_agree bound))
  refine (htargets tokens (by omega)).bind fun ⟨target, rest⟩ htarget => ?_
  cases target
  case name | tuple =>
    refine (expect_agree htarget).bind fun rest hin => ?_
    have hiterable := (expression_agree bound).after hin (by omega)
    refine hiterable.bind fun ⟨iterable, rest⟩ hiterable => ?_
    refine (expect_agree hiterable).bind fun rest hclose => ?_
    refine ((block_agree _ h).after hclose (by omega)).bind fun ⟨body, rest⟩ hbody => ?_
    exact .ok (hbody.weaken (by omega))
  all_goals exact .structural nofun nofun

theorem closing_agree {kind : TokenKind} {what : String} {count : Nat}
    (h : Took tokens count rest) :
    Agree tokens (Took tokens (count + 3)) (closing kind what rest) (closing kind what rest) := by
  refine (expect_agree h).bind fun rest hopen => ?_
  exact (expect_agree hopen).bind fun rest hkind => expect_agree hkind

theorem statementBody_agree (h : AgreeBelow bound 1 statement statement') :
    AgreeBelow (bound + 1) 1 (statementBody statement) (statementBody statement') := by
  intro tokens hlength
  cases tokens with
  | nil => exact .structural nofun nofun
  | cons token rest =>
    rw [List.length_cons] at hlength
    unfold statementBody
    dsimp only
    split
    · refine ((setWithin_agree rest).after .cons).bind fun ⟨node, rest⟩ hnode => ?_
      refine (expect_agree hnode).bind fun rest hclose => ?_
      exact .ok (hclose.weaken (by omega))
    · refine ((ifWithin_agree h (by omega)).after .cons).bind fun ⟨node, rest⟩ hnode => ?_
      refine (closing_agree hnode).bind fun rest hclose => ?_
      exact .ok (hclose.weaken (by omega))
    · refine ((forLoop_agree h rest (by omega)).after .cons).bind fun ⟨node, rest⟩ hnode => ?_
      refine (closing_agree hnode).bind fun rest hclose => ?_
      exact .ok (hclose.weaken (by omega))
    · exact .structural nofun nofun

theorem statementStep_agree (h : AgreeBelow bound 1 statement statement') :
    AgreeBelow (bound + 1) 1 (statementStep statement) (statementStep statement') := by
  intro tokens hlength
  cases tokens with
  | nil => exact .structural nofun nofun
  | cons token rest =>
    rw [List.length_cons] at hlength
    unfold statementStep
    dsimp only
    split
    · exact .ok .cons
    · exact ((statementBody_agree h rest (by omega)).after .cons).mono List.suffix_rfl
        fun _ htook => htook.weaken (by omega)
    · have hexpression := expression_agree (rest.length + 1) rest (Nat.lt_succ_self _)
      refine (hexpression.after .cons).bind fun ⟨node, rest⟩ hnode => ?_
      refine (expect_agree hnode).bind fun rest hclose => ?_
      exact .ok (hclose.weaken (by omega))
    · exact .structural nofun nofun

end Bodies

theorem statementStep_relates :
    Relates List.length (TakeAlike · 1) statementStep statementStep :=
  fun _ _ tokens hagain => statementStep_agree hagain tokens (Nat.lt_succ_self _)

theorem statementWithin_stop {tokens : List Token} (h : tokens.length = 0) :
    statementWithin 0 tokens = statementStep (statementWithin 0) tokens := by
  rw [List.eq_nil_of_length_eq_zero h]
  rfl

theorem statementWithin_ends (h : tokens.length ≤ bound) :
    Ends statementStep tokens (statementWithin bound tokens) :=
  statement_unrolls.ends_of_le statementStep_relates Agree.eq (fun _ => statementWithin_stop) h

/-- A statement is one step of reading whose bodies are made of statements. -/
theorem statement_eq (tokens : List Token) : statement tokens = statementStep statement tokens := by
  refine statement_unrolls.fixed statementStep_relates Agree.eq fun rest bound h => ?_
  exact (statementWithin_ends (Nat.le_of_lt h)).unique (statementWithin_ends (Nat.le_refl _))
    statement

theorem statement_agree (bound : Nat) : AgreeBelow bound 1 statement statement := by
  intro tokens _
  exact statement_unrolls.related statement_unrolls statementStep_relates
    (fun rest h => by rw [statementWithin_stop h]; exact statementStep_relates _ _ _ (by omega))
    (Nat.le_refl _)

theorem templateRound_relates :
    Relates List.length (Agree · fun _ => True) templateRound templateRound := by
  intro again again' tokens hagain
  cases tokens with
  | nil => exact .ok trivial
  | cons token rest =>
    refine (statement_agree _ _ (Nat.lt_succ_self _)).bind fun ⟨first, after⟩ hfirst => ?_
    have hothers := (hagain after hfirst.2).mono hfirst.1 fun _ h => h
    exact hothers.bind fun others _ => .ok trivial

theorem statementsWithin_agree (tokens : List Token) :
    Agree tokens (fun _ => True) (statementsWithin tokens.length tokens)
      (statementsWithin tokens.length tokens) :=
  template_unrolls.related template_unrolls templateRound_relates
    (fun rest h => by rw [List.eq_nil_of_length_eq_zero h]; exact .ok trivial) (Nat.le_refl _)

/-! ## Every recursion ends -/

/-- In front of the tokens, every recursion of the parser ends, and with what is read of them. -/
structure ReadingEnds (tokens : List Token) : Prop where
  template : Ends templateRound tokens (statementsWithin tokens.length tokens)
  statement : Ends statementStep tokens (statement tokens)
  block (terminators : List TokenKind) :
    Ends (blockRound terminators Parse.statement) tokens
      (block terminators Parse.statement tokens)
  branch : Ends (branchRound Parse.statement) tokens
    (ifWithin Parse.statement (tokens.length + 1) tokens)
  assignment : Ends setRound tokens (setWithin (tokens.length + 1) tokens)
  expression : Ends ternary tokens (expression tokens)
  growth {level : Precedence} {step : Step} (h : stepAt? Parse.expression level = some step)
    (node : Node) : Ends (growthRound step) (node, tokens) (extend step tokens.length node tokens)
  tuple : Ends (commasRound Parse.expression) tokens
    (afterCommas Parse.expression tokens.length tokens)
  targets : Ends (commasRound (primary Parse.expression)) tokens
    (afterCommas (primary Parse.expression) tokens.length tokens)
  array (close : TokenKind) (comma : String) : Ends (itemsRound close comma Parse.expression) tokens
    (itemsUntil close comma Parse.expression (tokens.length + 1) tokens)
  object (close : TokenKind) (comma : String) :
    Ends (itemsRound close comma (pair Parse.expression)) tokens
      (itemsUntil close comma (pair Parse.expression) (tokens.length + 1) tokens)
  arguments (close : TokenKind) (comma : String) :
    Ends (itemsRound close comma (argument Parse.expression)) tokens
      (itemsUntil close comma (argument Parse.expression) (tokens.length + 1) tokens)
  subscript : Ends (subscriptRound Parse.expression) tokens
    (subscriptParts Parse.expression (tokens.length + 1) tokens)

/-- Where there is a bound on the tokens, what is similar below it is the same. -/
theorem Relates.whole {α : Type} {count : Nat} {round : Parse α → Parse α}
    (h : ∀ bound, Relates List.length (Alike count bound) round round) :
    Relates List.length (TakeAlike · count) round round :=
  fun again again' tokens hagain =>
    h (tokens.length + 1) again again' tokens (fun rest hrest _ => hagain rest hrest)
      (Nat.lt_succ_self _)

theorem itemsUntil_ends {α : Type} {item : Parse α} (close : TokenKind) (comma : String)
    (h : ∀ bound, AgreeBelow bound 1 item item) (tokens : List Token) :
    Ends (itemsRound close comma item) tokens
      (itemsUntil close comma item (tokens.length + 1) tokens) :=
  (itemsUntil_unrolls close comma item).ends
    (Relates.whole fun bound => itemsRound_relates close comma (h bound)) Agree.eq
    (Nat.lt_succ_self _)

theorem afterCommas_ends {item : Parse Node} (h : ∀ bound, AgreeBelow bound 1 item item)
    (tokens : List Token) :
    Ends (commasRound item) tokens (afterCommas item tokens.length tokens) :=
  (commas_unroll item).ends_of_le (Relates.whole fun bound => commasRound_relates (h bound))
    Agree.eq (fun rest hrest => by rw [List.eq_nil_of_length_eq_zero hrest]; rfl) (Nat.le_refl _)

theorem extend_ends {level : Precedence} {step : Step}
    (hstep : stepAt? expression level = some step) (node : Node) (tokens : List Token) :
    Ends (growthRound step) (node, tokens) (extend step tokens.length node tokens) := by
  have hagree : ∀ bound, StepsAgreeBelow (bound + 1) step step := by
    intro bound
    obtain ⟨step', hstep', h⟩ := stepAt?_agree (expression_agree bound)
      (atLevel_agree (expression_agree bound) level.tighter) hstep
    rwa [Option.some.inj (hstep'.symm.trans hstep)] at h
  have hround : Relates growthSize (fun grown => TakeAlike grown.2 0) (growthRound step)
      (growthRound step) := fun again again' grown hagain =>
    growthRound_relates (hagree _) again again' grown (fun rest hrest _ => hagain rest hrest)
      (Nat.lt_succ_self _)
  refine (growth_unrolls step).ends_of_le hround Agree.eq ?_
    (Nat.le_refl (growthSize (node, tokens)))
  rintro ⟨node, rest⟩ hrest
  obtain rfl : rest = [] := List.eq_nil_of_length_eq_zero hrest
  have hstop : step node [] = .ok none := stepAt?_stops hstep trivial
  simp only [growthRound, hstop]
  rfl

theorem readingEnds (tokens : List Token) : ReadingEnds tokens where
  template := by
    refine template_unrolls.ends_of_le templateRound_relates Agree.eq (fun rest h => ?_)
      (Nat.le_refl _)
    rw [List.eq_nil_of_length_eq_zero h]
    rfl
  statement := statementWithin_ends (Nat.le_refl _)
  block terminators := (block_unrolls terminators Parse.statement).ends
    (Relates.whole fun bound => blockRound_relates terminators (statement_agree bound)) Agree.eq
    (Nat.lt_succ_self _)
  branch := (branch_unrolls Parse.statement).ends
    (Relates.whole fun bound => branchRound_relates (statement_agree bound)) Agree.eq
    (Nat.lt_succ_self _)
  assignment := set_unrolls.ends setRound_relates Agree.eq (Nat.lt_succ_self _)
  expression := expressionWithin_ends (Nat.lt_succ_self _)
  growth hstep node := extend_ends hstep node tokens
  tuple := afterCommas_ends expression_agree tokens
  targets := afterCommas_ends (fun bound => (primary_agree (expression_agree bound)).restrict
    (Nat.le_succ _)) tokens
  array close comma := itemsUntil_ends close comma expression_agree tokens
  object close comma :=
    itemsUntil_ends close comma (fun bound => pair_agree (expression_agree bound)) tokens
  arguments close comma :=
    itemsUntil_ends close comma (fun bound => argument_agree (expression_agree bound)) tokens
  subscript := (subscript_unrolls Parse.expression).ends
    (Relates.whole fun bound => subscriptRound_relates (expression_agree bound)) Agree.eq
    (Nat.lt_succ_self _)

end Parse

/-! ## Reading a text -/

namespace Token

/-- One token of a text and what follows it. -/
def scanRound (again : Option TokenKind × List Char → Scan (List Token)) :
    Option TokenKind × List Char → Scan (List Token) := fun (last, cs) => do
  match ← scanNext last cs with
  | none => .ok []
  | some (token, rest) => do
    let tokens ← again (some token.kind, rest)
    .ok (token :: tokens)

theorem scan_unrolls : Unrolls scanRound fun bound (place : Option TokenKind × List Char) =>
    scanFrom bound place.1 place.2 := fun _ => rfl

theorem scanRound_relates :
    Relates (fun place : Option TokenKind × List Char => place.2.length) (fun _ x y => x = y)
      scanRound scanRound := by
  rintro again again' ⟨last, cs⟩ hagain
  cases hnext : scanNext last cs with
  | error e => simp only [scanRound, hnext, bind, Except.bind]
  | ok found =>
    cases found with
    | none => simp only [scanRound, hnext, bind, Except.bind]
    | some found =>
      obtain ⟨token, rest⟩ := found
      have hrest := hagain (some token.kind, rest) (length_lt_of_scanNext hnext)
      simp only [scanRound, hnext, hrest, bind, Except.bind]

theorem scanFrom_ends (last : Option TokenKind) (cs : List Char) :
    Ends scanRound (last, cs) (scanFrom cs.length last cs) := by
  refine scan_unrolls.ends_of_le scanRound_relates id ?_
    (Nat.le_refl (last, cs).2.length)
  rintro ⟨last, rest⟩ hrest
  obtain rfl : rest = [] := List.eq_nil_of_length_eq_zero hrest
  simp only [scanRound, scanNext_nil]
  rfl

end Token

/-! ## Outcomes -/

theorem LexError.errorClass_report (e : LexError) : e.report.errorClass = .lexical := by
  cases e with
  | mk fault position => cases fault <;> rfl

/-- How many digits the text of a numeral has. -/
def Token.digitCount (token : Token) : Nat := (token.value.toList.filter Char.isDigit).length

/-- A numeral is refused only for its length. -/
theorem Parse.numeral_error {token : Token} {e : ParseError}
    (hnumeral : Token.IsNumeral token.value.toList) (h : numeral token.value = .error e) :
    token.digitCount > digitLimit ∧ e = .numeralTooLong token.digitCount := by
  obtain ⟨sign, digits, hvalue, hsign, hne, hdigits⟩ := hnumeral
  have hcount : token.digitCount = digits.length := by
    have hplain : sign.filter Char.isDigit = [] := by
      rcases hsign with rfl | rfl | rfl <;> rfl
    have hall : digits.filter Char.isDigit = digits := List.filter_eq_self.mpr fun c hc =>
      List.all_eq_true.mp hdigits c hc
    rw [Token.digitCount, hvalue, List.filter_append, hplain, hall, List.nil_append]
  rw [numeral, hvalue, Numeral.wholeOfChars_digits hdigits hne hsign] at h
  by_cases hlong : digits.length > digitLimit
  · rw [if_pos hlong] at h
    cases h
    exact ⟨hcount ▸ hlong, by rw [hcount]⟩
  · rw [if_neg hlong] at h
    cases h

/-- Reading a template ends. Its text has tokens or is refused with a lexical error. Tokens in any
order are a template or refused with a structural error, unless a numeral among them is too long. -/
theorem Parse.reading_ends_foreseen (trimming : Source.Trimming) (source : String)
    {tokens : List Token}
    (hnumerals : ∀ token ∈ tokens, token.kind = .numericLiteral →
      Token.IsNumeral token.value.toList) :
    let cs := Source.prepareChars trimming source.toList
    Ends Token.scanRound (none, cs) (Token.scanFrom cs.length none cs) ∧
    ((∃ read, Token.ofSource trimming source = .ok read) ∨
      ∃ e, Token.ofSource trimming source = .error e ∧ e.report.errorClass = .lexical) ∧
    (∀ rest, rest <:+ tokens → ReadingEnds rest) ∧
    ((∃ body, Node.ofTokens tokens = .ok (.program body)) ∨
      ∃ e, Node.ofTokens tokens = .error e ∧
        (e.IsStructural ∨ ∃ token ∈ tokens, token.kind = .numericLiteral ∧
          token.digitCount > digitLimit ∧ e = .numeralTooLong token.digitCount)) := by
  intro cs
  refine ⟨Token.scanFrom_ends none cs, ?_, fun rest _ => readingEnds rest, ?_⟩
  · cases h : Token.ofSource trimming source with
    | ok read => exact .inl ⟨read, rfl⟩
    | error e => exact .inr ⟨e, rfl, e.errorClass_report⟩
  · have hagree := statementsWithin_agree tokens
    unfold Node.ofTokens
    cases h : statementsWithin tokens.length tokens with
    | ok body => exact .inl ⟨body, rfl⟩
    | error e =>
      rw [h] at hagree
      cases hagree with
      | error hforeseen =>
        refine .inr ⟨e, rfl, ?_⟩
        rcases hforeseen with hstructural | ⟨token, hmem, hkind, he⟩
        · exact .inl hstructural
        · exact .inr ⟨token, hmem, hkind, numeral_error (hnumerals token hmem hkind) he⟩

/-- Brackets that are closed by one of another kind do not keep the parser going. -/
theorem Parse.reading_ends_mismatched :
    let tokens : List Token := [⟨.openExpression, "\x7b\x7b"⟩, ⟨.openSquareBracket, "["⟩,
      ⟨.numericLiteral, "-1"⟩, ⟨.colon, ":"⟩, ⟨.closeParen, ")"⟩]
    (∀ token ∈ tokens, token.kind = .numericLiteral → Token.IsNumeral token.value.toList) ∧
      (∀ rest, rest <:+ tokens → ReadingEnds rest) ∧
      ∃ e, Node.ofTokens tokens = .error e ∧ e.IsStructural := by
  intro tokens
  have hnumerals : ∀ token ∈ tokens, token.kind = .numericLiteral →
      Token.IsNumeral token.value.toList := by
    intro token hmem hkind
    simp only [tokens, List.mem_cons, List.not_mem_nil, or_false] at hmem
    rcases hmem with rfl | rfl | rfl | rfl | rfl <;> try cases hkind
    exact ⟨['-'], ['1'], String.toList_ofList, .inr (.inr rfl), by decide, by decide⟩
  obtain ⟨-, -, hends, ⟨body, hbody⟩ | ⟨e, he, houtcome⟩⟩ :=
    reading_ends_foreseen .full "" hnumerals
  · cases hbody
  · refine ⟨hnumerals, hends, e, he, ?_⟩
    rcases houtcome with h | ⟨token, hmem, hkind, hlong, -⟩
    · exact h
    · simp only [tokens, List.mem_cons, List.not_mem_nil, or_false] at hmem
      rcases hmem with rfl | rfl | rfl | rfl | rfl <;> try cases hkind
      exact absurd hlong (by decide)

end TextTemplate
