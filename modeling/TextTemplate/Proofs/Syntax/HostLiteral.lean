import TextTemplate.Proofs.Syntax.Braces
import TextTemplate.Proofs.Syntax.Compiling

/-!
# Literals of host data in templates

A literal of host data in a tag is an expression whose value is the counterpart of the data, unless
two closing braces meet in it. Then the template is refused.
-/

namespace TextTemplate

/-! ## White space control -/

namespace Source

open Text

theorem stripIndents_eq_of_brace {cs : List Char} (hblock : contains ['{', '%'] cs = false)
    (hcomment : contains ['{', '#'] cs = false) : stripIndents ('{' :: cs) = '{' :: cs := by
  have hlines : ∀ line ∈ stretches (· == '\n') ('{' :: cs), stripIndent line = line := by
    obtain ⟨first, others, hcs⟩ := List.exists_cons_of_ne_nil (stretches_ne_nil (· == '\n') cs)
    have hother : ∀ line ∈ others, stripIndent line = line := fun line hline => by
      have hwithin : line <:+: cs := infix_of_mem_stretches (by rw [hcs]; simp [hline])
      exact stripIndent_eq (contains_within hblock hwithin) (contains_within hcomment hwithin)
    have hfirst : stripIndent ('{' :: first) = '{' :: first := ite_self _
    simpa [stretches, hcs] using ⟨hfirst, hother⟩
  rw [stripIndents, List.map_congr_left hlines, List.map_id', unlines_stretches]

theorem dropFinalNewline_eq {cs : List Char} (h : cs.getLast? ≠ some '\n') :
    dropFinalNewline cs = cs := by
  simp [dropFinalNewline, h]

/-- A text that starts with a tag is kept when no other block opens in it and white space control
finds nothing. -/
theorem prepareChars_eq_of_brace (trimming : Trimming) {cs : List Char}
    (hblock : contains ['{', '%'] cs = false)
    (hrewritten : ∀ part ∈ rewritten, contains part ('{' :: cs) = false)
    (hlast : ('{' :: cs).getLast? ≠ some '\n') : prepareChars trimming ('{' :: cs) = '{' :: cs := by
  simp only [rewritten, List.forall_mem_cons] at hrewritten
  obtain ⟨hcomment, hcommentLine, hblockLine, hblockEnd, hblockStart, hend, hstart, -⟩ := hrewritten
  have hindents := stripIndents_eq_of_brace hblock (contains_cons_eq_false.mp hcomment).2
  rw [prepareChars, dropFinalNewline_eq hlast, shrinkComments_eq hcomment]
  simp only [hindents, ite_self, dropBlockNewlines_eq hblockLine hcommentLine]
  rw [eraseComments_eq hcomment, tighten, tightenAfter_eq hblockEnd, tightenBefore_eq hblockStart,
    tightenAfter_eq hend, tightenBefore_eq hstart]

end Source

/-! ## Reading -/

namespace Token

variable {tokens : List Token} {cs : List Char} {last : Option TokenKind}

/-- White space in a tag is passed over. -/
theorem Scans.blank {c : Char} (h : Scans last cs tokens) (hlast : leavesTag last = false)
    (hc : Text.isBlank c) : Scans last (c :: cs) tokens := by
  have hsame : scanNext last (c :: cs) = scanNext last cs := by
    simp only [scanNext, hlast, List.dropWhile_cons, hc, ↓reduceIte]
  cases h with
  | done h => exact .done (hsame.trans h)
  | step h hrest => exact .step (hsame.trans h) hrest

theorem joinNotIn_eq (h : ∀ token ∈ tokens, token.kind ≠ .unaryOperator) :
    joinNotIn tokens = tokens := by
  induction tokens with
  | nil => rfl
  | cons token tokens ih =>
    obtain ⟨htoken, htokens⟩ := List.forall_mem_cons.mp h
    rw [joinNotIn_cons htoken, ih htokens]

/-- A text in which no tag opens is read as one token. -/
theorem scans_text (hlast : leavesTag last) (hne : cs ≠ [])
    (hblock : Text.contains ['{', '%'] cs = false)
    (hexpression : Text.contains ['{', '{'] cs = false) : Scans last cs [ofChars .text cs] := by
  have hspan : spanText cs = (cs, []) := by
    clear hne
    induction cs with
    | nil => rfl
    | cons c cs ih =>
      have hopens : opensTag (c :: cs) = false := by
        refine Bool.eq_false_iff.mpr fun h => ?_
        obtain ⟨d, rest, heq, rfl | rfl⟩ := opensTag_cases h
        · simp [heq, Text.contains] at hblock
        · simp [heq, Text.contains] at hexpression
      rw [spanText, hopens, ih (Text.contains_cons_eq_false.mp hblock).2
        (Text.contains_cons_eq_false.mp hexpression).2]
      rfl
  exact .step (scanNext_text hlast hne hspan) (.done (scanNext_nil _))

theorem leavesTag_kindAfter (h : ∀ token ∈ tokens, IsDatum token) (hlast : leavesTag last = false) :
    leavesTag (kindAfter last tokens) = false := by
  induction tokens generalizing last with
  | nil => exact hlast
  | cons token tokens ih =>
    obtain ⟨htoken, htokens⟩ := List.forall_mem_cons.mp h
    exact ih htokens htoken.leavesTag_eq

end Token

/-! ## Tags with a literal -/

/-- The tags that a literal is put in: its value is rendered, or a name is set to it. -/
inductive LiteralTag
  | output
  | set

namespace LiteralTag

open Token Parse

def front : LiteralTag → List Char
  | output => ['{', '{']
  | set => ['{', '%', ' ', 's', 'e', 't', ' ', 'x', ' ', '=']

def behind : LiteralTag → List Char
  | output => ['}', '}']
  | set => ['%', '}']

/-- A template that is one tag with a literal. -/
def template (tag : LiteralTag) (literal : List Char) : String :=
  String.ofList (tag.front ++ ' ' :: (literal ++ ' ' :: tag.behind))

/-- The statement that the tag is. -/
def statement (literal : Node) : LiteralTag → Node
  | output => literal
  | set => .set (.name "x") literal

/-- The tokens in front of the literal. -/
def lead : LiteralTag → List Token
  | output => [⟨.openExpression, "\x7b\x7b"⟩]
  | set => [⟨.openStatement, "\x7b%"⟩, ⟨.set, "set"⟩, ⟨.identifier, "x"⟩, ⟨.equals, "="⟩]

/-- The token behind it. -/
def close : LiteralTag → Token
  | output => tagEnd
  | set => ⟨.closeStatement, "%\x7d"⟩

variable {tokens others : List Token} {cs : List Char}

theorem contains_between {part : List Char} (hpart : part ∈ Source.markers) (h : IsRow tokens)
    (hapart : part = ['}', '}'] → tokens.IsChain Apart) (x y : List Char) :
    Text.contains part (x ++ ' ' :: (lexemes tokens ++ ' ' :: y)) =
      (Text.contains part x || Text.contains part (' ' :: y)) := by
  have hne : ∀ part ∈ Source.markers, part ≠ [] := by decide
  rw [Text.contains_append_cons (not_mem_of_inMarkers hpart rfl) (hne part hpart),
    contains_lexemes h.data hpart h.joined hapart]

/-- White space control leaves a template with a literal as it is. -/
theorem prepareChars_template (tag : LiteralTag) (trimming : Source.Trimming) (h : IsRow tokens) :
    Source.prepareChars trimming (tag.front ++ ' ' :: (lexemes tokens ++ ' ' :: tag.behind)) =
      tag.front ++ ' ' :: (lexemes tokens ++ ' ' :: tag.behind) := by
  have hfront : tag.front = '{' :: tag.front.tail := by cases tag <;> rfl
  have hends : tag.behind.getLast? = some '}' := by cases tag <;> rfl
  have hrewritten : ∀ part ∈ Source.rewritten,
      (Text.contains part tag.front || Text.contains part (' ' :: tag.behind)) = false := by
    cases tag <;> decide
  have hblock : (Text.contains ['{', '%'] tag.front.tail ||
      Text.contains ['{', '%'] (' ' :: tag.behind)) = false := by
    cases tag <;> decide
  have hmarkers : ∀ part ∈ Source.rewritten, part ∈ Source.markers ∧ part ≠ ['}', '}'] := by decide
  have hkept : ∀ part ∈ Source.rewritten,
      Text.contains part (tag.front ++ ' ' :: (lexemes tokens ++ ' ' :: tag.behind)) = false := by
    intro part hpart
    obtain ⟨hmarker, hne⟩ := hmarkers part hpart
    rw [contains_between hmarker h (fun heq => absurd heq hne)]
    exact hrewritten part hpart
  have htail := contains_between (show ['{', '%'] ∈ Source.markers by decide) h nofun
    tag.front.tail tag.behind
  have hlast : (tag.front ++ ' ' :: (lexemes tokens ++ ' ' :: tag.behind)).getLast? = some '}' := by
    rw [show tag.front ++ ' ' :: (lexemes tokens ++ ' ' :: tag.behind) =
      (tag.front ++ ' ' :: lexemes tokens ++ [' ']) ++ tag.behind by simp, List.getLast?_append,
      hends, Option.some_or]
  rw [hfront, List.cons_append] at hkept hlast ⊢
  exact Source.prepareChars_eq_of_brace trimming (htail.trans hblock) hkept (by rw [hlast]; decide)

/-! ## Reading the template -/

theorem scans_lead (tag : LiteralTag) (h : Scans (kindAfter none tag.lead) cs others) :
    Scans none (tag.front ++ ' ' :: cs) (tag.lead ++ others) := by
  cases tag with
  | output => exact .step rfl (h.blank rfl rfl)
  | set => exact .step rfl (.step rfl (.step rfl (.step rfl (h.blank rfl rfl))))

theorem scans_close (tag : LiteralTag) {last : Option TokenKind} (hlast : leavesTag last = false) :
    Scans last (' ' :: tag.behind) [tag.close] := by
  have hleaves {b : Bool} : leavesTag last → b := fun h => by rw [hlast] at h; cases h
  refine Scans.blank ?_ hlast rfl
  cases tag with
  | output => exact .step (scanNext_symbol rfl rfl hleaves rfl) (.done (scanNext_nil _))
  | set => exact .step (scanNext_symbol rfl rfl hleaves rfl) (.done (scanNext_nil _))

theorem leavesTag_lead (tag : LiteralTag) : leavesTag (kindAfter none tag.lead) = false := by
  cases tag <;> rfl

theorem ne_unaryOperator_lead (tag : LiteralTag) :
    ∀ token ∈ tag.lead, token.kind ≠ .unaryOperator := by
  cases tag <;> decide

theorem ne_unaryOperator_close (tag : LiteralTag) : tag.close.kind ≠ .unaryOperator := by
  cases tag <;> decide

theorem scans_row (tag : LiteralTag) (hdata : ∀ token ∈ tokens, IsDatum token)
    (hapart : tokens.IsChain Apart)
    (hrest : ∀ token ∈ tokens.getLast?, ∀ c ∈ cs.head?, stops token.kind c)
    (h : Scans (kindAfter (kindAfter none tag.lead) tokens) cs others) :
    Scans none (tag.front ++ ' ' :: (lexemes tokens ++ cs)) (tag.lead ++ (tokens ++ others)) := by
  have hoperand : (kindAfter none tag.lead).any endsOperand = false := by cases tag <;> rfl
  exact tag.scans_lead
    (scans_lexemes hdata hapart tag.leavesTag_lead (fun _ _ _ => hoperand) hrest h)

variable {host : Host}

theorem toList_template (tag : LiteralTag) (h : host.HasLiteral) :
    (tag.template host.literalChars).toList = tag.front ++ ' ' ::
      (lexemes (Node.ofHost host).tokens ++ ' ' :: tag.behind) := by
  rw [template, String.toList_ofList, h.literalChars_eq]

theorem ofTokens_template (tag : LiteralTag) (h : host.HasLiteral) :
    Node.ofTokens (tag.lead ++ ((Node.ofHost host).tokens ++ [tag.close])) =
      .ok (.program [tag.statement (Node.ofHost host)]) := by
  cases tag with
  | output =>
    have hread := h.fits.readable.expression [tagEnd] (stops_of_continues?_eq_none rfl)
    have hend : expect .closeExpression "closing expression token" [tagEnd] = .ok [] := rfl
    simp only [lead, close, List.cons_append, List.nil_append, Node.ofTokens, List.length_cons,
      statementsWithin, Parse.statement, statementWithin, statementStep, hread, bind, Except.bind,
      hend]
    rfl
  | set =>
    have hstatement : Node.Fits .assignment (.set (.name "x") (Node.ofHost host)) :=
      .assign (.name rfl) (.value h.fits)
    have htree : Node.IsTemplate (.program [.set (.name "x") (Node.ofHost host)]) := by
      simpa [Node.IsTemplate] using Node.Fits.output hstatement
    have hread := htree.ofTokens_toTokens
    simp only [Node.toTokens, Node.blockTokens, Node.statementTokens, inStatement, Node.tokens,
      List.append_nil, List.cons_append, List.nil_append] at hread
    exact hread

theorem ofSource_template (tag : LiteralTag) (h : host.HasLiteral) (trimming : Source.Trimming)
    (hscans : Scans none
      (tag.front ++ ' ' :: (lexemes (Node.ofHost host).tokens ++ ' ' :: tag.behind)) tokens)
    (hplain : ∀ token ∈ tokens, token.kind ≠ .unaryOperator) :
    ofSource trimming (tag.template host.literalChars) = .ok tokens := by
  rw [← tag.prepareChars_template trimming h.isRow, ← tag.toList_template h] at hscans
  rw [ofSource_of_scans hscans, joinNotIn_eq hplain]

/-- A literal in which no two closing braces meet is read as the tree of its data. -/
theorem compile_template (tag : LiteralTag) (h : host.HasLiteral)
    (hapart : (Node.ofHost host).tokens.IsChain Apart) (trimming : Source.Trimming) :
    compile trimming (tag.template host.literalChars) =
      .ok (.program [tag.statement (Node.ofHost host)]) := by
  have hrow := h.isRow
  have hclose := tag.scans_close (leavesTag_kindAfter hrow.data tag.leavesTag_lead)
  have hscans := tag.scans_row hrow.data hapart (fun _ _ _ hc => by cases hc; exact stops_space _)
    hclose
  have htokens := tag.ofSource_template h trimming hscans fun token htoken => by
    simp only [List.mem_append, List.mem_singleton] at htoken
    rcases htoken with htoken | htoken | rfl
    · exact tag.ne_unaryOperator_lead token htoken
    · exact (hrow.data token htoken).ne_unaryOperator
    · exact tag.ne_unaryOperator_close
  exact compile_of_analyse (analyse_of_ofSource htokens (tag.ofTokens_template h))

/-! ## Braces that meet -/

variable {before behind : List Token} {token : Token}

/-- Behind two closing braces that meet, the rest of the template is text. -/
theorem scans_meets (tag : LiteralTag) (h : IsRow (before ++ closeBrace :: closeBrace :: behind))
    (hapart : (before ++ [closeBrace]).IsChain Apart) :
    Scans none (tag.front ++ ' ' :: (lexemes (before ++ closeBrace :: closeBrace :: behind) ++
      ' ' :: tag.behind)) (tag.lead ++ (before ++
        [tagEnd, ofChars .text (lexemes behind ++ ' ' :: tag.behind)])) := by
  have hdata : ∀ token ∈ before, IsDatum token := fun token htoken =>
    h.data token (List.mem_append_left _ htoken)
  have hbehind : IsRow behind :=
    ⟨fun token htoken => h.data token (by simp [htoken]), h.joined.right_of_append.tail.tail⟩
  have htag : ∀ part ∈ [['{', '%'], ['{', '{']], part ∈ Source.markers ∧ part ≠ ['}', '}'] ∧
      Text.contains part (' ' :: tag.behind) = false := by
    cases tag <;> decide
  have htext : ∀ part ∈ [['{', '%'], ['{', '{']],
      Text.contains part (lexemes behind ++ ' ' :: tag.behind) = false := by
    intro part hpart
    obtain ⟨hmarker, hne, htag⟩ := htag part hpart
    exact (contains_lexemes hbehind.data hmarker hbehind.joined (fun heq => absurd heq hne) _).trans
      htag
  have hlast : ∀ token ∈ before.getLast?, stops token.kind '}' := by
    intro token htoken
    have hdatum := hdata token (List.mem_of_getLast? htoken)
    exact ((List.isChain_append.mp hapart).2.2 token htoken closeBrace rfl).stops hdatum [] '}' rfl
  have hleaves := leavesTag_kindAfter hdata tag.leavesTag_lead
  have hbraces : Scans (kindAfter (kindAfter none tag.lead) before)
      ('}' :: '}' :: (lexemes behind ++ ' ' :: tag.behind))
      [tagEnd, ofChars .text (lexemes behind ++ ' ' :: tag.behind)] :=
    .step (scanNext_symbol rfl rfl (fun h => by rw [hleaves] at h; cases h) rfl)
      (scans_text rfl (by simp) (htext _ (by simp)) (htext _ (by simp)))
  have hscans := tag.scans_row hdata hapart.left_of_append
    (fun token htoken c hc => by cases hc; exact hlast token htoken) hbraces
  simpa [lexeme, closeBrace] using hscans

theorem ofTokens_meets (tag : LiteralTag) (h : host.HasLiteral)
    (heq : (Node.ofHost host).tokens = before ++ token :: behind) (others : List Token) :
    ∃ e, Node.ofTokens (tag.lead ++ (before ++ tagEnd :: others)) = .error e ∧
      e.IsAboutTagEnd := by
  have hshort : before.length < (before ++ tagEnd :: others).length + 1 := by simp
  obtain ⟨e, he, habout⟩ := h.stumbles heq hshort others
  have he : expression (before ++ tagEnd :: others) = .error e := he
  refine ⟨e, ?_, habout⟩
  cases tag with
  | output =>
    simp only [lead, List.cons_append, List.nil_append, Node.ofTokens, List.length_cons,
      statementsWithin, Parse.statement, statementWithin, statementStep, he, bind, Except.bind]
    rfl
  | set =>
    have hname : Node.Readable (.name "x") := Node.name_readable rfl
    have hread : expression (⟨.identifier, "x"⟩ :: ⟨.equals, "="⟩ :: (before ++ tagEnd :: others)) =
        .ok (.name "x", ⟨.equals, "="⟩ :: (before ++ tagEnd :: others)) :=
      hname.expression (⟨.equals, "="⟩ :: _) (stops_of_continues?_eq_none rfl)
    simp only [lead, List.cons_append, List.nil_append, Node.ofTokens, List.length_cons,
      statementsWithin, Parse.statement, statementWithin, statementStep, statementBody, setWithin,
      hread, he, bind, Except.bind]
    rfl

/-- A literal in which two closing braces meet is refused. -/
theorem compile_meets (tag : LiteralTag) (h : host.HasLiteral)
    (heq : (Node.ofHost host).tokens = before ++ closeBrace :: closeBrace :: behind)
    (hapart : (before ++ [closeBrace]).IsChain Apart) (trimming : Source.Trimming) :
    ∃ e, compile trimming (tag.template host.literalChars) = .error (.structural e) ∧
      e.IsAboutTagEnd := by
  have hrow := h.isRow
  rw [heq] at hrow
  have hscans := tag.scans_meets hrow hapart
  rw [← heq] at hscans
  have htokens := tag.ofSource_template h trimming hscans fun token htoken => by
    simp only [List.mem_append, List.mem_cons, List.not_mem_nil, or_false] at htoken
    rcases htoken with htoken | htoken | rfl | rfl
    · exact tag.ne_unaryOperator_lead token htoken
    · exact (hrow.data token (List.mem_append_left _ htoken)).ne_unaryOperator
    · decide
    · simp [ofChars]
  obtain ⟨e, he, habout⟩ := tag.ofTokens_meets h heq
    [ofChars .text (lexemes behind ++ ' ' :: tag.behind)]
  exact ⟨e, compile_of_refused htokens he, habout⟩

/-- Two closing braces meet in a literal just if the lexer does not take it apart. -/
theorem contains_literalChars_iff (h : host.HasLiteral) :
    Text.contains ['}', '}'] host.literalChars = false ↔
      (Node.ofHost host).tokens.IsChain Apart := by
  have hrow := h.isRow
  rw [h.literalChars_eq]
  constructor
  · intro hnone
    refine (apart_or_meets hrow.joined).resolve_right ?_
    rintro ⟨before, behind, heq, -⟩
    refine Text.contains_eq_false_iff.mp hnone ⟨lexemes before, lexemes behind, ?_⟩
    simp [heq, lexeme, closeBrace]
  · intro hapart
    have hmarker : ['}', '}'] ∈ Source.markers := by decide
    have hspace := contains_lexemes hrow.data hmarker hrow.joined (fun _ => hapart) []
    exact Text.contains_within (hspace.trans rfl) (List.prefix_append _ _).isInfix

/-- Plain data and its literal have one and the same value. A template with the literal compiles
unless two closing braces meet in it: these are read as the end of a tag, and the template is
refused for that. -/
theorem compile_literal (tag : LiteralTag) (trimming : Source.Trimming) (h : host.HasLiteral) :
    (if Text.contains ['}', '}'] host.literalChars then
      ∃ e, compile trimming (tag.template host.literalChars) = .error (.structural e) ∧
        e.IsAboutTagEnd
    else compile trimming (tag.template host.literalChars) =
      .ok (.program [tag.statement (Node.ofHost host)])) ∧
    Eval.evaluate (Node.ofHost host) = Eval.fromHost host := by
  refine ⟨?_, Eval.evaluate_ofHost h⟩
  rcases apart_or_meets h.isRow.joined with hapart | ⟨before, behind, heq, hapart⟩
  · rw [if_neg (by rw [(contains_literalChars_iff h).mpr hapart]; decide)]
    exact tag.compile_template h hapart trimming
  · have hmeets : ¬ (Node.ofHost host).tokens.IsChain Apart := fun hchain => by
      rw [heq] at hchain
      exact (List.isChain_cons_cons.mp hchain.right_of_append).1.2 ⟨rfl, rfl⟩
    rw [← contains_literalChars_iff h, Bool.not_eq_false] at hmeets
    rw [if_pos hmeets]
    exact tag.compile_meets h heq hapart trimming

theorem compile_literal_nested :
    ∃ e, compile {} "\x7b% set x = \x7b'a':\x7b'b':1\x7d\x7d %\x7d" = .error (.structural e) ∧
      e.IsAboutTagEnd := by
  have hinner : Host.HasLiteral (.ofFields [("b", .number (.int 1))]) :=
    .map (by decide) (by simpa using Host.HasLiteral.number (by decide))
  have hhost : Host.HasLiteral (.ofFields [("a", .ofFields [("b", .number (.int 1))])]) :=
    .map (by decide) (by simpa using hinner)
  exact (LiteralTag.set.compile_literal {} hhost).1

end LiteralTag

end TextTemplate
