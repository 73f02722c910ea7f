import TextTemplate.Host.Stock
import TextTemplate.Proofs.Eval.Reading
import TextTemplate.Proofs.Source.Deletion
import TextTemplate.Proofs.Syntax.Compiling
import TextTemplate.Proofs.Syntax.Respelling

/-!
# Templates without tags

A template in which no tag and no comment opens is one text, unless the deletion of a dash opens a
block in it. Such a block is closed at once, which no statement is.
-/

namespace TextTemplate

/-! ## Tokens -/

namespace Token

theorem joinNotIn_cons {token : Token} (h : token.kind ≠ .unaryOperator) (tokens : List Token) :
    joinNotIn (token :: tokens) = token :: joinNotIn tokens := by
  cases tokens with
  | nil => rfl
  | cons second rest =>
    rw [joinNotIn, if_neg]
    intro hpair
    obtain ⟨rfl, -⟩ : token = ⟨.unaryOperator, "not"⟩ ∧ second.kind = .in_ := by simpa using hpair
    exact h rfl

/-- A text without tags is one token, or none when it is empty. -/
theorem scan_of_spanText {cs : List Char} (h : spanText cs = (cs, [])) :
    scan cs = .ok (if cs = [] then [] else [ofChars .text cs]) := by
  split
  · rename_i hcs
    rw [hcs]
    rfl
  · rename_i hcs
    have hscans : Scans none cs [ofChars .text cs] :=
      .step (scanNext_text rfl hcs h) (.done (scanNext_nil _))
    exact scan_of_scans hscans

/-- Two tokens that open a block and close it at once. -/
structure ClosedBlock (first second : Token) : Prop where
  opening : first.kind = .openStatement
  closing : second.kind = .closeExpression ∨ second.kind = .closeCurlyBracket

/-- Where text may not stand, what starts with a symbol is read as the symbol. -/
theorem scanNext_symbol {last : Option TokenKind} {c : Char} {rest after : List Char}
    {token : Token} (hc : isSignChar c = false) (hblank : Text.isBlank c = false)
    (hlast : leavesTag last → opensTag (c :: rest))
    (h : scanSymbol? (c :: rest) = some (token, after)) :
    scanNext last (c :: rest) = .ok (some (token, after)) :=
  scanNext_inTag rfl hblank (List.forall_mem_nil _) (fun hlast' => ⟨rfl, hlast hlast'⟩)
    (scanInTag_symbol (fun hsign => absurd hsign (by simp [hc])) h)

theorem scanSymbol?_brace (rest : List Char) : ∃ token after,
    scanSymbol? ('}' :: rest) = some (token, after) ∧
      (token.kind = .closeExpression ∨ token.kind = .closeCurlyBracket) := by
  rcases rest with _ | ⟨c, rest⟩
  · exact ⟨_, _, rfl, .inr rfl⟩
  · by_cases hc : c = '}'
    · subst hc
      exact ⟨_, _, rfl, .inl rfl⟩
    · refine ⟨ofChars .closeCurlyBracket ['}'], c :: rest, ?_, .inr rfl⟩
      simp [scanSymbol?, symbols, Ne.symm hc]

/-- A block that is closed at once is read as such. -/
theorem Scans.closedBlock {last : Option TokenKind} {rest : List Char} {tokens : List Token}
    (h : Scans last ('{' :: '%' :: '}' :: rest) tokens) :
    ∃ first second others, joinNotIn tokens = first :: second :: others ∧
      ClosedBlock first second := by
  have hopen : scanNext last ('{' :: '%' :: '}' :: rest) =
      .ok (some (ofChars .openStatement ['{', '%'], '}' :: rest)) :=
    scanNext_symbol (by decide) (by decide) (fun _ => rfl) rfl
  obtain ⟨behind, rfl, hbehind⟩ := h.exists_of_scanNext hopen
  obtain ⟨second, after, hsymbol, hkind⟩ := scanSymbol?_brace rest
  have hclose : scanNext (some .openStatement) ('}' :: rest) = .ok (some (second, after)) :=
    scanNext_symbol (by decide) (by decide) nofun hsymbol
  obtain ⟨others, rfl, -⟩ := hbehind.exists_of_scanNext hclose
  refine ⟨ofChars .openStatement ['{', '%'], second, joinNotIn others, ?_, rfl, hkind⟩
  rw [joinNotIn_cons (by simp [ofChars]), joinNotIn_cons (by rcases hkind with h | h <;> simp [h])]

/-- A text in front of a block that is closed at once is read as a text. -/
theorem closedBlock_of_scan {cs text rest : List Char} {tokens : List Token}
    (hspan : spanText cs = (text, '{' :: '%' :: '}' :: rest)) (h : scan cs = .ok tokens) :
    ∃ lead first second others, tokens = lead ++ first :: second :: others ∧
      (∀ token ∈ lead, token.kind = .text) ∧ ClosedBlock first second := by
  obtain ⟨raw, hraw, rfl⟩ := scans_of_scan h
  by_cases htext : text = []
  · have hcs := spanText_append hspan
    rw [htext, List.nil_append] at hcs
    rw [hcs] at hraw
    obtain ⟨first, second, others, hjoined, hblock⟩ := hraw.closedBlock
    exact ⟨[], first, second, others, hjoined, List.forall_mem_nil _, hblock⟩
  · obtain ⟨behind, rfl, hbehind⟩ := hraw.exists_of_scanNext (scanNext_text rfl htext hspan)
    obtain ⟨first, second, others, hjoined, hblock⟩ := hbehind.closedBlock
    refine ⟨[ofChars .text text], first, second, others, ?_, by simp [ofChars], hblock⟩
    rw [joinNotIn_cons (by simp [ofChars]), hjoined]
    rfl

theorem scan_of_ofSource {trimming : Source.Trimming} {source : String} {tokens : List Token}
    (h : ofSource trimming source = .ok tokens) :
    scan (Source.prepareChars trimming source.toList) = .ok tokens := by
  simp only [ofSource] at h
  split at h
  · rename_i hscan
    cases h
    exact hscan
  · cases h

theorem ofSource_of_scans {trimming : Source.Trimming} {source : String} {raw : List Token}
    (h : Scans none (Source.prepareChars trimming source.toList) raw) :
    ofSource trimming source = .ok (joinNotIn raw) := by
  simp only [ofSource, scan_of_scans h]

end Token

/-! ## Trees -/

namespace Parse

open Token (ClosedBlock)

variable {token first second : Token} {tokens lead others : List Token}

theorem statement_text (h : token.kind = .text) :
    statement (token :: tokens) = .ok (.text token.value, tokens) := by
  show statementStep _ (token :: tokens) = _
  simp only [statementStep, h]

theorem statement_closedBlock (h : ClosedBlock first second) :
    statement (first :: second :: others) = .error (.unknownStatement second) := by
  show statementStep _ (first :: second :: others) = _
  rcases h.closing with hclosing | hclosing <;>
    simp only [statementStep, h.opening, statementBody, hclosing]

/-- No tree is read where a block is closed at once behind texts. -/
theorem statementsWithin_closedBlock (h : ClosedBlock first second)
    (hlead : ∀ token ∈ lead, token.kind = .text) (bound : Nat) (body : List Node) :
    statementsWithin bound (lead ++ first :: second :: others) ≠ .ok body := by
  intro hbody
  induction lead generalizing bound body with
  | nil =>
    cases bound with
    | zero => cases hbody
    | succ bound =>
      obtain ⟨_, hfirst, -⟩ := Except.bind_eq_ok.mp hbody
      rw [List.nil_append, statement_closedBlock h] at hfirst
      cases hfirst
  | cons token lead ih =>
    cases bound with
    | zero => cases hbody
    | succ bound =>
      obtain ⟨⟨_, behind⟩, hfirst, hbody⟩ := Except.bind_eq_ok.mp hbody
      obtain ⟨texts, htexts, -⟩ := Except.bind_eq_ok.mp hbody
      rw [List.cons_append, statement_text (hlead token List.mem_cons_self)] at hfirst
      cases hfirst
      exact ih (fun other hmem => hlead other (List.mem_cons_of_mem _ hmem)) bound texts htexts

end Parse

theorem compile_of_spanText {trimming : Source.Trimming} {source : String} {cs : List Char}
    (hcs : Source.prepareChars trimming source.toList = cs) (h : Token.spanText cs = (cs, [])) :
    compile trimming source =
      .ok (.program (if cs = [] then [] else [.text (String.ofList cs)])) := by
  refine compile_of_analyse (analyse_of_spells (String.ofList_toList).symm hcs
    (Token.scan_of_spanText h) ?_)
  split <;> rfl

theorem compile_ne_ok {trimming : Source.Trimming} {source : String} {text rest : List Char}
    (hspan : Token.spanText (Source.prepareChars trimming source.toList) =
      (text, '{' :: '%' :: '}' :: rest)) (program : Node) :
    compile trimming source ≠ .ok program := by
  intro h
  obtain ⟨tokens, htokens, htree⟩ := tokens_of_compile h
  obtain ⟨lead, first, second, others, rfl, hlead, hblock⟩ :=
    Token.closedBlock_of_scan hspan (Token.scan_of_ofSource htokens)
  rw [Node.ofTokens] at htree
  cases hbody : Parse.statementsWithin _ (lead ++ first :: second :: others) with
  | error e => rw [hbody] at htree; cases htree
  | ok body => exact Parse.statementsWithin_closedBlock hblock hlead _ body hbody

/-! ## Rendering -/

namespace Eval

/-- Wherever its environment can be started, a template renders to the text and changes nothing. -/
def RendersTo (program : Node) (text : String) : Prop :=
  ∀ (context : Context) (given : Host) (s t : State),
    startEnvironment given context s = (.ok (), t) → render program given context s = (.ok text, t)

theorem rendersTo_text (cs : List Char) :
    RendersTo (.program (if cs = [] then [] else [.text (String.ofList cs)]))
      (String.ofList cs) := by
  intro context given s t hstart
  rw [render, run_bind hstart]
  show evaluateBlock (if cs = [] then [] else _) context t = _
  split
  · rename_i hcs
    rw [hcs]
    exact evaluateBlock_nil
  · exact evaluateBlock_last (Has.text _)

/-- What a template renders to is one text. -/
theorem RendersTo.unique {program : Node} {text text' : String} (h : RendersTo program text)
    (h' : RendersTo program text') : text = text' := by
  let context : Context := .ofLibrary Host.stock [] false
  obtain ⟨t, hstart⟩ : ∃ t, startEnvironment (.map []) context .initial = (.ok (), t) := ⟨_, rfl⟩
  have heq := (h _ _ _ _ hstart).symm.trans (h' _ _ _ _ hstart)
  exact Except.ok.inj (congrArg Prod.fst heq)

end Eval

/-- A block that opens in such a text is closed at once. -/
theorem Source.ClosesAtOnce.opened {cs text after : List Char} (h : ClosesAtOnce cs)
    (hspan : Token.spanText cs = (text, after)) (hopens : Token.opensTag after) :
    ∃ rest, after = '{' :: '%' :: '}' :: rest := by
  obtain ⟨c, rest, rfl, hc⟩ := Token.opensTag_cases hopens
  rw [Token.spanText_append hspan] at h
  have hclosed := h.behind.1 rfl c rfl
  rcases hc with rfl | rfl
  · obtain ⟨rest, rfl⟩ := List.head?_eq_some_iff.mp (hclosed.2.2 rfl)
    exact ⟨rest, rfl⟩
  · exact absurd rfl hclosed.1

/-- A template in which nothing opens renders to itself, less one line break at its end, just when
white space control has nothing to delete in it. -/
theorem compile_rendersTo_iff {trimming : Source.Trimming} {source : String}
    (h : Source.Unopened source.toList) :
    (∃ program, compile trimming source = .ok program ∧
        Eval.RendersTo program (String.ofList (Source.dropFinalNewline source.toList))) ↔
      Source.Untrimmed trimming (Source.dropFinalNewline source.toList) := by
  rw [← Source.prepareChars_eq_iff h]
  obtain ⟨-, hclosed⟩ := Source.prepareChars_of_unopened trimming h
  cases hspan : Token.spanText (Source.prepareChars trimming source.toList) with
  | mk text after =>
    have htext := Token.spanText_append hspan
    rcases Token.opensTag_of_spanText hspan with rfl | hopens
    · rw [List.append_nil] at htext
      rw [← htext] at hspan
      have hcompile := compile_of_spanText rfl hspan
      constructor
      · rintro ⟨program, hprogram, hrenders⟩
        cases hcompile.symm.trans hprogram
        exact String.ofList_injective ((Eval.rendersTo_text _).unique hrenders)
      · intro heq
        exact ⟨_, hcompile, heq ▸ Eval.rendersTo_text _⟩
    · obtain ⟨rest, rfl⟩ := hclosed.opened hspan hopens
      constructor
      · rintro ⟨program, hprogram, -⟩
        exact absurd hprogram (compile_ne_ok hspan program)
      · intro heq
        have hblock := Text.contains_eq_false_iff.mp h.dropFinalNewline.block
        rw [← heq, htext] at hblock
        exact absurd ⟨text, '}' :: rest, by simp⟩ hblock

/-- Braces and percent signs that open nothing are kept, but a dash in front of two closing braces
goes away, and so does the blank behind them. -/
theorem compile_rendersTo_dash :
    (∃ program, compile .full "5 %\n\x7bof\x7d %\x7d it\n" = .ok program ∧
        Eval.RendersTo program "5 %\n\x7bof\x7d %\x7d it") ∧
      compile {} "a -\x7d\x7d b" = .ok (.program [.text "a \x7d\x7db"]) ∧
      ¬ ∃ program, compile {} "a -\x7d\x7d b" = .ok program ∧
        Eval.RendersTo program "a -\x7d\x7d b" := by
  refine ⟨?_, by cbv, fun hrenders => ?_⟩
  · exact (compile_rendersTo_iff (by constructor <;> decide)).mpr (by constructor <;> decide)
  · have huntrimmed := (compile_rendersTo_iff (by constructor <;> decide)).mp hrenders
    exact absurd huntrimmed.expression (by decide)

end TextTemplate
