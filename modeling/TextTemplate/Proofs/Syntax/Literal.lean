import TextTemplate.Proofs.Source.Quoted
import TextTemplate.Proofs.Source.Untagged

/-!
# String literals in templates

Any text can be written as a string literal in single quotes, in which only quotes and backslashes
are escaped. In a tag the literal is read as what white space control has left of the text, and as
the text itself just if that is all of it, whatever stands around it in the template.
-/

namespace TextTemplate

open Source (isMark)

namespace Token

variable {x rest : List Char} {c d : Char} {last : Option TokenKind} {token : Token}
  {tokens lead : List Token}

/-! ## Tokens in front of a quote -/

theorem isWordChar_of_isMark (hc : isMark c) : Text.isWordChar c = false := by
  rcases Source.isMark_cases hc with rfl | rfl <;> decide

theorem isDigit_of_isMark (hc : isMark c) : c.isDigit = false := by
  rcases Source.isMark_cases hc with rfl | rfl <;> decide

/-- No symbol has a mark in it. -/
theorem scanSymbol?_mark (hc : isMark c) (x y : List Char) :
    scanSymbol? (x ++ c :: y) = (scanSymbol? x).map fun found => (found.1, found.2 ++ c :: y) := by
  have hsymbols : ∀ symbol ∈ symbols, Source.Unmarked symbol.1 := by decide
  unfold scanSymbol?
  generalize symbols = table at hsymbols
  induction table with
  | nil => rfl
  | cons symbol others ih =>
    obtain ⟨hsymbol, hothers⟩ := List.forall_mem_cons.mp hsymbols
    obtain ⟨lexeme, kind⟩ := symbol
    have hsame : lexeme.isPrefixOf (x ++ c :: y) = lexeme.isPrefixOf x := by
      rw [Bool.eq_iff_iff, List.isPrefixOf_iff_prefix, List.isPrefixOf_iff_prefix,
        Source.prefix_append_mark hsymbol hc]
    simp only [List.findSome?_cons, hsame]
    by_cases hlexeme : lexeme.isPrefixOf x
    · have hlength := (List.isPrefixOf_iff_prefix.mp hlexeme).length_le
      simp [hlexeme, List.drop_append_of_le_length hlength]
    · rw [if_neg hlexeme, if_neg hlexeme]
      exact ih hothers

theorem scanSign_mark (hc : isMark c) (sign : Char) (x y : List Char) :
    scanSign sign (x ++ c :: y) = ((scanSign sign x).1, (scanSign sign x).2 ++ c :: y) := by
  unfold scanSign
  rw [Text.takeWhile_append_cons (isDigit_of_isMark hc),
    Text.dropWhile_append_cons (isDigit_of_isMark hc)]
  split <;> rfl

theorem scanString_append {quote : Char} {chars : List Char}
    (h : scanString quote x = .ok (chars, rest)) (y : List Char) :
    scanString quote (x ++ y) = .ok (chars, rest ++ y) := by
  fun_induction scanString quote x generalizing chars with
  | case1 => cases h
  | case2 c x hquote =>
    cases h
    unfold scanString
    rw [List.cons_append]
    simp only [hquote, ↓reduceIte]
  | case3 => cases h
  | case4 => cases h
  | case5 c hquote hbackslash letter x char hletter ih =>
    obtain ⟨⟨_, _⟩, hrest, heq⟩ := Except.bind_eq_ok.mp h
    cases heq
    rw [List.cons_append, List.cons_append]
    unfold scanString
    simp [hquote, hbackslash, hletter, ih hrest, bind, Except.bind]
  | case6 c x hquote hbackslash ih =>
    obtain ⟨⟨_, _⟩, hrest, heq⟩ := Except.bind_eq_ok.mp h
    cases heq
    rw [List.cons_append]
    unfold scanString
    simp [hquote, hbackslash, ih hrest, bind, Except.bind]

theorem scanInTag_mark (hc : isMark c) (h : scanInTag last d x = .ok (token, rest))
    (y : List Char) : scanInTag last d (x ++ c :: y) = .ok (token, rest ++ c :: y) := by
  have hsymbol := scanSymbol?_mark hc (d :: x) y
  rw [List.cons_append] at hsymbol
  unfold scanInTag at h ⊢
  rw [hsymbol]
  split at h
  · rename_i hsign
    rw [if_pos hsign, scanSign_mark hc, Except.ok.inj h]
  · rename_i hsign
    rw [if_neg hsign]
    cases hfound : scanSymbol? (d :: x) with
    | some found =>
      rw [hfound] at h
      cases h
      rfl
    | none =>
      rw [hfound] at h
      simp only [Option.map_none] at h ⊢
      split at h
      · rename_i hquote
        obtain ⟨⟨chars, after⟩, hstring, heq⟩ := Except.bind_eq_ok.mp h
        cases heq
        rw [if_pos hquote, scanString_append hstring]
        rfl
      · rename_i hquote
        rw [if_neg hquote, Text.takeWhile_append_cons (isDigit_of_isMark hc),
          Text.takeWhile_append_cons (isWordChar_of_isMark hc),
          Text.dropWhile_append_cons (isDigit_of_isMark hc),
          Text.dropWhile_append_cons (isWordChar_of_isMark hc)]
        split at h
        · rename_i hdigit
          cases h
          rw [if_pos hdigit]
        · rename_i hdigit
          rw [if_neg hdigit]
          split at h
          · rename_i hword
            cases h
            rw [if_pos hword]
          · cases h

theorem opensTag_mark (hc : isMark c) (x y : List Char) : opensTag (x ++ c :: y) = opensTag x := by
  have hopens (cs : List Char) : opensTag cs ↔ ['{', '%'] <+: cs ∨ ['{', '{'] <+: cs := by
    constructor
    · intro h
      obtain ⟨d, rest, rfl, rfl | rfl⟩ := opensTag_cases h
      · exact .inl ⟨rest, rfl⟩
      · exact .inr ⟨rest, rfl⟩
    · rintro (⟨rest, rfl⟩ | ⟨rest, rfl⟩) <;> rfl
  rw [Bool.eq_iff_iff, hopens, hopens, Source.prefix_append_mark (by decide) hc,
    Source.prefix_append_mark (by decide) hc]

theorem spanText_mark (hc : isMark c) {text : List Char} (h : spanText x = (text, rest))
    (hrest : rest ≠ []) (y : List Char) : spanText (x ++ c :: y) = (text, rest ++ c :: y) := by
  induction x generalizing text with
  | nil =>
    cases h
    exact absurd rfl hrest
  | cons d x ih =>
    have hopens := opensTag_mark hc (d :: x) y
    rw [List.cons_append] at hopens ⊢
    rw [spanText, hopens]
    rw [spanText] at h
    split at h
    · rename_i hopens
      cases h
      rw [if_pos hopens]
      rfl
    · rename_i hopens
      cases h
      rw [if_neg hopens, ih rfl]

/-- What is read in front of a mark is read there anyway, unless it is text. -/
theorem scanNext_mark (hc : isMark c) (h : scanNext last x = .ok (some (token, rest)))
    (hrest : token.kind = .text → rest ≠ []) (y : List Char) :
    scanNext last (x ++ c :: y) = .ok (some (token, rest ++ c :: y)) := by
  rcases scanNext_cases h with ⟨hlast, text, htext, rfl, hspan⟩ | ⟨hlast, d, behind, hdrop, hscan⟩
  · exact scanNext_text hlast htext (spanText_mark hc hspan (hrest rfl) y)
  · have hx : x = x.takeWhile Text.isBlank ++ d :: behind := by
      rw [← hdrop, List.takeWhile_append_dropWhile]
    have hd : Text.isBlank d = false := by
      have hhead := List.head?_dropWhile_not Text.isBlank x
      rw [hdrop] at hhead
      simpa using hhead
    have hscan' := scanInTag_mark hc hscan y
    rw [hx, List.append_assoc, List.cons_append]
    refine scanNext_inTag rfl hd mem_takeWhile (fun hleaves => ?_) hscan'
    have hopens := hlast hleaves
    obtain ⟨e, after, rfl, -⟩ := opensTag_cases hopens
    have hblank : Text.isBlank '{' = false := by decide
    simp only [List.dropWhile_cons, hblank, Bool.false_eq_true, ↓reduceIte,
      List.cons.injEq] at hdrop
    obtain ⟨rfl, rfl⟩ := hdrop
    refine ⟨by simp [hblank], ?_⟩
    rwa [← List.cons_append, opensTag_mark hc]

/-! ## The literal itself -/

/-- The kind of the last token that has been read. -/
def kindAfter (last : Option TokenKind) (tokens : List Token) : Option TokenKind :=
  tokens.foldl (fun _ token => some token.kind) last

theorem escapes_escape (cs : List Char) : Escapes '\'' cs (Source.escape cs) := by
  induction cs with
  | nil => exact .nil
  | cons c cs ih =>
    cases hc : isMark c with
    | true =>
      rw [Source.escape_cons_of_isMark hc]
      rcases Source.isMark_cases hc with rfl | rfl
      · exact .escaped rfl ih
      · exact .escaped rfl ih
    | false =>
      rw [Source.escape_cons hc]
      exact .plain (Source.ne_of_isMark (by decide) hc).symm
        (Source.ne_of_isMark (by decide) hc).symm ih

theorem scanNext_literal {gap : List Char} (hlast : leavesTag last = false)
    (hgap : ∀ d ∈ gap, Text.isBlank d) (cs y : List Char) :
    scanNext last (gap ++ Source.literal cs ++ y) =
      .ok (some (ofChars .stringLiteral cs, y)) := by
  have hstring := @scanString_escapes '\'' rfl _ _ (escapes_escape cs) y
  have hscan : scanInTag last '\'' (Source.escape cs ++ '\'' :: y) =
      .ok (ofChars .stringLiteral cs, y) := by
    rw [scanInTag_quote rfl, hstring]
    rfl
  have hwhole : gap ++ Source.literal cs ++ y = gap ++ '\'' :: (Source.escape cs ++ '\'' :: y) := by
    simp [Source.literal]
  rw [hwhole]
  exact scanNext_inTag rfl (by decide) hgap (fun h => by rw [hlast] at h; cases h) hscan

/-- In a tag a literal is read as one token, whatever stands in front of it and behind it. -/
theorem scans_literal_iff {kind : TokenKind} (h : Scans last x lead)
    (hkind : kindAfter last lead = some kind) (htag : adjoins kind = false) (cs y : List Char)
    (raw : List Token) : Scans last (x ++ Source.literal cs ++ y) raw ↔
      ∃ others, Scans (some .stringLiteral) y others ∧
        raw = lead ++ ofChars .stringLiteral cs :: others := by
  -- By the tokens in front of the literal; the last of them decides that it stands in a tag.
  induction h generalizing raw with
  | @done last x h =>
    have hlast : leavesTag last = false := by
      rw [show last = some kind from hkind]
      exact (Bool.or_eq_false_iff.mp htag).2
    have hx : ∀ d ∈ x, Text.isBlank d := by
      simp only [scanNext, hlast] at h
      split at h
      · rename_i hdrop
        exact List.dropWhile_eq_nil_iff.mp hdrop
      · rename_i d behind hdrop
        cases hscan : scanInTag last d behind with
        | error e => rw [hscan] at h; cases h
        | ok found => rw [hscan] at h; cases h
    have hnext := scanNext_literal hlast hx cs y
    constructor
    · intro hraw
      obtain ⟨others, rfl, hothers⟩ := hraw.exists_of_scanNext hnext
      exact ⟨others, hothers, rfl⟩
    · rintro ⟨others, hothers, rfl⟩
      exact .step hnext hothers
  | @step last x rest token tokens h hrest ih =>
    have hrest' : token.kind = .text → rest ≠ [] := by
      rintro htext rfl
      cases hrest with
      | done =>
        rw [show kindAfter last [token] = some token.kind from rfl, htext] at hkind
        cases hkind
        cases htag
      | step h => rw [scanNext_nil] at h; cases h
    have hnext := scanNext_mark (c := '\'') rfl h hrest' (Source.escape cs ++ '\'' :: y)
    have hwhole (x : List Char) : x ++ '\'' :: (Source.escape cs ++ '\'' :: y) =
        x ++ Source.literal cs ++ y := by
      simp [Source.literal]
    rw [hwhole, hwhole] at hnext
    constructor
    · intro hraw
      obtain ⟨behind, rfl, hbehind⟩ := hraw.exists_of_scanNext hnext
      obtain ⟨others, hothers, rfl⟩ := (ih hkind _).mp hbehind
      exact ⟨others, hothers, rfl⟩
    · rintro ⟨others, hothers, rfl⟩
      exact .step hnext ((ih hkind _).mpr ⟨others, hothers, rfl⟩)

theorem joinNotIn_append {token : Token} (h : token.kind = .stringLiteral)
    (lead others : List Token) :
    joinNotIn (lead ++ token :: others) = joinNotIn lead ++ token :: joinNotIn others := by
  fun_induction joinNotIn lead with
  | case1 first second rest hpair ih =>
    rw [List.cons_append, List.cons_append, joinNotIn, if_pos hpair, ih]
    rfl
  | case2 first second rest hpair ih =>
    rw [List.cons_append, List.cons_append, joinNotIn, if_neg hpair, ← List.cons_append, ih]
    rfl
  | case3 tokens hshort =>
    have htoken : joinNotIn (token :: others) = token :: joinNotIn others :=
      joinNotIn_cons (by simp [h]) others
    rcases tokens with _ | ⟨first, _ | ⟨second, rest⟩⟩
    · exact htoken
    · rw [List.cons_append, List.nil_append, joinNotIn, if_neg (by simp [h]), htoken]
      rfl
    · exact absurd rfl (hshort first second rest)

/-- A literal behind the given text stands in a tag: no comment reaches it, and the last of the
tokens in front of it does not leave the tag. -/
structure StandsInTag (trimming : Source.Trimming) (front : List Char) (lead : List Token) :
    Prop where
  comment : Source.inComment front = false
  scans : Scans none (Source.prepareFront trimming front) lead
  kind : ∃ kind, kindAfter none lead = some kind ∧ adjoins kind = false

/-- The tokens of a template with a literal in a tag. The literal is one of them, and those in front
of it and behind it do not depend on it. -/
theorem ofSource_literal_iff {trimming : Source.Trimming} {front behind cs : List Char}
    (h : StandsInTag trimming front lead)
    (hcs : Source.inComment cs = false ∨ Text.contains ['#', '}'] behind = false) :
    ofSource trimming (String.ofList (front ++ Source.literal cs ++ behind)) = .ok tokens ↔
      ∃ others, Scans (some .stringLiteral) (Source.prepareBehind trimming behind) others ∧
        tokens = joinNotIn lead ++
          ofChars .stringLiteral (Source.prepareQuoted trimming cs) :: joinNotIn others := by
  obtain ⟨kind, hkind, htag⟩ := h.kind
  have hraw := scans_literal_iff h.scans hkind htag (Source.prepareQuoted trimming cs)
    (Source.prepareBehind trimming behind)
  constructor
  · intro htokens
    have hscan := scan_of_ofSource htokens
    rw [String.toList_ofList, Source.prepareChars_literal h.comment hcs] at hscan
    obtain ⟨raw, hscans, rfl⟩ := scans_of_scan hscan
    obtain ⟨others, hothers, rfl⟩ := (hraw raw).mp hscans
    exact ⟨others, hothers, joinNotIn_append rfl _ _⟩
  · rintro ⟨others, hothers, rfl⟩
    have hscans : Scans none (Source.prepareChars trimming
        (String.ofList (front ++ Source.literal cs ++ behind)).toList)
        (lead ++ ofChars .stringLiteral (Source.prepareQuoted trimming cs) :: others) := by
      rw [String.toList_ofList, Source.prepareChars_literal h.comment hcs]
      exact (hraw _).mpr ⟨others, hothers, rfl⟩
    rw [ofSource_of_scans hscans, joinNotIn_append rfl]

end Token

/-! ## What a literal denotes -/

open Token (ofChars)

/-- A template that is nothing but a literal in an expression tag. -/
def literalTemplate (cs : List Char) : String :=
  String.ofList (['{', '{', ' '] ++ Source.literal cs ++ [' ', '}', '}'])

theorem standsInTag_expression (trimming : Source.Trimming) :
    Token.StandsInTag trimming ['{', '{', ' '] [ofChars .openExpression ['{', '{']] where
  comment := by decide +kernel
  scans := by
    have hfront : Source.prepareFront trimming ['{', '{', ' '] = ['{', '{', ' '] := by
      rcases trimming with ⟨_ | _, _ | _⟩ <;> decide +kernel
    rw [hfront]
    exact .step rfl (.done rfl)
  kind := ⟨.openExpression, rfl, rfl⟩

theorem compile_literalTemplate (trimming : Source.Trimming) (cs : List Char) :
    compile trimming (literalTemplate cs) =
      .ok (.program [.text (String.ofList (Source.prepareQuoted trimming cs))]) := by
  have hbehind : Source.prepareBehind trimming [' ', '}', '}'] = [' ', '}', '}'] := by
    rcases trimming with ⟨_ | _, _ | _⟩ <;> decide +kernel
  have hclose : Token.Scans (some .stringLiteral) [' ', '}', '}']
      [ofChars .closeExpression ['}', '}']] := .step rfl (.done rfl)
  have htokens : Token.ofSource trimming (literalTemplate cs) =
      .ok [ofChars .openExpression ['{', '{'],
        ofChars .stringLiteral (Source.prepareQuoted trimming cs),
        ofChars .closeExpression ['}', '}']] :=
    (Token.ofSource_literal_iff (standsInTag_expression trimming) (.inr (by decide))).mpr
      ⟨_, hbehind ▸ hclose, rfl⟩
  exact compile_of_analyse (analyse_of_ofSource htokens rfl)

theorem rendersTo_literalTemplate (text : String) :
    Eval.RendersTo (.program [.text text]) text := by
  intro context given s t hstart
  rw [Eval.render, Eval.run_bind hstart]
  exact Eval.evaluateBlock_last (Eval.Has.text _)

/-- What a literal of any contents denotes. A template of nothing but the literal renders to what
white space control leaves of the contents, and to the contents just if it finds nothing in them.
In any tag the literal is one token with these contents, and an operand with them as its value. -/
theorem literal_denotes (trimming : Source.Trimming) (cs : List Char) :
    (Source.prepareQuoted trimming cs = cs ↔ Source.Inert trimming cs) ∧
    (∃ program, compile trimming (literalTemplate cs) = .ok program ∧
      Eval.RendersTo program (String.ofList (Source.prepareQuoted trimming cs)) ∧
      (Eval.RendersTo program (String.ofList cs) ↔ Source.Inert trimming cs)) ∧
    (∀ front behind lead, Token.StandsInTag trimming front lead →
      (Source.inComment cs = false ∨ Text.contains ['#', '}'] behind = false) → ∀ tokens,
        Token.ofSource trimming (String.ofList (front ++ Source.literal cs ++ behind)) =
            .ok tokens ↔
          ∃ others,
            Token.Scans (some .stringLiteral) (Source.prepareBehind trimming behind) others ∧
            tokens = Token.joinNotIn lead ++
              ofChars .stringLiteral (Source.prepareQuoted trimming cs) ::
                Token.joinNotIn others) ∧
    ∀ expression rest, Parse.primary expression (ofChars .stringLiteral cs :: rest) =
      .ok (.text (String.ofList cs), rest) := by
  refine ⟨Source.prepareQuoted_eq_iff, ⟨_, compile_literalTemplate trimming cs,
    rendersTo_literalTemplate _, ?_⟩, fun front behind lead h hcs tokens =>
      Token.ofSource_literal_iff h hcs, fun _ _ => rfl⟩
  rw [← Source.prepareQuoted_eq_iff]
  constructor
  · intro hrenders
    exact String.ofList_injective ((rendersTo_literalTemplate _).unique hrenders)
  · intro heq
    have hrenders := rendersTo_literalTemplate (String.ofList (Source.prepareQuoted trimming cs))
    rwa [heq] at hrenders ⊢

/-- A quote is escaped, and what is in front of the literal and behind it is read on its own. -/
theorem literal_denotes_quote :
    let front := ['{', '%', ' ', 's', 'e', 't', ' ', 'x', ' ', '=', ' ']
    let cs := ['i', 't', '\'', 's']
    let behind := [' ', '%', '}']
    let lead : List Token :=
      [⟨.openStatement, "\x7b%"⟩, ⟨.set, "set"⟩, ⟨.identifier, "x"⟩, ⟨.equals, "="⟩]
    Source.Inert .full cs ∧ Token.StandsInTag .full front lead ∧
      Text.contains ['#', '}'] behind = false ∧
      String.ofList (front ++ Source.literal cs ++ behind) =
        "\x7b% set x = 'it\\'s' %\x7d" ∧
      Token.ofSource .full (String.ofList (front ++ Source.literal cs ++ behind)) =
        .ok (lead ++ [⟨.stringLiteral, "it's"⟩, ⟨.closeStatement, "%\x7d"⟩]) := by
  intro front cs behind lead
  obtain ⟨hinert, -, htag, -⟩ := literal_denotes .full cs
  have hquoted : Source.prepareQuoted .full cs = cs := by decide +kernel
  have hfront : Source.prepareFront .full front = front := by decide +kernel
  have hbehind : Source.prepareBehind .full behind = behind := by decide +kernel
  have hlead : Token.Scans none front lead :=
    .step rfl (.step rfl (.step rfl (.step rfl (.done rfl))))
  have hstands : Token.StandsInTag .full front lead :=
    ⟨by decide +kernel, by rwa [hfront], .equals, rfl, rfl⟩
  have hclose : Token.Scans (some .stringLiteral) behind [⟨.closeStatement, "%\x7d"⟩] :=
    .step rfl (.done rfl)
  refine ⟨hinert.mp hquoted, hstands, by decide, by rfl, ?_⟩
  refine (htag front behind lead hstands (.inr (by decide)) _).mpr ⟨_, by rwa [hbehind], ?_⟩
  rw [hquoted]
  rfl

/-- The contents of a literal that look like a comment are taken for one. -/
theorem literal_lost :
    compile .full "\x7b\x7b '\x7b#a#\x7d' \x7d\x7d" = .ok (.program [.text ""]) ∧
      literalTemplate "\x7b#a#\x7d".toList = "\x7b\x7b '\x7b#a#\x7d' \x7d\x7d" ∧
      ¬ ∀ cs, ∃ program, compile .full (literalTemplate cs) = .ok program ∧
        Eval.RendersTo program (String.ofList cs) := by
  have hlost : Source.prepareQuoted .full ['{', '#', 'a', '#', '}'] = [] := by decide +kernel
  have hchars : "\x7b#a#\x7d".toList = ['{', '#', 'a', '#', '}'] := by rfl
  have htemplate : literalTemplate "\x7b#a#\x7d".toList = "\x7b\x7b '\x7b#a#\x7d' \x7d\x7d" := by
    rfl
  have hcompile := compile_literalTemplate .full "\x7b#a#\x7d".toList
  rw [hchars, hlost] at hcompile
  refine ⟨by rwa [← hchars, htemplate] at hcompile, htemplate, fun hall => ?_⟩
  obtain ⟨program, hprogram, hrenders⟩ := hall ['{', '#', 'a', '#', '}']
  cases hcompile.symm.trans hprogram
  have htext := hrenders.unique (rendersTo_literalTemplate _)
  cases String.ofList_injective htext

end TextTemplate
