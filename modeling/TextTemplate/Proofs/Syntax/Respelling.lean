import TextTemplate.Proofs.Syntax.Grammar
import TextTemplate.Proofs.Syntax.Spelling

/-!
# Tokens are read back from every spelling

The tokens that a template is read as are written one after the other, each in any of its spellings
and with any white space between those in a tag. The text is read as the same tokens again.
-/

namespace TextTemplate.Token

/-- What stands between a token and those after it: nothing where there is no place for white space
or no token, and white space in a tag. -/
def Separates (token : Token) (tokens : List Token) (gap : List Char) : Prop :=
  if tokens.isEmpty || adjoins token.kind then gap = [] else IsGap gap

instance (token : Token) (tokens : List Token) (gap : List Char) :
    Decidable (Separates token tokens gap) :=
  inferInstanceAs (Decidable (if tokens.isEmpty || adjoins token.kind then gap = [] else IsGap gap))

/-- The ways to spell tokens that stand one after the other. -/
inductive Respells : List Token → List Char → Prop
  | nil : Respells [] []
  | cons {token : Token} {tokens : List Token} {lexeme gap rest : List Char}
    (hlexeme : Spells token lexeme) (hgap : Separates token tokens gap)
    (hrest : Respells tokens rest) : Respells (token :: tokens) (lexeme ++ (gap ++ rest))

namespace Separates

variable {token : Token} {tokens : List Token} {gap : List Char}

theorem eq_nil_of_adjoins (h : Separates token tokens gap) (hkind : adjoins token.kind) :
    gap = [] := by
  rwa [Separates, if_pos (by simp [hkind])] at h

theorem isBlank (h : Separates token tokens gap) : ∀ c ∈ gap, Text.isBlank c := by
  unfold Separates at h
  split at h
  · simp [h]
  · exact h.2

/-- A spelling does not go on with what is behind it. -/
theorem startsApart {rest : List Char} (h : Separates token tokens gap)
    (hrest : Respells tokens rest) : adjoins token.kind ∨ StartsApart (gap ++ rest) := by
  cases hkind : adjoins token.kind with
  | true => exact .inl rfl
  | false =>
    refine .inr fun c hc => ?_
    cases gap with
    | cons d gap =>
      cases hc
      exact h.isBlank c List.mem_cons_self
    | nil =>
      cases hrest with
      | nil => cases hc
      | cons => simp [Separates, hkind, IsGap] at h

end Separates

/-! ## Reading one token after the other -/

theorem spanText_append {cs text after : List Char} (h : spanText cs = (text, after)) :
    cs = text ++ after := by
  induction cs generalizing text after with
  | nil => cases h; rfl
  | cons c cs ih =>
    simp only [spanText] at h
    split at h
    · cases h; rfl
    · cases h
      rw [List.cons_append, ← ih rfl]

theorem opensTag_of_spanText {cs text after : List Char} (h : spanText cs = (text, after)) :
    after = [] ∨ opensTag after := by
  induction cs generalizing text after with
  | nil => cases h; exact .inl rfl
  | cons c cs ih =>
    simp only [spanText] at h
    split at h
    · rename_i hopens
      cases h
      exact .inr hopens
    · cases h
      exact ih rfl

theorem spanText_of_opensTag {cs : List Char} (h : opensTag cs) : spanText cs = ([], cs) := by
  cases cs with
  | nil => cases h
  | cons c cs => rw [spanText, if_pos h]

/-- A tag starts with two characters, the first of which is always the same. -/
theorem opensTag_cases {cs : List Char} (h : opensTag cs) :
    ∃ c rest, cs = '{' :: c :: rest ∧ (c = '%' ∨ c = '{') := by
  unfold opensTag at h
  split at h
  · exact ⟨_, _, rfl, .inl rfl⟩
  · exact ⟨_, _, rfl, .inr rfl⟩
  · cases h

theorem opensTag_cons_cons (c d : Char) (cs : List Char) :
    opensTag (c :: d :: cs) = (c == '{' && (d == '%' || d == '{')) := by
  unfold opensTag
  split <;> simp_all

/-- What is plain text in front of one tag is plain text in front of any tag. -/
theorem spanText_exchange {text after other : List Char}
    (h : spanText (text ++ after) = (text, after)) (hafter : opensTag after)
    (hother : opensTag other) : spanText (text ++ other) = (text, other) := by
  induction text with
  | nil => exact spanText_of_opensTag hother
  | cons c text ih =>
    simp only [List.cons_append, spanText] at h ⊢
    split at h
    · cases h
    · rename_i hopens
      have hrest : spanText (text ++ after) = (text, after) := by
        cases hspan : spanText (text ++ after) with
        | mk text' after' => rw [hspan] at h; cases h; rfl
      have hsame : opensTag (c :: (text ++ other)) = opensTag (c :: (text ++ after)) := by
        cases text with
        | cons d text => simp only [List.cons_append, opensTag_cons_cons]
        | nil =>
          obtain ⟨_, _, rfl, -⟩ := opensTag_cases hafter
          obtain ⟨_, _, rfl, -⟩ := opensTag_cases hother
          simp only [List.nil_append, opensTag_cons_cons]
      rw [hsame, if_neg hopens, ih hrest]

/-- The tokens of a text behind a token of kind `last`. -/
inductive Scans : Option TokenKind → List Char → List Token → Prop
  | done {last : Option TokenKind} {cs : List Char} (h : scanNext last cs = .ok none) :
    Scans last cs []
  | step {last : Option TokenKind} {cs rest : List Char} {token : Token} {tokens : List Token}
    (h : scanNext last cs = .ok (some (token, rest)))
    (hrest : Scans (some token.kind) rest tokens) : Scans last cs (token :: tokens)

theorem Scans.exists_of_scanNext {last : Option TokenKind} {cs rest : List Char} {token : Token}
    {tokens : List Token} (h : Scans last cs tokens)
    (hnext : scanNext last cs = .ok (some (token, rest))) :
    ∃ others, tokens = token :: others ∧ Scans (some token.kind) rest others := by
  cases h with
  | done h => rw [hnext] at h; cases h
  | step h hrest => rw [hnext] at h; cases h; exact ⟨_, rfl, hrest⟩

/-- How the next token is read: it is a text, or stands in a tag. -/
theorem scanNext_cases {last : Option TokenKind} {cs rest : List Char} {token : Token}
    (h : scanNext last cs = .ok (some (token, rest))) :
    (leavesTag last ∧ ∃ text, text ≠ [] ∧ token = ofChars .text text ∧
      spanText cs = (text, rest)) ∨
    (leavesTag last → opensTag cs) ∧ ∃ c behind, cs.dropWhile Text.isBlank = c :: behind ∧
      scanInTag last c behind = .ok (token, rest) := by
  unfold scanNext at h
  split at h
  · rename_i c text after hlast hspan
    cases h
    exact .inl ⟨hlast, c :: text, by simp, rfl, hspan⟩
  · rename_i hnot
    split at h
    · cases h
    · rename_i c behind hdrop
      refine .inr ⟨fun hlast => ?_, c, behind, hdrop, ?_⟩
      · cases hspan : spanText cs with
        | mk text after =>
          cases text with
          | cons d text => exact absurd hspan (hnot d text after hlast)
          | nil =>
            have hcs := spanText_append hspan
            rcases opensTag_of_spanText hspan with rfl | hopens
            · subst hcs; cases hdrop
            · rw [hcs]; exact hopens
      · cases hs : scanInTag last c behind with
        | error e => rw [hs] at h; cases h
        | ok found => rw [hs] at h; cases h; rfl

theorem scanNext_text {last : Option TokenKind} {cs text after : List Char}
    (hlast : leavesTag last) (htext : text ≠ []) (h : spanText cs = (text, after)) :
    scanNext last cs = .ok (some (ofChars .text text, after)) := by
  cases text with
  | nil => exact absurd rfl htext
  | cons c text => simp only [scanNext, hlast, h]

theorem scanNext_inTag {last : Option TokenKind} {gap cs rest : List Char} {c : Char}
    {found : Token × List Char} (hcs : cs = c :: rest) (hc : Text.isBlank c = false)
    (hgap : ∀ d ∈ gap, Text.isBlank d) (hlast : leavesTag last → gap = [] ∧ opensTag cs)
    (h : scanInTag last c rest = .ok found) : scanNext last (gap ++ cs) = .ok (some found) := by
  have hdrop : (gap ++ cs).dropWhile Text.isBlank = c :: rest := by
    rw [List.dropWhile_append_of_pos hgap, hcs, List.dropWhile_cons_of_neg (by simp [hc])]
  unfold scanNext
  split
  · rename_i hleaves hspan
    obtain ⟨rfl, hopens⟩ := hlast hleaves
    rw [List.nil_append, spanText_of_opensTag hopens] at hspan
    cases hspan
  · rw [hdrop]
    simp only [h]
    rfl

theorem suffix_of_scanString {quote : Char} {cs chars after : List Char}
    (h : scanString quote cs = .ok (chars, after)) : after <:+ cs := by
  fun_induction scanString quote cs generalizing chars with
  | case1 => cases h
  | case2 c rest => cases h; exact List.suffix_cons _ _
  | case3 => cases h
  | case4 => cases h
  | case5 c _ _ letter rest char _ ih =>
    obtain ⟨⟨_, _⟩, hrest, heq⟩ := Except.bind_eq_ok.mp h
    cases heq
    exact (ih hrest).trans ((List.suffix_cons _ _).trans (List.suffix_cons _ _))
  | case6 c rest _ _ ih =>
    obtain ⟨⟨_, _⟩, hrest, heq⟩ := Except.bind_eq_ok.mp h
    cases heq
    exact (ih hrest).trans (List.suffix_cons _ _)

theorem suffix_of_scanSign (sign : Char) (rest : List Char) : (scanSign sign rest).2 <:+ rest := by
  unfold scanSign
  split
  · exact List.suffix_rfl
  · exact List.dropWhile_suffix _

theorem suffix_of_scanSymbol? {c : Char} {cs after : List Char} {token : Token}
    (h : scanSymbol? (c :: cs) = some (token, after)) : after <:+ cs := by
  obtain ⟨lexeme, kind, hmem, -, heq⟩ := exists_of_scanSymbol? h
  obtain ⟨_, rest, rfl, -⟩ := exists_cons_of_mem_symbols hmem
  exact ⟨rest, (List.cons.inj heq).2.symm⟩

theorem suffix_of_scanInTag {last : Option TokenKind} {c : Char} {cs after : List Char}
    {token : Token} (h : scanInTag last c cs = .ok (token, after)) : after <:+ cs := by
  unfold scanInTag at h
  split at h
  · have hsign := suffix_of_scanSign c cs
    rwa [Except.ok.inj h] at hsign
  · split at h
    · rename_i hsymbol
      cases h
      exact suffix_of_scanSymbol? hsymbol
    · split at h
      · obtain ⟨⟨_, _⟩, hstring, heq⟩ := Except.bind_eq_ok.mp h
        cases heq
        exact suffix_of_scanString hstring
      · split at h
        · cases h
          exact List.dropWhile_suffix _
        · split at h
          · cases h
            exact List.dropWhile_suffix _
          · cases h

/-- Every token takes a character. -/
theorem length_lt_of_scanNext {last : Option TokenKind} {cs rest : List Char} {token : Token}
    (h : scanNext last cs = .ok (some (token, rest))) : rest.length < cs.length := by
  rcases scanNext_cases h with ⟨-, text, htext, -, hspan⟩ | ⟨-, c, behind, hdrop, hscan⟩
  · have := List.length_pos_iff.mpr htext
    rw [spanText_append hspan, List.length_append]
    omega
  · have hbehind := (List.dropWhile_suffix (l := cs) Text.isBlank).length_le
    have hrest := (suffix_of_scanInTag hscan).length_le
    rw [hdrop, List.length_cons] at hbehind
    omega

theorem scanNext_nil (last : Option TokenKind) : scanNext last [] = .ok none := by
  cases h : leavesTag last <;> simp [scanNext, spanText, h]

theorem scans_of_scanFrom {bound : Nat} {last : Option TokenKind} {cs : List Char}
    {tokens : List Token} (hbound : cs.length ≤ bound)
    (h : scanFrom bound last cs = .ok tokens) : Scans last cs tokens := by
  induction bound generalizing last cs tokens with
  | zero =>
    cases h
    rw [List.eq_nil_of_length_eq_zero (Nat.le_zero.mp hbound)]
    exact .done (scanNext_nil last)
  | succ bound ih =>
    obtain ⟨found, hnext, h⟩ := Except.bind_eq_ok.mp h
    cases found with
    | none => cases h; exact .done hnext
    | some found =>
      obtain ⟨tokens, htokens, h⟩ := Except.bind_eq_ok.mp h
      cases h
      have := length_lt_of_scanNext hnext
      exact .step hnext (ih (by omega) htokens)

theorem scanFrom_of_scans {bound : Nat} {last : Option TokenKind} {cs : List Char}
    {tokens : List Token} (hbound : cs.length ≤ bound) (h : Scans last cs tokens) :
    scanFrom bound last cs = .ok tokens := by
  induction h generalizing bound with
  | done h =>
    cases bound with
    | zero => rfl
    | succ bound => simp [scanFrom, h, bind, Except.bind]
  | step h hrest ih =>
    have hless := length_lt_of_scanNext h
    cases bound with
    | zero => omega
    | succ bound =>
      have htokens := @ih bound (by omega)
      simp [scanFrom, h, htokens, bind, Except.bind]

/-! ## The same tokens again -/

/-- What follows a text opens a tag. -/
theorem opens_of_scanInTag {last : Option TokenKind} {c : Char} {behind rest : List Char}
    {token : Token} (hopens : opensTag (c :: behind))
    (h : scanInTag last c behind = .ok (token, rest)) :
    token = ofChars .openStatement ['{', '%'] ∨ token = ofChars .openExpression ['{', '{'] := by
  obtain ⟨d, behind, heq, hd⟩ := opensTag_cases hopens
  cases heq
  rcases hd with rfl | rfl
  · simp [scanInTag, scanSymbol?, symbols] at h
    exact .inl h.1.symm
  · simp [scanInTag, scanSymbol?, symbols] at h
    exact .inr h.1.symm

/-- The tokens that open a tag are spelled in one way. -/
theorem Respells.opensTag {token : Token} {tokens : List Token} {spelling : List Char}
    (h : Respells (token :: tokens) spelling)
    (htoken : token = ofChars .openStatement ['{', '%'] ∨
      token = ofChars .openExpression ['{', '{']) : opensTag spelling := by
  cases h with
  | cons hlexeme _ _ =>
    rcases htoken with rfl | rfl
    all_goals
      rw [hlexeme.eq_of_ofChars nofun nofun]
      rfl

theorem dropWhile_of_opensTag {cs : List Char} (h : opensTag cs) :
    cs.dropWhile Text.isBlank = cs := by
  obtain ⟨_, _, rfl, -⟩ := opensTag_cases h
  exact List.dropWhile_cons_of_neg (by decide)

theorem scanNext_blank {last : Option TokenKind} {gap : List Char}
    (hgap : ∀ c ∈ gap, Text.isBlank c) (hlast : leavesTag last → gap = []) :
    scanNext last gap = .ok none := by
  cases hleaves : leavesTag last with
  | true => rw [hlast hleaves, scanNext_nil]
  | false =>
    have hdrop : gap.dropWhile Text.isBlank = [] := by
      simpa using @List.dropWhile_append_of_pos _ Text.isBlank gap [] hgap
    simp [scanNext, hleaves, hdrop]

/-- A text ends at the same place in front of the next tokens, however they are spelled. -/
theorem spanText_respelled {cs text rest spelling : List Char} {tokens : List Token}
    (hspan : spanText cs = (text, rest)) (h : Scans (some .text) rest tokens)
    (hspelling : Respells tokens spelling) : spanText (text ++ spelling) = (text, spelling) := by
  have hcs := spanText_append hspan
  subst hcs
  rcases opensTag_of_spanText hspan with rfl | hopens
  · cases h with
    | done =>
      cases hspelling
      exact hspan
    | step hnext =>
      rw [scanNext_nil] at hnext
      cases hnext
  · have hdrop := dropWhile_of_opensTag hopens
    cases h with
    | done hnext =>
      obtain ⟨c, behind, rfl, -⟩ := opensTag_cases hopens
      simp only [scanNext, leavesTag, hdrop] at hnext
      cases hscan : scanInTag (some .text) '{' (c :: behind) <;> rw [hscan] at hnext <;> cases hnext
    | step hnext =>
      rcases scanNext_cases hnext with ⟨hleaves, -⟩ | ⟨-, c, behind, hbehind, hscan⟩
      · cases hleaves
      · rw [hdrop] at hbehind
        subst hbehind
        exact spanText_exchange hspan hopens
          (hspelling.opensTag (opens_of_scanInTag hopens hscan))

theorem Scans.respelled {last : Option TokenKind} {cs : List Char} {tokens : List Token}
    (h : Scans last cs tokens) {gap spelling : List Char} (hspelling : Respells tokens spelling)
    (hgap : ∀ c ∈ gap, Text.isBlank c) (hlast : leavesTag last → gap = []) :
    Scans last (gap ++ spelling) tokens := by
  -- By the tokens, with the white space in front free: what stands between a token and the next one
  -- is in front of the rest.
  induction h generalizing gap spelling with
  | done =>
    cases hspelling
    rw [List.append_nil]
    exact .done (scanNext_blank hgap hlast)
  | @step last cs rest token tokens hnext hrest ih =>
    have hwhole := hspelling
    cases hspelling with
    | @cons _ _ lexeme between behind hlexeme hbetween hbehind =>
      have hfollows : Scans (some token.kind) (between ++ behind) tokens :=
        ih hbehind hbetween.isBlank fun hleaves =>
          hbetween.eq_nil_of_adjoins (by simp [adjoins, hleaves])
      refine .step ?_ hfollows
      rcases scanNext_cases hnext with
        ⟨hleaves, text, htext, rfl, hspan⟩ | ⟨hopens, c, tail, hdrop, hscan⟩
      · have hbetween : between = [] := hbetween.eq_nil_of_adjoins rfl
        have hlexeme : lexeme = text := hlexeme.eq_of_ofChars nofun nofun
        have hspan := spanText_respelled hspan hrest hbehind
        subst hbetween hlexeme
        rw [hlast hleaves, List.nil_append, List.nil_append]
        exact scanNext_text hleaves htext hspan
      · obtain ⟨d, after, hcons, hd, hagain⟩ :=
          scanInTag_spelling (inTag_of_scanInTag hscan) hlexeme (hbetween.startsApart hbehind)
        refine scanNext_inTag hcons hd hgap (fun hleaves => ⟨hlast hleaves, ?_⟩) hagain
        have hcs : opensTag (c :: tail) := by
          rw [← hdrop, dropWhile_of_opensTag (hopens hleaves)]
          exact hopens hleaves
        exact hwhole.opensTag (opens_of_scanInTag hcs hscan)

/-! ## `not in` -/

/-- A token that `not` and `in` have not been joined in. -/
def Plain (token : Token) : Prop :=
  token.kind ≠ .notIn ∧ (token.kind = .in_ → token.value = "in")

theorem word_in {word : List Char} (h : (keyword? word).getD .identifier = .in_) :
    word = "in".toList := by
  unfold keyword? at h
  split at h
  all_goals first | rfl | cases h

theorem InTag.plain {last : Option TokenKind} {token : Token} (h : InTag last token) :
    token.Plain := by
  cases h with
  | sign => exact ⟨nofun, nofun⟩
  | signed => exact ⟨nofun, nofun⟩
  | @symbol lexeme kind hmem =>
    have hkinds : ∀ symbol ∈ symbols, symbol.2 ≠ .notIn ∧ symbol.2 ≠ .in_ := by decide
    exact ⟨(hkinds _ hmem).1, fun hin => absurd hin (hkinds _ hmem).2⟩
  | string => exact ⟨nofun, nofun⟩
  | digits => exact ⟨nofun, nofun⟩
  | @word c rest =>
    refine ⟨(kind_of_word (c :: rest)).2.1, fun hin => ?_⟩
    simp [ofChars, word_in hin]

theorem Scans.plain {last : Option TokenKind} {cs : List Char} {tokens : List Token}
    (h : Scans last cs tokens) : ∀ token ∈ tokens, token.Plain := by
  induction h with
  | done => exact nofun
  | step hnext _ ih =>
    refine List.forall_mem_cons.mpr ⟨?_, ih⟩
    rcases scanNext_cases hnext with ⟨-, text, -, rfl, -⟩ | ⟨-, c, behind, -, hscan⟩
    · exact ⟨nofun, nofun⟩
    · exact (inTag_of_scanInTag hscan).plain

theorem isEmpty_joinNotIn (tokens : List Token) : (joinNotIn tokens).isEmpty = tokens.isEmpty := by
  fun_cases joinNotIn tokens <;> rfl

/-- A spelling of `not in` as one operator is a spelling of the two words. -/
theorem respells_of_joinNotIn {tokens : List Token} (hplain : ∀ token ∈ tokens, token.Plain)
    {spelling : List Char} (h : Respells (joinNotIn tokens) spelling) :
    Respells tokens spelling := by
  fun_induction joinNotIn tokens generalizing spelling with
  -- Only here are two tokens joined. The gap in their spelling is the one that parts the two words.
  | case1 first second rest hpair ih =>
    obtain ⟨rfl, hin⟩ : first = ⟨.unaryOperator, "not"⟩ ∧ second.kind = .in_ := by
      simpa using hpair
    obtain ⟨kind, value⟩ := second
    cases hin
    obtain rfl : value = "in" := (hplain ⟨.in_, value⟩ (by simp)).2 rfl
    generalize hjoined : (⟨.notIn, "not in"⟩ : Token) = joined at h
    cases h with
    | @cons _ _ lexeme between behind hlexeme hbetween hbehind =>
      subst hjoined
      cases hlexeme with
      | verbatim _ hnotIn => exact absurd rfl hnotIn
      | @notIn gap hgap =>
        have hrest := ih (fun token h => hplain token (by simp [h])) hbehind
        rw [Separates, isEmpty_joinNotIn] at hbetween
        have hin : Respells (⟨.in_, "in"⟩ :: rest) ("in".toList ++ (between ++ behind)) :=
          .cons (.verbatim (by decide) (by decide)) hbetween hrest
        have hnot : Spells ⟨.unaryOperator, "not"⟩ "not".toList := .verbatim (by decide) (by decide)
        have hbefore : Separates ⟨.unaryOperator, "not"⟩ (⟨.in_, "in"⟩ :: rest) gap := hgap
        simpa using Respells.cons hnot hbefore hin
  | case2 first second rest hpair ih =>
    cases h with
    | cons hlexeme hgap hrest =>
      refine .cons hlexeme ?_ (ih (fun token h => hplain token (List.mem_cons_of_mem _ h)) hrest)
      rwa [Separates, isEmpty_joinNotIn] at hgap
  | case3 tokens => exact h

/-! ## The text as a whole -/

theorem scans_of_scan {cs : List Char} {tokens : List Token} (h : scan cs = .ok tokens) :
    ∃ raw, Scans none cs raw ∧ joinNotIn raw = tokens := by
  unfold scan at h
  cases hraw : scanFrom cs.length none cs with
  | error e => rw [hraw] at h; cases h
  | ok raw =>
    rw [hraw] at h
    exact ⟨raw, scans_of_scanFrom (Nat.le_refl _) hraw, Except.ok.inj h⟩

theorem scan_of_scans {cs : List Char} {raw : List Token} (h : Scans none cs raw) :
    scan cs = .ok (joinNotIn raw) := by
  rw [scan, scanFrom_of_scans (Nat.le_refl _) h]
  rfl

/-- The tokens of a text are read off each of their spellings. -/
theorem scan_of_respells {cs spelling : List Char} {tokens : List Token}
    (h : scan cs = .ok tokens) (hspelling : Respells tokens spelling) :
    scan spelling = .ok tokens := by
  obtain ⟨raw, hscans, rfl⟩ := scans_of_scan h
  have hspelled := respells_of_joinNotIn hscans.plain hspelling
  have hagain : Scans none ([] ++ spelling) raw := hscans.respelled hspelled nofun fun _ => rfl
  exact scan_of_scans hagain

/-- However the tokens of a template are spelled, the spelling is read as the same tokens. -/
theorem scan_of_respells_ofSource {trimming : Source.Trimming} {source : String}
    {tokens : List Token} {spelling : List Char} (h : ofSource trimming source = .ok tokens)
    (hspelling : Respells tokens spelling) : scan spelling = .ok tokens := by
  simp only [ofSource] at h
  split at h
  · rename_i hscan
    cases h
    exact scan_of_respells hscan hspelling
  · cases h

theorem scan_of_respells_ofSource_escaped :
    let source := "Hi\n\x7b\x7b \"it's\" not in -1 \x7d\x7d"
    let spelling := "Hi\n\x7b\x7b\n'it\\'s' not\t in -1 \x7d\x7d"
    let tokens : List Token := [⟨.text, "Hi\n"⟩, ⟨.openExpression, "\x7b\x7b"⟩,
      ⟨.stringLiteral, "it's"⟩, ⟨.notIn, "not in"⟩, ⟨.numericLiteral, "-1"⟩,
      ⟨.closeExpression, "\x7d\x7d"⟩]
    ofSource .full source = .ok tokens ∧ Respells tokens spelling.toList ∧
      scan spelling.toList = .ok tokens := by
  intro source spelling tokens
  have hsource : ofSource .full source = .ok tokens := by
    let cs := ['H', 'i', '\n', '\x7b', '\x7b', ' ', '"', 'i', 't', '\'', 's', '"', ' ', 'n', 'o', 't',
      ' ', 'i', 'n', ' ', '-', '1', ' ', '\x7d', '\x7d']
    have hchars : source.toList = cs := String.toList_ofList
    have hprepared : Source.prepareChars .full cs = cs := by decide +kernel
    have hscan : scan cs = .ok tokens := rfl
    simp only [ofSource, hchars, hprepared, hscan]
  have hbody : Escapes '\'' ['i', 't', '\'', 's'] ['i', 't', '\\', '\'', 's'] :=
    .plain (by decide) (by decide) (.plain (by decide) (by decide)
      (.escaped rfl (.plain (by decide) (by decide) .nil)))
  have hvalue : "it's".toList = ['i', 't', '\'', 's'] := String.toList_ofList
  have hstring : Spells ⟨.stringLiteral, "it's"⟩ ['\'', 'i', 't', '\\', '\'', 's', '\''] :=
    .quoted rfl (hvalue ▸ hbody)
  have hnot : "not".toList = ['n', 'o', 't'] := String.toList_ofList
  have hin : "in".toList = ['i', 'n'] := String.toList_ofList
  have hnotIn : Spells ⟨.notIn, "not in"⟩ (['n', 'o', 't'] ++ ['\t', ' '] ++ ['i', 'n']) :=
    hnot ▸ hin ▸ .notIn (by decide +kernel)
  have hchars : spelling.toList = ['H', 'i', '\n'] ++ ([] ++ (['\x7b', '\x7b'] ++ (['\n'] ++
      (['\'', 'i', 't', '\\', '\'', 's', '\''] ++ ([' '] ++
      (['n', 'o', 't'] ++ ['\t', ' '] ++ ['i', 'n'] ++ ([' '] ++ (['-', '1'] ++ ([' '] ++
      (['\x7d', '\x7d'] ++ ([] ++ []))))))))))) :=
    String.toList_ofList
  have hspelling : Respells tokens spelling.toList := by
    rw [hchars]
    refine .cons (spells_ofChars nofun nofun) (by decide +kernel) ?_
    refine .cons (spells_ofChars nofun nofun) (by decide +kernel) ?_
    refine .cons hstring (by decide +kernel) (.cons hnotIn (by decide +kernel) ?_)
    refine .cons (spells_ofChars nofun nofun) (by decide +kernel) ?_
    exact .cons (spells_ofChars nofun nofun) (by decide +kernel) .nil
  exact ⟨hsource, hspelling, scan_of_respells_ofSource hsource hspelling⟩

end TextTemplate.Token
