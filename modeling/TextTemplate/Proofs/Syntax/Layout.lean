import Mathlib.Data.List.TakeWhile
import TextTemplate.Proofs.Source.Deletion
import TextTemplate.Proofs.Syntax.Respelling

/-!
# Where tokens stand in a text

The text that a template is read as is a spelling of its tokens, one after the other, with white
space between those in a tag. No character of it belongs to two tokens or to none, and a token of
text is what stands between two tags.
-/

namespace TextTemplate.Token

/-- Where reading goes on: outside tags, behind a token of text, or in a tag. -/
inductive Place
  | outside
  | behindText
  | inTag
  deriving DecidableEq

/-- Where reading goes on behind a token of this kind. -/
def Place.behind (kind : TokenKind) : Place :=
  if kind = .text then .behindText else if leavesTag (some kind) then .outside else .inTag

/-- Where reading goes on behind the last token, if there is one. -/
def Place.behindLast (last : Option TokenKind) : Place := last.elim .outside Place.behind

/-- Whether a token of this kind opens a tag. -/
def opens (kind : TokenKind) : Bool := kind == .openStatement || kind == .openExpression

/-- White space, for which there is a place in a tag only. -/
structure GapAt (place : Place) (gap : List Char) : Prop where
  blank : ∀ c ∈ gap, Text.isBlank c
  inTag : gap ≠ [] → place = .inTag

/-- No tag opens in the text. -/
structure Untagged (text : List Char) : Prop where
  statement : Text.contains ['{', '%'] text = false
  expression : Text.contains ['{', '{'] text = false

/-- The text is the spellings of the tokens in their order, with white space between those in a
tag. Outside tags there is text up to the next tag. -/
inductive Laid : Place → List Char → List Token → Prop
  | done {place : Place} {gap : List Char} (hgap : GapAt place gap) : Laid place gap []
  | text {text rest : List Char} {tokens : List Token} (hne : text ≠ []) (htext : Untagged text)
    (hrest : Laid .behindText rest tokens) :
    Laid .outside (text ++ rest) (ofChars .text text :: tokens)
  | token {place : Place} {gap lexeme rest : List Char} {token : Token} {tokens : List Token}
    (hgap : GapAt place gap) (hkind : token.kind ≠ .text)
    (hplace : place = .inTag ∨ opens token.kind) (hlexeme : Spells token lexeme)
    (hrest : Laid (.behind token.kind) rest tokens) :
    Laid place (gap ++ (lexeme ++ rest)) (token :: tokens)

/-- A token of text is not empty, and no tag opens in it. It stands at the start or behind a tag
that has been closed, and in front of a tag that opens or at the end. -/
structure TextBetween (before : List Token) (token : Token) (after : List Token) : Prop where
  nonempty : token.value.toList ≠ []
  untagged : Untagged token.value.toList
  closed : ∀ last ∈ before.getLast?, last.kind = .closeStatement ∨ last.kind = .closeExpression
  opened : ∀ next ∈ after.head?, next.kind = .openStatement ∨ next.kind = .openExpression

/-- How the tokens of a text stand in it. -/
structure LaidOut (cs : List Char) (tokens : List Token) : Prop where
  laid : Laid .outside cs tokens
  texts (before : List Token) (token : Token) (after : List Token) :
    tokens = before ++ token :: after → token.kind = .text → TextBetween before token after

/-! ## Strings and symbols -/

variable {last : Option TokenKind} {cs rest behind : List Char} {c : Char} {token : Token}
  {tokens : List Token} {place : Place}

/-- A string literal is its contents with some of them escaped, and the closing quote. -/
theorem escapes_of_scanString {quote : Char} {chars after : List Char}
    (h : scanString quote cs = .ok (chars, after)) :
    ∃ body, cs = body ++ quote :: after ∧ Escapes quote chars body := by
  fun_induction scanString quote cs generalizing chars with
  | case1 => cases h
  | case2 c rest hc =>
    cases h
    rw [beq_iff_eq.mp hc]
    exact ⟨[], rfl, .nil⟩
  | case3 => cases h
  | case4 => cases h
  | case5 c hquote hbackslash letter rest char hletter ih =>
    obtain ⟨⟨chars, _⟩, hrest, heq⟩ := Except.bind_eq_ok.mp h
    cases heq
    obtain ⟨body, rfl, hbody⟩ := ih hrest
    rw [beq_iff_eq.mp hbackslash]
    exact ⟨_, rfl, .escaped hletter hbody⟩
  | case6 c rest hquote hbackslash ih =>
    obtain ⟨⟨chars, _⟩, hrest, heq⟩ := Except.bind_eq_ok.mp h
    cases heq
    obtain ⟨body, rfl, hbody⟩ := ih hrest
    rw [beq_iff_eq] at hquote hbackslash
    exact ⟨_, rfl, .plain hquote hbackslash hbody⟩

theorem spanText_untagged {text after : List Char} (h : spanText cs = (text, after)) :
    Untagged text := by
  induction cs generalizing text after with
  | nil => cases h; exact ⟨rfl, rfl⟩
  | cons c cs ih =>
    simp only [spanText] at h
    split at h
    · cases h; exact ⟨rfl, rfl⟩
    · rename_i hopens
      cases hspan : spanText cs with
      | mk text' after' =>
        rw [hspan] at h
        cases h
        obtain ⟨hstatement, hexpression⟩ := ih hspan
        have hstart : ∀ d, (d = '%' ∨ d = '{') → ['{', d].isPrefixOf (c :: text') = false := by
          intro d hd
          rw [Bool.eq_false_iff, ne_eq, List.isPrefixOf_iff_prefix]
          rintro ⟨tail, heq⟩
          cases heq
          rw [spanText_append hspan] at hopens
          rcases hd with rfl | rfl <;> exact hopens rfl
        exact ⟨Text.contains_cons_eq_false.mpr ⟨hstart '%' (.inl rfl), hstatement⟩,
          Text.contains_cons_eq_false.mpr ⟨hstart '{' (.inr rfl), hexpression⟩⟩

/-! ## One token -/

/-- How a token in a tag is read: the text is a spelling of it and a rest, and behind `not` a word
does not go on. -/
structure ReadOff (cs : List Char) (token : Token) (rest : List Char) : Prop where
  kind : token.kind ≠ .text
  lexeme : ∃ lexeme, cs = lexeme ++ rest ∧ Spells token lexeme
  apart : token = ⟨.unaryOperator, "not"⟩ → ∀ c ∈ rest.head?, Text.isWordChar c = false

/-- A token of a kind that has one spelling only, and is not `not`. -/
theorem readOff_ofChars {kind : TokenKind} {lexeme : List Char} (htext : kind ≠ .text)
    (hstring : kind ≠ .stringLiteral) (hnotIn : kind ≠ .notIn)
    (hunary : kind = .unaryOperator → lexeme ≠ ['n', 'o', 't']) :
    ReadOff (lexeme ++ rest) (ofChars kind lexeme) rest where
  kind := htext
  lexeme := ⟨lexeme, rfl, spells_ofChars hstring hnotIn⟩
  apart h := by
    have hkind := congrArg Token.kind h
    have hvalue := congrArg (fun token => token.value.toList) h
    have hnot : "not".toList = ['n', 'o', 't'] := String.toList_ofList
    simp only [ofChars, String.toList_ofList, hnot] at hkind hvalue
    exact absurd hvalue (hunary hkind)

theorem readOff_takeWhile {p : Char → Bool}
    (h : ReadOff (c :: cs.takeWhile p ++ cs.dropWhile p) token rest) :
    ReadOff (c :: cs) token rest := by
  rwa [List.cons_append, List.takeWhile_append_dropWhile] at h

theorem readOff_scanSign (hc : c = '+' ∨ c = '-') (cs : List Char) :
    ReadOff (c :: cs) (scanSign c cs).1 (scanSign c cs).2 := by
  unfold scanSign
  split
  · have hread : ReadOff ([c] ++ cs) (ofChars .unaryOperator [c]) cs :=
      readOff_ofChars nofun nofun nofun fun _ h => by rcases hc with rfl | rfl <;> cases h
    exact hread
  · exact readOff_takeWhile (readOff_ofChars nofun nofun nofun nofun)

theorem readOff_of_scanInTag (h : scanInTag last c behind = .ok (token, rest)) :
    ReadOff (c :: behind) token rest := by
  unfold scanInTag at h
  split at h
  · rename_i hsign
    simp only [Bool.and_eq_true, Bool.or_eq_true, beq_iff_eq] at hsign
    have hread := readOff_scanSign hsign.1 behind
    rwa [Except.ok.inj h] at hread
  · split at h
    · rename_i hsymbol
      cases h
      obtain ⟨lexeme, kind, hmem, rfl, heq⟩ := exists_of_scanSymbol? hsymbol
      have hkinds : ∀ symbol ∈ symbols, symbol.2 ≠ .text ∧ symbol.2 ≠ .stringLiteral ∧
        symbol.2 ≠ .notIn ∧ symbol.2 ≠ .unaryOperator := by decide
      obtain ⟨htext, hstring, hnotIn, hunary⟩ := hkinds _ hmem
      rw [heq]
      exact readOff_ofChars htext hstring hnotIn fun h => absurd h hunary
    · split at h
      · rename_i hquote
        obtain ⟨⟨chars, after⟩, hscan, heq⟩ := Except.bind_eq_ok.mp h
        cases heq
        obtain ⟨body, rfl, hbody⟩ := escapes_of_scanString hscan
        refine ⟨by simp [ofChars], ⟨c :: body ++ [c], by simp, ?_⟩, by simp [ofChars]⟩
        exact .quoted hquote (by simpa [ofChars] using hbody)
      · split at h
        · cases h
          exact readOff_takeWhile
            (readOff_ofChars (by decide) (by decide) (by decide) (by simp))
        · split at h
          · cases h
            obtain ⟨hstring, hnotIn, hadjoins⟩ :=
              kind_of_word (c :: behind.takeWhile Text.isWordChar)
            refine readOff_takeWhile ⟨fun htext => ?_, ⟨_, rfl, spells_ofChars hstring hnotIn⟩,
              fun _ d hd => ?_⟩
            · have hkind : adjoins ((keyword? (c :: behind.takeWhile Text.isWordChar)).getD
                  .identifier) = true := congrArg adjoins htext
              rw [hadjoins] at hkind
              cases hkind
            · rw [← List.find?_not_eq_head?_dropWhile] at hd
              simpa using List.find?_some hd
          · cases h

/-! ## The next token -/

theorem behindLast_of_leavesTag (h : leavesTag last) : Place.behindLast last = .outside := by
  unfold leavesTag at h
  split at h <;> first | rfl | cases h

theorem behindLast_eq_inTag (hleaves : leavesTag last = false) (htext : last ≠ some .text) :
    Place.behindLast last = .inTag := by
  cases last with
  | none => cases hleaves
  | some kind =>
    have hkind : kind ≠ .text := fun h => htext (congrArg some h)
    simp [Place.behindLast, Place.behind, hkind, hleaves]

/-- Behind a token of text there is a tag or nothing. -/
def FollowsText (last : Option TokenKind) (cs : List Char) : Prop :=
  last = some .text → cs = [] ∨ opensTag cs

/-- Outside tags no white space is skipped. -/
theorem inTag_or_opensTag (hleaves : leavesTag last → opensTag cs) (hcs : cs ≠ [])
    (htext : FollowsText last cs) : Place.behindLast last = .inTag ∨ opensTag cs := by
  cases hlast : leavesTag last with
  | true => exact .inr (hleaves hlast)
  | false =>
    by_cases hkind : last = some .text
    · exact .inr ((htext hkind).resolve_left hcs)
    · exact .inl (behindLast_eq_inTag hlast hkind)

/-- Where there is no text, a tag opens. -/
theorem opensTag_of_no_text (hcs : cs ≠ [])
    (hnot : ∀ d text after, spanText cs ≠ (d :: text, after)) : opensTag cs := by
  cases cs with
  | nil => exact absurd rfl hcs
  | cons c cs =>
    by_cases hopens : opensTag (c :: cs)
    · exact hopens
    · rw [spanText, if_neg hopens] at hnot
      exact absurd rfl (hnot _ _ _)

theorem gapAt_of_scanNext_none (h : scanNext last cs = .ok none) (htext : FollowsText last cs) :
    GapAt (.behindLast last) cs := by
  unfold scanNext at h
  split at h
  · cases h
  · rename_i hnot
    split at h
    · rename_i hdrop
      have hopens : ¬ opensTag cs := by
        intro hopens
        rw [dropWhile_of_opensTag hopens] at hdrop
        subst hdrop
        cases hopens
      have hblank : ∀ c ∈ cs, Text.isBlank c := List.dropWhile_eq_nil_iff.mp hdrop
      refine ⟨hblank, fun hne => ?_⟩
      refine (inTag_or_opensTag (fun hlast => ?_) hne htext).resolve_right hopens
      exact opensTag_of_no_text hne fun d text after => hnot d text after hlast
    · rename_i c behind hdrop
      cases hscan : scanInTag last c behind <;> rw [hscan] at h <;> cases h

/-- How the next token is read: it is the text up to a tag, or it stands in a tag, perhaps behind
white space. -/
inductive Next (last : Option TokenKind) : List Char → Token → List Char → Prop
  | text {text rest : List Char} (hlast : leavesTag last) (hne : text ≠ []) (htext : Untagged text)
    (hrest : rest = [] ∨ opensTag rest) : Next last (text ++ rest) (ofChars .text text) rest
  | inTag {gap cs rest : List Char} {token : Token} (hgap : GapAt (.behindLast last) gap)
    (hplace : Place.behindLast last = .inTag ∨ opens token.kind) (hread : ReadOff cs token rest) :
    Next last (gap ++ cs) token rest

theorem next_of_scanNext (h : scanNext last cs = .ok (some (token, rest)))
    (htext : FollowsText last cs) : Next last cs token rest := by
  rcases scanNext_cases h with ⟨hlast, text, hne, rfl, hspan⟩ | ⟨hlast, c, behind, hdrop, hscan⟩
  · rw [spanText_append hspan]
    exact .text hlast hne (spanText_untagged hspan) (opensTag_of_spanText hspan)
  · have hcs : cs ≠ [] := by
      rintro rfl
      cases hdrop
    have hread := readOff_of_scanInTag hscan
    rcases inTag_or_opensTag hlast hcs htext with hplace | hopens
    · rw [← List.takeWhile_append_dropWhile (p := Text.isBlank) (l := cs), hdrop]
      exact .inTag ⟨mem_takeWhile, fun _ => hplace⟩ (.inl hplace) hread
    · rw [dropWhile_of_opensTag hopens] at hdrop
      subst hdrop
      have hgap : GapAt (.behindLast last) [] := ⟨nofun, fun h => absurd rfl h⟩
      refine .inTag hgap (.inr ?_) hread
      rcases opens_of_scanInTag hopens hscan with rfl | rfl <;> rfl

theorem Next.laid (h : Next last cs token rest) (hrest : Laid (.behind token.kind) rest tokens) :
    Laid (.behindLast last) cs (token :: tokens) := by
  cases h with
  | text hlast hne htext =>
    rw [behindLast_of_leavesTag hlast]
    exact .text hne htext hrest
  | inTag hgap hplace hread =>
    obtain ⟨lexeme, rfl, hlexeme⟩ := hread.lexeme
    exact .token hgap hread.kind hplace hlexeme hrest

theorem Next.followsText (h : Next last cs token rest) : FollowsText (some token.kind) rest := by
  intro hkind
  cases h with
  | text _ _ _ hrest => exact hrest
  | inTag _ _ hread => exact absurd (Option.some.inj hkind) hread.kind

theorem Next.inTag_of_ne_text (h : Next last cs token rest) (hkind : token.kind ≠ .text) :
    ∃ gap cs', cs = gap ++ cs' ∧ GapAt (.behindLast last) gap ∧
      (Place.behindLast last = .inTag ∨ opens token.kind) ∧ ReadOff cs' token rest := by
  cases h with
  | text => exact absurd rfl hkind
  | inTag hgap hplace hread => exact ⟨_, _, rfl, hgap, hplace, hread⟩

/-- The words of `not in` are read with white space between them. -/
theorem Next.notIn {rest' : List Char} (h : Next last cs ⟨.unaryOperator, "not"⟩ rest)
    (h' : Next (some .unaryOperator) rest ⟨.in_, "in"⟩ rest') :
    Next last cs ⟨.notIn, "not in"⟩ rest' := by
  obtain ⟨gap, cs, rfl, hgap, hplace, hread⟩ := h.inTag_of_ne_text nofun
  obtain ⟨between, cs', rfl, hbetween, -, hread'⟩ := h'.inTag_of_ne_text nofun
  obtain ⟨lexeme, rfl, hlexeme⟩ := hread.lexeme
  obtain ⟨lexeme', rfl, hlexeme'⟩ := hread'.lexeme
  cases hlexeme
  cases hlexeme'
  have hin : "in".toList = ['i', 'n'] := String.toList_ofList
  have hne : between ≠ [] := by
    rintro rfl
    have hword := hread.apart rfl 'i' (by rw [hin]; rfl)
    cases hword
  refine .inTag hgap (.inl (hplace.resolve_right nofun)) ⟨nofun, ?_, nofun⟩
  exact ⟨_, by simp only [List.append_assoc], .notIn ⟨hne, hbetween.blank⟩⟩

/-! ## All tokens -/

theorem Scans.laid (h : Scans last cs tokens) (htext : FollowsText last cs) :
    Laid (.behindLast last) cs (joinNotIn tokens) := by
  have hplain := h.plain
  fun_induction joinNotIn tokens generalizing last cs with
  | case1 first second rest hpair ih =>
    obtain ⟨rfl, hin⟩ : first = ⟨.unaryOperator, "not"⟩ ∧ second.kind = .in_ := by
      simpa using hpair
    obtain ⟨kind, value⟩ := second
    cases hin
    obtain rfl : value = "in" := (hplain ⟨.in_, value⟩ (by simp)).2 rfl
    cases h with
    | step hnot h =>
      have hnot := next_of_scanNext hnot htext
      cases h with
      | step hin h =>
        have hin := next_of_scanNext hin hnot.followsText
        have hrest := ih h hin.followsText fun token hmem => hplain token (by simp [hmem])
        exact (hnot.notIn hin).laid hrest
  | case2 first second rest hpair ih =>
    cases h with
    | step hfirst h =>
      have hfirst := next_of_scanNext hfirst htext
      exact hfirst.laid (ih h hfirst.followsText fun token hmem => hplain token (by simp [hmem]))
  | case3 tokens hshort =>
    cases h with
    | done h => exact .done (gapAt_of_scanNext_none h htext)
    | step hfirst h =>
      have hfirst := next_of_scanNext hfirst htext
      cases h with
      | done h => exact hfirst.laid (.done (gapAt_of_scanNext_none h hfirst.followsText))
      | step => exact absurd rfl (hshort _ _ _)

/-! ## The tokens of text -/

theorem Laid.head_opens (h : Laid .behindText cs tokens) :
    ∀ next ∈ tokens.head?, next.kind = .openStatement ∨ next.kind = .openExpression := by
  cases h with
  | done => nofun
  | token _ _ hplace =>
    rintro _ ⟨⟩
    simpa [opens] using hplace.resolve_left nofun

theorem Laid.of_text (h : Laid place cs (token :: tokens)) (hkind : token.kind = .text) :
    place = .outside ∧ token.value.toList ≠ [] ∧ Untagged token.value.toList ∧
      ∀ next ∈ tokens.head?, next.kind = .openStatement ∨ next.kind = .openExpression := by
  cases h with
  | text hne htext hrest =>
    simp only [ofChars, String.toList_ofList]
    exact ⟨trivial, hne, htext, hrest.head_opens⟩
  | token _ hnot => exact absurd hkind hnot

theorem Laid.skip {before : List Token} (h : Laid place cs (before ++ tokens)) :
    ∃ rest, Laid (before.getLast?.elim place fun last => .behind last.kind) rest tokens := by
  induction before generalizing place cs with
  | nil => exact ⟨cs, h⟩
  | cons first before ih =>
    obtain ⟨rest, hrest⟩ : ∃ rest, Laid (.behind first.kind) rest (before ++ tokens) := by
      cases h with
      | text _ _ hrest => exact ⟨_, hrest⟩
      | token _ _ _ _ hrest => exact ⟨_, hrest⟩
    obtain ⟨rest', h⟩ := ih hrest
    refine ⟨rest', ?_⟩
    rw [List.getLast?_cons]
    cases hlast : before.getLast? <;> rw [hlast] at h <;> exact h

theorem closes_of_behind_eq_outside {kind : TokenKind} (h : Place.behind kind = .outside) :
    kind = .closeStatement ∨ kind = .closeExpression := by
  cases kind <;> first | exact .inl rfl | exact .inr rfl | cases h

theorem Laid.textBetween {before after : List Token}
    (h : Laid .outside cs (before ++ token :: after)) (hkind : token.kind = .text) :
    TextBetween before token after := by
  obtain ⟨rest, h⟩ := h.skip
  obtain ⟨hplace, hne, htext, hnext⟩ := h.of_text hkind
  refine ⟨hne, htext, fun last hlast => ?_, hnext⟩
  rw [hlast] at hplace
  exact closes_of_behind_eq_outside hplace

/-- The tokens of a template are laid out in the text it is read as. -/
theorem laidOut_of_ofSource {trimming : Source.Trimming} {source : String} {tokens : List Token}
    (h : ofSource trimming source = .ok tokens) :
    LaidOut (Source.prepareChars trimming source.toList) tokens := by
  simp only [ofSource] at h
  split at h
  · rename_i hscan
    cases h
    obtain ⟨raw, hscans, rfl⟩ := scans_of_scan hscan
    have hlaid : Laid .outside _ (joinNotIn raw) := hscans.laid (by simp [FollowsText])
    exact ⟨hlaid, fun before token after heq hkind => (heq ▸ hlaid).textBetween hkind⟩
  · cases h

theorem laidOut_of_ofSource_notIn :
    let source := "A \x7b\x7b 'it\\'s' not\tin x \x7d\x7d\n B"
    let tokens : List Token := [⟨.text, "A "⟩, ⟨.openExpression, "\x7b\x7b"⟩,
      ⟨.stringLiteral, "it's"⟩, ⟨.notIn, "not in"⟩, ⟨.identifier, "x"⟩,
      ⟨.closeExpression, "\x7d\x7d"⟩, ⟨.text, "\n B"⟩]
    ofSource .full source = .ok tokens ∧
      LaidOut (Source.prepareChars .full source.toList) tokens := by
  intro source tokens
  have hsource : ofSource .full source = .ok tokens := by
    let cs := ['A', ' ', '\x7b', '\x7b', ' ', '\'', 'i', 't', '\\', '\'', 's', '\'', ' ', 'n', 'o',
      't', '\t', 'i', 'n', ' ', 'x', ' ', '\x7d', '\x7d', '\n', ' ', 'B']
    have hchars : source.toList = cs := String.toList_ofList
    have hprepared : Source.prepareChars .full cs = cs := by decide +kernel
    have hscan : scan cs = .ok tokens := rfl
    simp only [ofSource, hchars, hprepared, hscan]
  exact ⟨hsource, laidOut_of_ofSource hsource⟩

end TextTemplate.Token
