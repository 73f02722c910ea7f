import TextTemplate.Proofs.Number.Numeral
import TextTemplate.Token.Lexer

/-!
# Spellings of tokens

A token can be spelled in more than one way. A string literal stands in quotes of either kind and
may escape more of its characters than it has to, and there may be any white space within `not in`.
However a token is spelled, it is read again where it was read first.
-/

namespace TextTemplate

/-! ## Characters -/

namespace Text

/-- The code points in ranges. -/
def codesOf (ranges : List (Nat × Nat)) : List Nat :=
  ranges.flatMap fun (low, high) => List.range' low (high + 1 - low)

theorem mem_codesOf_of_inRanges {n : Nat} {ranges : List (Nat × Nat)} (h : inRanges n ranges) :
    n ∈ codesOf ranges := by
  fun_induction inRanges n ranges with
  | case1 => cases h
  | case2 => cases h
  | case3 low high rest hlow ih =>
    simp only [codesOf, List.flatMap_cons, List.mem_append]
    rcases Bool.or_eq_true_iff.mp h with hhigh | hrest
    · refine .inl (List.mem_range'_1.mpr ⟨Nat.le_of_not_lt hlow, ?_⟩)
      have := of_decide_eq_true hhigh
      omega
    · exact .inr (ih hrest)

/-- White space is no part of a word. -/
theorem isWordChar_of_isBlank {c : Char} (h : isBlank c) : isWordChar c = false := by
  have hcodes : ∀ n ∈ codesOf blankRanges, isWordChar (Char.ofNat n) = false := by decide +kernel
  have hc := hcodes _ (mem_codesOf_of_inRanges h)
  rwa [Char.ofNat_toNat] at hc

theorem isWordChar_of_isDigit {c : Char} (h : c.isDigit) : isWordChar c := by
  have hc := isDigit_bounds h
  have hsmall : c.toNat < 128 := by omega
  simp [isWordChar, isAlphanumeric, hsmall, Char.isAlphanum, h]

theorem isBlank_of_isWordChar {c : Char} (h : isWordChar c) : isBlank c = false := by
  cases hblank : isBlank c with
  | false => rfl
  | true => simp [isWordChar_of_isBlank hblank] at h

end Text

namespace Token

/-! ## Spellings -/

/-- The ways to write characters between quotes. The quote and the backslash have to be escaped. -/
inductive Escapes (quote : Char) : List Char → List Char → Prop
  | nil : Escapes quote [] []
  | plain {c : Char} {cs body : List Char} (hquote : c ≠ quote) (hbackslash : c ≠ '\\')
    (h : Escapes quote cs body) : Escapes quote (c :: cs) (c :: body)
  | escaped {letter c : Char} {cs body : List Char} (hletter : escape? letter = some c)
    (h : Escapes quote cs body) : Escapes quote (c :: cs) ('\\' :: letter :: body)

def isQuote (c : Char) : Bool := c == '\'' || c == '"'

def isSignChar (c : Char) : Bool := c == '+' || c == '-'

/-- White space where there has to be some. -/
def IsGap (gap : List Char) : Prop := gap ≠ [] ∧ ∀ c ∈ gap, Text.isBlank c

instance (gap : List Char) : Decidable (IsGap gap) :=
  -- The instance for lists is named: the one for all characters would go through each of them.
  @instDecidableAnd _ _ inferInstance (List.decidableBAll _ gap)

/-- The ways to spell a token. -/
inductive Spells : Token → List Char → Prop
  | verbatim {kind : TokenKind} {value : String} (hstring : kind ≠ .stringLiteral)
    (hnotIn : kind ≠ .notIn) : Spells ⟨kind, value⟩ value.toList
  | quoted {value : String} {quote : Char} {body : List Char} (hquote : isQuote quote)
    (h : Escapes quote value.toList body) :
    Spells ⟨.stringLiteral, value⟩ (quote :: body ++ [quote])
  | notIn {gap : List Char} (h : IsGap gap) :
    Spells ⟨.notIn, "not in"⟩ ("not".toList ++ gap ++ "in".toList)

/-- Whether nothing stands between a token of this kind and the next one: there is no place for
white space outside tags. -/
def adjoins (kind : TokenKind) : Bool := kind == .text || leavesTag (some kind)

/-- A text that does not go on with what is in front of it. -/
def StartsApart (after : List Char) : Prop := ∀ c ∈ after.head?, Text.isBlank c

theorem spells_ofChars {kind : TokenKind} {cs : List Char} (hstring : kind ≠ .stringLiteral)
    (hnotIn : kind ≠ .notIn) : Spells (ofChars kind cs) cs := by
  have hverbatim : Spells (ofChars kind cs) (String.ofList cs).toList := .verbatim hstring hnotIn
  rwa [String.toList_ofList] at hverbatim

theorem Spells.eq_of_ofChars {kind : TokenKind} {cs lexeme : List Char}
    (h : Spells (ofChars kind cs) lexeme) (hstring : kind ≠ .stringLiteral)
    (hnotIn : kind ≠ .notIn) : lexeme = cs := by
  generalize htoken : ofChars kind cs = token at h
  have hkind := congrArg Token.kind htoken
  cases h with
  | verbatim => cases htoken; simp
  | quoted => exact absurd hkind hstring
  | notIn => exact absurd hkind hnotIn

/-! ## Tokens in a tag -/

/-- The tokens that can be read in a tag after one of kind `last`. -/
inductive InTag (last : Option TokenKind) : Token → Prop
  | sign {c : Char} (hc : isSignChar c) (hlast : last.any endsOperand = false) :
    InTag last (ofChars .unaryOperator [c])
  | signed {c : Char} {digits : List Char} (hc : isSignChar c)
    (hlast : last.any endsOperand = false) (hne : digits ≠ [])
    (hdigits : ∀ d ∈ digits, d.isDigit) : InTag last (ofChars .numericLiteral (c :: digits))
  | symbol {lexeme : List Char} {kind : TokenKind} (hmem : (lexeme, kind) ∈ symbols)
    (hsign : ∀ c ∈ lexeme.head?, isSignChar c → last.any endsOperand) :
    InTag last (ofChars kind lexeme)
  | string (cs : List Char) : InTag last (ofChars .stringLiteral cs)
  | digits {c : Char} {rest : List Char} (hc : c.isDigit) (hrest : ∀ d ∈ rest, d.isDigit) :
    InTag last (ofChars .numericLiteral (c :: rest))
  | word {c : Char} {rest : List Char} (hdigit : c.isDigit = false) (hc : Text.isWordChar c)
    (hrest : ∀ d ∈ rest, Text.isWordChar d) :
    InTag last (ofChars ((keyword? (c :: rest)).getD .identifier) (c :: rest))

theorem mem_takeWhile {p : Char → Bool} {cs : List Char} : ∀ c ∈ cs.takeWhile p, p c := fun _ h =>
  List.all_eq_true.mp List.all_takeWhile _ h

theorem exists_of_scanSymbol? {cs rest : List Char} {token : Token}
    (h : scanSymbol? cs = some (token, rest)) :
    ∃ lexeme kind, (lexeme, kind) ∈ symbols ∧ token = ofChars kind lexeme ∧
      cs = lexeme ++ rest := by
  obtain ⟨⟨lexeme, kind⟩, hmem, heq⟩ := List.exists_of_findSome?_eq_some h
  by_cases hp : lexeme.isPrefixOf cs
  · simp only [hp, ↓reduceIte, Option.some.injEq, Prod.mk.injEq] at heq
    obtain ⟨rfl, rfl⟩ := heq
    obtain ⟨rest, rfl⟩ := List.isPrefixOf_iff_prefix.mp hp
    exact ⟨lexeme, kind, hmem, rfl, by simp⟩
  · simp [hp] at heq

theorem inTag_scanSign {last : Option TokenKind} {c : Char} (rest : List Char) (hc : isSignChar c)
    (hlast : last.any endsOperand = false) : InTag last (scanSign c rest).1 := by
  unfold scanSign
  split
  · exact .sign hc hlast
  · rename_i hne
    exact .signed hc hlast (fun hnil => hne hnil) mem_takeWhile

theorem inTag_of_scanInTag {last : Option TokenKind} {c : Char} {rest after : List Char}
    {token : Token} (h : scanInTag last c rest = .ok (token, after)) : InTag last token := by
  unfold scanInTag at h
  split at h
  · rename_i hsign
    simp only [Bool.and_eq_true, Bool.not_eq_true'] at hsign
    have hscan := inTag_scanSign rest hsign.1 hsign.2
    rw [Except.ok.inj h] at hscan
    exact hscan
  · rename_i hsign
    split at h
    · rename_i found hsymbol
      cases h
      obtain ⟨lexeme, kind, hmem, rfl, heq⟩ := exists_of_scanSymbol? hsymbol
      refine .symbol hmem fun d hd hsign' => ?_
      cases lexeme with
      | nil => cases hd
      | cons e lexeme =>
        cases hd
        obtain ⟨rfl, -⟩ := List.cons.inj heq
        cases hlast : last.any endsOperand with
        | true => rfl
        | false =>
          simp only [isSignChar] at hsign'
          simp [hsign', hlast] at hsign
    · split at h
      · cases hs : scanString c rest with
        | error e => rw [hs] at h; cases h
        | ok found => rw [hs] at h; cases h; exact .string _
      · split at h
        · rename_i hdigit
          cases h
          exact .digits hdigit mem_takeWhile
        · rename_i hdigit
          split at h
          · rename_i hword
            cases h
            exact .word (Bool.eq_false_iff.mpr hdigit) hword mem_takeWhile
          · cases h

/-- The kinds of words are those of names and keywords. -/
theorem kind_of_word (word : List Char) :
    (keyword? word).getD .identifier ≠ .stringLiteral ∧
      (keyword? word).getD .identifier ≠ .notIn ∧
      adjoins ((keyword? word).getD .identifier) = false := by
  unfold keyword?
  split <;> decide

/-! ## Reading a spelling -/

theorem takeWhile_append {p : Char → Bool} {cs after : List Char} (hcs : ∀ c ∈ cs, p c)
    (hafter : ∀ c ∈ after.head?, p c = false) : (cs ++ after).takeWhile p = cs := by
  rw [List.takeWhile_append_of_pos hcs]
  cases after with
  | nil => simp
  | cons d after => simp [hafter d rfl]

theorem dropWhile_append {p : Char → Bool} {cs after : List Char} (hcs : ∀ c ∈ cs, p c)
    (hafter : ∀ c ∈ after.head?, p c = false) : (cs ++ after).dropWhile p = after := by
  rw [List.dropWhile_append_of_pos hcs]
  cases after with
  | nil => rfl
  | cons d after => simp [hafter d rfl]

theorem StartsApart.not_isWordChar {after : List Char} (h : StartsApart after) :
    ∀ c ∈ after.head?, Text.isWordChar c = false := fun c hc => Text.isWordChar_of_isBlank (h c hc)

theorem StartsApart.not_isDigit {after : List Char} (h : StartsApart after) :
    ∀ c ∈ after.head?, c.isDigit = false := fun c hc => by
  cases hdigit : c.isDigit with
  | false => rfl
  | true => simpa [Text.isWordChar_of_isDigit hdigit] using h.not_isWordChar c hc

theorem scanString_escapes {quote : Char} (hquote : isQuote quote) {cs body : List Char}
    (h : Escapes quote cs body) (after : List Char) :
    scanString quote (body ++ quote :: after) = .ok (cs, after) := by
  have hbackslash : '\\' ≠ quote := by
    rintro rfl
    cases hquote
  induction h with
  | nil =>
    unfold scanString
    simp
  | plain hne hplain _ ih =>
    rw [List.cons_append]
    unfold scanString
    simp [hne, hplain, ih, bind, Except.bind]
  | escaped hletter _ ih =>
    rw [List.cons_append, List.cons_append]
    unfold scanString
    simp [hbackslash, hletter, ih, bind, Except.bind]

theorem scanSymbol?_eq_none {c : Char} (h : ∀ symbol ∈ symbols, symbol.1.head? ≠ some c)
    (rest : List Char) : scanSymbol? (c :: rest) = none := by
  refine List.findSome?_eq_none_iff.mpr fun ⟨lexeme, kind⟩ hmem => ?_
  have hne := h _ hmem
  cases lexeme with
  | nil =>
    have hnonempty : ∀ symbol ∈ symbols, symbol.1 ≠ [] := by decide
    exact absurd rfl (hnonempty _ hmem)
  | cons d lexeme =>
    have hd : (d == c) = false := by simpa using hne
    simp [List.isPrefixOf, hd]

theorem scanSymbol?_eq_none_of_isWordChar {c : Char} (h : Text.isWordChar c) (rest : List Char) :
    scanSymbol? (c :: rest) = none := by
  have hheads : ∀ symbol ∈ symbols, symbol.1.head?.all (!Text.isWordChar ·) := by decide
  refine scanSymbol?_eq_none (fun symbol hmem hhead => ?_) rest
  have hsymbol := hheads symbol hmem
  rw [hhead] at hsymbol
  simp [h] at hsymbol

/-- Whether a symbol may stand before another one in the table: it is not the beginning of the
other one, and where it is longer, it goes on with what the other one is not followed by. -/
def mayPrecede (first second : List Char × TokenKind) : Bool :=
  !first.1.isPrefixOf second.1 &&
    (!second.1.isPrefixOf first.1 ||
      (!adjoins second.2 && (first.1.drop second.1.length).head?.any (!Text.isBlank ·)))

theorem symbols_mayPrecede : symbols.Pairwise fun first second => mayPrecede first second := by
  decide

theorem not_isPrefixOf_append {first : List Char × TokenKind} {lexeme after : List Char}
    {kind : TokenKind} (h : mayPrecede first (lexeme, kind))
    (hafter : adjoins kind ∨ StartsApart after) :
    first.1.isPrefixOf (lexeme ++ after) = false := by
  refine Bool.eq_false_iff.mpr fun hfirst => ?_
  have hfirst := List.isPrefixOf_iff_prefix.mp hfirst
  simp only [mayPrecede, Bool.and_eq_true, Bool.or_eq_true, Bool.not_eq_true',
    Bool.eq_false_iff, ne_eq, List.isPrefixOf_iff_prefix] at h
  obtain ⟨hnot, hlonger⟩ := h
  rcases List.prefix_or_prefix_of_prefix hfirst (List.prefix_append lexeme after) with
    hshort | ⟨rest, hrest⟩
  · exact hnot hshort
  · rw [← hrest] at hfirst hlonger
    rcases hlonger with hlonger | ⟨hadjoins, hhead⟩
    · exact hlonger (List.prefix_append lexeme rest)
    · rw [List.drop_left] at hhead
      cases rest with
      | nil => cases hhead
      | cons c rest =>
        obtain ⟨tail, htail⟩ := (List.prefix_append_right_inj lexeme).mp hfirst
        have hc : Text.isBlank c = false := by simpa using hhead
        rcases hafter with hafter | hafter
        · exact hadjoins hafter
        · rw [hafter c (by rw [← htail]; rfl)] at hc
          cases hc

theorem scanSymbol?_append {lexeme after : List Char} {kind : TokenKind}
    (hmem : (lexeme, kind) ∈ symbols) (hafter : adjoins kind ∨ StartsApart after) :
    scanSymbol? (lexeme ++ after) = some (ofChars kind lexeme, after) := by
  obtain ⟨before, behind, heq⟩ := List.append_of_mem hmem
  have hbefore : ∀ first ∈ before, first.1.isPrefixOf (lexeme ++ after) = false :=
    fun first hfirst => by
      have hpairs := symbols_mayPrecede
      rw [heq, List.pairwise_append] at hpairs
      exact not_isPrefixOf_append (hpairs.2.2 first hfirst _ List.mem_cons_self) hafter
  rw [scanSymbol?, heq, List.findSome?_append, List.findSome?_eq_none_iff.mpr ?none]
  · simp
  case none =>
    intro first hfirst
    simp only [hbefore first hfirst, Bool.false_eq_true, ↓reduceIte]

theorem isBlank_of_isSignChar {c : Char} (h : isSignChar c) : Text.isBlank c = false := by
  simp only [isSignChar, Bool.or_eq_true, beq_iff_eq] at h
  rcases h with rfl | rfl <;> decide

theorem isSignChar_of_isWordChar {c : Char} (h : Text.isWordChar c) : isSignChar c = false := by
  cases hc : isSignChar c with
  | false => rfl
  | true =>
    simp only [isSignChar, Bool.or_eq_true, beq_iff_eq] at hc
    rcases hc with rfl | rfl <;> exact absurd h (by decide)

theorem isQuote_of_isWordChar {c : Char} (h : Text.isWordChar c) : isQuote c = false := by
  cases hc : isQuote c with
  | false => rfl
  | true =>
    simp only [isQuote, Bool.or_eq_true, beq_iff_eq] at hc
    rcases hc with rfl | rfl <;> exact absurd h (by decide)

section Reading

variable {last : Option TokenKind} {c : Char} {rest : List Char}

theorem scanInTag_sign (hc : isSignChar c) (hlast : last.any endsOperand = false) :
    scanInTag last c rest = .ok (scanSign c rest) := by
  simp only [isSignChar] at hc
  simp [scanInTag, hc, hlast]

theorem scanInTag_symbol {found : Token × List Char}
    (hsign : isSignChar c → last.any endsOperand) (h : scanSymbol? (c :: rest) = some found) :
    scanInTag last c rest = .ok found := by
  have hnot : ((c == '+' || c == '-') && !last.any endsOperand) = false := by
    cases hc : isSignChar c with
    | false => simp only [isSignChar] at hc; simp [hc]
    | true => simp [hsign hc]
  simp [scanInTag, hnot, h]

theorem scanInTag_quote (hc : isQuote c) :
    scanInTag last c rest = (do
      let (chars, after) ← scanString c rest
      .ok (ofChars .stringLiteral chars, after)) := by
  simp only [isQuote, Bool.or_eq_true, beq_iff_eq] at hc
  have hsymbol : scanSymbol? (c :: rest) = none := by
    refine scanSymbol?_eq_none ?_ rest
    rcases hc with rfl | rfl <;> decide
  have hsign : (c == '+' || c == '-') = false := by rcases hc with rfl | rfl <;> rfl
  have hquote : (c == '\'' || c == '"') = true := by simpa using hc
  simp [scanInTag, hsign, hsymbol, hquote]

theorem scanInTag_word (hc : Text.isWordChar c) :
    scanInTag last c rest =
      if c.isDigit then
        .ok (ofChars .numericLiteral (c :: rest.takeWhile Char.isDigit),
          rest.dropWhile Char.isDigit)
      else
        .ok (ofChars ((keyword? (c :: rest.takeWhile Text.isWordChar)).getD .identifier)
          (c :: rest.takeWhile Text.isWordChar), rest.dropWhile Text.isWordChar) := by
  have hsign : (c == '+' || c == '-') = false := isSignChar_of_isWordChar hc
  have hquote : (c == '\'' || c == '"') = false := isQuote_of_isWordChar hc
  simp [scanInTag, hsign, scanSymbol?_eq_none_of_isWordChar hc, hquote, hc]

end Reading

/-- The first character of a symbol is no white space. -/
theorem exists_cons_of_mem_symbols {lexeme : List Char} {kind : TokenKind}
    (h : (lexeme, kind) ∈ symbols) : ∃ c rest, lexeme = c :: rest ∧ Text.isBlank c = false := by
  have hheads : ∀ symbol ∈ symbols, symbol.1.head?.any (!Text.isBlank ·) := by decide
  have hhead := hheads _ h
  cases lexeme with
  | nil => cases hhead
  | cons c rest => exact ⟨c, rest, rfl, by simpa using hhead⟩

/-- A token that can be read in a tag is read off each of its spellings. -/
theorem scanInTag_spelling {last : Option TokenKind} {token : Token} (h : InTag last token)
    {lexeme after : List Char} (hspell : Spells token lexeme)
    (hafter : adjoins token.kind ∨ StartsApart after) :
    ∃ c rest, lexeme ++ after = c :: rest ∧ Text.isBlank c = false ∧
      scanInTag last c rest = .ok (token, after) := by
  cases h with
  | @sign c hc hlast =>
    rw [hspell.eq_of_ofChars nofun nofun]
    have hapart : StartsApart after := hafter.resolve_left nofun
    refine ⟨c, after, rfl, isBlank_of_isSignChar hc, ?_⟩
    have hscan : after.takeWhile Char.isDigit = [] :=
      @takeWhile_append _ [] after nofun hapart.not_isDigit
    rw [scanInTag_sign hc hlast, scanSign, hscan]
  | @signed c digits hc hlast hne hdigits =>
    rw [hspell.eq_of_ofChars nofun nofun]
    have hapart : StartsApart after := hafter.resolve_left nofun
    refine ⟨c, digits ++ after, rfl, isBlank_of_isSignChar hc, ?_⟩
    rw [scanInTag_sign hc hlast, scanSign, takeWhile_append hdigits hapart.not_isDigit,
      dropWhile_append hdigits hapart.not_isDigit]
    cases digits with
    | nil => exact absurd rfl hne
    | cons d digits => rfl
  | @symbol symbol kind hmem hsign =>
    obtain ⟨hstring, hnotIn⟩ : kind ≠ .stringLiteral ∧ kind ≠ .notIn := by
      have hkinds : ∀ s ∈ symbols, s.2 ≠ .stringLiteral ∧ s.2 ≠ .notIn := by decide
      exact hkinds _ hmem
    rw [hspell.eq_of_ofChars hstring hnotIn]
    have hscan := scanSymbol?_append hmem hafter
    obtain ⟨c, rest, rfl, hc⟩ := exists_cons_of_mem_symbols hmem
    exact ⟨c, rest ++ after, rfl, hc, scanInTag_symbol (hsign c rfl) hscan⟩
  | string cs =>
    generalize htoken : ofChars .stringLiteral cs = token at hspell
    cases hspell with
    | verbatim hstring => exact absurd (congrArg Token.kind htoken).symm hstring
    | notIn => cases congrArg Token.kind htoken
    | @quoted value quote body hquote hescapes =>
      have hblank : Text.isBlank quote = false := by
        simp only [isQuote, Bool.or_eq_true, beq_iff_eq] at hquote
        rcases hquote with rfl | rfl <;> decide
      refine ⟨quote, body ++ quote :: after, by simp, hblank, ?_⟩
      rw [scanInTag_quote hquote, scanString_escapes hquote hescapes after]
      simp [bind, Except.bind, ofChars]
  | @digits c rest hc hrest =>
    rw [hspell.eq_of_ofChars nofun nofun]
    have hapart : StartsApart after := hafter.resolve_left nofun
    have hword := Text.isWordChar_of_isDigit hc
    refine ⟨c, rest ++ after, rfl, Text.isBlank_of_isWordChar hword, ?_⟩
    rw [scanInTag_word hword, if_pos hc, takeWhile_append hrest hapart.not_isDigit,
      dropWhile_append hrest hapart.not_isDigit]
  | @word c rest hdigit hc hrest =>
    obtain ⟨hstring, hnotIn, hadjoins⟩ := kind_of_word (c :: rest)
    rw [hspell.eq_of_ofChars hstring hnotIn]
    have hapart : StartsApart after := hafter.resolve_left (by simp [ofChars, hadjoins])
    refine ⟨c, rest ++ after, rfl, Text.isBlank_of_isWordChar hc, ?_⟩
    rw [scanInTag_word hc, if_neg (by simp [hdigit]),
      takeWhile_append hrest hapart.not_isWordChar, dropWhile_append hrest hapart.not_isWordChar]

end Token

end TextTemplate
