import TextTemplate.Proofs.Syntax.Bracket
import TextTemplate.Proofs.Syntax.Compact
import TextTemplate.Proofs.Syntax.Literal

/-!
# Tokens with nothing between them

The literal of host data is the row of its tokens. The lexer takes such a row apart again up to the
first two closing braces that meet: these it reads as the end of a tag.
-/

namespace TextTemplate

namespace Text

variable {part x y : List Char} {c : Char}

/-- A character that does not occur in what is searched for divides the text. -/
theorem contains_append_cons (hc : c ∉ part) (hne : part ≠ []) :
    contains part (x ++ c :: y) = (contains part x || contains part y) := by
  have hprefix (x : List Char) : part.isPrefixOf (x ++ c :: y) = part.isPrefixOf x := by
    rw [Bool.eq_iff_iff, List.isPrefixOf_iff_prefix, List.isPrefixOf_iff_prefix,
      prefix_append_cons hc]
  have hnil : part.isPrefixOf [] = false := by cases part <;> simp_all
  induction x with
  | nil =>
    have hc := hprefix []
    rw [List.nil_append, hnil] at hc
    show (part.isPrefixOf (c :: y) || contains part y) = (part.isEmpty || contains part y)
    rw [hc, List.isEmpty_eq_false_iff.mpr hne]
  | cons d x ih => rw [List.cons_append, contains, ← List.cons_append, hprefix, ih, contains,
      Bool.or_assoc]

theorem contains_append_of_disjoint (hne : part ≠ []) (hx : ∀ c ∈ x, c ∉ part) :
    contains part (x ++ y) = contains part y := by
  induction x with
  | nil => rfl
  | cons c x ih =>
    obtain ⟨hc, hx⟩ := List.forall_mem_cons.mp hx
    have hnil : contains part [] = false := List.isEmpty_eq_false_iff.mpr hne
    have hcons := @contains_append_cons part [] (x ++ y) c hc hne
    rw [hnil, Bool.false_or, ih hx] at hcons
    exact hcons

end Text

/-- What white space control looks for, indentation apart. -/
def Source.rewritten : List (List Char) :=
  [['{', '#'], ['#', '}', '\n'], ['%', '}', '\n'], ['-', '%', '}'], ['{', '%', '-'],
    ['-', '}', '}'], ['{', '{', '-']]

/-- What white space control and the lexer look for. -/
def Source.markers : List (List Char) :=
  [['{', '{'], ['{', '%'], ['}', '}']] ++ rewritten

theorem Source.contains_of_isBare {part cs : List Char} (hpart : part ∈ markers)
    (hcs : Text.IsBare cs) : Text.contains part cs = false := by
  have hmarkers : ∀ part ∈ markers, delimiters.any (Text.contains · part) := by decide
  obtain ⟨delimiter, hmem, hdelimiter⟩ := List.any_eq_true.mp (hmarkers part hpart)
  have hwithin := Text.contains_iff_infix.mp hdelimiter
  exact Text.contains_eq_false_iff.mpr fun h =>
    Text.contains_eq_false_iff.mp (hcs.undelimited delimiter hmem) (hwithin.trans h)

theorem Host.joinChars_cons (separator part : List Char) (parts : List (List Char)) :
    joinChars separator (part :: parts) = part ++ parts.flatMap (separator ++ ·) := by
  induction parts generalizing part with
  | nil => simp [joinChars]
  | cons second parts ih =>
    rw [joinChars, ih, List.flatMap_cons, List.append_assoc, List.append_assoc]
    nofun

namespace Token

/-! ## The tokens of literals -/

def openBrace : Token := ⟨.openCurlyBracket, "\x7b"⟩

def closeBrace : Token := ⟨.closeCurlyBracket, "\x7d"⟩

/-- The marks that anything may follow. -/
def openers : List Token := [⟨.openSquareBracket, "["⟩, ⟨.comma, ","⟩, ⟨.colon, ":"⟩]

/-- The marks that may follow anything. -/
def closers : List Token := [⟨.closeSquareBracket, "]"⟩, closeBrace, ⟨.comma, ","⟩, ⟨.colon, ":"⟩]

/-- The words of literals. -/
def words : List Token := [⟨.nullLiteral, "none"⟩, ⟨.booleanLiteral, "true"⟩,
  ⟨.booleanLiteral, "false"⟩]

inductive IsDatum : Token → Prop
  | brace : IsDatum openBrace
  | opener {token : Token} (h : token ∈ openers) : IsDatum token
  | closer {token : Token} (h : token ∈ closers) : IsDatum token
  | word {token : Token} (h : token ∈ words) : IsDatum token
  | number (i : Int) : IsDatum (ofInt i)
  | text {s : String} (h : Text.IsBare s.toList) : IsDatum ⟨.stringLiteral, s⟩

/-- How a token stands in a literal. -/
def lexeme (token : Token) : List Char :=
  if token.kind = .stringLiteral then '\'' :: token.value.toList ++ ['\''] else token.value.toList

def lexemes (tokens : List Token) : List Char := tokens.flatMap lexeme

@[simp] theorem lexemes_nil : lexemes [] = [] := rfl

@[simp] theorem lexemes_cons (token : Token) (tokens : List Token) :
    lexemes (token :: tokens) = token.lexeme ++ lexemes tokens := List.flatMap_cons

@[simp] theorem lexemes_append (tokens tokens' : List Token) :
    lexemes (tokens ++ tokens') = lexemes tokens ++ lexemes tokens' := List.flatMap_append

/-- Two tokens that can be next to each other in a literal. -/
def Joined (token token' : Token) : Prop :=
  token ∈ openers ∨ token' ∈ closers ∨ token = openBrace ∧ token'.kind = .stringLiteral

/-- Two such tokens that are not both closing braces. -/
def Apart (token token' : Token) : Prop :=
  Joined token token' ∧ ¬ (token = closeBrace ∧ token' = closeBrace)

/-- Whether the character ends a token of the kind. -/
def stops (kind : TokenKind) (c : Char) : Bool :=
  match kind with
  | .numericLiteral | .booleanLiteral | .nullLiteral => !Text.isWordChar c
  | .openCurlyBracket => c != '{' && c != '%' && c != '#'
  | .closeCurlyBracket => c != '}'
  | _ => true

theorem stops_space (kind : TokenKind) : stops kind ' ' := by
  cases kind <;> decide

variable {token token' : Token} {tokens others : List Token} {last : Option TokenKind}
  {after rest : List Char}

/-- The kinds of the tokens of literals. -/
def datumKinds : List TokenKind :=
  [.openCurlyBracket, .openSquareBracket, .comma, .colon, .closeSquareBracket, .closeCurlyBracket,
    .nullLiteral, .booleanLiteral, .numericLiteral, .stringLiteral]

theorem IsDatum.kind_mem (h : IsDatum token) : token.kind ∈ datumKinds := by
  have hmarks : ∀ token ∈ openers ++ closers ++ words, token.kind ∈ datumKinds := by decide
  cases h with
  | brace => decide
  | opener h => exact hmarks _ (by simp [h])
  | closer h => exact hmarks _ (by simp [h])
  | word h => exact hmarks _ (by simp [h])
  | number => simp [ofInt, ofChars, datumKinds]
  | text => simp [datumKinds]

theorem IsDatum.leavesTag_eq (h : IsDatum token) : leavesTag (some token.kind) = false := by
  have hkinds : ∀ kind ∈ datumKinds, leavesTag (some kind) = false := by decide
  exact hkinds _ h.kind_mem

theorem IsDatum.ne_unaryOperator (h : IsDatum token) : token.kind ≠ .unaryOperator := by
  have hkinds : ∀ kind ∈ datumKinds, kind ≠ .unaryOperator := by decide
  exact hkinds _ h.kind_mem

theorem IsDatum.eq_closeBrace (h : IsDatum token) (hkind : token.kind = .closeCurlyBracket) :
    token = closeBrace := by
  have hmarks : ∀ token ∈ openers ++ closers ++ words, token.kind = .closeCurlyBracket →
      token = closeBrace := by decide
  cases h with
  | brace => cases hkind
  | opener h => exact hmarks _ (by simp [h]) hkind
  | closer h => exact hmarks _ (by simp [h]) hkind
  | word h => exact hmarks _ (by simp [h]) hkind
  | number => cases hkind
  | text => cases hkind

/-- A token ends in front of one that it is apart from. -/
theorem Apart.stops (h : Apart token token') (htoken : IsDatum token) (after : List Char) :
    ∀ c ∈ (token'.lexeme ++ after).head?, stops token.kind c := by
  obtain ⟨hopens | hcloses | ⟨rfl, hstring⟩, hmeets⟩ := h
  · intro c _
    simp only [openers, List.mem_cons, List.not_mem_nil, or_false] at hopens
    rcases hopens with rfl | rfl | rfl <;> rfl
  · have hbrace : token' = closeBrace → token.kind ≠ .closeCurlyBracket :=
      fun htoken' hkind => hmeets ⟨htoken.eq_closeBrace hkind, htoken'⟩
    simp only [closers, List.mem_cons, List.not_mem_nil, or_false] at hcloses
    rcases hcloses with rfl | rfl | rfl | rfl <;> rintro c ⟨⟩ <;> revert hbrace <;>
      cases token.kind <;> decide
  · simp only [lexeme, hstring, ↓reduceIte]
    rintro c ⟨⟩
    decide

/-! ## Reading them -/

theorem scanSymbol?_mark_eq (h : token = openBrace ∨ token ∈ openers ∨ token ∈ closers)
    (hafter : ∀ c ∈ after.head?, stops token.kind c) :
    ∃ c, token.lexeme = [c] ∧ isSignChar c = false ∧ Text.isBlank c = false ∧
      scanSymbol? (c :: after) = some (token, after) := by
  simp only [openers, closers, List.mem_cons, List.not_mem_nil, or_false] at h
  rcases h with rfl | (rfl | rfl | rfl) | rfl | rfl | rfl | rfl
  case inl =>
    refine ⟨'{', rfl, rfl, rfl, ?_⟩
    cases after with
    | nil => rfl
    | cons c after =>
      have hc := hafter c rfl
      simp only [stops, openBrace, Bool.and_eq_true, bne_iff_ne] at hc
      simp [scanSymbol?, symbols, hc.1.1.symm, hc.1.2.symm]
      rfl
  case inr.inr.inr.inl =>
    refine ⟨'}', rfl, rfl, rfl, ?_⟩
    cases after with
    | nil => rfl
    | cons c after =>
      have hc := hafter c rfl
      simp only [stops, closeBrace, bne_iff_ne] at hc
      simp [scanSymbol?, symbols, hc.symm]
      rfl
  all_goals exact ⟨_, rfl, rfl, rfl, rfl⟩

theorem scanInTag_ofInt {i : Int} (hsign : last.any endsOperand = false)
    (hafter : ∀ c ∈ after.head?, Text.isWordChar c = false) :
    ∃ c rest, integerChars i ++ after = c :: rest ∧ Text.isBlank c = false ∧
      scanInTag last c rest = .ok (ofInt i, after) := by
  have hdigits : ∀ d ∈ decimalDigits i.natAbs, d.isDigit :=
    List.all_eq_true.mp (all_isDigit_decimalDigits _)
  have hend : ∀ c ∈ after.head?, c.isDigit = false := fun c hc =>
    Bool.eq_false_iff.mpr fun hdigit =>
      Bool.eq_false_iff.mp (hafter c hc) (Text.isWordChar_of_isDigit hdigit)
  obtain ⟨d, digits, heq⟩ := List.exists_cons_of_ne_nil (decimalDigits_ne_nil i.natAbs)
  rw [ofInt, integerChars]
  split
  · refine ⟨'-', decimalDigits i.natAbs ++ after, rfl, rfl, ?_⟩
    rw [scanInTag_sign rfl hsign, scanSign, takeWhile_append hdigits hend,
      dropWhile_append hdigits hend, heq]
  · rw [heq] at hdigits ⊢
    obtain ⟨hd, hdigits⟩ := List.forall_mem_cons.mp hdigits
    have hword := Text.isWordChar_of_isDigit hd
    refine ⟨d, digits ++ after, rfl, Text.isBlank_of_isWordChar hword, ?_⟩
    rw [scanInTag_word hword, if_pos hd, takeWhile_append hdigits hend,
      dropWhile_append hdigits hend]

theorem scanInTag_words (h : token ∈ words)
    (hafter : ∀ c ∈ after.head?, Text.isWordChar c = false) :
    ∃ c rest, token.value.toList ++ after = c :: rest ∧ Text.isBlank c = false ∧
      scanInTag last c rest = .ok (token, after) := by
  simp only [words, List.mem_cons, List.not_mem_nil, or_false] at h
  have hscan {c : Char} {cs : List Char} (hc : Text.isWordChar c) (hdigit : c.isDigit = false)
      (hcs : cs.all Text.isWordChar) : scanInTag last c (cs ++ after) =
        .ok (ofChars ((keyword? (c :: cs)).getD .identifier) (c :: cs), after) := by
    have hcs := List.all_eq_true.mp hcs
    rw [scanInTag_word hc, if_neg (by simp [hdigit]), takeWhile_append hcs hafter,
      dropWhile_append hcs hafter]
  rcases h with rfl | rfl | rfl
  · exact ⟨'n', ['o', 'n', 'e'] ++ after, rfl, rfl, hscan rfl rfl rfl⟩
  · exact ⟨'t', ['r', 'u', 'e'] ++ after, rfl, rfl, hscan rfl rfl rfl⟩
  · exact ⟨'f', ['a', 'l', 's', 'e'] ++ after, rfl, rfl, hscan rfl rfl rfl⟩

/-- A token of a literal is read where something ends it. -/
theorem IsDatum.scanNext (h : IsDatum token) (hlast : leavesTag last = false)
    (hsign : token.kind = .numericLiteral → last.any endsOperand = false)
    (hafter : ∀ c ∈ after.head?, stops token.kind c) :
    scanNext last (token.lexeme ++ after) = .ok (some (token, after)) := by
  have hmark (h : token = openBrace ∨ token ∈ openers ∨ token ∈ closers) :
      Token.scanNext last (token.lexeme ++ after) = .ok (some (token, after)) := by
    obtain ⟨c, hlexeme, hc, hblank, hsymbol⟩ := scanSymbol?_mark_eq h hafter
    rw [hlexeme, List.singleton_append]
    exact scanNext_symbol hc hblank (fun hleaves => by simp [hlast] at hleaves) hsymbol
  have htag {cs : List Char} (h : ∃ c rest, cs = c :: rest ∧ Text.isBlank c = false ∧
      scanInTag last c rest = .ok (token, after)) :
      Token.scanNext last cs = .ok (some (token, after)) := by
    obtain ⟨c, rest, rfl, hblank, hscan⟩ := h
    rw [← List.nil_append (c :: rest)]
    exact scanNext_inTag rfl hblank (by simp) (fun hleaves => by simp [hlast] at hleaves) hscan
  cases h with
  | brace => exact hmark (.inl rfl)
  | opener h => exact hmark (.inr (.inl h))
  | closer h => exact hmark (.inr (.inr h))
  | word h =>
    have hkinds : ∀ token ∈ words, token.kind ≠ .stringLiteral ∧
        ∀ c, stops token.kind c = !Text.isWordChar c := by
      simp only [words, List.forall_mem_cons]
      exact ⟨⟨by decide, fun _ => rfl⟩, ⟨by decide, fun _ => rfl⟩, ⟨by decide, fun _ => rfl⟩,
        List.forall_mem_nil _⟩
    obtain ⟨hstring, hstops⟩ := hkinds _ h
    rw [lexeme, if_neg hstring]
    exact htag (scanInTag_words h fun c hc => by simpa [hstops] using hafter c hc)
  | number i =>
    have hword : ∀ c ∈ after.head?, Text.isWordChar c = false := fun c hc => by
      simpa [stops, ofInt, ofChars] using hafter c hc
    have hscan := scanInTag_ofInt (i := i) (hsign rfl) hword
    rw [lexeme, if_neg (by simp [ofInt, ofChars]), ofInt, ofChars, String.toList_ofList]
    exact htag hscan
  | @text s h =>
    have hescape : Source.escape s.toList = s.toList := Source.escape_eq fun c hc => by
      simp [Source.isMark, h.plain c hc]
    have hscan := @scanNext_literal last [] hlast (List.forall_mem_nil _) s.toList after
    rw [Source.literal, hescape, List.nil_append, ofChars, String.ofList_toList] at hscan
    exact hscan

/-- In a literal no sign stands behind an operand. -/
theorem Joined.not_endsOperand (h : Joined token token')
    (hkind : token'.kind = .numericLiteral) : endsOperand token.kind = false := by
  have hopens : ∀ token ∈ openers, endsOperand token.kind = false := by decide
  have hcloses : ∀ token ∈ closers, token.kind ≠ .numericLiteral := by decide
  rcases h with h | h | ⟨-, h⟩
  · exact hopens _ h
  · exact absurd hkind (hcloses _ h)
  · simp [h] at hkind

/-- A row of tokens that are apart is read as these tokens. -/
theorem scans_lexemes (hdata : ∀ token ∈ tokens, IsDatum token) (hapart : tokens.IsChain Apart)
    (hlast : leavesTag last = false)
    (hsign : ∀ token ∈ tokens.head?, token.kind = .numericLiteral → last.any endsOperand = false)
    (hrest : ∀ token ∈ tokens.getLast?, ∀ c ∈ rest.head?, stops token.kind c)
    (h : Scans (kindAfter last tokens) rest others) :
    Scans last (lexemes tokens ++ rest) (tokens ++ others) := by
  induction tokens generalizing last with
  | nil => exact h
  | cons token tokens ih =>
    obtain ⟨htoken, htokens⟩ := List.forall_mem_cons.mp hdata
    have hafter : ∀ c ∈ (lexemes tokens ++ rest).head?, stops token.kind c := by
      cases tokens with
      | nil => exact hrest token rfl
      | cons token' tokens =>
        rw [lexemes_cons, List.append_assoc]
        exact (hapart.rel_head? rfl).stops htoken _
    have hsign' : ∀ token' ∈ tokens.head?, token'.kind = .numericLiteral →
        (some token.kind).any endsOperand = false :=
      fun token' hmem => (hapart.rel_head? hmem).1.not_endsOperand
    rw [lexemes_cons, List.append_assoc]
    refine .step (htoken.scanNext hlast (hsign token rfl) hafter) (ih htokens hapart.tail
      htoken.leavesTag_eq hsign' (fun token' hmem => hrest token' ?_) h)
    rw [List.getLast?_cons, Option.mem_def.mp hmem]
    rfl

/-! ## Where braces meet -/

/-- Tokens in a row are apart, or two closing braces meet for a first time. -/
theorem apart_or_meets (hjoined : tokens.IsChain Joined) : tokens.IsChain Apart ∨ ∃ before behind,
      tokens = before ++ closeBrace :: closeBrace :: behind ∧
        (before ++ [closeBrace]).IsChain Apart := by
  induction tokens with
  | nil => exact .inl .nil
  | cons token tokens ih =>
    rcases tokens with _ | ⟨token', tokens⟩
    · exact .inl (.singleton _)
    obtain ⟨hpair, hjoined⟩ := List.isChain_cons_cons.mp hjoined
    by_cases hmeets : token = closeBrace ∧ token' = closeBrace
    · obtain ⟨rfl, rfl⟩ := hmeets
      exact .inr ⟨[], tokens, rfl, .singleton _⟩
    · rcases ih hjoined with h | ⟨before, behind, heq, h⟩
      · exact .inl (List.isChain_cons_cons.mpr ⟨⟨hpair, hmeets⟩, h⟩)
      · refine .inr ⟨token :: before, behind, by rw [heq]; rfl, ?_⟩
        rw [List.cons_append]
        refine h.cons fun other hother => ?_
        cases before with
        | nil => cases heq; cases hother; exact ⟨hpair, hmeets⟩
        | cons first before => cases heq; cases hother; exact ⟨hpair, hmeets⟩

/-- The characters of markers. -/
def inMarkers (c : Char) : Bool := ['{', '}', '%', '#', '-', '\n'].contains c

theorem not_mem_of_inMarkers {part : List Char} {c : Char} (hpart : part ∈ Source.markers)
    (hc : inMarkers c = false) : c ∉ part := by
  have hmarkers : ∀ part ∈ Source.markers, part.all inMarkers := by decide
  intro hmem
  rw [List.all_eq_true.mp (hmarkers part hpart) c hmem] at hc
  cases hc

theorem inMarkers_of_isDigit {c : Char} (h : c.isDigit) : inMarkers c = false := by
  have hmarkers : ['{', '}', '%', '#', '-', '\n'].all (!Char.isDigit ·) := by decide
  refine Bool.eq_false_iff.mpr fun hc => ?_
  have hdigit := List.all_eq_true.mp hmarkers c (List.contains_iff_mem.mp hc)
  rw [h] at hdigit
  cases hdigit

theorem isPrefixOf_openBrace {part : List Char} (hpart : part ∈ Source.markers)
    (hafter : ∀ c ∈ after.head?, stops .openCurlyBracket c) :
    part.isPrefixOf ('{' :: after) = false := by
  cases after with
  | nil => revert part; decide
  | cons c after =>
    have hc := hafter c rfl
    simp only [stops, Bool.and_eq_true, bne_iff_ne] at hc
    revert part
    simp [Source.markers, Source.rewritten, List.isPrefixOf, hc.1.1.symm, hc.1.2.symm, hc.2.symm]

theorem isPrefixOf_closeBrace {part : List Char} (hpart : part ∈ Source.markers)
    (hafter : part = ['}', '}'] → ∀ c ∈ after.head?, stops .closeCurlyBracket c) :
    part.isPrefixOf ('}' :: after) = false := by
  cases after with
  | nil => clear hafter; revert part; decide
  | cons c after =>
    have hc (heq : part = ['}', '}']) : '}' ≠ c := (bne_iff_ne.mp (hafter heq c rfl)).symm
    clear hafter
    revert part
    simp [Source.markers, Source.rewritten, List.isPrefixOf]

/-- No marker is in a token of a literal, nor does one start in it and end behind it, unless two
braces meet. -/
theorem IsDatum.contains_lexeme {part : List Char} (h : IsDatum token)
    (hpart : part ∈ Source.markers)
    (hafter : token = openBrace ∨ token = closeBrace ∧ part = ['}', '}'] →
      ∀ c ∈ after.head?, stops token.kind c) :
    Text.contains part (token.lexeme ++ after) = Text.contains part after := by
  have hne : part ≠ [] := by
    have hmarkers : ∀ part ∈ Source.markers, part ≠ [] := by decide
    exact hmarkers part hpart
  have hplain {cs : List Char} (hcs : cs.all (!inMarkers ·)) :
      Text.contains part (cs ++ after) = Text.contains part after :=
    Text.contains_append_of_disjoint hne fun c hc => not_mem_of_inMarkers hpart (by
      simpa using List.all_eq_true.mp hcs c hc)
  have hstart {c : Char} (hc : part.isPrefixOf (c :: after) = false) :
      Text.contains part ([c] ++ after) = Text.contains part after := by
    rw [List.singleton_append, Text.contains, hc, Bool.false_or]
  cases h with
  | brace => exact hstart (isPrefixOf_openBrace hpart (hafter (.inl rfl)))
  | opener h =>
    simp only [openers, List.mem_cons, List.not_mem_nil, or_false] at h
    rcases h with rfl | rfl | rfl <;> exact hplain rfl
  | closer h =>
    simp only [closers, List.mem_cons, List.not_mem_nil, or_false] at h
    rcases h with rfl | rfl | rfl | rfl
    · exact hplain rfl
    · exact hstart (isPrefixOf_closeBrace hpart fun heq => hafter (.inr ⟨rfl, heq⟩))
    · exact hplain rfl
    · exact hplain rfl
  | word h =>
    simp only [words, List.mem_cons, List.not_mem_nil, or_false] at h
    rcases h with rfl | rfl | rfl <;> exact hplain rfl
  | number i =>
    have hdigits : ∀ d ∈ decimalDigits i.natAbs, d ∉ part := fun d hd =>
      not_mem_of_inMarkers hpart (inMarkers_of_isDigit
        (List.all_eq_true.mp (all_isDigit_decimalDigits _) d hd))
    obtain ⟨d, digits, heq⟩ := List.exists_cons_of_ne_nil (decimalDigits_ne_nil i.natAbs)
    rw [lexeme, if_neg (by simp [ofInt, ofChars]), ofInt, ofChars, String.toList_ofList,
      integerChars]
    split
    · -- The digits behind the sign divide it from what follows.
      have hsign : ∀ part ∈ Source.markers, Text.contains part ['-'] = false := by decide
      rw [heq] at hdigits ⊢
      obtain ⟨hd, hdigits⟩ := List.forall_mem_cons.mp hdigits
      have hdivided := @Text.contains_append_cons part ['-'] (digits ++ after) d hd hne
      rw [hsign part hpart, Bool.false_or, Text.contains_append_of_disjoint hne hdigits] at hdivided
      exact hdivided
    · exact Text.contains_append_of_disjoint hne hdigits
  | @text s h =>
    have hquote : '\'' ∉ part := not_mem_of_inMarkers hpart rfl
    have hnil : Text.contains part [] = false := List.isEmpty_eq_false_iff.mpr hne
    have hopen := @Text.contains_append_cons part [] (s.toList ++ '\'' :: after) '\'' hquote hne
    have hclose := @Text.contains_append_cons part s.toList after '\'' hquote hne
    rw [Source.contains_of_isBare hpart h, Bool.false_or] at hclose
    rw [hnil, Bool.false_or, hclose] at hopen
    rw [lexeme, if_pos rfl, List.append_assoc]
    exact hopen

/-- So no marker is in a literal but the end of a tag, which is there just if two braces meet. -/
theorem contains_lexemes {part : List Char} (hdata : ∀ token ∈ tokens, IsDatum token)
    (hpart : part ∈ Source.markers) (hjoined : tokens.IsChain Joined)
    (hapart : part = ['}', '}'] → tokens.IsChain Apart) (rest : List Char) :
    Text.contains part (lexemes tokens ++ ' ' :: rest) = Text.contains part (' ' :: rest) := by
  induction tokens with
  | nil => rfl
  | cons token tokens ih =>
    obtain ⟨htoken, htokens⟩ := List.forall_mem_cons.mp hdata
    rw [lexemes_cons, List.append_assoc, ← ih htokens hjoined.tail fun heq => (hapart heq).tail]
    refine htoken.contains_lexeme hpart fun hmark => ?_
    cases tokens with
    | nil => rintro c ⟨⟩; exact stops_space _
    | cons token' tokens =>
      rw [lexemes_cons, List.append_assoc]
      refine Apart.stops ?_ htoken _
      rcases hmark with rfl | ⟨rfl, heq⟩
      · exact ⟨hjoined.rel_head? rfl, fun h => absurd h.1 (by decide)⟩
      · exact (hapart heq).rel_head? rfl

/-! ## Literals as rows of tokens -/

/-- A row of tokens of literals that can be next to each other. -/
structure IsRow (tokens : List Token) : Prop where
  data : ∀ token ∈ tokens, IsDatum token
  joined : tokens.IsChain Joined

namespace IsRow

theorem nil : IsRow [] := ⟨nofun, .nil⟩

theorem single (h : IsDatum token) : IsRow [token] :=
  ⟨List.forall_mem_singleton.mpr h, .singleton _⟩

theorem append (h : IsRow tokens) (h' : IsRow others)
    (hcloser : ∀ token ∈ others.head?, token ∈ closers) : IsRow (tokens ++ others) where
  data token htoken := (List.mem_append.mp htoken).elim (h.data token) (h'.data token)
  joined := h.joined.append h'.joined fun _ _ token htoken => .inr (.inl (hcloser token htoken))

theorem opener (htoken : token ∈ openers) (h : IsRow tokens) : IsRow (token :: tokens) where
  data := List.forall_mem_cons.mpr ⟨.opener htoken, h.data⟩
  joined := h.joined.cons fun _ _ => .inl htoken

theorem separated {parts : List (List Token)} (h : ∀ part ∈ parts, IsRow part) :
    IsRow (separated parts) := by
  have hothers {parts : List (List Token)} (h : ∀ part ∈ parts, IsRow part) :
      IsRow (parts.flatMap (⟨.comma, ","⟩ :: ·)) := by
    induction parts with
    | nil => exact nil
    | cons part parts ih =>
      obtain ⟨hpart, hparts⟩ := List.forall_mem_cons.mp h
      refine (opener (by decide) hpart).append (ih hparts) fun token htoken => ?_
      cases parts with
      | nil => cases htoken
      | cons => cases htoken; decide
  cases parts with
  | nil => exact nil
  | cons part parts =>
    obtain ⟨hpart, hparts⟩ := List.forall_mem_cons.mp h
    refine hpart.append (hothers hparts) fun token htoken => ?_
    cases parts with
    | nil => cases htoken
    | cons => cases htoken; decide

end IsRow

theorem lexemes_separated (parts : List (List Token)) :
    lexemes (separated parts) = Host.joinChars [','] (parts.map lexemes) := by
  cases parts with
  | nil => rfl
  | cons part parts =>
    rw [separated, lexemes_append, List.map_cons, Host.joinChars_cons, List.flatMap_map]
    exact congrArg (lexemes part ++ ·) List.flatMap_assoc

end Token

open Token

/-- The tokens of a literal are a row. -/
theorem Host.HasLiteral.isRow {host : Host} (h : host.HasLiteral) :
    IsRow (Node.ofHost host).tokens := by
  induction h with
  | null => exact .single (.word (by decide))
  | bool b => exact .single (.word (by cases b <;> decide))
  | number => exact .single (.number _)
  | text h => exact .single (.text h)
  | @list items _ ih =>
    rw [Node.ofHost, Node.ofHosts_eq, Node.tokens, Node.tokensOfAll_eq, List.map_map]
    refine .append (.opener (by decide) (.separated fun part hpart => ?_))
      (.single (.closer (by decide))) (by decide)
    obtain ⟨item, hitem, rfl⟩ := List.mem_map.mp hpart
    exact ih item hitem
  | @map fields hkeys _ ih =>
    -- What stands behind the opening brace is a key or the closing brace.
    rw [Node.ofHost_ofFields, Node.tokens, Node.tokensOfPairs_eq, List.map_map]
    have hrow : IsRow (separated (fields.map (Node.pairTokens ∘ Node.ofField))) := by
      refine .separated fun part hpart => ?_
      obtain ⟨field, hfield, rfl⟩ := List.mem_map.mp hpart
      have hkey : IsRow [⟨.stringLiteral, field.1⟩] := .single (.text (hkeys field hfield))
      have hvalue : IsRow (⟨.colon, ":"⟩ :: (Node.ofHost field.2).tokens) :=
        .opener (by decide) (ih field hfield)
      exact hkey.append hvalue (by rintro token ⟨⟩; decide)
    have hclose : IsRow [closeBrace] := .single (.closer (by decide))
    have hrow := hrow.append hclose (by decide)
    refine ⟨List.forall_mem_cons.mpr ⟨.brace, hrow.data⟩, hrow.joined.cons fun token htoken => ?_⟩
    cases fields with
    | nil => cases htoken; exact .inr (.inl (by decide))
    | cons field fields => cases htoken; exact .inr (.inr ⟨rfl, rfl⟩)

theorem Host.literalItems_eq (items : List Host) :
    literalItems items = items.map literalChars := by
  induction items with
  | nil => rfl
  | cons item items ih => rw [literalItems, ih, List.map_cons]

theorem Host.literalEntries_eq (fields : Fields Host) :
    literalEntries (fields.map fun (key, value) => (.text key, value)) =
      fields.map fun field => '\'' :: field.1.toList ++ ['\''] ++ ':' :: field.2.literalChars := by
  induction fields with
  | nil => rfl
  | cons field fields ih => rw [List.map_cons, literalEntries, ih]; rfl

/-- What stands in a literal are its tokens. -/
theorem Host.HasLiteral.literalChars_eq {host : Host} (h : host.HasLiteral) :
    host.literalChars = lexemes (Node.ofHost host).tokens := by
  induction h with
  | null => rfl
  | bool b => cases b <;> rfl
  | @number i => simp [literalChars, Node.ofHost, lexeme, ofInt, ofChars]
  | @text s => simp [literalChars, Node.ofHost, lexeme]
  | @list items _ ih =>
    have hparts : items.map literalChars = (items.map Node.ofHost).map (lexemes ∘ Node.tokens) := by
      rw [List.map_map]
      exact List.map_congr_left ih
    rw [literalChars, literalItems_eq, hparts, ← List.map_map, ← lexemes_separated, Node.ofHost,
      Node.ofHosts_eq, Node.tokens, Node.tokensOfAll_eq, lexemes_append]
    rfl
  | @map fields _ _ ih =>
    have hparts : (fields.map fun field =>
        '\'' :: field.1.toList ++ ['\''] ++ ':' :: field.2.literalChars) =
          (fields.map Node.ofField).map (lexemes ∘ Node.pairTokens) := by
      rw [List.map_map]
      refine List.map_congr_left fun field hfield => ?_
      simp [Node.pairTokens, Node.ofField, lexeme, ih field hfield]
    rw [ofFields, literalChars, literalEntries_eq, hparts, ← List.map_map, ← lexemes_separated,
      ← ofFields, Node.ofHost_ofFields, Node.tokens, Node.tokensOfPairs_eq, lexemes_append]
    rfl

end TextTemplate
