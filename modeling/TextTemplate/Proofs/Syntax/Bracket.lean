import TextTemplate.Proofs.Syntax.Grammar
import TextTemplate.Proofs.Syntax.Reading

/-!
# Reading back lists and parentheses

What it is for an expression to read back: the parser of its own level reads the tokens that it is
written as. Then the parser of any other level reads it too, with parentheses where they are due.
-/

namespace TextTemplate

open Parse Token

/-! ## Lists -/

theorem Node.tokensOfAll_eq (items : List Node) : tokensOfAll items = items.map tokens := by
  induction items with
  | nil => rfl
  | cons item items ih => simp [tokensOfAll, ih]

/-- The tokens of an entry of an object. -/
def Node.pairTokens (pair : Node × Node) : List Token :=
  pair.1.tokens ++ ⟨.colon, ":"⟩ :: pair.2.tokens

theorem Node.tokensOfPairs_eq (pairs : List (Node × Node)) :
    tokensOfPairs pairs = pairs.map pairTokens := by
  induction pairs with
  | nil => rfl
  | cons pair pairs ih => simp [tokensOfPairs, pairTokens, ih]

theorem Token.length_le_separated {tokens : List Token} {parts : List (List Token)}
    (h : tokens ∈ parts) : tokens.length ≤ (separated parts).length := by
  cases parts with
  | nil => cases h
  | cons first parts =>
    rw [separated, List.length_append]
    rcases List.mem_cons.mp h with rfl | h
    · omega
    · obtain ⟨before, after, rfl⟩ := List.append_of_mem h
      simp only [List.flatMap_append, List.flatMap_cons, List.length_append, List.length_cons]
      omega

theorem Token.length_le_afterCommas (parts : List (List Token)) :
    parts.length ≤ (parts.flatMap (⟨.comma, ","⟩ :: ·)).length := by
  induction parts with
  | nil => simp
  | cons part parts ih =>
    simp only [List.flatMap_cons, List.length_append, List.length_cons]
    omega

theorem Token.length_le_length_separated {parts : List (List Token)}
    (h : ∀ part ∈ parts, part ≠ []) :
    parts.length ≤ (separated parts).length := by
  cases parts with
  | nil => simp
  | cons first parts =>
    have hfirst := List.length_pos_iff.mpr (h first List.mem_cons_self)
    have hothers := length_le_afterCommas parts
    rw [separated, List.length_append, List.length_cons]
    omega

namespace Parse

theorem nextIs_self (kind : TokenKind) (value : String) (rest : List Token) :
    nextIs kind (⟨kind, value⟩ :: rest) = true := by
  simp [nextIs]

theorem nextIs_of_ne {kind kind' : TokenKind} (h : kind' ≠ kind) (value : String)
    (rest : List Token) : nextIs kind (⟨kind', value⟩ :: rest) = false := by
  simp [nextIs, h]

theorem expect_self (kind : TokenKind) (what value : String) (rest : List Token) :
    expect kind what (⟨kind, value⟩ :: rest) = .ok rest := by
  simp [expect]

theorem stops_of_nextIs {kind : TokenKind} {level : Precedence} {rest : List Token}
    (h : nextIs kind rest) (hkind : kind.continues? = none) : Stops level rest := by
  cases rest with
  | nil => trivial
  | cons token rest =>
    simp only [nextIs, beq_iff_eq] at h
    exact stops_of_continues?_eq_none (h ▸ hkind)

/-- A comma or the closing token comes next. -/
abbrev EndsItem (close : TokenKind) (rest : List Token) : Prop :=
  nextIs .comma rest ∨ nextIs close rest

section Lists

variable {α : Type} {item : Parse α} {print : α → List Token} {follows : List Token → Prop}
  {found : List α}

/-- Before a comma or the closing token, items read back one after the other. -/
theorem itemsUntil_reads {close : TokenKind} (comma value : String) (hclose : close ≠ .comma)
    (hitem : ∀ a ∈ found, Reads item (EndsItem close) (print a) a)
    (hstart : ∀ a ∈ found, ∀ rest, nextIs close (print a ++ rest) = false)
    (bound : Nat) (hbound : found.length < bound) (rest : List Token) :
    itemsUntil close comma item bound (separated (found.map print) ++ ⟨close, value⟩ :: rest) =
      .ok (found, ⟨close, value⟩ :: rest) := by
  have hend := nextIs_self close value rest
  induction found generalizing bound with
  | nil =>
    obtain ⟨bound, rfl⟩ : ∃ n, bound = n + 1 := ⟨bound - 1, by simp at hbound; omega⟩
    simp only [itemsUntil, List.map_nil, separated, List.nil_append, hend, ↓reduceIte]
  | cons a others ih =>
    obtain ⟨bound, rfl⟩ : ∃ n, bound = n + 1 := ⟨bound - 1, by simp at hbound; omega⟩
    have hread := hitem a List.mem_cons_self
    have hfirst := hstart a List.mem_cons_self
    have hothers := ih (fun b hb => hitem b (List.mem_cons_of_mem _ hb))
      (fun b hb => hstart b (List.mem_cons_of_mem _ hb)) bound
      (by simp only [List.length_cons] at hbound; omega)
    cases others with
    | nil =>
      have hlast := hread (⟨close, value⟩ :: rest) (.inr hend)
      simp only [List.map_cons, List.map_nil, separated, List.flatMap_nil, List.append_nil]
      simp only [itemsUntil, hfirst, Bool.false_eq_true, ↓reduceIte, hlast, bind, Except.bind, hend]
    | cons b others =>
      have hnext := hread (⟨.comma, ","⟩ :: (separated ((b :: others).map print) ++
        ⟨close, value⟩ :: rest)) (.inl (nextIs_self _ _ _))
      have heq : separated ((a :: b :: others).map print) ++ ⟨close, value⟩ :: rest =
          print a ++ (⟨.comma, ","⟩ :: (separated ((b :: others).map print) ++
            ⟨close, value⟩ :: rest)) := by
        simp [separated]
      rw [heq]
      simp only [itemsUntil, hfirst, Bool.false_eq_true, ↓reduceIte, hnext, bind, Except.bind,
        nextIs_of_ne hclose.symm, expect_self, hothers]

/-- Items in brackets read back. -/
theorem items_reads {close : TokenKind} (comma closing value : String) (hclose : close ≠ .comma)
    (hitem : ∀ a ∈ found, Reads item (EndsItem close) (print a) a)
    (hstart : ∀ a ∈ found, ∀ rest, nextIs close (print a ++ rest) = false) (rest : List Token) :
    items close comma closing item (separated (found.map print) ++ ⟨close, value⟩ :: rest) =
      .ok (found, rest) := by
  have hne : ∀ part ∈ found.map print, part ≠ [] := by
    intro part hpart hnil
    obtain ⟨a, ha, rfl⟩ := List.mem_map.mp hpart
    have := hstart a ha [⟨close, value⟩]
    simp [hnil, nextIs] at this
  have hlength := length_le_length_separated hne
  rw [List.length_map] at hlength
  simp only [items]
  rw [itemsUntil_reads comma value hclose hitem hstart _
    (by simp only [List.length_append, List.length_cons]; omega)]
  simp only [bind, Except.bind, expect_self]

theorem afterCommas_stops {item : Parse Node} {rest : List Token} (h : nextIs .comma rest = false)
    (bound : Nat) : afterCommas item bound rest = .ok ([], rest) := by
  cases bound with
  | zero => rfl
  | succ bound =>
    unfold afterCommas
    split
    · simp [nextIs] at h
    · rfl

/-- Items after commas read back, up to what is no comma. -/
theorem afterCommas_reads {item : Parse Node} {print : Node → List Token} {found : List Node}
    (hitem : ∀ a ∈ found, Reads item follows (print a) a)
    (hcomma : ∀ rest, nextIs .comma rest → follows rest) {rest : List Token}
    (hfollows : follows rest) (hrest : nextIs .comma rest = false) (bound : Nat)
    (hbound : found.length ≤ bound) :
    afterCommas item bound ((found.map print).flatMap (⟨.comma, ","⟩ :: ·) ++ rest) =
      .ok (found, rest) := by
  induction found generalizing bound with
  | nil => exact afterCommas_stops hrest bound
  | cons a others ih =>
    obtain ⟨bound, rfl⟩ : ∃ n, bound = n + 1 := ⟨bound - 1, by simp at hbound; omega⟩
    have hothers := ih (fun b hb => hitem b (List.mem_cons_of_mem _ hb)) bound
      (by simpa using hbound)
    have hnext : follows ((others.map print).flatMap (⟨.comma, ","⟩ :: ·) ++ rest) := by
      cases others with
      | nil => simpa using hfollows
      | cons b others => exact hcomma _ (nextIs_self _ _ _)
    have hread := hitem a List.mem_cons_self _ hnext
    simp only [List.map_cons, List.flatMap_cons, List.cons_append, List.append_assoc]
    simp only [afterCommas, hread, bind, Except.bind, hothers]

/-- One item is no tuple. -/
theorem sequence_reads_single {item : Parse Node} {tokens rest : List Token} {node : Node}
    (hread : item (tokens ++ rest) = .ok (node, rest)) (hrest : nextIs .comma rest = false) :
    sequence item (tokens ++ rest) = .ok (node, rest) := by
  simp only [sequence, hread, bind, Except.bind, afterCommas_stops hrest, List.isEmpty_nil,
    ↓reduceIte]

/-- Several items make a tuple. -/
theorem sequence_reads_tuple {item : Parse Node} {print : Node → List Token} {found : List Node}
    (hlength : 2 ≤ found.length) (hitem : ∀ a ∈ found, Reads item follows (print a) a)
    (hcomma : ∀ rest, nextIs .comma rest → follows rest) {rest : List Token}
    (hfollows : follows rest) (hrest : nextIs .comma rest = false) :
    sequence item (separated (found.map print) ++ rest) = .ok (.tuple found, rest) := by
  match found, hlength with
  | first :: second :: others, _ =>
    have hcount := length_le_afterCommas ((second :: others).map print)
    rw [List.length_map] at hcount
    have hothers := afterCommas_reads (fun a ha => hitem a (List.mem_cons_of_mem _ ha)) hcomma
      hfollows hrest (((second :: others).map print).flatMap (⟨.comma, ","⟩ :: ·) ++ rest).length
      (by rw [List.length_append]; omega)
    have hread := hitem first List.mem_cons_self _ (hcomma
      (((second :: others).map print).flatMap (⟨.comma, ","⟩ :: ·) ++ rest) (nextIs_self _ _ _))
    rw [List.map_cons, separated, List.append_assoc]
    simp only [sequence, hread, bind, Except.bind, hothers]
    rfl

end Lists

/-! ## First tokens of what is read -/

variable {expression : Parse Node} {level : Precedence} {tokens : List Token} {node : Node}

theorem Reads.starts (h : Reads (atLevel expression level) (Stops level) tokens node) :
    StartsAt level tokens := by
  simpa using atLevel_starts (h [] trivial)

theorem StartsAt.not_nextIs (h : StartsAt level tokens) (kind : TokenKind)
    (hstart : startsPrimary kind = false) (hunary : kind ≠ .unaryOperator) (rest : List Token) :
    nextIs kind (tokens ++ rest) = false := by
  cases tokens with
  | nil => exact h.elim
  | cons token tokens =>
    simp only [List.cons_append, nextIs, beq_eq_false_iff_ne]
    rintro rfl
    rcases h with h | ⟨h, -⟩ | ⟨h, -⟩
    · rw [hstart] at h
      cases h
    · simp only [isSign, Bool.and_eq_true, beq_iff_eq] at h
      exact hunary h.1
    · simp only [isNot, Bool.and_eq_true, beq_iff_eq] at h
      exact hunary h.1

end Parse

/-! ## What it is to read back -/

namespace Node

/-- The parser of the level of a node reads it back, and can grow it where the level is grouped from
the left. -/
structure ReadsBack (expression : Parse Node) (node : Node) : Prop where
  reads : Reads (atLevel expression node.precedence) (Stops node.precedence) node.tokens node
  grows : ∀ step, stepAt? expression node.precedence = some step →
    Grows (atLevel expression node.precedence) step (Stops node.precedence.tighter) node.tokens node

/-- A parser of expressions reads back those that have fewer tokens than the bound. -/
def ReadsWithin (expression : Parse Node) (bound : Nat) : Prop :=
  ∀ node, Fits .expression node → node.tokens.length < bound →
    Reads expression (Stops .ternary) node.tokens node

/-- A node reads back, provided that the parser for what is in brackets reads back all expressions
with fewer tokens. -/
structure Readable (node : Node) : Prop where
  fits : Fits .expression node
  readsBack : ∀ {expression bound}, ReadsWithin expression bound → node.tokens.length ≤ bound →
    ReadsBack expression node

variable {expression : Parse Node} {node : Node} {bound : Nat}

theorem ne_primary_of_stepAt? {level : Precedence} {step : Step}
    (h : stepAt? expression level = some step) : level ≠ .primary := by
  rintro rfl
  cases h

theorem ReadsBack.of_reads (hstep : stepAt? expression node.precedence = none)
    (h : Reads (atLevel expression node.precedence) (Stops node.precedence) node.tokens node) :
    ReadsBack expression node :=
  ⟨h, fun step hs => by rw [hstep] at hs; cases hs⟩

theorem ReadsBack.of_grows {step : Step} (hstep : stepAt? expression node.precedence = some step)
    (h : Grows (atLevel expression node.precedence) step (Stops node.precedence.tighter) node.tokens
      node) : ReadsBack expression node := by
  refine ⟨h.reads hstep, fun step' hs => ?_⟩
  rw [hstep, Option.some.injEq] at hs
  exact hs ▸ h

theorem ReadsBack.of_primary (hlevel : node.precedence = .primary)
    (h : ∀ rest, primary expression (node.tokens ++ rest) = .ok (node, rest)) :
    ReadsBack expression node :=
  .of_reads (by rw [hlevel]; rfl) (by rw [hlevel]; exact fun rest _ => h rest)

/-- Inside brackets a node is read by the parser of all expressions. -/
theorem Readable.within (h : node.Readable) (hex : ReadsWithin expression bound)
    (hb : node.tokens.length < bound) : Reads expression (Stops .ternary) node.tokens node :=
  hex node h.fits hb

theorem Readable.starts (h : node.Readable) (hex : ReadsWithin expression bound)
    (hb : node.tokens.length ≤ bound) : StartsAt .ternary node.tokens :=
  (h.readsBack hex hb).reads.starts.mono (Nat.zero_le _)

/-- In a list, a node is read in front of a comma or the closing bracket. -/
theorem Readable.inList {close : TokenKind} (h : node.Readable) (hex : ReadsWithin expression bound)
    (hb : node.tokens.length < bound) (hclose : close.continues? = none) :
    Reads expression (EndsItem close) node.tokens node := by
  intro rest hrest
  refine h.within hex hb rest ?_
  rcases hrest with hrest | hrest
  · exact stops_of_nextIs hrest rfl
  · exact stops_of_nextIs hrest hclose

/-- In parentheses a node is a primary expression. -/
theorem Readable.parenthesised (h : node.Readable) (hex : ReadsWithin expression bound)
    (hb : node.tokens.length < bound) (rest : List Token) :
    primary expression (⟨.openParen, "("⟩ :: node.tokens ++ [⟨.closeParen, ")"⟩] ++ rest) =
      .ok (node, rest) := by
  have hinner := h.within hex hb (⟨.closeParen, ")"⟩ :: rest) (stops_of_continues?_eq_none rfl)
  have hsequence := sequence_reads_single hinner (nextIs_of_ne (by decide) _ _)
  simp only [List.cons_append, List.append_assoc, List.nil_append, primary]
  simp only [hsequence, bind, Except.bind, expect_self]

/-- The parser of any level reads a node, in parentheses where they are due. -/
theorem Readable.readsAt (h : node.Readable) (hex : ReadsWithin expression bound) (due : Precedence)
    (hb : (tokensAt due node).length ≤ bound) :
    Reads (atLevel expression due) (Stops due) (tokensAt due node) node := by
  unfold tokensAt enclosed at hb ⊢
  split at hb
  case isTrue hle =>
    rw [if_pos hle]
    exact (h.readsBack hex hb).reads.looser hle
  case isFalse hle =>
    rw [if_neg hle]
    simp only [List.length_append, List.length_cons] at hb
    have hprimary : Reads (atLevel expression .primary) (Stops .primary)
        (⟨.openParen, "("⟩ :: node.tokens ++ [⟨.closeParen, ")"⟩]) node :=
      fun rest _ => h.parenthesised hex (by omega) rest
    exact hprimary.looser (by cases due <;> decide)

/-- The parser of a level that is grouped from the left can grow any node. -/
theorem Readable.growsAt (h : node.Readable) (hex : ReadsWithin expression bound) {due : Precedence}
    {step : Step} (hstep : stepAt? expression due = some step)
    (hb : (tokensAt due node).length ≤ bound) :
    Grows (atLevel expression due) step (Stops due.tighter) (tokensAt due node) node := by
  by_cases hown : node.precedence = due
  · subst hown
    rw [tokensAt, enclosed, if_pos (Nat.le_refl _)] at hb ⊢
    exact (h.readsBack hex hb).grows step hstep
  · have hne : due.rank ≠ node.precedence.rank := fun heq =>
      hown (Precedence.rank_injective heq.symm)
    have hrank := Precedence.rank_tighter (ne_primary_of_stepAt? hstep)
    have heq : tokensAt due node = tokensAt due.tighter node := by
      unfold tokensAt enclosed
      by_cases hle : due.rank ≤ node.precedence.rank
      · rw [if_pos hle, if_pos (by omega)]
      · rw [if_neg hle, if_neg (by omega)]
    rw [heq] at hb ⊢
    exact (h.readsAt hex due.tighter hb).grows hstep

/-- A node of a level that is grouped from the left reads back if one round of growing makes it of
its first operand. -/
theorem Readable.grow {operand : Node} {token : Token} {more : List Token}
    (h : operand.Readable) (due : Precedence) (hlevel : node.precedence = due)
    (hfits : Fits .expression node) (htokens : node.tokens = tokensAt due operand ++ token :: more)
    (hcontinues : token.kind.continues? = some due)
    (hgrow : ∀ {expression bound}, ReadsWithin expression bound → more.length < bound →
      ∃ step, stepAt? expression due = some step ∧ ∀ rest, Stops due.tighter rest →
        step operand (token :: (more ++ rest)) = .ok (some (node, rest))) : node.Readable := by
  refine ⟨hfits, fun {expression bound} hex hb => ?_⟩
  rw [htokens, List.length_append, List.length_cons] at hb
  obtain ⟨step, hstep, hround⟩ := hgrow hex (by omega)
  have hrank := Precedence.rank_tighter (ne_primary_of_stepAt? hstep)
  subst hlevel
  refine .of_grows hstep ?_
  rw [htokens]
  refine (h.growsAt hex hstep (by omega)).next hround ?_ (List.cons_ne_nil _ _)
  intro rest next hnext
  rw [hcontinues, Option.some.injEq] at hnext
  subst hnext
  omega

end Node

end TextTemplate
