import TextTemplate.Proofs.Syntax.Adjacent
import TextTemplate.Proofs.Syntax.RoundTrip

/-!
# Literals with braces that meet

Behind the front part of a literal no tag can end: the parser stumbles over the end. So a literal in
which two closing braces meet is refused, and every other one denotes its data.
-/

namespace TextTemplate

/-- The end of an expression tag, as which two closing braces are read. -/
def Token.tagEnd : Token := ⟨.closeExpression, "\x7d\x7d"⟩

/-- An error that is about the end of a tag. -/
def ParseError.IsAboutTagEnd : ParseError → Prop
  | .expected _ _ (some token) => token = Token.tagEnd
  | .notAnOperand token => token = Token.tagEnd
  | _ => False

namespace Parse

open Token

/-- The parser fails because of the end of a tag. -/
def Stumbles {α : Type} (p : Parse α) (tokens : List Token) : Prop :=
  ∃ e, p tokens = .error e ∧ e.IsAboutTagEnd

variable {α β : Type} {expression : Parse Node} {level : Precedence} {bound : Nat}
  {tokens others before behind : List Token} {token : Token}

theorem Stumbles.bind {x : Parse α} (h : Stumbles x tokens)
    (f : α × List Token → Except ParseError β) :
    ∃ e, (x tokens >>= f) = .error e ∧ e.IsAboutTagEnd := by
  obtain ⟨e, he, habout⟩ := h
  exact ⟨e, by rw [he]; rfl, habout⟩

theorem primary_stumbles (expression : Parse Node) (others : List Token) :
    Stumbles (primary expression) (tagEnd :: others) := ⟨_, rfl, rfl⟩

theorem unary_stumbles {isOperator : Token → Bool} {operand : Parse Node}
    (h : Stumbles operand (token :: others)) (htoken : isOperator token = false) :
    Stumbles (unary isOperator operand) (token :: others) := by
  obtain ⟨e, he, habout⟩ := h
  exact ⟨e, by simp [unary, htoken, he], habout⟩

/-- What the tightest level stumbles over, all levels stumble over. -/
theorem atLevel_stumbles (h : Stumbles (primary expression) (token :: others))
    (htoken : token.kind ≠ .unaryOperator) (level : Precedence) :
    Stumbles (atLevel expression level) (token :: others) := by
  have hsign : isSign token = false := by simp [isSign, htoken]
  have hnot : isNot token = false := by simp [isNot, htoken]
  induction level using Precedence.looser_induction with
  | hprimary => exact h
  | hstep level hne ih =>
    cases hs : stepAt? expression level with
    | some step =>
      obtain ⟨e, he, habout⟩ := ih.bind fun parsed => extend step parsed.2.length parsed.1 parsed.2
      exact ⟨e, by rw [atLevel_eq_extend hs]; exact he, habout⟩
    | none =>
      cases level <;> simp only [stepAt?, reduceCtorEq] at hs
      case ternary => exact ih.bind _
      case not => exact unary_stumbles ih hnot
      case sign => exact unary_stumbles ih hsign
      case primary => exact absurd rfl hne

theorem expressionWithin_stumbles
    (h : Stumbles (primary (expressionWithin bound)) (token :: others))
    (htoken : token.kind ≠ .unaryOperator) :
    Stumbles (expressionWithin (bound + 1)) (token :: others) :=
  atLevel_stumbles h htoken .ternary

theorem expressionWithin_tagEnd (hb : 0 < bound) (others : List Token) :
    Stumbles (expressionWithin bound) (tagEnd :: others) := by
  obtain ⟨bound, rfl⟩ : ∃ n, bound = n + 1 := ⟨bound - 1, by omega⟩
  exact expressionWithin_stumbles (primary_stumbles _ _) (by decide)

/-! ## Lists that are cut off -/

theorem cut_append {x y : List Token} (h : x ++ y = before ++ token :: behind) :
    (∃ behind', x = before ++ token :: behind') ∨
      ∃ before', before = x ++ before' ∧ y = before' ++ token :: behind := by
  rcases List.append_eq_append_iff.mp h with ⟨before', rfl, heq⟩ | ⟨cut, rfl, heq⟩
  · exact .inr ⟨before', rfl, heq⟩
  · cases cut with
    | nil => exact .inr ⟨[], by simp, by simpa using heq.symm⟩
    | cons first cut =>
      obtain ⟨rfl, -⟩ := List.cons.inj heq
      exact .inl ⟨cut, rfl⟩

section Lists

variable {item : Parse α} {print : α → List Token} {found : List α} {close : TokenKind}
  {value : String}

theorem itemsUntil_of_item {comma : String} {rounds : Nat} (hclose : nextIs close tokens = false)
    (h : Stumbles item tokens) : Stumbles (itemsUntil close comma item (rounds + 1)) tokens := by
  obtain ⟨e, he, habout⟩ := h.bind fun first =>
    if nextIs close first.2 then .ok ([first.1], first.2)
    else do
      let rest ← expect .comma comma first.2
      let others ← itemsUntil close comma item rounds rest
      .ok (first.1 :: others.1, others.2)
  exact ⟨e, by simp only [itemsUntil, hclose, Bool.false_eq_true, ↓reduceIte]; exact he, habout⟩

/-- A list that is cut off by the end of a tag is cut off in an item, or in front of a comma or of
the closing token. -/
theorem itemsUntil_stumbles (comma : String) (hclose : close ≠ .comma)
    (hend : close ≠ .closeExpression) (hitems : ∀ a ∈ found, (print a).length < bound →
      Reads item (EndsItem .closeExpression) (print a) a)
    (hstart : ∀ a ∈ found, ∀ rest, nextIs close (print a ++ rest) = false)
    (hnone : Stumbles item (tagEnd :: others))
    (hcut : ∀ a ∈ found, ∀ before token behind, print a = before ++ token :: behind →
      before.length < bound → Stumbles item (before ++ tagEnd :: others))
    (heq : separated (found.map print) ++ [⟨close, value⟩] = before ++ token :: behind)
    (hb : before.length < bound) {rounds : Nat} (hrounds : before.length < rounds) :
    Stumbles (itemsUntil close comma item rounds) (before ++ tagEnd :: others) := by
  have hstray : nextIs close (tagEnd :: others) = false := nextIs_of_ne hend.symm _ _
  induction found generalizing before rounds with
  | nil =>
    obtain ⟨rounds, rfl⟩ : ∃ n, rounds = n + 1 := ⟨rounds - 1, by omega⟩
    rcases before with _ | ⟨first, before⟩
    · exact itemsUntil_of_item hstray hnone
    · simp [separated] at heq
  | cons a found ih =>
    obtain ⟨rounds, rfl⟩ : ∃ n, rounds = n + 1 := ⟨rounds - 1, by omega⟩
    have hfirst := hstart a List.mem_cons_self
    rw [List.map_cons, separated, List.append_assoc] at heq
    rcases cut_append heq with ⟨behind', hprint⟩ | ⟨before, rfl, htail⟩
    · refine itemsUntil_of_item ?_ (hcut a List.mem_cons_self _ _ _ hprint hb)
      cases before with
      | nil => exact hstray
      | cons first before => rw [hprint] at hfirst; exact hfirst []
    · rw [List.length_append] at hb hrounds
      have hread := hitems a List.mem_cons_self (by omega)
      have hnext := hfirst (before ++ tagEnd :: others)
      rw [List.append_assoc]
      rcases before with _ | ⟨first, before⟩
      · -- The end of the tag stands where a comma or the closing token is due.
        have hlast := hread (tagEnd :: others) (.inr (nextIs_self _ _ _))
        refine ⟨.expected comma .comma (some tagEnd), ?_, rfl⟩
        rw [List.nil_append] at hnext ⊢
        simp only [itemsUntil, hnext, Bool.false_eq_true, ↓reduceIte, hlast, bind, Except.bind,
          hstray]
        rfl
      · cases found with
        | nil => simp at htail
        | cons second found =>
          rw [List.map_cons, List.flatMap_cons, List.cons_append, List.cons_append] at htail
          obtain ⟨rfl, hbehind⟩ := List.cons.inj htail
          rw [List.length_cons] at hb hrounds
          rw [List.cons_append] at hnext ⊢
          have hcomma := hread (⟨.comma, ","⟩ :: (before ++ tagEnd :: others))
            (.inl (nextIs_self _ _ _))
          have hshorter : before.length < rounds := by omega
          obtain ⟨e, he, habout⟩ := ih (fun b hb => hitems b (List.mem_cons_of_mem _ hb))
            (fun b hb => hstart b (List.mem_cons_of_mem _ hb))
            (fun b hb => hcut b (List.mem_cons_of_mem _ hb)) hbehind (by omega) hshorter
          refine ⟨e, ?_, habout⟩
          simp only [itemsUntil, hnext, Bool.false_eq_true, ↓reduceIte, hcomma, bind, Except.bind,
            nextIs_of_ne hclose.symm, expect_self, he]

theorem items_stumbles {comma closing : String}
    (h : Stumbles (itemsUntil close comma item (tokens.length + 1)) tokens) :
    Stumbles (items close comma closing item) tokens :=
  h.bind _

end Lists

/-- A key is read before the value. -/
theorem pair_stumbles {key : String} {value : Node} (hb : before.length < bound)
    (heq : Node.pairTokens (.text key, value) = before ++ token :: behind)
    (hcut : ∀ before token behind, value.tokens = before ++ token :: behind →
      before.length < bound → Stumbles (expressionWithin bound) (before ++ tagEnd :: others)) :
    Stumbles (pair (expressionWithin bound)) (before ++ tagEnd :: others) := by
  rcases before with _ | ⟨first, _ | ⟨second, before⟩⟩
  · exact (expressionWithin_tagEnd hb others).bind _
  all_goals
    simp only [Node.pairTokens, Node.tokens, List.cons_append, List.nil_append, List.cons.injEq]
      at heq
    simp only [List.length_cons] at hb
    have hkey (rest : List Token) (hrest : Stops .ternary rest) :=
      (Node.text_readable key).within (Node.readsWithin_expressionWithin bound)
        (by simp only [Node.tokens, List.length_singleton]; omega) rest hrest
    simp only [Node.tokens, List.singleton_append] at hkey
    obtain ⟨rfl, heq⟩ := heq
  · refine ⟨.expected "colon in object literal" .colon (some tagEnd), ?_, rfl⟩
    simp only [List.cons_append, List.nil_append, pair, hkey (tagEnd :: others)
      (stops_of_continues?_eq_none rfl), bind, Except.bind]
    rfl
  · obtain ⟨rfl, heq⟩ := heq
    obtain ⟨e, he, habout⟩ := hcut before token behind heq (by omega)
    refine ⟨e, ?_, habout⟩
    have hread := hkey (⟨.colon, ":"⟩ :: (before ++ tagEnd :: others))
      (stops_of_continues?_eq_none rfl)
    simp only [List.cons_append, pair, hread, bind, Except.bind, expect_self, he]

end Parse

open Token Parse

namespace Host.HasLiteral

variable {host : Host}

theorem fits (h : host.HasLiteral) : (Node.ofHost host).Fits .expression := by
  induction h with
  | null => exact .null
  | bool b => exact .bool b
  | number h => exact .number h
  | text => exact .text _
  | @list items _ ih =>
    rw [Node.ofHost, Node.ofHosts_eq]
    refine .array fun node hnode => ?_
    obtain ⟨item, hitem, rfl⟩ := List.mem_map.mp hnode
    exact ih item hitem
  | @map fields _ _ ih =>
    rw [Node.ofHost_ofFields]
    refine .object (fun pair hpair => ?_) (fun pair hpair => ?_) <;>
      obtain ⟨field, hfield, rfl⟩ := List.mem_map.mp hpair
    · exact .text _
    · exact ih field hfield

theorem not_nextIs (h : host.HasLiteral) (kind : TokenKind) (hstart : startsPrimary kind = false)
    (hunary : kind ≠ .unaryOperator) (rest : List Token) :
    nextIs kind ((Node.ofHost host).tokens ++ rest) = false :=
  (h.fits.readable.starts (Node.readsWithin_expression _) (Nat.le_refl _)).not_nextIs kind hstart
    hunary rest

theorem inList (h : host.HasLiteral) {bound : Nat} (hb : (Node.ofHost host).tokens.length < bound) :
    Reads (expressionWithin bound) (EndsItem .closeExpression) (Node.ofHost host).tokens
      (Node.ofHost host) :=
  h.fits.readable.inList (Node.readsWithin_expressionWithin bound) hb rfl

end Host.HasLiteral

variable {before behind : List Token} {token : Token} {bound : Nat}

theorem single_stumbles {single : Token} (heq : [single] = before ++ token :: behind)
    (hb : before.length < bound) (others : List Token) :
    Stumbles (expressionWithin bound) (before ++ tagEnd :: others) := by
  rcases before with _ | ⟨first, before⟩
  · exact expressionWithin_tagEnd hb others
  · simp at heq

/-- A literal that is cut off by the end of a tag is refused because of it. -/
theorem Host.HasLiteral.stumbles {host : Host} (h : host.HasLiteral)
    (heq : (Node.ofHost host).tokens = before ++ token :: behind) (hb : before.length < bound)
    (others : List Token) : Stumbles (expressionWithin bound) (before ++ tagEnd :: others) := by
  induction h generalizing before token behind bound with
  | null => exact single_stumbles heq hb others
  | bool => exact single_stumbles heq hb others
  | number => exact single_stumbles heq hb others
  | text => exact single_stumbles heq hb others
  | @list elements h ih =>
    rcases before with _ | ⟨first, before⟩
    · exact expressionWithin_tagEnd hb others
    obtain ⟨bound, rfl⟩ : ∃ n, bound = n + 1 := ⟨bound - 1, by omega⟩
    have hshort : before.length < bound := Nat.lt_of_succ_lt_succ hb
    rw [Node.ofHost, Node.ofHosts_eq, Node.tokens, Node.tokensOfAll_eq] at heq
    obtain ⟨rfl, hrest⟩ := List.cons.inj heq
    have hitems : Stumbles (items .closeSquareBracket "comma in array literal"
        "closing square bracket" (expressionWithin bound)) (before ++ tagEnd :: others) := by
      refine items_stumbles (itemsUntil_stumbles _ (by decide) (by decide) ?_ ?_
        (expressionWithin_tagEnd (by omega) others) ?_ hrest hshort (by simp))
      all_goals
        intro node hnode
        obtain ⟨element, helement, rfl⟩ := List.mem_map.mp hnode
      · exact (h element helement).inList
      · exact (h element helement).not_nextIs _ rfl (by decide)
      · exact fun _ _ _ => ih element helement
    exact expressionWithin_stumbles (hitems.bind _) (by decide)
  | @map fields _ h ih =>
    rcases before with _ | ⟨first, before⟩
    · exact expressionWithin_tagEnd hb others
    obtain ⟨bound, rfl⟩ : ∃ n, bound = n + 1 := ⟨bound - 1, by omega⟩
    have hshort : before.length < bound := Nat.lt_of_succ_lt_succ hb
    rw [Node.ofHost_ofFields, Node.tokens, Node.tokensOfPairs_eq] at heq
    obtain ⟨rfl, hrest⟩ := List.cons.inj heq
    have hitems : Stumbles (items .closeCurlyBracket "comma in object literal"
        "closing curly bracket" (pair (expressionWithin bound))) (before ++ tagEnd :: others) := by
      have hfirst : Stumbles (pair (expressionWithin bound)) (tagEnd :: others) :=
        (expressionWithin_tagEnd (by omega) others).bind _
      refine items_stumbles (itemsUntil_stumbles _ (by decide) (by decide) ?_ ?_
        hfirst ?_ hrest hshort (by simp))
      all_goals
        intro pair hpair
        obtain ⟨field, hfield, rfl⟩ := List.mem_map.mp hpair
      · exact fun hlength => Node.pair_reads (Node.text_readable _) (h field hfield).fits.readable
          (Node.readsWithin_expressionWithin bound) hlength rfl
      · exact fun _ => rfl
      · exact fun _ _ _ hpair hlength => pair_stumbles hlength hpair
          fun _ _ _ => ih field hfield
    exact expressionWithin_stumbles (hitems.bind _) (by decide)

end TextTemplate
