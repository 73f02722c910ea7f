import Mathlib.Logic.Function.Iterate
import TextTemplate.Proofs.Syntax.Reading

/-!
# Expressions take tokens

A parser takes tokens or fails in a foreseen way, and its answer hangs only on what the recursion
behind it answers in front of fewer tokens. So every loop and every recursion of the parser ends:
unrolled often enough, it gives the same answer whatever stands for the rest of it. The bound that
a definition carries is therefore never felt.
-/

namespace TextTemplate

/-! ## Recursions that end -/

/-- Unrolled often enough, a recursion answers `y` at `x`, whatever stands for the rest of it. -/
def Ends {X Y : Type} (round : (X → Y) → X → Y) (x : X) (y : Y) : Prop :=
  ∃ rounds, ∀ base, round^[rounds] base x = y

/-- A recursion in so many rounds, one of which is `round`. -/
def Unrolls {X Y : Type} (round : (X → Y) → X → Y) (bounded : Nat → X → Y) : Prop :=
  ∀ n, bounded (n + 1) = round (bounded n)

/-- Two rounds have answers that are similar at `x`, if they go on with answers that are similar
wherever less is left to do. -/
def Relates {X Y : Type} (size : X → Nat) (similar : X → Y → Y → Prop)
    (round round' : (X → Y) → X → Y) : Prop :=
  ∀ again again' x, (∀ y, size y < size x → similar y (again y) (again' y)) →
    similar x (round again x) (round' again' x)

section Rounds

variable {X Y : Type} {size : X → Nat} {similar : X → Y → Y → Prop}
  {round round' : (X → Y) → X → Y} {bounded bounded' : Nat → X → Y} {n : Nat} {x : X}

theorem unrolls_iterate (base : X → Y) : Unrolls round fun n => round^[n] base :=
  fun n => Function.iterate_succ_apply' round n base

theorem Unrolls.next (h : Unrolls round bounded) : Unrolls round fun n => bounded (n + 1) :=
  fun n => h (n + 1)

/-- Recursions are alike as far as they are unrolled, if they are where they stop. -/
theorem Unrolls.related (h : Unrolls round bounded) (h' : Unrolls round' bounded')
    (hstep : Relates size similar round round')
    (hstop : ∀ x, size x = 0 → similar x (bounded 0 x) (bounded' 0 x)) (hx : size x ≤ n) :
    similar x (bounded n x) (bounded' n x) := by
  induction n generalizing x with
  | zero => exact hstop x (Nat.le_zero.mp hx)
  | succ n ih =>
    rw [h, h']
    exact hstep _ _ x fun y hy => ih (by omega)

/-- With more rounds than there is to do, it does not matter where they stop. -/
theorem Unrolls.related_of_lt (h : Unrolls round bounded) (h' : Unrolls round' bounded')
    (hstep : Relates size similar round round') (hx : size x < n) :
    similar x (bounded n x) (bounded' n x) := by
  obtain ⟨n, rfl⟩ : ∃ m, n = m + 1 := ⟨n - 1, by omega⟩
  have hstop : ∀ x, size x = 0 → similar x (bounded 1 x) (bounded' 1 x) := by
    intro x hx
    rw [h, h']
    exact hstep _ _ x fun y hy => absurd hy (by omega)
  have hnext := h.next.related h'.next hstep hstop (Nat.le_of_lt_succ hx)
  exact hnext

theorem Unrolls.ends (h : Unrolls round bounded) (hstep : Relates size similar round round)
    (heq : ∀ {x y y'}, similar x y y' → y = y') (hx : size x < n) :
    Ends round x (bounded n x) :=
  ⟨n, fun base => heq ((unrolls_iterate base).related_of_lt h hstep hx)⟩

/-- A recursion that stops in front of nothing with what a round gives there needs no more rounds
than there is to do. -/
theorem Unrolls.ends_of_le (h : Unrolls round bounded) (hstep : Relates size similar round round)
    (heq : ∀ {x y y'}, similar x y y' → y = y')
    (hstop : ∀ x, size x = 0 → bounded 0 x = round (bounded 0) x) (hx : size x ≤ n) :
    Ends round x (bounded n x) := by
  have hfirst : ∀ x, size x = 0 → similar x (bounded 0 x) (bounded 1 x) := by
    intro x hx
    rw [h, hstop x hx]
    exact hstep _ _ x fun y hy => absurd hy (by omega)
  have hnext := heq (h.related h.next hstep hfirst hx)
  rw [hnext]
  exact h.ends hstep heq (Nat.lt_succ_of_le hx)

/-- A recursion ends with one answer. -/
theorem Ends.unique {y y' : Y} (h : Ends round x y) (h' : Ends round x y') (base : X → Y) :
    y = y' := by
  obtain ⟨n, hn⟩ := h
  obtain ⟨m, hm⟩ := h'
  rw [← hn (round^[m] base), ← hm (round^[n] base), ← Function.iterate_add_apply,
    ← Function.iterate_add_apply, Nat.add_comm]

/-- Without a bound, the recursion is what a round makes of it. -/
theorem Unrolls.fixed (h : Unrolls round bounded) (hstep : Relates size similar round round)
    (heq : ∀ {x y y'}, similar x y y' → y = y') {whole : X → Y}
    (hwhole : ∀ x n, size x < n → bounded n x = whole x) : whole x = round whole x := by
  rw [← hwhole x (size x + 1) (Nat.lt_succ_self _), h]
  refine heq (hstep _ _ x fun y hy => ?_)
  have hsame := h.related_of_lt h hstep hy
  rwa [hwhole y _ hy] at hsame ⊢

end Rounds

namespace ParseError

/-! ## Errors -/

/-- An error in the structure of a template, reported as one. -/
def IsStructural (e : ParseError) : Prop :=
  ∃ report, e.problem = .reported report ∧ report.errorClass = .structural

/-- How the reading of tokens can fail: they are no template, or one of them is no number. -/
def Foreseen (tokens : List Token) (e : ParseError) : Prop :=
  e.IsStructural ∨
    ∃ token ∈ tokens, token.kind = .numericLiteral ∧ Parse.numeral token.value = .error e

variable {tokens : List Token} {e : ParseError}

/-- Only the value of a numeral makes an error of another kind. -/
theorem isStructural (hlong : ∀ digits, e ≠ .numeralTooLong digits)
    (hnone : ∀ text, e ≠ .noNumeral text) : e.IsStructural := by
  cases e with
  | numeralTooLong digits => exact absurd rfl (hlong digits)
  | noNumeral text => exact absurd rfl (hnone text)
  | expected what kind found => cases found <;> exact ⟨_, rfl, rfl⟩
  | _ => exact ⟨_, rfl, rfl⟩

theorem Foreseen.mono {rest : List Token} (h : e.Foreseen rest) (hsuffix : rest <:+ tokens) :
    e.Foreseen tokens := by
  rcases h with h | ⟨token, hmem, h⟩
  · exact .inl h
  · exact .inr ⟨token, hsuffix.subset hmem, h⟩

end ParseError

namespace Parse

/-! ## Taking tokens -/

/-- The rest is what is left of the tokens when so many of them are taken, or more. -/
def Took (tokens : List Token) (count : Nat) (rest : List Token) : Prop :=
  rest <:+ tokens ∧ rest.length + count ≤ tokens.length

/-- In front of the tokens, two answers are one: a good one or a foreseen error. -/
inductive Agree {β : Type} (tokens : List Token) (good : β → Prop) :
    Except ParseError β → Except ParseError β → Prop
  | ok {b : β} (h : good b) : Agree tokens good (.ok b) (.ok b)
  | error {e : ParseError} (h : e.Foreseen tokens) : Agree tokens good (.error e) (.error e)

/-- Two answers are one, and so many tokens are taken for it. -/
abbrev TakeAlike {α : Type} (tokens : List Token) (count : Nat)
    (x y : Except ParseError (α × List Token)) : Prop :=
  Agree tokens (fun found => Took tokens count found.2) x y

/-- Two parsers take tokens alike where fewer are left than `bound`. -/
def AgreeBelow {α : Type} (bound count : Nat) (p q : Parse α) : Prop :=
  ∀ tokens, tokens.length < bound → TakeAlike tokens count (p tokens) (q tokens)

/-- Two ways to grow a node agree where fewer tokens are left than `bound`, and they take one. -/
def StepsAgreeBelow (bound : Nat) (step step' : Step) : Prop :=
  ∀ node tokens, tokens.length < bound →
    Agree tokens (fun found => ∀ grown ∈ found, Took tokens 1 grown.2) (step node tokens)
      (step' node tokens)

variable {α β : Type} {tokens rest : List Token} {count bound : Nat}

namespace Took

theorem refl : Took tokens 0 tokens := ⟨List.suffix_rfl, Nat.le_refl _⟩

theorem cons {token : Token} : Took (token :: rest) 1 rest :=
  ⟨List.suffix_cons _ _, Nat.le_refl _⟩

theorem trans {after : List Token} {more : Nat} (h : Took tokens count rest)
    (hmore : Took rest more after) : Took tokens (count + more) after :=
  ⟨hmore.1.trans h.1, by have := h.2; have := hmore.2; omega⟩

theorem weaken {less : Nat} (h : Took tokens count rest) (hle : less ≤ count) :
    Took tokens less rest :=
  ⟨h.1, by have := h.2; omega⟩

end Took

namespace Agree

variable {good : α → Prop} {good' : β → Prop}

theorem eq {x y : Except ParseError α} (h : Agree tokens good x y) : x = y := by
  cases h <;> rfl

theorem bind {x y : Except ParseError α} {k k' : α → Except ParseError β}
    (h : Agree tokens good x y) (hk : ∀ a, good a → Agree tokens good' (k a) (k' a)) :
    Agree tokens good' (x >>= k) (y >>= k') := by
  cases h with
  | ok h => exact hk _ h
  | error h => exact .error h

theorem mono {x y : Except ParseError α} {good' : α → Prop} (h : Agree rest good x y)
    (hsuffix : rest <:+ tokens) (hgood : ∀ a, good a → good' a) : Agree tokens good' x y := by
  cases h with
  | ok h => exact .ok (hgood _ h)
  | error h => exact .error (h.mono hsuffix)

theorem after {more : Nat} {x y : Except ParseError (α × List Token)}
    (h : TakeAlike rest more x y) (hrest : Took tokens count rest) :
    TakeAlike tokens (count + more) x y :=
  h.mono hrest.1 fun _ hfound => hrest.trans hfound

theorem structural {e : ParseError} (hlong : ∀ digits, e ≠ .numeralTooLong digits)
    (hnone : ∀ text, e ≠ .noNumeral text) : Agree tokens good (.error e) (.error e) :=
  .error (.inl (ParseError.isStructural hlong hnone))

end Agree

/-- Parsers go on alike behind what has been taken. -/
theorem AgreeBelow.after {more : Nat} {p q : Parse α} (h : AgreeBelow bound more p q)
    (hrest : Took tokens count rest) (hlength : tokens.length < bound + count) :
    TakeAlike tokens (count + more) (p rest) (q rest) :=
  (h rest (by have := hrest.2; omega)).after hrest

theorem AgreeBelow.restrict {less : Nat} {p q : Parse α} (h : AgreeBelow bound count p q)
    (hle : less ≤ bound) : AgreeBelow less count p q :=
  fun tokens hlength => h tokens (by omega)

theorem expect_agree {kind : TokenKind} {what : String} (h : Took tokens count rest) :
    Agree tokens (Took tokens (count + 1)) (expect kind what rest) (expect kind what rest) := by
  fun_cases expect kind what rest with
  | case1 => exact .structural nofun nofun
  | case2 token rest => exact .ok (h.trans .cons)
  | case3 token rest => exact .structural nofun nofun

/-- What two recursions of a parser answer is similar if they take tokens alike. -/
abbrev Alike {α : Type} (count bound : Nat) (tokens : List Token)
    (x y : Except ParseError (α × List Token)) : Prop :=
  tokens.length < bound → TakeAlike tokens count x y

/-! ## Rounds of the loops -/

/-- One item of several and what follows it. -/
def itemsRound {α : Type} (close : TokenKind) (comma : String) (item : Parse α)
    (again : Parse (List α)) : Parse (List α) := fun tokens =>
  if nextIs close tokens then .ok ([], tokens)
  else do
    let (first, tokens) ← item tokens
    if nextIs close tokens then .ok ([first], tokens)
    else
      let tokens ← expect .comma comma tokens
      let (others, tokens) ← again tokens
      .ok (first :: others, tokens)

/-- One step of growing a node. -/
def growthRound (step : Step)
    (again : Node × List Token → Except ParseError (Node × List Token)) :
    Node × List Token → Except ParseError (Node × List Token) := fun (node, tokens) => do
  match ← step node tokens with
  | none => .ok (node, tokens)
  | some (node, tokens) => again (node, tokens)

/-- One more item after a comma. -/
def commasRound (item : Parse Node) (again : Parse (List Node)) : Parse (List Node) :=
  fun tokens =>
    match tokens with
    | ⟨.comma, _⟩ :: rest => do
      let (first, tokens) ← item rest
      let (others, tokens) ← again tokens
      .ok (first :: others, tokens)
    | _ => .ok ([], tokens)

/-- One part of a subscript, with the colon that belongs to it. -/
def subscriptRound (expression : Parse Node) (again : Parse (List (Option Node) × Bool)) :
    Parse (List (Option Node) × Bool) := fun tokens =>
  match tokens with
  | [] => .error .unclosedSubscript
  | ⟨.closeSquareBracket, _⟩ :: _ => .ok (([], false), tokens)
  | ⟨.colon, _⟩ :: rest => do
    let ((parts, _), rest) ← again rest
    .ok ((none :: parts, true), rest)
  | _ => do
    let (part, rest) ← expression tokens
    match rest with
    | ⟨.colon, _⟩ :: rest => do
      let ((parts, _), rest) ← again rest
      .ok ((some part :: parts, true), rest)
    | _ => do
      let ((parts, sliced), rest) ← again rest
      .ok ((some part :: parts, sliced), rest)

section Loops

variable {item item' : Parse α}

theorem itemsUntil_unrolls (close : TokenKind) (comma : String) (item : Parse α) :
    Unrolls (itemsRound close comma item) (itemsUntil close comma item) := fun _ => rfl

theorem itemsRound_relates (close : TokenKind) (comma : String)
    (h : AgreeBelow bound 1 item item') :
    Relates List.length (Alike 0 bound) (itemsRound close comma item)
      (itemsRound close comma item') := by
  intro again again' tokens hagain hlength
  have hagain : AgreeBelow tokens.length 0 again again' :=
    fun rest hrest => hagain rest hrest (by omega)
  unfold itemsRound
  split
  · exact .ok .refl
  · refine (h tokens hlength).bind fun ⟨first, rest⟩ hfirst => ?_
    dsimp only
    split
    · exact .ok (hfirst.weaken (by omega))
    · refine (expect_agree hfirst).bind fun rest hcomma => ?_
      refine (hagain.after hcomma (by omega)).bind fun ⟨others, rest⟩ hothers => ?_
      exact .ok (hothers.weaken (by omega))

theorem itemsUntil_agree (close : TokenKind) (comma : String) (h : AgreeBelow bound 1 item item')
    (hlength : tokens.length < bound) :
    TakeAlike tokens 0 (itemsUntil close comma item (tokens.length + 1) tokens)
      (itemsUntil close comma item' (tokens.length + 1) tokens) :=
  (itemsUntil_unrolls close comma item).related_of_lt (itemsUntil_unrolls close comma item')
    (itemsRound_relates close comma h) (Nat.lt_succ_self _) hlength

theorem items_agree (close : TokenKind) (comma closing : String)
    (h : AgreeBelow bound 1 item item') :
    AgreeBelow bound 1 (items close comma closing item) (items close comma closing item') := by
  intro tokens hlength
  refine (itemsUntil_agree close comma h hlength).bind fun ⟨found, rest⟩ hfound => ?_
  refine (expect_agree hfound).bind fun rest hclose => ?_
  exact .ok (hclose.weaken (by omega))

theorem commas_unroll (item : Parse Node) : Unrolls (commasRound item) (afterCommas item) :=
  fun _ => rfl

theorem commasRound_relates {item item' : Parse Node} (h : AgreeBelow bound 1 item item') :
    Relates List.length (Alike 0 bound) (commasRound item) (commasRound item') := by
  intro again again' tokens hagain hlength
  have hagain : AgreeBelow tokens.length 0 again again' :=
    fun rest hrest => hagain rest hrest (by omega)
  unfold commasRound
  split
  · refine (h.after .cons (by omega)).bind fun ⟨first, rest⟩ hfirst => ?_
    refine (hagain.after hfirst (by omega)).bind fun ⟨others, rest⟩ hothers => ?_
    exact .ok (hothers.weaken (by omega))
  · exact .ok .refl

theorem afterCommas_agree {item item' : Parse Node} (h : AgreeBelow bound 1 item item')
    (hlength : tokens.length < bound) :
    TakeAlike tokens 0 (afterCommas item tokens.length tokens)
      (afterCommas item' tokens.length tokens) :=
  (commas_unroll item).related (commas_unroll item') (commasRound_relates h)
    (fun _ _ _ => .ok .refl) (Nat.le_refl _) hlength

theorem sequence_agree {item item' : Parse Node} (h : AgreeBelow bound 1 item item') :
    AgreeBelow bound 1 (sequence item) (sequence item') := by
  intro tokens hlength
  refine (h tokens hlength).bind fun ⟨first, rest⟩ hfirst => ?_
  have hrest := (afterCommas_agree h (by have := hfirst.2; omega)).after hfirst
  refine hrest.bind fun ⟨others, rest⟩ hothers => ?_
  exact .ok (hothers.weaken (by omega))

/-- What is left to read when a node has been grown so far. -/
def growthSize (grown : Node × List Token) : Nat := grown.2.length

theorem growth_unrolls (step : Step) :
    Unrolls (growthRound step) fun rounds (grown : Node × List Token) =>
      extend step rounds grown.1 grown.2 := fun _ => rfl

theorem growthRound_relates {step step' : Step} (h : StepsAgreeBelow bound step step') :
    Relates growthSize (fun grown => Alike 0 bound grown.2) (growthRound step)
      (growthRound step') := by
  rintro again again' ⟨node, tokens⟩ hagain hlength
  refine (h node tokens hlength).bind fun found hfound => ?_
  cases found with
  | none => exact .ok .refl
  | some grown =>
    have hgrown := hfound grown rfl
    have hrest := hgrown.2
    have hlength : tokens.length < bound := hlength
    exact ((hagain grown (by simp only [growthSize]; omega) (by omega)).after hgrown).mono
      List.suffix_rfl fun _ htook => htook.weaken (by omega)

theorem extend_agree {step step' : Step} (h : StepsAgreeBelow bound step step') (node : Node)
    (hlength : tokens.length < bound) :
    TakeAlike tokens 0 (extend step tokens.length node tokens)
      (extend step' tokens.length node tokens) :=
  (growth_unrolls step).related (growth_unrolls step') (growthRound_relates h)
    (fun _ _ _ => .ok .refl) (Nat.le_refl (growthSize (node, tokens))) hlength

theorem subscript_unrolls (expression : Parse Node) :
    Unrolls (subscriptRound expression) (subscriptParts expression) := fun _ => rfl

theorem subscriptRound_relates {expression expression' : Parse Node}
    (h : AgreeBelow bound 1 expression expression') :
    Relates List.length (Alike 0 bound) (subscriptRound expression)
      (subscriptRound expression') := by
  intro again again' tokens hagain hlength
  have hagain : AgreeBelow tokens.length 0 again again' :=
    fun rest hrest => hagain rest hrest (by omega)
  unfold subscriptRound
  split
  · exact .structural nofun nofun
  · exact .ok .refl
  · refine (hagain.after .cons (by omega)).bind fun ⟨⟨parts, sliced⟩, rest⟩ hparts => ?_
    exact .ok (hparts.weaken (by omega))
  · refine (h tokens hlength).bind fun ⟨part, rest⟩ hpart => ?_
    dsimp only
    split
    · have hcolon := hpart.trans .cons
      refine (hagain.after hcolon (by omega)).bind fun ⟨⟨parts, sliced⟩, rest⟩ hparts => ?_
      exact .ok (hparts.weaken (by omega))
    · refine (hagain.after hpart (by omega)).bind fun ⟨⟨parts, sliced⟩, rest⟩ hparts => ?_
      exact .ok (hparts.weaken (by omega))

theorem subscriptParts_agree {expression expression' : Parse Node}
    (h : AgreeBelow bound 1 expression expression') (hlength : tokens.length < bound) :
    TakeAlike tokens 0 (subscriptParts expression (tokens.length + 1) tokens)
      (subscriptParts expression' (tokens.length + 1) tokens) :=
  (subscript_unrolls expression).related_of_lt (subscript_unrolls expression')
    (subscriptRound_relates h) (Nat.lt_succ_self _) hlength

end Loops

/-! ## Levels of precedence -/

section Levels

variable {expression expression' : Parse Node} {level : Precedence} {step : Step}

theorem pair_agree (h : AgreeBelow bound 1 expression expression') :
    AgreeBelow bound 1 (pair expression) (pair expression') := by
  intro tokens hlength
  refine (h tokens hlength).bind fun ⟨key, rest⟩ hkey => ?_
  refine (expect_agree hkey).bind fun rest hcolon => ?_
  refine (h.after hcolon (by omega)).bind fun ⟨value, rest⟩ hvalue => ?_
  exact .ok (hvalue.weaken (by omega))

theorem numeral_agree {token : Token} (hmem : token ∈ tokens)
    (hkind : token.kind = .numericLiteral) :
    Agree tokens (fun _ => True) (numeral token.value) (numeral token.value) := by
  cases h : numeral token.value with
  | ok i => exact .ok trivial
  | error e => exact .error (.inr ⟨token, hmem, hkind, h⟩)

theorem primary_agree (h : AgreeBelow bound 1 expression expression') :
    AgreeBelow (bound + 1) 1 (primary expression) (primary expression') := by
  intro tokens hlength
  cases tokens with
  | nil => exact .structural nofun nofun
  | cons token rest =>
    unfold primary
    dsimp only
    split
    case h_1 hkind =>
      refine (numeral_agree List.mem_cons_self hkind).bind fun i _ => ?_
      exact .ok .cons
    case h_6 =>
      refine ((sequence_agree h).after .cons (by omega)).bind fun ⟨node, rest⟩ hnode => ?_
      refine (expect_agree hnode).bind fun rest hclose => ?_
      exact .ok (hclose.weaken (by omega))
    case h_7 =>
      refine ((items_agree _ _ _ h).after .cons (by omega)).bind fun ⟨found, rest⟩ hfound => ?_
      exact .ok (hfound.weaken (by omega))
    case h_8 =>
      have hpairs := items_agree .closeCurlyBracket "comma in object literal"
        "closing curly bracket" (pair_agree h)
      refine (hpairs.after .cons (by omega)).bind fun ⟨found, rest⟩ hfound => ?_
      exact .ok (hfound.weaken (by omega))
    case h_9 => exact .structural nofun nofun
    all_goals exact .ok .cons

theorem argument_agree (h : AgreeBelow bound 1 expression expression') :
    AgreeBelow bound 1 (argument expression) (argument expression') := by
  intro tokens hlength
  unfold argument
  split
  · exact .structural nofun nofun
  · refine (h tokens hlength).bind fun ⟨node, rest⟩ hnode => ?_
    dsimp only
    split
    · split
      · refine (h.after (hnode.trans .cons) (by omega)).bind fun ⟨value, rest⟩ hvalue => ?_
        exact .ok (hvalue.weaken (by omega))
      · exact .structural nofun nofun
    · exact .ok hnode

theorem arguments_agree (h : AgreeBelow bound 1 expression expression') :
    AgreeBelow (bound + 1) 1 (arguments expression) (arguments expression') := by
  intro tokens hlength
  refine (expect_agree .refl).bind fun rest hopen => ?_
  exact ((items_agree _ _ _ (argument_agree h)).after hopen (by omega)).mono List.suffix_rfl
    fun _ htook => htook.weaken (by omega)

theorem subscript_agree (h : AgreeBelow bound 1 expression expression') :
    AgreeBelow bound 0 (subscript expression) (subscript expression') := by
  intro tokens hlength
  refine (subscriptParts_agree h hlength).bind fun ⟨parts, rest⟩ hparts => ?_
  have hnode : Agree tokens (fun _ => True) (subscriptNode parts) (subscriptNode parts) := by
    unfold subscriptNode
    split
    · exact .structural nofun nofun
    · split
      all_goals first | exact .ok trivial | exact .structural nofun nofun
    · exact .ok trivial
    · exact .structural nofun nofun
  exact hnode.bind fun node _ => .ok hparts

theorem nameOr_agree (error : String → ParseError)
    (herror : ∀ kindName, (error kindName).IsStructural)
    (h : AgreeBelow bound 1 expression expression') :
    AgreeBelow (bound + 1) 1 (nameOr error expression) (nameOr error expression') := by
  intro tokens hlength
  refine (primary_agree h tokens hlength).bind fun ⟨node, rest⟩ hnode => ?_
  dsimp only
  split
  · exact .ok hnode
  · exact .error (.inl (herror _))

theorem memberStep_agree (h : AgreeBelow bound 1 expression expression') :
    StepsAgreeBelow (bound + 1) (memberStep expression) (memberStep expression') := by
  intro node tokens hlength
  unfold memberStep
  split
  · have hname := nameOr_agree .memberName (fun _ => ParseError.isStructural nofun nofun) h
    refine (hname.after .cons (by omega)).bind fun ⟨name, rest⟩ hname => ?_
    exact .ok fun _ hgrown => Option.some.inj hgrown ▸ hname.weaken (by omega)
  · refine ((subscript_agree h).after .cons (by omega)).bind fun ⟨property, rest⟩ hparts => ?_
    refine (expect_agree hparts).bind fun rest hclose => ?_
    exact .ok fun _ hgrown => Option.some.inj hgrown ▸ hclose.weaken (by omega)
  · refine (arguments_agree h _ hlength).bind fun ⟨args, rest⟩ hargs => ?_
    exact .ok fun _ hgrown => Option.some.inj hgrown ▸ hargs
  · exact .ok nofun

theorem filterStep_agree (h : AgreeBelow bound 1 expression expression') :
    StepsAgreeBelow (bound + 1) (filterStep expression) (filterStep expression') := by
  intro node tokens hlength
  unfold filterStep
  split
  · have hname := nameOr_agree .filterName (fun _ => ParseError.isStructural nofun nofun) h
    refine (hname.after .cons (by omega)).bind fun ⟨name, rest⟩ hname => ?_
    dsimp only
    split
    · refine ((arguments_agree h).after hname (by omega)).bind fun ⟨args, rest⟩ hargs => ?_
      exact .ok fun _ hgrown => Option.some.inj hgrown ▸ hargs.weaken (by omega)
    · exact .ok fun _ hgrown => Option.some.inj hgrown ▸ hname.weaken (by omega)
  · exact .ok nofun

theorem testName_agree (node : Node) :
    Agree tokens (fun _ => True) (testName node) (testName node) := by
  unfold testName
  split
  all_goals first | exact .ok trivial | exact .structural nofun nofun

theorem testStep_agree (h : AgreeBelow bound 1 expression expression') :
    StepsAgreeBelow (bound + 1) (testStep expression) (testStep expression') := by
  intro node tokens hlength
  unfold testStep
  split
  case h_1 value rest =>
    have hskip : ∀ negate : Bool,
        Took (⟨.is, value⟩ :: rest) 1 (if negate then rest.drop 1 else rest) := by
      intro negate
      cases negate with
      | false => exact .cons
      | true => exact ⟨(List.drop_suffix _ _).trans (List.suffix_cons _ _), by simp⟩
    refine ((primary_agree h).after (hskip _) (by omega)).bind fun ⟨name, rest⟩ hname => ?_
    refine (testName_agree name).bind fun name _ => ?_
    dsimp only
    split
    · refine ((arguments_agree h).after hname (by omega)).bind fun ⟨args, rest⟩ hargs => ?_
      exact .ok fun _ hgrown => Option.some.inj hgrown ▸ hargs.weaken (by omega)
    · exact .ok fun _ hgrown => Option.some.inj hgrown ▸ hname.weaken (by omega)
  case h_2 => exact .ok nofun

theorem binaryStep_agree (isOperator : TokenKind → Bool) {operand operand' : Parse Node}
    (h : AgreeBelow bound 1 operand operand') :
    StepsAgreeBelow bound (binaryStep isOperator operand) (binaryStep isOperator operand') := by
  intro node tokens hlength
  cases tokens with
  | nil => exact .ok nofun
  | cons token rest =>
    unfold binaryStep
    dsimp only
    split
    · refine (h.after .cons (by omega)).bind fun ⟨right, rest⟩ hright => ?_
      exact .ok fun _ hgrown => Option.some.inj hgrown ▸ hright.weaken (by omega)
    · exact .ok nofun

theorem unary_agree (isOperator : Token → Bool) {operand operand' : Parse Node}
    (h : AgreeBelow bound 1 operand operand') :
    AgreeBelow bound 1 (unary isOperator operand) (unary isOperator operand') := by
  intro tokens hlength
  induction tokens with
  | nil => exact h [] hlength
  | cons token rest ih =>
    unfold unary
    split
    · have hrest := ih (by simp only [List.length_cons] at hlength; omega)
      refine (hrest.after .cons).bind fun found hnode => ?_
      obtain ⟨node, rest⟩ := found
      exact .ok (hnode.weaken (by omega))
    · exact h _ hlength

/-- Every way to grow a node takes tokens. -/
theorem stepAt?_agree (h : AgreeBelow bound 1 expression expression')
    (hoperand : AgreeBelow (bound + 1) 1 (atLevel expression level.tighter)
      (atLevel expression' level.tighter)) (hstep : stepAt? expression level = some step) :
    ∃ step', stepAt? expression' level = some step' ∧
      StepsAgreeBelow (bound + 1) step step' := by
  cases level <;> simp only [stepAt?, Option.some.injEq, reduceCtorEq] at hstep <;> subst hstep
  case member => exact ⟨_, rfl, memberStep_agree h⟩
  case filter => exact ⟨_, rfl, filterStep_agree h⟩
  case test => exact ⟨_, rfl, testStep_agree h⟩
  all_goals exact ⟨_, rfl, binaryStep_agree _ hoperand⟩

/-- Every level takes tokens alike, if the recursion behind brackets does. -/
theorem atLevel_agree (h : AgreeBelow bound 1 expression expression') (level : Precedence) :
    AgreeBelow (bound + 1) 1 (atLevel expression level) (atLevel expression' level) := by
  induction level using Precedence.looser_induction with
  | hprimary => exact primary_agree h
  | hstep level hne ih =>
    cases hs : stepAt? expression level with
    | some step =>
      obtain ⟨step', hs', hstep⟩ := stepAt?_agree h ih hs
      intro tokens hlength
      rw [atLevel_eq_extend hs, atLevel_eq_extend hs']
      refine (ih tokens hlength).bind fun found hnode => ?_
      obtain ⟨node, rest⟩ := found
      have hrest : rest.length + 1 ≤ tokens.length := hnode.2
      exact (extend_agree hstep node (by omega)).after hnode
    | none =>
      cases level <;> simp only [stepAt?, reduceCtorEq] at hs
      case ternary =>
        intro tokens hlength
        refine (ih tokens hlength).bind fun found htrue => ?_
        obtain ⟨whenTrue, rest⟩ := found
        dsimp only
        split
        · refine (ih.after (htrue.trans .cons) (by omega)).bind fun found hif => ?_
          obtain ⟨condition, rest⟩ := found
          refine (expect_agree hif).bind fun rest helse => ?_
          refine (ih.after helse (by omega)).bind fun found hfalse => ?_
          obtain ⟨whenFalse, rest⟩ := found
          exact .ok (hfalse.weaken (by omega))
        · exact .ok htrue
      case not => exact unary_agree isNot ih
      case sign => exact unary_agree isSign ih
      case primary => exact absurd rfl hne

end Levels

/-! ## Expressions -/

theorem expression_unrolls : Unrolls ternary expressionWithin := fun _ => rfl

theorem ternary_relates : Relates List.length (TakeAlike · 1) ternary ternary :=
  fun _ _ tokens hagain => atLevel_agree hagain .ternary tokens (Nat.lt_succ_self _)

theorem expressionWithin_ends (h : tokens.length < bound) :
    Ends ternary tokens (expressionWithin bound tokens) :=
  expression_unrolls.ends ternary_relates Agree.eq h

theorem expressionWithin_eq (h : tokens.length < bound) :
    expressionWithin bound tokens = expression tokens :=
  (expressionWithin_ends h).unique (expressionWithin_ends (Nat.lt_succ_self _)) expression

/-- An expression is a choice of what stands in its brackets, which are expressions. -/
theorem expression_eq (tokens : List Token) : expression tokens = ternary expression tokens :=
  expression_unrolls.fixed ternary_relates Agree.eq fun _ _ h => expressionWithin_eq h

theorem expression_agree (bound : Nat) : AgreeBelow bound 1 expression expression := by
  intro tokens _
  exact expression_unrolls.related_of_lt expression_unrolls ternary_relates (Nat.lt_succ_self _)

end Parse

end TextTemplate
