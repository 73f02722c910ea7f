import TextTemplate.Node.Parser
import TextTemplate.Proofs.Number.Numeral
import TextTemplate.Proofs.Syntax.Lexeme

/-!
# Trees that templates can be written for

A tree can hold any node in any place, but a parser makes only some trees. `Node.Fits` says which,
by the place in which a node stands, and every tree that is read off a template fits.
-/

namespace TextTemplate

namespace Node

/-- Where a node may stand: in an expression, as an argument of a call, in the tag of a `set`
statement, or as a statement of its own. -/
inductive Place
  | expression
  | argument
  | assignment
  | statement

/-- A name that is no keyword. -/
def IsPlainName (name : String) : Prop := Token.keyword? name.toList = none

/-- A name of a test. -/
def IsTestName (name : String) : Prop :=
  IsPlainName name ∨ name = "true" ∨ name = "false" ∨ name = "none"

/-- A target of a loop. -/
def IsTarget : Node → Prop
  | name _ => True
  | tuple _ => True
  | _ => False

/-- The grammar of templates. -/
inductive Fits : Place → Node → Prop
  | name {s : String} (h : IsPlainName s) : Fits .expression (.name s)
  | number {i : Int} (h : (decimalDigits i.natAbs).length ≤ digitLimit) :
    Fits .expression (.number (.int i))
  | text (s : String) : Fits .expression (.text s)
  | bool (b : Bool) : Fits .expression (.bool b)
  | null : Fits .expression .null
  | array {items : List Node} (h : ∀ item ∈ items, Fits .expression item) :
    Fits .expression (.array items)
  | tuple {items : List Node} (hlength : 2 ≤ items.length)
    (h : ∀ item ∈ items, Fits .expression item) : Fits .expression (.tuple items)
  | object {pairs : List (Node × Node)} (hkeys : ∀ pair ∈ pairs, Fits .expression pair.1)
    (hvalues : ∀ pair ∈ pairs, Fits .expression pair.2) : Fits .expression (.object pairs)
  | ternary {condition whenTrue whenFalse : Node} (hc : Fits .expression condition)
    (ht : Fits .expression whenTrue) (hf : Fits .expression whenFalse) :
    Fits .expression (.ternary condition whenTrue whenFalse)
  | binary {operator : String} {kind : TokenKind} {left right : Node}
    (ho : (operator, kind) ∈ binaryOperators) (hl : Fits .expression left)
    (hr : Fits .expression right) : Fits .expression (.binary operator left right)
  | unary {operator : String} {argument : Node} (ho : operator ∈ unaryOperators)
    (ha : Fits .expression argument) : Fits .expression (.unary operator argument)
  | test {operand : Node} {negate : Bool} {name : String} {args : List Node}
    (ho : Fits .expression operand) (hn : IsTestName name)
    (ha : ∀ arg ∈ args, Fits .argument arg) :
    Fits .expression (.test operand negate (.name name) args)
  | filter {operand : Node} {name : String} (ho : Fits .expression operand)
    (hn : IsPlainName name) : Fits .expression (.filter operand (.name name))
  | filterCall {operand : Node} {name : String} {args : List Node} (ho : Fits .expression operand)
    (hn : IsPlainName name) (ha : ∀ arg ∈ args, Fits .argument arg) :
    Fits .expression (.filter operand (.call (.name name) args))
  | member {object : Node} {name : String} (ho : Fits .expression object)
    (hn : IsPlainName name) : Fits .expression (.member object (.name name) false)
  | item {object property : Node} (ho : Fits .expression object)
    (hp : Fits .expression property) : Fits .expression (.member object property true)
  | slice {object : Node} {start stop step : Option Node} (ho : Fits .expression object)
    (hstart : ∀ part ∈ start, Fits .expression part)
    (hstop : ∀ part ∈ stop, Fits .expression part)
    (hstep : ∀ part ∈ step, Fits .expression part) :
    Fits .expression (.member object (.slice start stop step) true)
  | call {callee : Node} {args : List Node} (hc : Fits .expression callee)
    (ha : ∀ arg ∈ args, Fits .argument arg) : Fits .expression (.call callee args)
  | positional {node : Node} (h : Fits .expression node) : Fits .argument node
  | keyword {name : String} {value : Node} (hn : IsPlainName name)
    (hv : Fits .expression value) : Fits .argument (.keyword (.name name) value)
  | value {node : Node} (h : Fits .expression node) : Fits .assignment node
  | assign {target value : Node} (ht : Fits .expression target) (hv : Fits .assignment value) :
    Fits .assignment (.set target value)
  | output {node : Node} (h : Fits .assignment node) : Fits .statement node
  | branch {condition : Node} {body alternate : List Node} (hc : Fits .expression condition)
    (hb : ∀ node ∈ body, Fits .statement node) (ha : ∀ node ∈ alternate, Fits .statement node) :
    Fits .statement (.branch condition body alternate)
  | loop {target iterable : Node} {body : List Node} (ht : Fits .expression target)
    (hform : IsTarget target) (hi : Fits .expression iterable)
    (hb : ∀ node ∈ body, Fits .statement node) : Fits .statement (.loop target iterable body)

/-- The grammar of whole templates. -/
def IsTemplate : Node → Prop
  | program body => ∀ node ∈ body, Fits .statement node
  | _ => False

end Node

theorem Except.bind_eq_ok {ε α β : Type} {x : Except ε α} {f : α → Except ε β} {b : β} :
    x >>= f = .ok b ↔ ∃ a, x = .ok a ∧ f a = .ok b := by
  cases x with
  | error e => simp [bind, Except.bind]
  | ok a => simp [bind, Except.bind]

namespace Parse

open Node

/-- Tokens that fit their kinds. -/
abbrev AllLexical (tokens : List Token) : Prop := ∀ token ∈ tokens, token.Lexical

/-- On tokens that fit their kinds a parser yields what is good, and leaves such tokens. -/
def Yields {α : Type} (p : Parse α) (good : α → Prop) : Prop :=
  ∀ {tokens a rest}, AllLexical tokens → p tokens = .ok (a, rest) → good a ∧ AllLexical rest

/-! ## Tokens and lists -/

theorem AllLexical.tail {token : Token} {rest : List Token} (h : AllLexical (token :: rest)) :
    AllLexical rest := fun t ht => h t (List.mem_cons_of_mem _ ht)

theorem AllLexical.head {token : Token} {rest : List Token} (h : AllLexical (token :: rest)) :
    token.Lexical := h token List.mem_cons_self

theorem expect_lexical {kind : TokenKind} {what : String} {tokens rest : List Token}
    (hlex : AllLexical tokens) (h : expect kind what tokens = .ok rest) : AllLexical rest := by
  cases tokens with
  | nil => cases h
  | cons token tokens =>
    simp only [expect] at h
    split at h
    · cases h
      exact hlex.tail
    · cases h

theorem numeral_fits {token : Token} {i : Int} (hlex : token.Lexical)
    (hkind : token.kind = .numericLiteral) (h : numeral token.value = .ok i) :
    (decimalDigits i.natAbs).length ≤ digitLimit := by
  simp only [Token.Lexical, hkind] at hlex
  obtain ⟨sign, digits, heq, hsign, hne, hdigits⟩ := hlex
  simp only [numeral, heq] at h
  split at h
  · rename_i hread
    cases h
    exact Numeral.length_decimalDigits_of_wholeOfChars hdigits hne hsign hread
  · cases h
  · cases h

variable {α : Type} {item : Parse α} {good : α → Prop}

theorem itemsUntil_yields (hitem : Yields item good) (close : TokenKind) (comma : String)
    (bound : Nat) :
    Yields (itemsUntil close comma item bound) (fun found => ∀ a ∈ found, good a) := by
  intro tokens found rest hlex h
  induction bound generalizing tokens found rest with
  | zero => cases h
  | succ bound ih =>
    simp only [itemsUntil] at h
    split at h
    · cases h
      exact ⟨by simp, hlex⟩
    · obtain ⟨⟨first, after⟩, hfirst, h⟩ := Except.bind_eq_ok.mp h
      obtain ⟨hgood, hafter⟩ := hitem hlex hfirst
      dsimp only at h
      split at h
      · cases h
        exact ⟨by simpa using hgood, hafter⟩
      · obtain ⟨after', hcomma, h⟩ := Except.bind_eq_ok.mp h
        obtain ⟨⟨others, rest'⟩, hothers, h⟩ := Except.bind_eq_ok.mp h
        cases h
        obtain ⟨hall, hrest⟩ := ih (expect_lexical hafter hcomma) hothers
        exact ⟨by simpa using ⟨hgood, hall⟩, hrest⟩

theorem items_yields (hitem : Yields item good) (close : TokenKind) (comma closing : String) :
    Yields (items close comma closing item) (fun found => ∀ a ∈ found, good a) := by
  intro tokens found rest hlex h
  obtain ⟨⟨found', after⟩, hfound, h⟩ := Except.bind_eq_ok.mp h
  obtain ⟨after', hclose, h⟩ := Except.bind_eq_ok.mp h
  cases h
  obtain ⟨hall, hafter⟩ := itemsUntil_yields hitem close comma _ hlex hfound
  exact ⟨hall, expect_lexical hafter hclose⟩

/-- Growing a good node by good steps makes a good node. -/
theorem extend_yields {good : Node → Prop}
    {step : Node → List Token → Except ParseError (Option (Node × List Token))}
    (hstep : ∀ {node tokens node' rest}, good node → AllLexical tokens →
      step node tokens = .ok (some (node', rest)) → good node' ∧ AllLexical rest)
    {bound : Nat} {node node' : Node} {tokens rest : List Token} (hnode : good node)
    (hlex : AllLexical tokens) (h : extend step bound node tokens = .ok (node', rest)) :
    good node' ∧ AllLexical rest := by
  induction bound generalizing node tokens with
  | zero =>
    cases h
    exact ⟨hnode, hlex⟩
  | succ bound ih =>
    obtain ⟨next, hnext, h⟩ := Except.bind_eq_ok.mp h
    cases next with
    | none =>
      cases h
      exact ⟨hnode, hlex⟩
    | some found =>
      obtain ⟨hgood, hrest⟩ := hstep hnode hlex hnext
      exact ih hgood hrest h

theorem afterCommas_yields {item : Parse Node} {good : Node → Prop} (hitem : Yields item good)
    (bound : Nat) : Yields (afterCommas item bound) (fun found => ∀ a ∈ found, good a) := by
  intro tokens found rest hlex h
  induction bound generalizing tokens found rest with
  | zero =>
    cases h
    exact ⟨by simp, hlex⟩
  | succ bound ih =>
    unfold afterCommas at h
    split at h
    · obtain ⟨⟨first, after⟩, hfirst, h⟩ := Except.bind_eq_ok.mp h
      obtain ⟨⟨others, rest'⟩, hothers, h⟩ := Except.bind_eq_ok.mp h
      cases h
      obtain ⟨hgood, hafter⟩ := hitem hlex.tail hfirst
      obtain ⟨hall, hrest⟩ := ih hafter hothers
      exact ⟨by simpa using ⟨hgood, hall⟩, hrest⟩
    · cases h
      exact ⟨by simp, hlex⟩

/-- One item is taken as it is, and several make a tuple. -/
theorem sequence_yields {item : Parse Node} (hitem : Yields item (Fits .expression)) :
    Yields (sequence item) (Fits .expression) := by
  intro tokens node rest hlex h
  obtain ⟨⟨first, after⟩, hfirst, h⟩ := Except.bind_eq_ok.mp h
  obtain ⟨⟨others, rest'⟩, hothers, h⟩ := Except.bind_eq_ok.mp h
  cases h
  obtain ⟨hgood, hafter⟩ := hitem hlex hfirst
  obtain ⟨hall, hrest⟩ := afterCommas_yields hitem _ hafter hothers
  refine ⟨?_, hrest⟩
  cases others with
  | nil => exact hgood
  | cons second others => exact .tuple (by simp) (by simpa using ⟨hgood, by simpa using hall⟩)

/-! ## Primary expressions -/

variable {expression : Parse Node} (hex : Yields expression (Fits .expression))

include hex

theorem pair_yields :
    Yields (pair expression) (fun p => Fits .expression p.1 ∧ Fits .expression p.2) := by
  intro tokens p rest hlex h
  obtain ⟨⟨key, after⟩, hkey, h⟩ := Except.bind_eq_ok.mp h
  obtain ⟨after', hcolon, h⟩ := Except.bind_eq_ok.mp h
  obtain ⟨⟨value, rest'⟩, hvalue, h⟩ := Except.bind_eq_ok.mp h
  cases h
  obtain ⟨hk, hafter⟩ := hex hlex hkey
  obtain ⟨hv, hrest⟩ := hex (expect_lexical hafter hcolon) hvalue
  exact ⟨⟨hk, hv⟩, hrest⟩

theorem primary_yields : Yields (primary expression) (Fits .expression) := by
  intro tokens node rest hlex h
  cases tokens with
  | nil => cases h
  | cons token tokens =>
    simp only [primary] at h
    split at h
    case h_1 hkind =>
      obtain ⟨i, hi, h⟩ := Except.bind_eq_ok.mp h
      cases h
      exact ⟨.number (numeral_fits hlex.head hkind hi), hlex.tail⟩
    case h_2 => cases h; exact ⟨.text _, hlex.tail⟩
    case h_3 => cases h; exact ⟨.bool _, hlex.tail⟩
    case h_4 => cases h; exact ⟨.null, hlex.tail⟩
    case h_5 hkind =>
      cases h
      have hname := hlex.head
      simp only [Token.Lexical, hkind] at hname
      exact ⟨.name hname, hlex.tail⟩
    case h_6 =>
      obtain ⟨⟨node', after⟩, hnode, h⟩ := Except.bind_eq_ok.mp h
      obtain ⟨after', hclose, h⟩ := Except.bind_eq_ok.mp h
      cases h
      obtain ⟨hfits, hafter⟩ := sequence_yields hex hlex.tail hnode
      exact ⟨hfits, expect_lexical hafter hclose⟩
    case h_7 =>
      obtain ⟨⟨found, after⟩, hfound, h⟩ := Except.bind_eq_ok.mp h
      cases h
      obtain ⟨hfits, hafter⟩ := items_yields hex _ _ _ hlex.tail hfound
      exact ⟨.array hfits, hafter⟩
    case h_8 =>
      obtain ⟨⟨found, after⟩, hfound, h⟩ := Except.bind_eq_ok.mp h
      cases h
      obtain ⟨hfits, hafter⟩ := items_yields (pair_yields hex) _ _ _ hlex.tail hfound
      exact ⟨.object (fun p hp => (hfits p hp).1) (fun p hp => (hfits p hp).2), hafter⟩
    case h_9 => cases h

/-! ## Members, calls, filters and tests -/

theorem argument_yields : Yields (argument expression) (Fits .argument) := by
  intro tokens node rest hlex h
  unfold argument at h
  split at h
  · cases h
  · obtain ⟨⟨node', after⟩, hnode, h⟩ := Except.bind_eq_ok.mp h
    obtain ⟨hfits, hafter⟩ := hex hlex hnode
    dsimp only at h
    split at h
    · split at h
      · obtain ⟨⟨value, rest'⟩, hvalue, h⟩ := Except.bind_eq_ok.mp h
        cases h
        obtain ⟨hv, hrest⟩ := hex hafter.tail hvalue
        cases hfits with
        | name hname => exact ⟨.keyword hname hv, hrest⟩
      · cases h
    · cases h
      exact ⟨.positional hfits, hafter⟩

theorem arguments_yields :
    Yields (arguments expression) (fun args => ∀ arg ∈ args, Fits .argument arg) := by
  intro tokens args rest hlex h
  obtain ⟨after, hopen, h⟩ := Except.bind_eq_ok.mp h
  exact items_yields (argument_yields hex) _ _ _ (expect_lexical hlex hopen) h

theorem subscriptParts_yields (bound : Nat) :
    Yields (subscriptParts expression bound)
      (fun found => ∀ part ∈ found.1, ∀ node ∈ part, Fits .expression node) := by
  intro tokens found rest hlex h
  induction bound generalizing tokens found rest with
  | zero => cases h
  | succ bound ih =>
    unfold subscriptParts at h
    split at h
    · cases h
    · cases h
      exact ⟨by simp, hlex⟩
    · obtain ⟨⟨⟨parts, sliced⟩, rest'⟩, hparts, h⟩ := Except.bind_eq_ok.mp h
      cases h
      obtain ⟨hall, hrest⟩ := ih hlex.tail hparts
      exact ⟨by simpa using hall, hrest⟩
    · obtain ⟨⟨part, after⟩, hpart, h⟩ := Except.bind_eq_ok.mp h
      obtain ⟨hfits, hafter⟩ := hex hlex hpart
      dsimp only at h
      split at h
      · obtain ⟨⟨⟨parts, sliced⟩, rest'⟩, hparts, h⟩ := Except.bind_eq_ok.mp h
        cases h
        obtain ⟨hall, hrest⟩ := ih hafter.tail hparts
        exact ⟨by simpa using ⟨hfits, hall⟩, hrest⟩
      · obtain ⟨⟨⟨parts, sliced⟩, rest'⟩, hparts, h⟩ := Except.bind_eq_ok.mp h
        cases h
        obtain ⟨hall, hrest⟩ := ih hafter hparts
        exact ⟨by simpa using ⟨hfits, hall⟩, hrest⟩

omit hex in
/-- What stands in the brackets of a subscript makes an item or a slice of any object. -/
theorem subscriptNode_fits {found : List (Option Node) × Bool} {node object : Node}
    (hall : ∀ part ∈ found.1, ∀ node ∈ part, Fits .expression node)
    (hobject : Fits .expression object) (h : subscriptNode found = .ok node) :
    Fits .expression (.member object node true) := by
  have hpart : ∀ i : Nat, ∀ node ∈ (found.1[i]?).getD none, Fits .expression node := by
    intro i node hmem
    cases hi : found.1[i]? with
    | none => simp [hi] at hmem
    | some part =>
      rw [hi] at hmem
      exact hall part (List.mem_of_getElem? hi) node hmem
  unfold subscriptNode at h
  split at h
  · cases h
  · split at h <;> cases h
    all_goals exact .slice hobject (hpart 0) (hpart 1) (hpart 2)
  · cases h
    exact .item hobject (hall _ List.mem_cons_self _ rfl)
  · cases h

theorem nameOr_yields (error : String → ParseError) :
    Yields (nameOr error expression) (fun node => ∃ s, node = .name s ∧ IsPlainName s) := by
  intro tokens node rest hlex h
  obtain ⟨⟨node', after⟩, hnode, h⟩ := Except.bind_eq_ok.mp h
  obtain ⟨hfits, hafter⟩ := primary_yields hex hlex hnode
  dsimp only at h
  split at h
  · cases h
    cases hfits with
    | name hname => exact ⟨⟨_, rfl, hname⟩, hafter⟩
  · cases h

theorem memberStep_yields {node node' : Node} {tokens rest : List Token}
    (hnode : Fits .expression node) (hlex : AllLexical tokens)
    (h : memberStep expression node tokens = .ok (some (node', rest))) :
    Fits .expression node' ∧ AllLexical rest := by
  unfold memberStep at h
  split at h
  · obtain ⟨⟨property, after⟩, hproperty, h⟩ := Except.bind_eq_ok.mp h
    cases h
    obtain ⟨⟨s, rfl, hname⟩, hafter⟩ := nameOr_yields hex _ hlex.tail hproperty
    exact ⟨.member hnode hname, hafter⟩
  · obtain ⟨⟨property, after⟩, hproperty, h⟩ := Except.bind_eq_ok.mp h
    obtain ⟨after', hclose, h⟩ := Except.bind_eq_ok.mp h
    cases h
    obtain ⟨⟨parts, after''⟩, hparts, hproperty⟩ := Except.bind_eq_ok.mp hproperty
    obtain ⟨property', hsubscript, hproperty⟩ := Except.bind_eq_ok.mp hproperty
    cases hproperty
    obtain ⟨hall, hafter⟩ := subscriptParts_yields hex _ hlex.tail hparts
    exact ⟨subscriptNode_fits hall hnode hsubscript, expect_lexical hafter hclose⟩
  · obtain ⟨⟨args, after⟩, hargs, h⟩ := Except.bind_eq_ok.mp h
    cases h
    obtain ⟨hall, hafter⟩ := arguments_yields hex hlex hargs
    exact ⟨.call hnode hall, hafter⟩
  · cases h

theorem callMember_yields : Yields (callMember expression) (Fits .expression) := by
  intro tokens node rest hlex h
  obtain ⟨⟨first, after⟩, hfirst, h⟩ := Except.bind_eq_ok.mp h
  obtain ⟨hfits, hafter⟩ := primary_yields hex hlex hfirst
  exact extend_yields (memberStep_yields hex) hfits hafter h

theorem filterStep_yields {node node' : Node} {tokens rest : List Token}
    (hnode : Fits .expression node) (hlex : AllLexical tokens)
    (h : filterStep expression node tokens = .ok (some (node', rest))) :
    Fits .expression node' ∧ AllLexical rest := by
  unfold filterStep at h
  split at h
  · obtain ⟨⟨filter, after⟩, hfilter, h⟩ := Except.bind_eq_ok.mp h
    obtain ⟨⟨s, rfl, hname⟩, hafter⟩ := nameOr_yields hex _ hlex.tail hfilter
    dsimp only at h
    split at h
    · obtain ⟨⟨args, after'⟩, hargs, h⟩ := Except.bind_eq_ok.mp h
      cases h
      obtain ⟨hall, hrest⟩ := arguments_yields hex hafter hargs
      exact ⟨.filterCall hnode hname hall, hrest⟩
    · cases h
      exact ⟨.filter hnode hname, hafter⟩
  · cases h

theorem filters_yields : Yields (filters expression) (Fits .expression) := by
  intro tokens node rest hlex h
  obtain ⟨⟨first, after⟩, hfirst, h⟩ := Except.bind_eq_ok.mp h
  obtain ⟨hfits, hafter⟩ := callMember_yields hex hlex hfirst
  exact extend_yields (filterStep_yields hex) hfits hafter h

omit hex in
theorem testName_fits {node node' : Node} (hfits : Fits .expression node)
    (h : testName node = .ok node') : ∃ s, node' = .name s ∧ IsTestName s := by
  cases hfits with
  | name hname => cases h; exact ⟨_, rfl, .inl hname⟩
  | bool b =>
    cases h
    cases b
    · exact ⟨_, rfl, .inr (.inr (.inl rfl))⟩
    · exact ⟨_, rfl, .inr (.inl rfl)⟩
  | null => cases h; exact ⟨_, rfl, .inr (.inr (.inr rfl))⟩
  | _ => cases h

theorem testStep_yields {node node' : Node} {tokens rest : List Token}
    (hnode : Fits .expression node) (hlex : AllLexical tokens)
    (h : testStep expression node tokens = .ok (some (node', rest))) :
    Fits .expression node' ∧ AllLexical rest := by
  unfold testStep at h
  split at h
  · rename_i after
    have hlex' : ∀ negate : Bool, AllLexical (if negate then after.drop 1 else after) := by
      intro negate
      cases negate
      · exact hlex.tail
      · exact fun t ht => hlex.tail t (List.mem_of_mem_drop ht)
    obtain ⟨⟨test, after'⟩, htest, h⟩ := Except.bind_eq_ok.mp h
    obtain ⟨name, hname, h⟩ := Except.bind_eq_ok.mp h
    obtain ⟨hfits, hafter⟩ := primary_yields hex (hlex' _) htest
    obtain ⟨s, rfl, hs⟩ := testName_fits hfits hname
    split at h
    · obtain ⟨⟨args, after''⟩, hargs, h⟩ := Except.bind_eq_ok.mp h
      cases h
      obtain ⟨hall, hrest⟩ := arguments_yields hex hafter hargs
      exact ⟨.test hnode hs hall, hrest⟩
    · cases h
      exact ⟨.test hnode hs (by simp), hafter⟩
  · cases h

theorem tests_yields : Yields (tests expression) (Fits .expression) := by
  intro tokens node rest hlex h
  obtain ⟨⟨first, after⟩, hfirst, h⟩ := Except.bind_eq_ok.mp h
  obtain ⟨hfits, hafter⟩ := filters_yields hex hlex hfirst
  exact extend_yields (testStep_yields hex) hfits hafter h

/-! ## Operators -/

omit hex in
theorem unary_yields {operand : Parse Node} (hoperand : Yields operand (Fits .expression))
    {isOperator : Token → Bool} (hop : ∀ token, isOperator token → token.kind = .unaryOperator) :
    Yields (unary isOperator operand) (Fits .expression) := by
  intro tokens node rest hlex h
  induction tokens generalizing node rest with
  | nil => exact hoperand hlex h
  | cons token tokens ih =>
    simp only [unary] at h
    split at h
    · rename_i hisop
      obtain ⟨⟨argument, after⟩, hargument, h⟩ := Except.bind_eq_ok.mp h
      cases h
      obtain ⟨hfits, hafter⟩ := ih hlex.tail hargument
      have hvalue := hlex.head
      simp only [Token.Lexical, hop token hisop] at hvalue
      exact ⟨.unary hvalue hfits, hafter⟩
    · exact hoperand hlex h

omit hex in
theorem binary_yields {operand : Parse Node} (hoperand : Yields operand (Fits .expression))
    {isOperator : TokenKind → Bool}
    (hop : ∀ token : Token, isOperator token.kind → token.Lexical →
      (token.value, token.kind) ∈ binaryOperators) :
    Yields (binary isOperator operand) (Fits .expression) := by
  intro tokens node rest hlex h
  obtain ⟨⟨first, after⟩, hfirst, h⟩ := Except.bind_eq_ok.mp h
  obtain ⟨hfits, hafter⟩ := hoperand hlex hfirst
  refine extend_yields ?_ hfits hafter h
  intro left tokens' node' rest' hleft hlex' hstep
  cases tokens' with
  | nil => cases hstep
  | cons token tokens' =>
    simp only [binaryStep] at hstep
    split at hstep
    · rename_i hisop
      obtain ⟨⟨right, after'⟩, hright, hstep⟩ := Except.bind_eq_ok.mp hstep
      cases hstep
      obtain ⟨hr, hrest⟩ := hoperand hlex'.tail hright
      exact ⟨.binary (hop token hisop hlex'.head) hleft hr, hrest⟩
    · cases hstep

omit hex in
theorem isNot_kind (token : Token) (h : isNot token) : token.kind = .unaryOperator := by
  simp only [isNot, Bool.and_eq_true, beq_iff_eq] at h
  exact h.1

omit hex in
theorem isSign_kind (token : Token) (h : isSign token) : token.kind = .unaryOperator := by
  simp only [isSign, Bool.and_eq_true, beq_iff_eq] at h
  exact h.1

omit hex in
/-- The kinds of operators are told apart by their tokens. -/
theorem mem_binaryOperators_of_lexical {token : Token} {kind : TokenKind}
    (hkind : token.kind = kind) (hlex : token.Lexical)
    (h : kind ∈ [TokenKind.or, .and, .in_, .notIn, .comparisonOperator, .additiveOperator,
      .multiplicativeOperator]) : (token.value, token.kind) ∈ binaryOperators := by
  simp only [List.mem_cons, List.not_mem_nil, or_false] at h
  simp only [Token.Lexical] at hlex
  rcases h with rfl | rfl | rfl | rfl | rfl | rfl | rfl <;> simpa only [hkind] using hlex

theorem multiplicative_yields : Yields (multiplicative expression) (Fits .expression) :=
  binary_yields (unary_yields (tests_yields hex) isSign_kind)
    (fun _ hkind hlex => mem_binaryOperators_of_lexical (eq_of_beq hkind) hlex (by decide))

theorem additive_yields : Yields (additive expression) (Fits .expression) :=
  binary_yields (multiplicative_yields hex)
    (fun _ hkind hlex => mem_binaryOperators_of_lexical (eq_of_beq hkind) hlex (by decide))

theorem comparison_yields : Yields (comparison expression) (Fits .expression) := by
  refine binary_yields (additive_yields hex) ?_
  intro token hkind hlex
  simp only [Bool.or_eq_true, beq_iff_eq] at hkind
  rcases hkind with (hkind | hkind) | hkind
  all_goals exact mem_binaryOperators_of_lexical hkind hlex (by decide)

theorem conjunction_yields : Yields (conjunction expression) (Fits .expression) :=
  binary_yields (unary_yields (comparison_yields hex) isNot_kind)
    (fun _ hkind hlex => mem_binaryOperators_of_lexical (eq_of_beq hkind) hlex (by decide))

theorem disjunction_yields : Yields (disjunction expression) (Fits .expression) :=
  binary_yields (conjunction_yields hex)
    (fun _ hkind hlex => mem_binaryOperators_of_lexical (eq_of_beq hkind) hlex (by decide))

theorem ternary_yields : Yields (ternary expression) (Fits .expression) := by
  intro tokens node rest hlex h
  obtain ⟨⟨whenTrue, after⟩, htrue, h⟩ := Except.bind_eq_ok.mp h
  obtain ⟨ht, hafter⟩ := disjunction_yields hex hlex htrue
  dsimp only at h
  split at h
  · obtain ⟨⟨condition, after'⟩, hcondition, h⟩ := Except.bind_eq_ok.mp h
    obtain ⟨after'', helse, h⟩ := Except.bind_eq_ok.mp h
    obtain ⟨⟨whenFalse, rest'⟩, hfalse, h⟩ := Except.bind_eq_ok.mp h
    cases h
    obtain ⟨hc, hafter'⟩ := disjunction_yields hex hafter.tail hcondition
    obtain ⟨hf, hrest⟩ := disjunction_yields hex (expect_lexical hafter' helse) hfalse
    exact ⟨.ternary hc ht hf, hrest⟩
  · cases h
    exact ⟨ht, hafter⟩

omit hex

theorem expressionWithin_yields (bound : Nat) :
    Yields (expressionWithin bound) (Fits .expression) := by
  induction bound with
  | zero => intro _ _ _ _ h; cases h
  | succ bound ih => exact ternary_yields ih

theorem expression_yields : Yields Parse.expression (Fits .expression) :=
  fun hlex h => expressionWithin_yields _ hlex h

/-! ## Statements -/

theorem setWithin_yields (bound : Nat) : Yields (setWithin bound) (Fits .assignment) := by
  intro tokens node rest hlex h
  induction bound generalizing tokens node rest with
  | zero => cases h
  | succ bound ih =>
    obtain ⟨⟨target, after⟩, htarget, h⟩ := Except.bind_eq_ok.mp h
    obtain ⟨hfits, hafter⟩ := expression_yields hlex htarget
    dsimp only at h
    split at h
    · obtain ⟨⟨value, rest'⟩, hvalue, h⟩ := Except.bind_eq_ok.mp h
      cases h
      obtain ⟨hv, hrest⟩ := ih hafter.tail hvalue
      exact ⟨.assign hfits hv, hrest⟩
    · cases h
      exact ⟨.value hfits, hafter⟩

variable {statement : Parse Node} (hst : Yields statement (Fits .statement))

include hst

theorem block_yields (terminators : List TokenKind) :
    Yields (block terminators statement) (fun body => ∀ node ∈ body, Fits .statement node) := by
  intro tokens body rest hlex h
  unfold block at h
  generalize tokens.length + 1 = bound at h
  induction bound generalizing tokens body rest with
  | zero => cases h
  | succ bound ih =>
    simp only [blockWithin] at h
    split at h
    · cases h
      exact ⟨by simp, hlex⟩
    · split at h
      · cases h
      · obtain ⟨⟨first, after⟩, hfirst, h⟩ := Except.bind_eq_ok.mp h
        obtain ⟨⟨others, rest'⟩, hothers, h⟩ := Except.bind_eq_ok.mp h
        cases h
        obtain ⟨hf, hafter⟩ := hst hlex hfirst
        obtain ⟨hall, hrest⟩ := ih hafter hothers
        exact ⟨by simpa using ⟨hf, hall⟩, hrest⟩

theorem ifWithin_yields (bound : Nat) : Yields (ifWithin statement bound) (Fits .statement) := by
  intro tokens node rest hlex h
  induction bound generalizing tokens node rest with
  | zero => cases h
  | succ bound ih =>
    obtain ⟨⟨test, after⟩, htest, h⟩ := Except.bind_eq_ok.mp h
    obtain ⟨after', hclose, h⟩ := Except.bind_eq_ok.mp h
    obtain ⟨⟨body, after''⟩, hbody, h⟩ := Except.bind_eq_ok.mp h
    obtain ⟨hc, hafter⟩ := expression_yields hlex htest
    obtain ⟨hb, hafter''⟩ := block_yields hst _ (expect_lexical hafter hclose) hbody
    dsimp only at h
    split at h
    · obtain ⟨⟨alternate, rest'⟩, halternate, h⟩ := Except.bind_eq_ok.mp h
      cases h
      obtain ⟨ha, hrest⟩ := ih hafter''.tail.tail halternate
      exact ⟨.branch hc hb (by simpa using ha), hrest⟩
    · obtain ⟨after₃, hclose', h⟩ := Except.bind_eq_ok.mp h
      obtain ⟨⟨alternate, rest'⟩, halternate, h⟩ := Except.bind_eq_ok.mp h
      cases h
      obtain ⟨ha, hrest⟩ :=
        block_yields hst _ (expect_lexical hafter''.tail.tail hclose') halternate
      exact ⟨.branch hc hb ha, hrest⟩
    · cases h
      exact ⟨.branch hc hb (by simp), hafter''⟩

theorem forLoop_yields : Yields (forLoop statement) (Fits .statement) := by
  intro tokens node rest hlex h
  obtain ⟨⟨target, after⟩, htarget, h⟩ := Except.bind_eq_ok.mp h
  obtain ⟨ht, hafter⟩ := sequence_yields (primary_yields expression_yields) hlex htarget
  have hloop : ∀ after',
      expect .in_ "\x60in\x60 keyword following loop variable" after = .ok after' →
      ∀ iterable after'', Parse.expression after' = .ok (iterable, after'') →
      ∀ after₃, expect .closeStatement "closing statement token" after'' = .ok after₃ →
      ∀ body rest', block [.endFor] statement after₃ = .ok (body, rest') → IsTarget target →
      Fits .statement (.loop target iterable body) ∧ AllLexical rest' := by
    intro after' hin iterable after'' hiterable after₃ hclose body rest' hbody hform
    obtain ⟨hi, hafter''⟩ := expression_yields (expect_lexical hafter hin) hiterable
    obtain ⟨hb, hrest⟩ := block_yields hst _ (expect_lexical hafter'' hclose) hbody
    exact ⟨.loop ht hform hi hb, hrest⟩
  dsimp only at h
  split at h
  · obtain ⟨after', hin, h⟩ := Except.bind_eq_ok.mp h
    obtain ⟨⟨iterable, after''⟩, hiterable, h⟩ := Except.bind_eq_ok.mp h
    obtain ⟨after₃, hclose, h⟩ := Except.bind_eq_ok.mp h
    obtain ⟨⟨body, rest'⟩, hbody, h⟩ := Except.bind_eq_ok.mp h
    cases h
    exact hloop _ hin _ _ hiterable _ hclose _ _ hbody trivial
  · obtain ⟨after', hin, h⟩ := Except.bind_eq_ok.mp h
    obtain ⟨⟨iterable, after''⟩, hiterable, h⟩ := Except.bind_eq_ok.mp h
    obtain ⟨after₃, hclose, h⟩ := Except.bind_eq_ok.mp h
    obtain ⟨⟨body, rest'⟩, hbody, h⟩ := Except.bind_eq_ok.mp h
    cases h
    exact hloop _ hin _ _ hiterable _ hclose _ _ hbody trivial
  · cases h

omit hst in
theorem closing_lexical {kind : TokenKind} {what : String} {tokens rest : List Token}
    (hlex : AllLexical tokens) (h : closing kind what tokens = .ok rest) : AllLexical rest := by
  obtain ⟨after, hopen, h⟩ := Except.bind_eq_ok.mp h
  obtain ⟨after', hkind, h⟩ := Except.bind_eq_ok.mp h
  exact expect_lexical (expect_lexical (expect_lexical hlex hopen) hkind) h

theorem statementBody_yields : Yields (statementBody statement) (Fits .statement) := by
  intro tokens node rest hlex h
  cases tokens with
  | nil => cases h
  | cons token tokens =>
    simp only [statementBody] at h
    split at h
    · obtain ⟨⟨node', after⟩, hnode, h⟩ := Except.bind_eq_ok.mp h
      obtain ⟨after', hclose, h⟩ := Except.bind_eq_ok.mp h
      cases h
      obtain ⟨hfits, hafter⟩ := setWithin_yields _ hlex.tail hnode
      exact ⟨.output hfits, expect_lexical hafter hclose⟩
    · obtain ⟨⟨node', after⟩, hnode, h⟩ := Except.bind_eq_ok.mp h
      obtain ⟨after', hclose, h⟩ := Except.bind_eq_ok.mp h
      cases h
      obtain ⟨hfits, hafter⟩ := ifWithin_yields hst _ hlex.tail hnode
      exact ⟨hfits, closing_lexical hafter hclose⟩
    · obtain ⟨⟨node', after⟩, hnode, h⟩ := Except.bind_eq_ok.mp h
      obtain ⟨after', hclose, h⟩ := Except.bind_eq_ok.mp h
      cases h
      obtain ⟨hfits, hafter⟩ := forLoop_yields hst hlex.tail hnode
      exact ⟨hfits, closing_lexical hafter hclose⟩
    · cases h

theorem statementStep_yields : Yields (statementStep statement) (Fits .statement) := by
  intro tokens node rest hlex h
  cases tokens with
  | nil => cases h
  | cons token tokens =>
    simp only [statementStep] at h
    split at h
    · cases h
      exact ⟨.output (.value (.text _)), hlex.tail⟩
    · exact statementBody_yields hst hlex.tail h
    · obtain ⟨⟨node', after⟩, hnode, h⟩ := Except.bind_eq_ok.mp h
      obtain ⟨after', hclose, h⟩ := Except.bind_eq_ok.mp h
      cases h
      obtain ⟨hfits, hafter⟩ := expression_yields hlex.tail hnode
      exact ⟨.output (.value hfits), expect_lexical hafter hclose⟩
    · cases h

omit hst

theorem statementWithin_yields (bound : Nat) :
    Yields (statementWithin bound) (Fits .statement) := by
  induction bound with
  | zero => intro _ _ _ _ h; cases h
  | succ bound ih => exact statementStep_yields ih

theorem statementsWithin_fits {bound : Nat} {tokens : List Token} {body : List Node}
    (hlex : AllLexical tokens) (h : statementsWithin bound tokens = .ok body) :
    ∀ node ∈ body, Fits .statement node := by
  induction bound generalizing tokens body with
  | zero => cases tokens <;> cases h; simp
  | succ bound ih =>
    cases tokens with
    | nil => cases h; simp
    | cons token tokens =>
      obtain ⟨⟨first, after⟩, hfirst, h⟩ := Except.bind_eq_ok.mp h
      obtain ⟨others, hothers, h⟩ := Except.bind_eq_ok.mp h
      cases h
      obtain ⟨hf, hafter⟩ := statementWithin_yields _ hlex hfirst
      simpa using ⟨hf, ih hafter hothers⟩

end Parse

/-- What is read off tokens that fit their kinds is a template. -/
theorem Node.isTemplate_of_ofTokens {tokens : List Token} {tree : Node}
    (hlex : ∀ token ∈ tokens, token.Lexical) (h : Node.ofTokens tokens = .ok tree) :
    tree.IsTemplate := by
  simp only [ofTokens] at h
  cases hs : Parse.statementsWithin tokens.length tokens with
  | error e => rw [hs] at h; cases h
  | ok body =>
    rw [hs] at h
    cases h
    exact Parse.statementsWithin_fits hlex hs

end TextTemplate
