import TextTemplate.Proofs.Syntax.Progress

/-!
# What becomes of names and literals

The leaves of a tree are its names and literals. A parser keeps each one that is written, with one
exception: where a subscript has several parts and no colon, only the first part is kept.
-/

namespace TextTemplate

/-- A name or a literal. The numbers in templates are whole numbers. -/
inductive Leaf
  | text (value : String)
  | number (value : Int)
  | bool (value : Bool)
  | null
  | name (value : String)
  deriving DecidableEq

namespace Node

mutual

/-- The names and literals of a tree, in the order in which they are written. -/
def leaves : Node → List Leaf
  | .program body => leavesOfAll body
  | .set target value => leaves target ++ leaves value
  | .branch condition body alternate =>
    leaves condition ++ leavesOfAll body ++ leavesOfAll alternate
  | .loop target iterable body => leaves target ++ leaves iterable ++ leavesOfAll body
  | .name s => [.name s]
  | .member owner property _ => leaves owner ++ leaves property
  | .call callee args => leaves callee ++ leavesOfAll args
  | .number (.int i) => [.number i]
  | .number _ => []
  | .text s => [.text s]
  | .bool b => [.bool b]
  | .null => [.null]
  | .array items => leavesOfAll items
  | .tuple items => leavesOfAll items
  | .object pairs => leavesOfPairs pairs
  | .binary _ left right => leaves left ++ leaves right
  | .filter operand applied => leaves operand ++ leaves applied
  | .test operand _ predicate args => leaves operand ++ (leaves predicate ++ leavesOfAll args)
  | .unary _ argument => leaves argument
  | .slice start stop step => leavesOfPart start ++ (leavesOfPart stop ++ leavesOfPart step)
  | .keyword key value => leaves key ++ leaves value
  | .ternary condition whenTrue whenFalse =>
    leaves whenTrue ++ leaves condition ++ leaves whenFalse
  | .bare _ => []

def leavesOfAll : List Node → List Leaf
  | [] => []
  | node :: rest => leaves node ++ leavesOfAll rest

def leavesOfPairs : List (Node × Node) → List Leaf
  | [] => []
  | (key, value) :: rest => leaves key ++ leaves value ++ leavesOfPairs rest

def leavesOfPart : Option Node → List Leaf
  | none => []
  | some node => leaves node

end

def leavesOfParts : List (Option Node) → List Leaf
  | [] => []
  | part :: rest => leavesOfPart part ++ leavesOfParts rest

end Node

namespace Token

/-- Whether `true`, `false` and `none` are names of tests behind the token: they are behind `is`,
and behind a `not` and the parentheses that follow it. -/
def namesTest (naming : Bool) (token : Token) : Bool :=
  token.kind == .is || (naming && (Parse.isNot token || token.kind == .openParen))

/-- What a token is as a leaf, where the name of a test is due or not. -/
def leaf? (naming : Bool) (token : Token) : Option Leaf :=
  match token.kind with
  | .text | .stringLiteral => some (.text token.value)
  | .numericLiteral => some (.number ((Parse.numeral token.value).toOption.getD 0))
  | .booleanLiteral =>
    some (if naming then .name (if token.value == "true" then "true" else "false")
      else .bool (token.value == "true"))
  | .nullLiteral => some (if naming then .name "none" else .null)
  | .identifier => some (.name token.value)
  | _ => none

/-- The names and literals among the tokens. -/
def leavesFrom (naming : Bool) : List Token → List Leaf
  | [] => []
  | token :: rest => (leaf? naming token).toList ++ leavesFrom (namesTest naming token) rest

def leavesIn (tokens : List Token) : List Leaf := leavesFrom false tokens

end Token

namespace Parse

open Node Token

/-- The leaves that the parts of a subscript lose: without a colon, those of all parts but the
first. -/
def lostOfParts : List (Option Node) × Bool → List Leaf
  | (_ :: others, false) => leavesOfParts others
  | _ => []

/-- The leaves that are lost behind an opening bracket. -/
def lost (tokens : List Token) : List Leaf :=
  match subscriptParts expression (tokens.length + 1) tokens with
  | .ok (found, _) => lostOfParts found
  | .error _ => []

/-- The leaves that are lost behind all the opening brackets of the tokens. -/
def allLost : List Token → List Leaf
  | [] => []
  | token :: rest => (if token.kind == .openSquareBracket then lost rest else []) ++ allLost rest

/-! ## Keeping accounts -/

/-- Each leaf of what is read in front of the rest is a leaf of the result or lost, and no other
is. The flag says whether the name of a test is due in front of the tokens. -/
structure Accounts (naming : Bool) (tokens : List Token) (found : List Leaf) (rest : List Token) :
    Prop where
  length_le : rest.length ≤ tokens.length
  count_eq (x : Leaf) : (leavesFrom naming tokens).count x + (allLost rest).count x =
    found.count x + (allLost tokens).count x + (leavesFrom false rest).count x

/-- Kinds of tokens that are no leaves and leave what follows as it is. -/
def isMark : TokenKind → Bool
  | .text | .numericLiteral | .booleanLiteral | .nullLiteral | .stringLiteral | .identifier | .is
  | .openSquareBracket => false
  | _ => true

/-- A parser keeps accounts in front of fewer tokens than so many. -/
def KeepsAccounts {α : Type} (bound : Nat) (leavesOf : α → List Leaf) (p : Parse α) : Prop :=
  ∀ {tokens a rest}, tokens.length < bound → p tokens = .ok (a, rest) →
    Accounts false tokens (leavesOf a) rest

/-- To grow a node adds the leaves of what is read to it. -/
def StepKeepsAccounts (bound : Nat) (step : Step) : Prop :=
  ∀ {node tokens node' rest}, tokens.length < bound → step node tokens = .ok (some (node', rest)) →
    ∃ more, node'.leaves = node.leaves ++ more ∧ Accounts false tokens more rest

variable {naming : Bool} {tokens middle rest : List Token} {found more : List Leaf} {bound : Nat}

namespace Accounts

theorem refl (tokens : List Token) : Accounts false tokens [] tokens :=
  ⟨Nat.le_refl _, fun x => by simp only [List.count_nil]; omega⟩

theorem trans (h : Accounts naming tokens found middle) (hmore : Accounts false middle more rest) :
    Accounts naming tokens (found ++ more) rest := by
  refine ⟨Nat.le_trans hmore.length_le h.length_le, fun x => ?_⟩
  have hfirst := h.count_eq x
  have hsecond := hmore.count_eq x
  rw [List.count_append]
  omega

/-- A part without leaves changes nothing. -/
theorem skip (h : Accounts naming tokens found middle) (hmore : Accounts false middle [] rest) :
    Accounts naming tokens found rest :=
  List.append_nil found ▸ h.trans hmore

theorem mark {token : Token} (h : isMark token.kind) :
    Accounts false (token :: rest) [] rest := by
  have hleaf : token.leaf? false = none := by
    unfold Token.leaf?
    split <;> simp_all [isMark]
  have hname : namesTest false token = false := by
    unfold namesTest
    cases hk : token.kind <;> simp_all [isMark]
  have hbracket : (token.kind == .openSquareBracket) = false := by
    cases hk : token.kind <;> simp_all [isMark]
  refine ⟨Nat.le_succ _, fun x => ?_⟩
  simp only [leavesFrom, allLost, hleaf, hname, hbracket, Option.toList_none, List.nil_append,
    Bool.false_eq_true, ↓reduceIte, List.count_nil]
  omega

/-- A mark in front of what is read changes nothing. -/
theorem behind {token : Token} (hmark : isMark token.kind)
    (h : Accounts false middle found rest) : Accounts false (token :: middle) found rest :=
  (mark hmark).trans h

theorem leaf {token : Token} {leaf : Leaf} (h : token.leaf? naming = some leaf) :
    Accounts naming (token :: rest) [leaf] rest := by
  have hname : namesTest naming token = false := by
    revert h
    unfold Token.leaf? namesTest isNot
    cases token.kind <;> simp
  have hbracket : (token.kind == .openSquareBracket) = false := by
    revert h
    unfold Token.leaf?
    cases token.kind <;> simp
  refine ⟨Nat.le_succ _, fun x => ?_⟩
  simp only [leavesFrom, allLost, h, hname, hbracket, Option.toList_some, List.nil_append,
    Bool.false_eq_true, ↓reduceIte, List.count_append]
  omega

end Accounts

theorem cons_of_expect {kind : TokenKind} {what : String}
    (h : expect kind what tokens = .ok rest) : ∃ value, tokens = ⟨kind, value⟩ :: rest := by
  cases tokens with
  | nil => cases h
  | cons token after =>
    simp only [expect] at h
    split at h
    · rename_i hkind
      cases h
      exact ⟨token.value, by rw [← beq_iff_eq.mp hkind]⟩
    · cases h

theorem expect_accounts {kind : TokenKind} {what : String} (h : expect kind what tokens = .ok rest)
    (hmark : isMark kind) : Accounts false tokens [] rest := by
  obtain ⟨value, rfl⟩ := cons_of_expect h
  exact .mark hmark

/-! ## Lists -/

theorem leavesOfAll_eq (nodes : List Node) : leavesOfAll nodes = nodes.flatMap Node.leaves := by
  induction nodes with
  | nil => rfl
  | cons node rest ih => rw [leavesOfAll, ih, List.flatMap_cons]

/-- The leaves of an entry of an object. -/
def leavesOfPair (pair : Node × Node) : List Leaf := pair.1.leaves ++ pair.2.leaves

theorem leavesOfPairs_eq (pairs : List (Node × Node)) :
    leavesOfPairs pairs = pairs.flatMap leavesOfPair := by
  induction pairs with
  | nil => rfl
  | cons pair rest ih => rw [leavesOfPairs, ih, List.flatMap_cons, leavesOfPair]

section Lists

variable {α : Type} {item : Parse α} {leavesOf : α → List Leaf} {close : TokenKind}
  {comma closing : String} {rounds : Nat}

theorem itemsUntil_accounts (hitem : KeepsAccounts bound leavesOf item) {found : List α}
    (hlength : tokens.length < bound)
    (h : itemsUntil close comma item rounds tokens = .ok (found, rest)) :
    Accounts false tokens (found.flatMap leavesOf) rest := by
  induction rounds generalizing tokens found with
  | zero => cases h
  | succ rounds ih =>
    simp only [itemsUntil] at h
    split at h
    · cases h
      exact .refl _
    · obtain ⟨⟨first, after⟩, hfirst, h⟩ := Except.bind_eq_ok.mp h
      have hfirst := hitem hlength hfirst
      dsimp only at h
      split at h
      · cases h
        simpa using hfirst
      · obtain ⟨after', hcomma, h⟩ := Except.bind_eq_ok.mp h
        obtain ⟨⟨others, rest'⟩, hothers, h⟩ := Except.bind_eq_ok.mp h
        cases h
        have hcomma := hfirst.skip (expect_accounts hcomma rfl)
        have hothers := ih (Nat.lt_of_le_of_lt hcomma.length_le hlength) hothers
        exact hcomma.trans hothers

theorem items_accounts (hitem : KeepsAccounts bound leavesOf item) (hclose : isMark close) :
    KeepsAccounts bound (·.flatMap leavesOf) (items close comma closing item) := by
  intro tokens found rest hlength h
  obtain ⟨⟨found', after⟩, hfound, h⟩ := Except.bind_eq_ok.mp h
  obtain ⟨after', hend, h⟩ := Except.bind_eq_ok.mp h
  cases h
  exact (itemsUntil_accounts hitem hlength hfound).skip (expect_accounts hend hclose)

theorem afterCommas_accounts {item : Parse Node} (hitem : KeepsAccounts bound Node.leaves item)
    {found : List Node} (hlength : tokens.length < bound)
    (h : afterCommas item rounds tokens = .ok (found, rest)) :
    Accounts false tokens (leavesOfAll found) rest := by
  induction rounds generalizing tokens found with
  | zero =>
    cases h
    exact .refl _
  | succ rounds ih =>
    simp only [afterCommas] at h
    split at h
    · obtain ⟨⟨first, after⟩, hfirst, h⟩ := Except.bind_eq_ok.mp h
      obtain ⟨⟨others, rest'⟩, hothers, h⟩ := Except.bind_eq_ok.mp h
      cases h
      rw [List.length_cons] at hlength
      have hfirst := hitem (by omega) hfirst
      have hothers := ih (Nat.lt_of_le_of_lt hfirst.length_le (by omega)) hothers
      exact .behind rfl (hfirst.trans hothers)
    · cases h
      exact .refl _

theorem sequence_accounts {item : Parse Node} (hitem : KeepsAccounts bound Node.leaves item) :
    KeepsAccounts bound Node.leaves (sequence item) := by
  intro tokens node rest hlength h
  obtain ⟨⟨first, after⟩, hfirst, h⟩ := Except.bind_eq_ok.mp h
  obtain ⟨⟨others, after'⟩, hothers, h⟩ := Except.bind_eq_ok.mp h
  have hfirst := hitem hlength hfirst
  have hothers := afterCommas_accounts hitem (Nat.lt_of_le_of_lt hfirst.length_le hlength) hothers
  cases others with
  | nil =>
    cases h
    exact hfirst.skip hothers
  | cons second others =>
    cases h
    exact hfirst.trans hothers

/-- Growing a node by steps that keep accounts keeps them. -/
theorem extend_accounts {step : Step} (hstep : StepKeepsAccounts bound step) {node node' : Node}
    (hlength : tokens.length < bound)
    (h : extend step rounds node tokens = .ok (node', rest)) :
    ∃ more, node'.leaves = node.leaves ++ more ∧ Accounts false tokens more rest := by
  induction rounds generalizing node tokens with
  | zero =>
    cases h
    exact ⟨[], (List.append_nil _).symm, .refl _⟩
  | succ rounds ih =>
    obtain ⟨grown, hgrown, h⟩ := Except.bind_eq_ok.mp h
    cases grown with
    | none =>
      cases h
      exact ⟨[], (List.append_nil _).symm, .refl _⟩
    | some grown =>
      obtain ⟨first, hleaves, hfirst⟩ := hstep hlength hgrown
      obtain ⟨others, hothers, hrest⟩ := ih (Nat.lt_of_le_of_lt hfirst.length_le hlength) h
      exact ⟨first ++ others, by rw [hothers, hleaves, List.append_assoc], hfirst.trans hrest⟩

end Lists

/-! ## Subscripts -/

section Expressions

variable (hexpression : KeepsAccounts bound Node.leaves expression)
include hexpression

theorem pair_accounts : KeepsAccounts bound leavesOfPair (pair expression) := by
  intro tokens entry rest hlength h
  obtain ⟨⟨key, after⟩, hkey, h⟩ := Except.bind_eq_ok.mp h
  obtain ⟨after', hcolon, h⟩ := Except.bind_eq_ok.mp h
  obtain ⟨⟨value, rest'⟩, hvalue, h⟩ := Except.bind_eq_ok.mp h
  cases h
  have hkey := (hexpression hlength hkey).skip (expect_accounts hcolon rfl)
  exact hkey.trans (hexpression (Nat.lt_of_le_of_lt hkey.length_le hlength) hvalue)

theorem subscriptParts_accounts {parts : List (Option Node)} {sliced : Bool} {rounds : Nat}
    (hlength : tokens.length < bound)
    (h : subscriptParts expression rounds tokens = .ok ((parts, sliced), rest)) :
    Accounts false tokens (leavesOfParts parts) rest := by
  induction rounds generalizing tokens parts sliced with
  | zero => cases h
  | succ rounds ih =>
    simp only [subscriptParts] at h
    split at h
    · cases h
    · cases h
      exact .refl _
    · obtain ⟨⟨⟨others, _⟩, rest'⟩, hothers, h⟩ := Except.bind_eq_ok.mp h
      cases h
      rw [List.length_cons] at hlength
      have hothers := ih (by omega) hothers
      exact .behind rfl hothers
    · obtain ⟨⟨part, after⟩, hpart, h⟩ := Except.bind_eq_ok.mp h
      have hpart := hexpression hlength hpart
      have hafter := Nat.lt_of_le_of_lt hpart.length_le hlength
      dsimp only at h
      split at h
      · obtain ⟨⟨⟨others, _⟩, rest'⟩, hothers, h⟩ := Except.bind_eq_ok.mp h
        cases h
        rw [List.length_cons] at hafter
        exact (hpart.skip (.mark rfl)).trans (ih (by omega) hothers)
      · obtain ⟨⟨⟨others, _⟩, rest'⟩, hothers, h⟩ := Except.bind_eq_ok.mp h
        cases h
        exact hpart.trans (ih hafter hothers)

omit hexpression in
theorem leavesOfParts_of_subscriptNode {parts : List (Option Node)} {sliced : Bool} {node : Node}
    (h : subscriptNode (parts, sliced) = .ok node) :
    leavesOfParts parts = node.leaves ++ lostOfParts (parts, sliced) := by
  match parts, sliced with
  | [], _ => cases h
  | [start], true | [start, stop], true | [start, stop, step], true =>
    cases h
    simp [leavesOfParts, lostOfParts, Node.leaves, leavesOfPart]
  | _ :: _ :: _ :: _ :: _, true => cases h
  | some first :: others, false =>
    cases h
    rfl
  | none :: _, false => cases h

/-- A subscript keeps the leaves of all its parts, or of the first one only. -/
theorem subscript_accounts {value : String} {node : Node} (hlength : tokens.length < bound)
    (h : subscript expression tokens = .ok (node, rest)) :
    Accounts false (⟨.openSquareBracket, value⟩ :: tokens) node.leaves rest := by
  obtain ⟨⟨⟨parts, sliced⟩, after⟩, hparts, h⟩ := Except.bind_eq_ok.mp h
  obtain ⟨node', hnode, h⟩ := Except.bind_eq_ok.mp h
  cases h
  have haccounts := subscriptParts_accounts hexpression hlength hparts
  have hlost : lost tokens = lostOfParts (parts, sliced) := by rw [lost, hparts]
  refine ⟨Nat.le_succ_of_le haccounts.length_le, fun x => ?_⟩
  have hcount := haccounts.count_eq x
  rw [leavesOfParts_of_subscriptNode hnode, List.count_append, ← hlost] at hcount
  have hbracket : (allLost (⟨.openSquareBracket, value⟩ :: tokens)).count x =
      (lost tokens).count x + (allLost tokens).count x := by
    simp only [allLost, beq_self_eq_true, ↓reduceIte, List.count_append]
  have hleaves : leavesFrom false (⟨.openSquareBracket, value⟩ :: tokens) =
      leavesFrom false tokens := rfl
  rw [hleaves, hbracket]
  omega

end Expressions

/-! ## Arrays -/

theorem expression_starts {result : Node × List Token} (h : expression tokens = .ok result) :
    ∃ token rest, tokens = token :: rest ∧
      (startsPrimary token.kind ∨ token.kind = .unaryOperator) := by
  rw [expression_eq] at h
  have hstarts : StartsAt .ternary tokens := atLevel_starts h
  cases tokens with
  | nil => exact hstarts.elim
  | cons token rest =>
    refine ⟨token, rest, rfl, ?_⟩
    rcases hstarts with h | ⟨h, -⟩ | ⟨h, -⟩
    · exact .inl h
    · simp only [isSign, Bool.and_eq_true, beq_iff_eq] at h
      exact .inr h.1
    · simp only [isNot, Bool.and_eq_true, beq_iff_eq] at h
      exact .inr h.1

/-- An expression in front of what is no colon is a part of a subscript. -/
theorem subscriptParts_cons {node : Node} (h : expression tokens = .ok (node, rest))
    (hcolon : nextIs .colon rest = false) (rounds : Nat) :
    subscriptParts expression (rounds + 1) tokens = (do
      let ((parts, sliced), rest) ← subscriptParts expression rounds rest
      .ok ((some node :: parts, sliced), rest)) := by
  obtain ⟨token, after, rfl, hstarts⟩ := expression_starts h
  rw [subscript_unrolls expression rounds]
  unfold subscriptRound
  split
  · contradiction
  · rename_i heq
    cases heq
    rcases hstarts with hstarts | hstarts <;> cases hstarts
  · rename_i heq
    cases heq
    rcases hstarts with hstarts | hstarts <;> cases hstarts
  · rw [h]
    simp only [bind, Except.bind]
    split
    · simp [nextIs] at hcolon
    · rfl

theorem subscriptParts_close (h : nextIs .closeSquareBracket tokens) (rounds : Nat) :
    subscriptParts expression (rounds + 1) tokens = .ok (([], false), tokens) := by
  cases tokens with
  | nil => cases h
  | cons token after =>
    obtain ⟨kind, value⟩ := token
    obtain rfl : kind = .closeSquareBracket := by simpa [nextIs] using h
    rfl

theorem expression_comma (value : String) (result : Node × List Token) :
    expression (⟨.comma, value⟩ :: tokens) ≠ .ok result := by
  intro h
  obtain ⟨token, after, heq, hstarts⟩ := expression_starts h
  cases heq
  rcases hstarts with hstarts | hstarts <;> cases hstarts

/-- Nothing is lost in an array. -/
theorem lost_of_items {comma : String} {found : List Node}
    (h : itemsUntil .closeSquareBracket comma expression (tokens.length + 1) tokens =
      .ok (found, rest)) : lost tokens = [] := by
  simp only [itemsUntil] at h
  split at h
  · rename_i hclose
    rw [lost, subscriptParts_close hclose]
    rfl
  · obtain ⟨⟨first, after⟩, hfirst, h⟩ := Except.bind_eq_ok.mp h
    obtain ⟨token, behind, rfl, -⟩ := expression_starts hfirst
    dsimp only at h
    split at h
    · rename_i hclose
      have hcolon : nextIs .colon after = false := by
        cases after with
        | nil => rfl
        | cons token after => simp_all [nextIs]
      rw [lost, subscriptParts_cons hfirst hcolon, List.length_cons, subscriptParts_close hclose]
      rfl
    · obtain ⟨after', hcomma, -⟩ := Except.bind_eq_ok.mp h
      -- A comma is no part of a subscript, so there is none here.
      obtain ⟨value, rfl⟩ := cons_of_expect hcomma
      rw [lost, subscriptParts_cons hfirst rfl, List.length_cons]
      unfold subscriptParts
      dsimp only
      cases hread : expression (⟨.comma, value⟩ :: after') with
      | error e => rfl
      | ok result => exact absurd hread (expression_comma value result)

/-! ## Operands -/

section Operands

variable (hexpression : KeepsAccounts bound Node.leaves expression)
include hexpression

theorem array_accounts {value comma closing : String} {found : List Node}
    (hlength : tokens.length < bound)
    (h : items .closeSquareBracket comma closing expression tokens = .ok (found, rest)) :
    Accounts false (⟨.openSquareBracket, value⟩ :: tokens) (leavesOfAll found) rest := by
  have haccounts := items_accounts hexpression rfl hlength h
  obtain ⟨⟨found', after⟩, hfound, -⟩ := Except.bind_eq_ok.mp h
  refine ⟨Nat.le_succ_of_le haccounts.length_le, fun x => ?_⟩
  have hcount := haccounts.count_eq x
  have hbracket : allLost (⟨.openSquareBracket, value⟩ :: tokens) = allLost tokens := by
    simp only [allLost, beq_self_eq_true, ↓reduceIte, lost_of_items hfound, List.nil_append]
  have hleaves : leavesFrom false (⟨.openSquareBracket, value⟩ :: tokens) =
      leavesFrom false tokens := rfl
  rw [hleaves, hbracket, leavesOfAll_eq]
  exact hcount

theorem primary_accounts : KeepsAccounts (bound + 1) Node.leaves (primary expression) := by
  intro tokens node rest hlength h
  cases tokens with
  | nil => cases h
  | cons token tokens =>
    obtain ⟨kind, value⟩ := token
    simp only [List.length_cons, Nat.add_lt_add_iff_right] at hlength
    simp only [primary] at h
    split at h
    · obtain ⟨i, hi, h⟩ := Except.bind_eq_ok.mp h
      cases h
      exact .leaf (by simp [Token.leaf?, hi, Except.toOption])
    · cases h
      exact .leaf rfl
    · cases h
      exact .leaf rfl
    · cases h
      exact .leaf rfl
    · cases h
      exact .leaf rfl
    · obtain ⟨⟨inner, after⟩, hinner, h⟩ := Except.bind_eq_ok.mp h
      obtain ⟨after', hclose, h⟩ := Except.bind_eq_ok.mp h
      cases h
      have hinner := sequence_accounts hexpression hlength hinner
      exact .behind rfl (hinner.skip (expect_accounts hclose rfl))
    · obtain ⟨⟨found, after⟩, hfound, h⟩ := Except.bind_eq_ok.mp h
      cases h
      exact array_accounts hexpression hlength hfound
    · obtain ⟨⟨found, after⟩, hfound, h⟩ := Except.bind_eq_ok.mp h
      cases h
      have hfound := items_accounts (pair_accounts hexpression) rfl hlength hfound
      rw [Node.leaves, leavesOfPairs_eq]
      exact .behind rfl hfound
    · cases h

theorem argument_accounts : KeepsAccounts bound Node.leaves (argument expression) := by
  intro tokens node rest hlength h
  unfold argument at h
  split at h
  · cases h
  · obtain ⟨⟨first, after⟩, hfirst, h⟩ := Except.bind_eq_ok.mp h
    have hfirst := hexpression hlength hfirst
    have hafter := Nat.lt_of_le_of_lt hfirst.length_le hlength
    dsimp only at h
    split at h
    · split at h
      · obtain ⟨⟨value, after'⟩, hvalue, h⟩ := Except.bind_eq_ok.mp h
        cases h
        rw [List.length_cons] at hafter
        exact (hfirst.skip (.mark rfl)).trans (hexpression (by omega) hvalue)
      · cases h
    · cases h
      exact hfirst

theorem arguments_accounts : KeepsAccounts (bound + 1) leavesOfAll (arguments expression) := by
  intro tokens args rest hlength h
  obtain ⟨after, hopen, h⟩ := Except.bind_eq_ok.mp h
  obtain ⟨value, rfl⟩ := cons_of_expect hopen
  rw [List.length_cons] at hlength
  rw [leavesOfAll_eq]
  exact .behind rfl (items_accounts (argument_accounts hexpression) rfl (by omega) h)

/-- The arguments that may follow the name of a filter or of a test. -/
theorem called_accounts {before : List Token} {found : List Leaf} {args : List Node}
    (hname : Accounts naming before found tokens) (hlength : before.length < bound + 1)
    (h : arguments expression tokens = .ok (args, rest)) :
    Accounts naming before (found ++ leavesOfAll args) rest :=
  hname.trans (arguments_accounts hexpression (Nat.lt_of_le_of_lt hname.length_le hlength) h)

end Operands

end Parse

end TextTemplate
