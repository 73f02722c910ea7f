import TextTemplate.Proofs.Syntax.Leaves

/-!
# What a subscript is read as

A subscript should hold one expression, or two or three parts with one or two colons between them,
each an expression or nothing. The parser asks for less: it reads expressions and colons in any
order, and decides by the number of parts and by whether there was a colon at all. So it accepts
all that it should, and besides that parts with no colon between them and a third colon behind the
third part.
-/

namespace TextTemplate

theorem Except.bind_eq_error {ε α β : Type} {x : Except ε α} {f : α → Except ε β} {e : ε} :
    x >>= f = .error e ↔ x = .error e ∨ ∃ a, x = .ok a ∧ f a = .error e := by
  cases x with
  | error e' => simp [bind, Except.bind]
  | ok a => simp [bind, Except.bind]

namespace Parse

/-! ## The grammar and what the parser reads -/

/-- An expression or nothing. -/
inductive Optional : List Token → Option Node → List Token → Prop
  | absent (tokens : List Token) : Optional tokens none tokens
  | present {node : Node} {tokens rest : List Token} (h : expression tokens = .ok (node, rest)) :
      Optional tokens (some node) rest

/-- The grammar of what stands in front of the closing bracket of a subscript. -/
inductive Subscripted : List Token → Node → List Token → Prop
  | item {node : Node} {tokens rest : List Token} (h : expression tokens = .ok (node, rest))
      (hclose : nextIs .closeSquareBracket rest) : Subscripted tokens node rest
  | oneColon {start stop : Option Node} {colon : String} {tokens behind rest : List Token}
      (hstart : Optional tokens start (⟨.colon, colon⟩ :: behind))
      (hstop : Optional behind stop rest) (hclose : nextIs .closeSquareBracket rest) :
      Subscripted tokens (.slice start stop none) rest
  | twoColons {start stop step : Option Node} {colon colon' : String}
      {tokens behind behind' rest : List Token}
      (hstart : Optional tokens start (⟨.colon, colon⟩ :: behind))
      (hstop : Optional behind stop (⟨.colon, colon'⟩ :: behind'))
      (hstep : Optional behind' step rest) (hclose : nextIs .closeSquareBracket rest) :
      Subscripted tokens (.slice start stop step) rest

/-- A part of a subscript as the parser reads it: an expression or nothing with a colon behind it,
or an expression with none. -/
inductive Part
  | withColon (node : Option Node)
  | alone (node : Node)

namespace Part

def node : Part → Option Node
  | withColon node => node
  | alone node => some node

def hasColon : Part → Bool
  | withColon _ => true
  | alone _ => false

@[simp] theorem hasColon_withColon (node : Option Node) : (withColon node).hasColon = true := rfl

@[simp] theorem hasColon_alone (node : Node) : (alone node).hasColon = false := rfl

end Part

/-- The tokens start with these parts. -/
inductive StartsWith : List Token → List Part → List Token → Prop
  | none (tokens : List Token) : StartsWith tokens [] tokens
  | withColon {node : Option Node} {colon : String} {tokens behind rest : List Token}
      {parts : List Part} (hnode : Optional tokens node (⟨.colon, colon⟩ :: behind))
      (h : StartsWith behind parts rest) : StartsWith tokens (.withColon node :: parts) rest
  | alone {node : Node} {tokens behind rest : List Token} {parts : List Part}
      (hnode : expression tokens = .ok (node, behind)) (hcolon : nextIs .colon behind = false)
      (h : StartsWith behind parts rest) : StartsWith tokens (.alone node :: parts) rest

/-- Up to a closing bracket the tokens are these parts. -/
structure InBrackets (tokens : List Token) (parts : List Part) (rest : List Token) : Prop where
  starts : StartsWith tokens parts rest
  closes : nextIs .closeSquareBracket rest

/-- What stands in one place of a slice. -/
def slot (parts : List Part) (place : Nat) : Option Node := parts[place]?.bind Part.node

/-- What parts denote to the parser: without a colon the first one, else a slice of up to three. -/
inductive Denote : List Part → Node → Prop
  | item {node : Node} {others : List Part} (h : ∀ part ∈ others, part.hasColon = false) :
      Denote (.alone node :: others) node
  | slice {parts : List Part} (hcolon : ∃ part ∈ parts, part.hasColon)
      (hlength : parts.length ≤ 3) :
      Denote parts (.slice (slot parts 0) (slot parts 1) (slot parts 2))

/-- There is a colon between any two of the parts, and there are not more than two colons. -/
structure Tidy (parts : List Part) : Prop where
  separated : ∀ part ∈ parts.dropLast, part.hasColon
  colons : parts.countP Part.hasColon ≤ 2

variable {tokens rest rest' : List Token} {parts parts' : List Part} {node property : Node}
  {e : ParseError}

/-! ## Expressions and what delimits them -/

theorem expression_took (h : expression tokens = .ok (node, rest)) : Took tokens 1 rest := by
  have hagree := expression_agree _ tokens (Nat.lt_succ_self _)
  rw [h] at hagree
  cases hagree with
  | ok htook => exact htook

theorem Optional.length_le {part : Option Node} (h : Optional tokens part rest) :
    rest.length ≤ tokens.length := by
  cases h with
  | absent => exact Nat.le_refl _
  | present h =>
    have htook := (expression_took h).2
    omega

theorem not_nextIs_of_expression {kind : TokenKind} (h : expression tokens = .ok (node, rest))
    (hkind : startsPrimary kind = false) (hunary : kind ≠ .unaryOperator) :
    nextIs kind tokens = false := by
  obtain ⟨token, behind, rfl, hstarts⟩ := expression_starts h
  rw [nextIs, beq_eq_false_iff_ne]
  rintro rfl
  rcases hstarts with hstarts | hstarts
  · rw [hkind] at hstarts
    cases hstarts
  · exact hunary hstarts

theorem not_nextIs_close_of_expression (h : expression tokens = .ok (node, rest)) :
    nextIs .closeSquareBracket tokens = false :=
  not_nextIs_of_expression h rfl nofun

theorem not_nextIs_colon_of_expression (h : expression tokens = .ok (node, rest)) :
    nextIs .colon tokens = false :=
  not_nextIs_of_expression h rfl nofun

theorem not_nextIs_of_nextIs {kind kind' : TokenKind} (h : nextIs kind tokens)
    (hne : kind ≠ kind') : nextIs kind' tokens = false := by
  cases tokens with
  | nil => rfl
  | cons token behind =>
    rw [nextIs, beq_iff_eq] at h
    rw [nextIs, beq_eq_false_iff_ne, h]
    exact hne

theorem expect_ne_error {kind : TokenKind} {what : String} (h : nextIs kind tokens) :
    expect kind what tokens ≠ .error e := by
  cases tokens with
  | nil => cases h
  | cons token behind =>
    rw [nextIs] at h
    rw [expect, if_pos h]
    simp

theorem not_nextIs_colon (h : ∀ colon behind, rest ≠ ⟨.colon, colon⟩ :: behind) :
    nextIs .colon rest = false := by
  cases rest with
  | nil => rfl
  | cons token behind =>
    rw [nextIs, beq_eq_false_iff_ne]
    exact fun heq => h token.value behind (by rw [← heq])

/-- A part with its colon is read in one round. -/
theorem subscriptParts_colon {part : Option Node} {colon : String} {behind : List Token}
    (h : Optional tokens part (⟨.colon, colon⟩ :: behind)) (rounds : Nat) :
    subscriptParts expression (rounds + 1) tokens = (do
      let ((parts, _), rest) ← subscriptParts expression rounds behind
      .ok ((part :: parts, true), rest)) := by
  cases h with
  | absent => rfl
  | present h =>
    have hclose := not_nextIs_close_of_expression h
    have hcolon := not_nextIs_colon_of_expression h
    rw [subscript_unrolls expression rounds]
    unfold subscriptRound
    split
    · obtain ⟨_, _, heq, -⟩ := expression_starts h
      cases heq
    · cases hclose
    · cases hcolon
    · rw [h]
      rfl

/-! ## Reading the parts -/

theorem subscriptParts_of_startsWith (h : StartsWith tokens parts rest)
    (hclose : nextIs .closeSquareBracket rest) {rounds : Nat} (hrounds : tokens.length < rounds) :
    subscriptParts expression rounds tokens =
      .ok ((parts.map Part.node, parts.any Part.hasColon), rest) := by
  obtain ⟨rounds, rfl⟩ : ∃ n, rounds = n + 1 := ⟨rounds - 1, by omega⟩
  induction h generalizing rounds with
  | none tokens => exact subscriptParts_close hclose rounds
  | withColon hnode h ih =>
    have htook := hnode.length_le
    rw [List.length_cons] at htook
    obtain ⟨rounds, rfl⟩ : ∃ n, rounds = n + 1 := ⟨rounds - 1, by omega⟩
    rw [subscriptParts_colon hnode, ih hclose rounds (by omega)]
    rfl
  | alone hnode hcolon h ih =>
    have htook := (expression_took hnode).2
    obtain ⟨rounds, rfl⟩ : ∃ n, rounds = n + 1 := ⟨rounds - 1, by omega⟩
    rw [subscriptParts_cons hnode hcolon, ih hclose rounds (by omega)]
    rfl

theorem inBrackets_of_subscriptParts {nodes : List (Option Node)} {sliced : Bool} {rounds : Nat}
    (h : subscriptParts expression rounds tokens = .ok ((nodes, sliced), rest)) :
    ∃ parts, InBrackets tokens parts rest ∧ nodes = parts.map Part.node ∧
      sliced = parts.any Part.hasColon := by
  induction rounds generalizing tokens nodes sliced with
  | zero => cases h
  | succ rounds ih =>
    simp only [subscriptParts] at h
    split at h
    · cases h
    · cases h
      exact ⟨[], ⟨.none _, rfl⟩, rfl, rfl⟩
    · obtain ⟨⟨⟨nodes, _⟩, rest'⟩, hparts, h⟩ := Except.bind_eq_ok.mp h
      cases h
      obtain ⟨parts, ⟨hparts, hclose⟩, rfl, -⟩ := ih hparts
      exact ⟨_, ⟨.withColon (.absent _) hparts, hclose⟩, rfl, rfl⟩
    · obtain ⟨⟨node, behind⟩, hnode, h⟩ := Except.bind_eq_ok.mp h
      dsimp only at h
      split at h
      · obtain ⟨⟨⟨nodes, _⟩, rest'⟩, hparts, h⟩ := Except.bind_eq_ok.mp h
        cases h
        obtain ⟨parts, ⟨hparts, hclose⟩, rfl, -⟩ := ih hparts
        exact ⟨_, ⟨.withColon (.present hnode) hparts, hclose⟩, rfl, rfl⟩
      · rename_i hne
        obtain ⟨⟨⟨nodes, _⟩, rest'⟩, hparts, h⟩ := Except.bind_eq_ok.mp h
        cases h
        obtain ⟨parts, ⟨hparts, hclose⟩, rfl, rfl⟩ := ih hparts
        exact ⟨_, ⟨.alone hnode (not_nextIs_colon hne) hparts, hclose⟩, rfl, rfl⟩

/-- Parts are not read to the end where there is no closing bracket or an expression fails. -/
theorem error_of_subscriptParts {rounds : Nat}
    (h : subscriptParts expression rounds tokens = .error e) :
    e = .unclosedSubscript ∨
      ∃ parts rest, StartsWith tokens parts rest ∧ expression rest = .error e := by
  induction rounds generalizing tokens with
  | zero => cases h; exact .inl rfl
  | succ rounds ih =>
    simp only [subscriptParts] at h
    split at h
    · cases h
      exact .inl rfl
    · cases h
    · obtain h | ⟨_, -, h⟩ := Except.bind_eq_error.mp h
      · refine (ih h).imp_right ?_
        rintro ⟨parts, rest, hparts, hfail⟩
        exact ⟨_, rest, .withColon (.absent _) hparts, hfail⟩
      · cases h
    · obtain h | ⟨⟨node, behind⟩, hnode, h⟩ := Except.bind_eq_error.mp h
      · exact .inr ⟨[], _, .none _, h⟩
      · dsimp only at h
        split at h
        · obtain h | ⟨_, -, h⟩ := Except.bind_eq_error.mp h
          · refine (ih h).imp_right ?_
            rintro ⟨parts, rest, hparts, hfail⟩
            exact ⟨_, rest, .withColon (.present hnode) hparts, hfail⟩
          · cases h
        · rename_i hne
          obtain h | ⟨_, -, h⟩ := Except.bind_eq_error.mp h
          · refine (ih h).imp_right ?_
            rintro ⟨parts, rest, hparts, hfail⟩
            exact ⟨_, rest, .alone hnode (not_nextIs_colon hne) hparts, hfail⟩
          · cases h

/-! ## What the parts denote -/

theorem subscriptNode_sliced (h : parts.length ≤ 3) (hne : parts ≠ []) :
    subscriptNode (parts.map Part.node, true) =
      .ok (.slice (slot parts 0) (slot parts 1) (slot parts 2)) := by
  match parts with
  | [] => exact absurd rfl hne
  | [_] | [_, _] | [_, _, _] => rfl
  | _ :: _ :: _ :: _ :: _ =>
    simp only [List.length_cons] at h
    omega

theorem subscriptNode_long (h : 3 < parts.length) :
    subscriptNode (parts.map Part.node, true) ≠ .ok property := by
  match parts with
  | [] | [_] | [_, _] | [_, _, _] => simp at h
  | _ :: _ :: _ :: _ :: _ => nofun

theorem denote_of_subscriptNode
    (h : subscriptNode (parts.map Part.node, parts.any Part.hasColon) = .ok property) :
    Denote parts property := by
  cases hany : parts.any Part.hasColon with
  | true =>
    rw [hany] at h
    obtain ⟨part, hmem, hcolon⟩ := List.any_eq_true.mp hany
    rcases Nat.lt_or_ge 3 parts.length with hlength | hlength
    · exact absurd h (subscriptNode_long hlength)
    · rw [subscriptNode_sliced hlength (List.ne_nil_of_mem hmem)] at h
      cases h
      exact .slice ⟨part, hmem, hcolon⟩ hlength
  | false =>
    rw [hany] at h
    rw [List.any_eq_false] at hany
    match parts with
    | [] => cases h
    | .withColon node :: _ => exact absurd rfl (hany _ List.mem_cons_self)
    | .alone node :: others =>
      cases h
      exact .item fun part hmem => by simpa using hany part (List.mem_cons_of_mem _ hmem)

theorem Denote.subscriptNode_eq (h : Denote parts property) :
    subscriptNode (parts.map Part.node, parts.any Part.hasColon) = .ok property := by
  cases h with
  | @item node others h =>
    have hany : others.any Part.hasColon = false := List.any_eq_false.mpr (by simpa using h)
    simp only [List.any_cons, hany, Bool.or_false]
    rfl
  | slice hcolon hlength =>
    obtain ⟨part, hmem, hcolon⟩ := hcolon
    rw [List.any_eq_true.mpr ⟨part, hmem, hcolon⟩]
    exact subscriptNode_sliced hlength (List.ne_nil_of_mem hmem)

theorem isStructural_of_subscriptNode {found : List (Option Node) × Bool}
    (h : subscriptNode found = .error e) : e.IsStructural := by
  unfold subscriptNode at h
  split at h
  · cases h
    exact ParseError.isStructural nofun nofun
  · split at h <;> cases h
    exact ParseError.isStructural nofun nofun
  · cases h
  · cases h
    exact ParseError.isStructural nofun nofun

/-! ## Tidy parts and the grammar -/

/-- The part behind the last colon. -/
def lastPart (node : Option Node) : List Part := node.toList.map .alone

@[simp] theorem lastPart_none : lastPart none = [] := rfl

@[simp] theorem lastPart_some (node : Node) : lastPart (some node) = [.alone node] := rfl

theorem inBrackets_lastPart_iff {node : Option Node} :
    InBrackets tokens (lastPart node) rest ↔
      Optional tokens node rest ∧ nextIs .closeSquareBracket rest := by
  cases node with
  | none =>
    constructor
    · rintro ⟨⟨⟩, hclose⟩
      exact ⟨.absent _, hclose⟩
    · rintro ⟨⟨⟩, hclose⟩
      exact ⟨.none _, hclose⟩
  | some node =>
    constructor
    · rintro ⟨_ | _ | ⟨hnode, -, ⟨⟩⟩, hclose⟩
      exact ⟨.present hnode, hclose⟩
    · rintro ⟨_ | hnode, hclose⟩
      exact ⟨.alone hnode (not_nextIs_of_nextIs hclose nofun) (.none _), hclose⟩

theorem inBrackets_withColon_iff {node : Option Node} :
    InBrackets tokens (.withColon node :: parts) rest ↔
      ∃ colon behind, Optional tokens node (⟨.colon, colon⟩ :: behind) ∧
        InBrackets behind parts rest := by
  constructor
  · rintro ⟨_ | ⟨hnode, h⟩, hclose⟩
    exact ⟨_, _, hnode, h, hclose⟩
  · rintro ⟨colon, behind, hnode, h, hclose⟩
    exact ⟨.withColon hnode h, hclose⟩

/-- The three forms of tidy parts that denote something. -/
inductive Form : List Part → Node → Prop
  | item (node : Node) : Form [.alone node] node
  | oneColon (start stop : Option Node) :
      Form (.withColon start :: lastPart stop) (.slice start stop none)
  | twoColons (start stop step : Option Node) :
      Form (.withColon start :: .withColon stop :: lastPart step) (.slice start stop step)

theorem form_iff : Form parts property ↔ Denote parts property ∧ Tidy parts := by
  constructor
  · intro h
    cases h with
    | item node => exact ⟨.item nofun, nofun, Nat.zero_le _⟩
    | oneColon start stop =>
      cases stop <;>
        exact ⟨.slice (by simp) (by simp), by simp, by simp [List.countP_cons]⟩
    | twoColons start stop step =>
      cases step <;>
        exact ⟨.slice (by simp) (by simp), by simp, by simp [List.countP_cons]⟩
  · rintro ⟨hdenote, hseparated, hcolons⟩
    cases hdenote with
    | @item node others h =>
      cases others with
      | nil => exact .item property
      | cons other others => exact absurd (hseparated _ List.mem_cons_self) nofun
    | slice hcolon hlength =>
      match parts with
      | [] => simp at hcolon
      | [.alone node] => simp at hcolon
      | [.withColon start] => exact .oneColon start none
      | .alone node :: _ :: _ => exact absurd (hseparated _ List.mem_cons_self) nofun
      | [.withColon start, .alone node] => exact .oneColon start (some node)
      | [.withColon start, .withColon stop] => exact .twoColons start stop none
      | .withColon start :: .alone node :: _ :: _ =>
        exact absurd (hseparated (.alone node) (by simp)) nofun
      | [.withColon start, .withColon stop, .alone node] => exact .twoColons start stop (some node)
      | [.withColon start, .withColon stop, .withColon step] =>
        exact absurd hcolons (by simp [List.countP_cons])
      | _ :: _ :: _ :: _ :: _ =>
        simp only [List.length_cons] at hlength
        omega

theorem subscripted_iff :
    Subscripted tokens property rest ↔
      ∃ parts, InBrackets tokens parts rest ∧ Form parts property := by
  constructor
  · rintro (⟨hnode, hclose⟩ | ⟨hstart, hstop, hclose⟩ | ⟨hstart, hstop, hstep, hclose⟩)
    · exact ⟨_, inBrackets_lastPart_iff.mpr ⟨.present hnode, hclose⟩, .item _⟩
    · have hlast := inBrackets_lastPart_iff.mpr ⟨hstop, hclose⟩
      exact ⟨_, inBrackets_withColon_iff.mpr ⟨_, _, hstart, hlast⟩, .oneColon _ _⟩
    · have hlast := inBrackets_lastPart_iff.mpr ⟨hstep, hclose⟩
      have hstop := inBrackets_withColon_iff.mpr ⟨_, _, hstop, hlast⟩
      exact ⟨_, inBrackets_withColon_iff.mpr ⟨_, _, hstart, hstop⟩, .twoColons _ _ _⟩
  · rintro ⟨parts, h, _ | ⟨start, stop⟩ | ⟨start, stop, step⟩⟩
    · have hlast : InBrackets tokens (lastPart (some property)) rest := h
      obtain ⟨⟨⟩ | hnode, hclose⟩ := inBrackets_lastPart_iff.mp hlast
      exact .item hnode hclose
    · obtain ⟨_, _, hstart, h⟩ := inBrackets_withColon_iff.mp h
      obtain ⟨hstop, hclose⟩ := inBrackets_lastPart_iff.mp h
      exact .oneColon hstart hstop hclose
    · obtain ⟨_, _, hstart, h⟩ := inBrackets_withColon_iff.mp h
      obtain ⟨_, _, hstop, h⟩ := inBrackets_withColon_iff.mp h
      obtain ⟨hstep, hclose⟩ := inBrackets_lastPart_iff.mp h
      exact .twoColons hstart hstop hstep hclose

/-! ## There is one way to read a subscript -/

theorem Optional.not_nextIs_close {part : Option Node} {colon : String} {behind : List Token}
    (h : Optional tokens part (⟨.colon, colon⟩ :: behind)) :
    nextIs .closeSquareBracket tokens = false := by
  cases h with
  | absent => rfl
  | present h => exact not_nextIs_close_of_expression h

theorem Optional.unique {part part' : Option Node} {colon colon' : String}
    {behind behind' : List Token} (h : Optional tokens part (⟨.colon, colon⟩ :: behind))
    (h' : Optional tokens part' (⟨.colon, colon'⟩ :: behind')) :
    part = part' ∧ behind = behind' := by
  cases h with
  | absent =>
    cases h' with
    | absent => exact ⟨rfl, rfl⟩
    | present h' => cases not_nextIs_colon_of_expression h'
  | present h =>
    cases h' with
    | absent => cases not_nextIs_colon_of_expression h
    | present h' =>
      rw [h] at h'
      cases h'
      exact ⟨rfl, rfl⟩

/-- What stands in front of a colon is not an expression in front of something else. -/
theorem Optional.nextIs_colon {part : Option Node} {colon : String} {behind : List Token}
    (h : Optional tokens part (⟨.colon, colon⟩ :: behind))
    (hnode : expression tokens = .ok (node, rest)) : nextIs .colon rest := by
  cases h with
  | absent => cases not_nextIs_colon_of_expression hnode
  | present h =>
    rw [h] at hnode
    cases hnode
    rfl

theorem InBrackets.unique (h : InBrackets tokens parts rest)
    (h' : InBrackets tokens parts' rest') : parts = parts' ∧ rest = rest' := by
  obtain ⟨h, hclose⟩ := h
  induction h generalizing parts' with
  | none tokens =>
    obtain ⟨_ | ⟨hnode, -⟩ | ⟨hnode, -⟩, hclose'⟩ := h'
    · exact ⟨rfl, rfl⟩
    · rw [hnode.not_nextIs_close] at hclose
      cases hclose
    · rw [not_nextIs_close_of_expression hnode] at hclose
      cases hclose
  | withColon hnode _ ih =>
    obtain ⟨_ | ⟨hnode', h'⟩ | ⟨hnode', hcolon, -⟩, hclose'⟩ := h'
    · rw [hnode.not_nextIs_close] at hclose'
      cases hclose'
    · obtain ⟨rfl, rfl⟩ := hnode.unique hnode'
      obtain ⟨rfl, rfl⟩ := ih ⟨h', hclose'⟩ hclose
      exact ⟨rfl, rfl⟩
    · rw [hnode.nextIs_colon hnode'] at hcolon
      cases hcolon
  | alone hnode hcolon _ ih =>
    obtain ⟨_ | ⟨hnode', -⟩ | ⟨hnode', -, h'⟩, hclose'⟩ := h'
    · rw [not_nextIs_close_of_expression hnode] at hclose'
      cases hclose'
    · rw [hnode'.nextIs_colon hnode] at hcolon
      cases hcolon
    · rw [hnode] at hnode'
      cases hnode'
      obtain ⟨rfl, rfl⟩ := ih ⟨h', hclose'⟩ hclose
      exact ⟨rfl, rfl⟩

/-! ## The reading of a subscript -/

theorem subscript_iff :
    subscript expression tokens = .ok (property, rest) ↔
      ∃ parts, InBrackets tokens parts rest ∧ Denote parts property := by
  constructor
  · intro h
    obtain ⟨⟨⟨nodes, sliced⟩, rest'⟩, hparts, h⟩ := Except.bind_eq_ok.mp h
    obtain ⟨node, hnode, h⟩ := Except.bind_eq_ok.mp h
    cases h
    obtain ⟨parts, hin, rfl, rfl⟩ := inBrackets_of_subscriptParts hparts
    exact ⟨parts, hin, denote_of_subscriptNode hnode⟩
  · rintro ⟨parts, ⟨hparts, hclose⟩, hdenote⟩
    have hread := subscriptParts_of_startsWith hparts hclose (Nat.lt_succ_self _)
    simp only [subscript, hread, hdenote.subscriptNode_eq, bind, Except.bind]

theorem error_of_subscript (h : subscript expression tokens = .error e) :
    e.IsStructural ∨ ∃ parts rest, StartsWith tokens parts rest ∧ expression rest = .error e := by
  rcases Except.bind_eq_error.mp h with h | ⟨⟨found, rest⟩, -, h⟩
  · refine (error_of_subscriptParts h).imp_left ?_
    rintro rfl
    exact ParseError.isStructural nofun nofun
  · rcases Except.bind_eq_error.mp h with h | ⟨node, -, h⟩
    · exact .inl (isStructural_of_subscriptNode h)
    · cases h

/-- How the brackets behind an operand are read. -/
structure SubscriptReading (object : Node) (value : String) (tokens : List Token) : Prop where
  /-- They are accepted just if they hold parts that denote something. -/
  accepted (grown : Option (Node × List Token)) :
    memberStep expression object (⟨.openSquareBracket, value⟩ :: tokens) = .ok grown ↔
      ∃ parts property closing rest,
        InBrackets tokens parts (⟨.closeSquareBracket, closing⟩ :: rest) ∧
          Denote parts property ∧ grown = some (.member object property true, rest)
  /-- The grammar asks besides that the parts are tidy. -/
  grammatical (property : Node) (rest : List Token) :
    Subscripted tokens property rest ↔
      ∃ parts, InBrackets tokens parts rest ∧ Denote parts property ∧ Tidy parts
  /-- There is one way to read parts. -/
  unique (parts parts' : List Part) (rest rest' : List Token) :
    InBrackets tokens parts rest → InBrackets tokens parts' rest' → parts = parts' ∧ rest = rest'
  /-- All else is an error in the structure, or the error of an expression that stands there. -/
  refused (e : ParseError) :
    memberStep expression object (⟨.openSquareBracket, value⟩ :: tokens) = .error e →
      e.IsStructural ∨ ∃ parts rest, StartsWith tokens parts rest ∧ expression rest = .error e

theorem memberStep_subscript (object : Node) (value : String) (tokens : List Token) :
    SubscriptReading object value tokens where
  accepted grown := by
    constructor
    · intro h
      obtain ⟨⟨property, rest⟩, hproperty, h⟩ := Except.bind_eq_ok.mp h
      obtain ⟨behind, hclose, h⟩ := Except.bind_eq_ok.mp h
      obtain ⟨closing, rfl⟩ := cons_of_expect hclose
      cases h
      obtain ⟨parts, hin, hdenote⟩ := subscript_iff.mp hproperty
      exact ⟨parts, property, closing, behind, hin, hdenote, rfl⟩
    · rintro ⟨parts, property, closing, rest, hin, hdenote, rfl⟩
      have hread := subscript_iff.mpr ⟨parts, hin, hdenote⟩
      simp only [memberStep, hread, bind, Except.bind]
      rfl
  grammatical property rest := by
    simp only [subscripted_iff, form_iff]
  unique _ _ _ _ := InBrackets.unique
  refused e h := by
    rcases Except.bind_eq_error.mp h with h | ⟨⟨property, rest⟩, hread, h⟩
    · exact error_of_subscript h
    · -- Parts end in front of a closing bracket, which is there to be taken.
      obtain ⟨parts, ⟨-, hclose⟩, -⟩ := subscript_iff.mp hread
      rcases Except.bind_eq_error.mp h with h | ⟨behind, -, h⟩
      · exact absurd h (expect_ne_error hclose)
      · cases h

/-- Two names with nothing between them are accepted as the first one, and three colons as a
slice. Neither is grammatical. -/
theorem memberStep_subscript_untidy :
    let names : List Token :=
      [⟨.identifier, "i"⟩, ⟨.identifier, "j"⟩, ⟨.closeSquareBracket, "]"⟩]
    let colons : List Token :=
      [⟨.colon, ":"⟩, ⟨.colon, ":"⟩, ⟨.colon, ":"⟩, ⟨.closeSquareBracket, "]"⟩]
    memberStep expression (.name "a") (⟨.openSquareBracket, "["⟩ :: names) =
        .ok (some (.member (.name "a") (.name "i") true, [])) ∧
      memberStep expression (.name "a") (⟨.openSquareBracket, "["⟩ :: colons) =
        .ok (some (.member (.name "a") (.slice none none none) true, [])) ∧
      (¬ ∃ property rest, Subscripted names property rest) ∧
      ¬ ∃ property rest, Subscripted colons property rest := by
  intro names colons
  have hi : expression names = .ok (.name "i", names.drop 1) := by rfl
  have hj : expression (names.drop 1) = .ok (.name "j", names.drop 2) := by rfl
  have hnames : InBrackets names [.alone (.name "i"), .alone (.name "j")] (names.drop 2) :=
    ⟨.alone hi rfl (.alone hj rfl (.none _)), rfl⟩
  have hcolons : InBrackets colons [.withColon none, .withColon none, .withColon none]
      (colons.drop 3) :=
    ⟨.withColon (.absent _) (.withColon (.absent _) (.withColon (.absent _) (.none _))), rfl⟩
  have read := memberStep_subscript (.name "a") "[" names
  have read' := memberStep_subscript (.name "a") "[" colons
  refine ⟨(read.accepted _).mpr ⟨_, _, _, _, hnames, .item (by simp), rfl⟩,
    (read'.accepted _).mpr ⟨_, _, _, _, hcolons, .slice (by simp) (by simp), rfl⟩, ?_, ?_⟩
  · rintro ⟨property, rest, h⟩
    obtain ⟨parts, hparts, -, hseparated, -⟩ := (read.grammatical _ _).mp h
    obtain ⟨rfl, -⟩ := read.unique _ _ _ _ hparts hnames
    exact absurd (hseparated _ List.mem_cons_self) nofun
  · rintro ⟨property, rest, h⟩
    obtain ⟨parts, hparts, -, -, hcount⟩ := (read'.grammatical _ _).mp h
    obtain ⟨rfl, -⟩ := read'.unique _ _ _ _ hparts hcolons
    simp [List.countP_cons] at hcount

end Parse

end TextTemplate
