import TextTemplate.Host.Stock
import TextTemplate.Proofs.Scope.Assignment
import TextTemplate.Scope.Tree

/-!
# Names in a tree of scopes

A name stands for its binding in the nearest scope that has one. Whatever is written changes one
binding of the tree, and this is seen from just those scopes that get to it before they get to any
other binding of the name.
-/

namespace TextTemplate.ScopeTree

variable {tree tree' : ScopeTree} {s p q r t : Nat} {name other : String} {value : Value}
  {entry : Entry} {scope : Scope}

/-! ## Scopes around a scope -/

/-- What a name is bound to in a scope itself. -/
def binding? (tree : ScopeTree) (number : Nat) (name : String) : Option Value :=
  tree.entries[number]?.bind fun entry => entry.scope.bindings.get? name

/-- The scope right around a scope. -/
def parent? (tree : ScopeTree) (number : Nat) : Option Nat :=
  tree.entries[number]?.bind (·.parent)

/-- A scope is the first one itself or lies around it. -/
inductive Outward (tree : ScopeTree) : Nat → Nat → Prop
  | self (s : Nat) : Outward tree s s
  | outer {s p q : Nat} (hparent : tree.parent? s = some p) (h : Outward tree p q) :
    Outward tree s q

/-- Outward from a scope one gets to a scope, and none before it binds the name. -/
inductive Clear (tree : ScopeTree) (name : String) : Nat → Nat → Prop
  | self (s : Nat) : Clear tree name s s
  | outer {s p q : Nat} (hfree : tree.binding? s name = none) (hparent : tree.parent? s = some p)
    (h : Clear tree name p q) : Clear tree name s q

/-- The nearest scope, from a scope outward, that binds a name. -/
def Nearest (tree : ScopeTree) (name : String) (s q : Nat) : Prop :=
  tree.Clear name s q ∧ tree.binding? q name ≠ none

/-- The scope around a scope is older than the scope. -/
def Rooted (tree : ScopeTree) : Prop := ∀ s p, tree.parent? s = some p → p < s

theorem Clear.outward (h : tree.Clear name s q) : tree.Outward s q := by
  induction h with
  | self s => exact .self s
  | outer _ hparent _ ih => exact .outer hparent ih

theorem parent?_eq (h : tree.entries[s]? = some entry) : tree.parent? s = entry.parent := by
  rw [parent?, h, Option.bind_some]

theorem binding?_eq (h : tree.entries[s]? = some entry) :
    tree.binding? s name = entry.scope.bindings.get? name := by
  rw [binding?, h, Option.bind_some]

theorem lt_length (h : tree.entries[s]? = some entry) : s < tree.entries.length :=
  (List.getElem?_eq_some_iff.mp h).1

/-- What holds of outermost scopes, and of a scope if it holds of the one around it, holds of all
scopes. -/
theorem Rooted.outward (h : tree.Rooted) {motive : (s : Nat) → s < tree.entries.length → Prop}
    (root : ∀ s entry (hs : tree.entries[s]? = some entry), entry.parent = none →
      motive s (lt_length hs))
    (child : ∀ s p entry (hs : tree.entries[s]? = some entry) (hp : p < tree.entries.length),
      entry.parent = some p → p < s → motive p hp → motive s (lt_length hs))
    (s : Nat) (hs : s < tree.entries.length) : motive s hs := by
  induction s using Nat.strong_induction_on with
  | h s ih =>
    have hentry := List.getElem?_eq_getElem hs
    cases hparent : tree.entries[s].parent with
    | none => exact root s _ hentry hparent
    | some p =>
      have hlt : p < s := h s p ((parent?_eq hentry).trans hparent)
      exact child s p _ hentry (hlt.trans hs) hparent hlt (ih p hlt (hlt.trans hs))

/-- The bound on the length of a path is large enough. -/
theorem Rooted.pathWithin_eq (h : tree.Rooted) {bound : Nat} (hbound : s < bound) :
    tree.pathWithin bound s = tree.pathWithin (s + 1) s := by
  induction s using Nat.strong_induction_on generalizing bound with
  | h s ih =>
    obtain ⟨bound, rfl⟩ := Nat.exists_eq_add_one_of_ne_zero (Nat.ne_zero_of_lt hbound)
    cases hentry : tree.entries[s]? with
    | none => simp only [pathWithin, hentry]
    | some entry =>
      cases hparent : entry.parent with
      | none => simp only [pathWithin, hentry, hparent]
      | some p =>
        have hlt : p < s := h s p ((parent?_eq hentry).trans hparent)
        have hwhole := @ih p hlt bound (by omega)
        have hpart := @ih p hlt s hlt
        simp only [pathWithin, hentry, hparent] at hwhole hpart ⊢
        rw [hwhole, hpart]

theorem path_root (hs : tree.entries[s]? = some entry) (hparent : entry.parent = none) :
    tree.path s = [s] := by
  obtain ⟨n, hn⟩ := Nat.exists_eq_add_one_of_ne_zero (Nat.ne_zero_of_lt (lt_length hs))
  simp only [path, hn, pathWithin, hs, hparent]

theorem Rooted.path_child (h : tree.Rooted) (hs : tree.entries[s]? = some entry)
    (hparent : entry.parent = some p) : tree.path s = s :: tree.path p := by
  have hlt : p < s := h s p ((parent?_eq hs).trans hparent)
  rw [path, path, h.pathWithin_eq (lt_length hs), h.pathWithin_eq (hlt.trans (lt_length hs)),
    ← h.pathWithin_eq hlt]
  simp only [pathWithin, hs, hparent]

theorem path_absent (hs : tree.entries[s]? = none) : tree.path s = [] := by
  unfold path
  cases tree.entries.length with
  | zero => rfl
  | succ n => simp only [pathWithin, hs]

/-- A scope and the scopes around it, the innermost first. -/
def around (tree : ScopeTree) (number : Nat) : List Scope :=
  (tree.path number).filterMap fun n => (tree.entries[n]?).map (·.scope)

theorem around_root (hs : tree.entries[s]? = some entry) (hparent : entry.parent = none) :
    tree.around s = [entry.scope] := by
  simp [around, path_root hs hparent, hs]

theorem Rooted.around_child (h : tree.Rooted) (hs : tree.entries[s]? = some entry)
    (hparent : entry.parent = some p) : tree.around s = entry.scope :: tree.around p := by
  simp [around, h.path_child hs hparent, hs]

theorem environment?_eq : tree.environment? s =
    match tree.around s with
    | [] => none
    | inner :: outer => some ⟨inner, outer⟩ := rfl

theorem Rooted.exists_environment? (h : tree.Rooted) (hs : tree.entries[s]? = some entry) :
    ∃ outer, tree.environment? s = some ⟨entry.scope, outer⟩ ∧
      tree.around s = entry.scope :: outer := by
  cases hparent : entry.parent with
  | none => exact ⟨[], by rw [environment?_eq, around_root hs hparent], around_root hs hparent⟩
  | some p =>
    have haround := h.around_child hs hparent
    exact ⟨tree.around p, by rw [environment?_eq, haround], haround⟩

/-! ## What is found -/

theorem lookup_eq_around :
    tree.lookup s name = (Scope.lookupIn? name (tree.around s)).getD .undefined := by
  rw [lookup, environment?_eq]
  cases tree.around s <;> rfl

theorem resolve?_eq_around : tree.resolve? s name =
    (Scope.depthIn? name (tree.around s)).bind fun depth => (tree.path s)[depth]? := by
  rw [resolve?, environment?_eq]
  cases tree.around s <;> rfl

/-- A name stands for what it is bound to in the scope itself, or else for what it stands for in the
scope around it. -/
theorem Rooted.lookup_eq (h : tree.Rooted) (s : Nat) (name : String) :
    tree.lookup s name =
      (tree.binding? s name).getD ((tree.parent? s).elim .undefined (tree.lookup · name)) := by
  cases hs : tree.entries[s]? with
  | none =>
    rw [lookup_eq_around, around, path_absent hs, binding?, parent?, hs]
    rfl
  | some entry =>
    rw [binding?_eq hs, parent?_eq hs]
    cases hparent : entry.parent with
    | none =>
      rw [lookup_eq_around, around_root hs hparent, Scope.lookupIn?]
      cases entry.scope.bindings.get? name <;> rfl
    | some p =>
      rw [lookup_eq_around, h.around_child hs hparent, Scope.lookupIn?]
      cases entry.scope.bindings.get? name with
      | none => exact lookup_eq_around.symm
      | some value => rfl

/-- The scope that binds a name is the scope itself, or else the one that is found from the scope
around it. -/
theorem Rooted.resolve?_eq (h : tree.Rooted) (s : Nat) (name : String) :
    tree.resolve? s name =
      if (tree.binding? s name).isSome then some s
      else (tree.parent? s).bind (tree.resolve? · name) := by
  cases hs : tree.entries[s]? with
  | none =>
    rw [resolve?_eq_around, around, path_absent hs, binding?, parent?, hs]
    rfl
  | some entry =>
    rw [binding?_eq hs, parent?_eq hs]
    cases hparent : entry.parent with
    | none =>
      rw [resolve?_eq_around, around_root hs hparent, path_root hs hparent]
      by_cases hbound : (entry.scope.bindings.get? name).isSome <;>
        simp [Scope.depthIn?, Fields.has, hbound]
    | some p =>
      rw [resolve?_eq_around, h.around_child hs hparent, h.path_child hs hparent]
      by_cases hbound : (entry.scope.bindings.get? name).isSome
      · simp [Scope.depthIn?, Fields.has, hbound]
      · simp [Scope.depthIn?, Fields.has, hbound, resolve?_eq_around, Option.bind_map]

/-- What a lookup and the resolution of a name find from a scope. -/
structure Finds (tree : ScopeTree) (s : Nat) (name : String) : Prop where
  nearest : ∀ q, tree.resolve? s name = some q ↔ tree.Nearest name s q
  bound : ∀ q, tree.Nearest name s q → tree.binding? q name = some (tree.lookup s name)
  unresolved : tree.resolve? s name = none ↔ ∀ q, tree.Outward s q → tree.binding? q name = none
  undefined : tree.resolve? s name = none → tree.lookup s name = .undefined

theorem nearest_of_bound (h : (tree.binding? s name).isSome) :
    tree.Nearest name s q ↔ s = q := by
  constructor
  · rintro ⟨hclear, -⟩
    cases hclear with
    | self => rfl
    | outer hfree => rw [hfree] at h; cases h
  · rintro rfl
    exact ⟨.self s, Option.isSome_iff_ne_none.mp h⟩

theorem nearest_of_free (h : tree.binding? s name = none) :
    tree.Nearest name s q ↔ ∃ p, tree.parent? s = some p ∧ tree.Nearest name p q := by
  constructor
  · rintro ⟨hclear, hbound⟩
    cases hclear with
    | self => exact absurd h hbound
    | outer _ hparent hclear => exact ⟨_, hparent, hclear, hbound⟩
  · rintro ⟨p, hparent, hclear, hbound⟩
    exact ⟨.outer h hparent hclear, hbound⟩

theorem Rooted.resolve?_eq_some_iff (h : tree.Rooted) :
    tree.resolve? s name = some q ↔ tree.Nearest name s q := by
  induction s using Nat.strong_induction_on with
  | h s ih =>
    rw [h.resolve?_eq]
    split
    · rw [Option.some.injEq, nearest_of_bound ‹_›]
    · rename_i hbound
      rw [nearest_of_free (Option.not_isSome_iff_eq_none.mp hbound)]
      cases hparent : tree.parent? s with
      | none => simp
      | some p => simp [ih p (h s p hparent)]

theorem Rooted.binding?_of_nearest (h : tree.Rooted) (hq : tree.Nearest name s q) :
    tree.binding? q name = some (tree.lookup s name) := by
  obtain ⟨hclear, hbound⟩ := hq
  induction hclear with
  | self s =>
    obtain ⟨value, hvalue⟩ := Option.ne_none_iff_exists'.mp hbound
    rw [h.lookup_eq, hvalue, Option.getD_some]
  | outer hfree hparent _ ih =>
    rw [h.lookup_eq, hfree, hparent]
    exact ih hbound

theorem Rooted.resolve?_eq_none_iff (h : tree.Rooted) :
    tree.resolve? s name = none ↔ ∀ q, tree.Outward s q → tree.binding? q name = none := by
  constructor
  · intro hnone q hq
    induction hq with
    | self s =>
      by_contra hbound
      have hsome := h.resolve?_eq_some_iff.mpr ⟨.self s, hbound⟩
      rw [hnone] at hsome
      cases hsome
    | outer hparent _ ih =>
      rw [h.resolve?_eq, hparent] at hnone
      split at hnone
      · cases hnone
      · exact ih hnone
  · intro hfree
    by_contra hsome
    obtain ⟨q, hq⟩ := Option.ne_none_iff_exists'.mp hsome
    obtain ⟨hclear, hbound⟩ := h.resolve?_eq_some_iff.mp hq
    exact hbound (hfree q hclear.outward)

theorem Rooted.lookup_eq_undefined (h : tree.Rooted) (hnone : tree.resolve? s name = none) :
    tree.lookup s name = .undefined := by
  induction s using Nat.strong_induction_on with
  | h s ih =>
    rw [h.resolve?_eq] at hnone
    split at hnone
    · cases hnone
    · rename_i hbound
      rw [h.lookup_eq, Option.not_isSome_iff_eq_none.mp hbound, Option.getD_none]
      cases hparent : tree.parent? s with
      | none => rfl
      | some p =>
        rw [hparent] at hnone
        exact ih p (h s p hparent) hnone

theorem Rooted.finds (h : tree.Rooted) (s : Nat) (name : String) : tree.Finds s name :=
  ⟨fun _ => h.resolve?_eq_some_iff, fun _ => h.binding?_of_nearest, h.resolve?_eq_none_iff,
    h.lookup_eq_undefined⟩

/-! ## What a write changes -/

/-- Binds a name in a scope itself, in the tree alone. -/
def put (tree : ScopeTree) (number : Nat) (name : String) (value : Value) : ScopeTree :=
  ⟨tree.entries.modify number fun entry =>
    { entry with scope.bindings := entry.scope.bindings.put name value }⟩

theorem setScope_eq_put (hs : tree.entries[s]? = some entry) :
    tree.setScope s { entry.scope with bindings := entry.scope.bindings.put name value } =
      tree.put s name value := by
  refine congrArg ScopeTree.mk (List.ext_getElem? fun q => ?_)
  rw [List.getElem?_modify, List.getElem?_modify]
  by_cases hq : s = q
  · subst hq
    simp [hs]
  · simp [hq]

theorem setScope_self (hs : tree.entries[s]? = some entry) :
    tree.setScope s entry.scope = tree := by
  refine congrArg ScopeTree.mk (List.ext_getElem? fun q => ?_)
  rw [List.getElem?_modify]
  by_cases hq : s = q
  · subst hq
    simp [hs]
  · simp [hq]

/-- Scopes that are written back as they are change nothing. -/
theorem Rooted.setScopes_around (h : tree.Rooted) (hs : s < tree.entries.length)
    (hsame : ∀ q ≤ s, tree'.entries[q]? = tree.entries[q]?) :
    setScopes (tree.path s) (tree.around s) tree' = tree' := by
  induction s, hs using h.outward with
  | root s entry hs hparent =>
    rw [path_root hs hparent, around_root hs hparent]
    exact setScope_self ((hsame s le_rfl).trans hs)
  | child s p entry hs hp hparent hlt ih =>
    rw [h.path_child hs hparent, h.around_child hs hparent, setScopes,
      setScope_self ((hsame s le_rfl).trans hs)]
    exact ih fun q hq => hsame q (hq.trans hlt.le)

/-- Of an environment in which the innermost scope alone is changed, this one is written. -/
theorem Rooted.write_inner (h : tree.Rooted) (hs : tree.entries[s]? = some entry)
    {outer : List Scope} (haround : tree.around s = entry.scope :: outer) (scope : Scope) :
    tree.write s ⟨scope, outer⟩ = tree.setScope s scope := by
  show setScopes (tree.path s) (scope :: outer) tree = _
  cases hparent : entry.parent with
  | none =>
    rw [around_root hs hparent] at haround
    obtain rfl := (List.cons.inj haround).2
    rw [path_root hs hparent]
    rfl
  | some p =>
    have hlt : p < s := h s p ((parent?_eq hs).trans hparent)
    rw [h.around_child hs hparent] at haround
    rw [h.path_child hs hparent, setScopes, ← (List.cons.inj haround).2]
    refine h.setScopes_around (hlt.trans (lt_length hs)) fun q hq => ?_
    have hne : s ≠ q := by omega
    simp [setScope, hne]

/-- An environment that is written back as it is changes nothing. -/
theorem Rooted.write_self (h : tree.Rooted) {environment : Environment}
    (henvironment : tree.environment? s = some environment) :
    tree.write s environment = tree := by
  cases hs : tree.entries[s]? with
  | none =>
    rw [environment?_eq, around, path_absent hs] at henvironment
    cases henvironment
  | some entry =>
    obtain ⟨outer, hfound, haround⟩ := h.exists_environment? hs
    cases hfound.symm.trans henvironment
    rw [h.write_inner hs haround, setScope_self hs]

theorem Rooted.overwriteIn?_eq_none (h : tree.Rooted) (hs : s < tree.entries.length)
    (value : Value) (hnone : tree.resolve? s name = none) :
    Scope.overwriteIn? name value (tree.around s) = none := by
  induction s, hs using h.outward with
  | root s entry hs hparent =>
    rw [h.resolve?_eq, binding?_eq hs] at hnone
    split at hnone
    · cases hnone
    · simp [around_root hs hparent, Scope.overwriteIn?, Fields.has, *]
  | child s p entry hs hp hparent hlt ih =>
    rw [h.resolve?_eq, binding?_eq hs, parent?_eq hs, hparent] at hnone
    split at hnone
    · cases hnone
    · simp [h.around_child hs hparent, Scope.overwriteIn?, Fields.has, ih hnone, *]

/-- A name that is bound around a scope is bound anew where it is found. -/
theorem Rooted.setScopes_overwritten (h : tree.Rooted) (hs : s < tree.entries.length)
    (value : Value) (hfound : tree.resolve? s name = some q) :
    ∃ inner outer, Scope.overwriteIn? name value (tree.around s) = some (inner :: outer) ∧
      setScopes (tree.path s) (inner :: outer) tree = tree.put q name value := by
  have hbound {s : Nat} {entry : Entry} (hs : tree.entries[s]? = some entry)
      (hhas : entry.scope.bindings.has name) : ∃ inner outer,
        Scope.overwriteIn? name value (tree.around s) = some (inner :: outer) ∧
          setScopes (tree.path s) (inner :: outer) tree = tree.put s name value := by
    obtain ⟨outer, -, haround⟩ := h.exists_environment? hs
    rw [haround, Scope.overwriteIn?, if_pos hhas]
    exact ⟨_, _, rfl, (h.write_inner hs haround _).trans (setScope_eq_put hs)⟩
  induction s, hs using h.outward with
  | root s entry hs hparent =>
    rw [h.resolve?_eq, binding?_eq hs, parent?_eq hs, hparent] at hfound
    split at hfound
    · cases hfound
      exact hbound hs ‹_›
    · cases hfound
  | child s p entry hs hp hparent hlt ih =>
    rw [h.resolve?_eq, binding?_eq hs, parent?_eq hs, hparent] at hfound
    split at hfound
    · cases hfound
      exact hbound hs ‹_›
    · rename_i hfree
      have hhas : ¬ entry.scope.bindings.has name := hfree
      obtain ⟨inner, outer, hover, hwrite⟩ := ih hfound
      refine ⟨entry.scope, inner :: outer, ?_, ?_⟩
      · rw [h.around_child hs hparent, Scope.overwriteIn?, if_neg hhas, hover]
        rfl
      · rw [h.path_child hs hparent, setScopes, setScope_self hs, hwrite]

/-- An assignment binds a name where it is found, or else in the scope itself. -/
theorem Rooted.assign_eq_put (h : tree.Rooted) (hs : s < tree.entries.length) :
    tree.assign s name value = tree.put ((tree.resolve? s name).getD s) name value := by
  have hentry := List.getElem?_eq_getElem hs
  obtain ⟨outer, henvironment, haround⟩ := h.exists_environment? hentry
  rw [assign, change, henvironment]
  cases hfound : tree.resolve? s name with
  | none =>
    have hover := h.overwriteIn?_eq_none hs value hfound
    rw [haround] at hover
    have hassign : Environment.assign ⟨tree.entries[s].scope, outer⟩ name value =
        ⟨{ tree.entries[s].scope with
          bindings := tree.entries[s].scope.bindings.put name value }, outer⟩ := by
      rw [Environment.assign, Environment.scopes, hover]
      rfl
    show tree.write s (Environment.assign _ name value) = _
    rw [hassign, h.write_inner hentry haround, setScope_eq_put hentry]
    rfl
  | some q =>
    obtain ⟨inner, outer', hover, hwrite⟩ :=
      h.setScopes_overwritten hs value hfound
    rw [haround] at hover
    have hassign : Environment.assign ⟨tree.entries[s].scope, outer⟩ name value =
        ⟨inner, outer'⟩ := by
      rw [Environment.assign, Environment.scopes, hover]
    show tree.write s (Environment.assign _ name value) = _
    rw [hassign]
    exact hwrite

theorem parent?_put : (tree.put t name value).parent? s = tree.parent? s := by
  rw [parent?, parent?, put, List.getElem?_modify]
  cases tree.entries[s]? with
  | none => rfl
  | some entry => by_cases h : t = s <;> simp [h]

theorem Rooted.put (h : tree.Rooted) : (tree.put t name value).Rooted := by
  intro s p hparent
  rw [parent?_put] at hparent
  exact h s p hparent

theorem binding?_put (ht : t < tree.entries.length) : (tree.put t name value).binding? q other =
    if q = t ∧ other = name then some value else tree.binding? q other := by
  rw [binding?, binding?, put, List.getElem?_modify]
  by_cases hq : t = q
  · subst hq
    rw [List.getElem?_eq_getElem ht]
    simp [Fields.get?_put]
  · have hne : q ≠ t := Ne.symm hq
    cases tree.entries[q]? <;> simp [hq, hne]

theorem binding?_put_of_ne (ht : t < tree.entries.length) (hq : q ≠ t) :
    (tree.put t name value).binding? q other = tree.binding? q other := by
  rw [binding?_put ht, if_neg fun h => hq h.1]

/-- A new binding is seen from where one gets to its scope before any other binding of the name. -/
theorem Rooted.lookup_put_of_clear (h : tree.Rooted) (ht : t < tree.entries.length)
    (hclear : tree.Clear name q t) : (tree.put t name value).lookup q name = value := by
  induction hclear with
  | self t => rw [h.put.lookup_eq, binding?_put ht, if_pos ⟨rfl, rfl⟩, Option.getD_some]
  | @outer s p t hfree hparent _ ih =>
    rw [h.put.lookup_eq, parent?_put, hparent, binding?_put ht, hfree]
    split
    · rfl
    · exact ih ht

/-- From everywhere else it is not seen. -/
theorem Rooted.lookup_put_of_not_clear (h : tree.Rooted) (ht : t < tree.entries.length)
    (hclear : ¬ tree.Clear name q t) :
    (tree.put t name value).lookup q name = tree.lookup q name := by
  induction q using Nat.strong_induction_on with
  | h q ih =>
    have hne : q ≠ t := by
      rintro rfl
      exact hclear (.self q)
    rw [h.put.lookup_eq, h.lookup_eq, parent?_put, binding?_put_of_ne ht hne]
    cases hfree : tree.binding? q name with
    | some found => rfl
    | none =>
      cases hparent : tree.parent? q with
      | none => rfl
      | some p =>
        exact ih p (h q p hparent) fun hbehind => hclear (.outer hfree hparent hbehind)

theorem Rooted.lookup_put_of_ne (h : tree.Rooted) (ht : t < tree.entries.length)
    (hne : other ≠ name) : (tree.put t name value).lookup q other = tree.lookup q other := by
  induction q using Nat.strong_induction_on with
  | h q ih =>
    rw [h.put.lookup_eq, h.lookup_eq, parent?_put, binding?_put ht, if_neg fun heq => hne heq.2]
    cases hparent : tree.parent? q with
    | none => rfl
    | some p => rw [Option.elim_some, Option.elim_some, ih p (h q p hparent)]

/-- From a scope and from another one the same binding of a name is seen: both find it in the same
scope, or the first one finds none and the other one gets to it before it gets to any binding. -/
def Shares (tree : ScopeTree) (name : String) (s q : Nat) : Prop :=
  (∃ r, tree.resolve? s name = some r ∧ tree.resolve? q name = some r) ∨
    (tree.resolve? s name = none ∧ tree.Clear name q s)

/-- What an assignment in a scope changes in a tree. -/
structure Assigned (before after : ScopeTree) (s : Nat) (name : String) (value : Value) : Prop where
  here : after.lookup s name = value
  shared : ∀ q, before.Shares name s q → after.lookup q name = value
  apart : ∀ q, ¬ before.Shares name s q → after.lookup q name = before.lookup q name
  others : ∀ q other, other ≠ name → after.lookup q other = before.lookup q other
  kept : ∀ q other, before.binding? q other ≠ none → after.binding? q other ≠ none
  added : ∀ q other, before.binding? q other = none → after.binding? q other ≠ none →
    q = s ∧ other = name ∧ before.resolve? s name = none

/-- What a declaration in a scope changes in a tree. -/
structure Declared (before after : ScopeTree) (s : Nat) (name : String) (value : Value) : Prop where
  here : after.lookup s name = value
  within : ∀ q, before.Clear name q s → after.lookup q name = value
  apart : ∀ q, ¬ before.Clear name q s → after.lookup q name = before.lookup q name
  others : ∀ q other, other ≠ name → after.lookup q other = before.lookup q other
  bound : after.binding? s name = some value
  kept : ∀ q other, (q ≠ s ∨ other ≠ name) → after.binding? q other = before.binding? q other

theorem Rooted.clear_iff_shares (h : tree.Rooted) :
    tree.Clear name q ((tree.resolve? s name).getD s) ↔ tree.Shares name s q := by
  unfold Shares
  cases hfound : tree.resolve? s name with
  | none => simp
  | some r =>
    have hbound := (h.resolve?_eq_some_iff.mp hfound).2
    simp [h.resolve?_eq_some_iff, Nearest, hbound]

theorem binding?_absent (hs : ¬ s < tree.entries.length) : tree.binding? s name = none := by
  rw [binding?, List.getElem?_eq_none (not_lt.mp hs), Option.bind_none]

theorem Rooted.resolved_lt (h : tree.Rooted) (hs : s < tree.entries.length) (name : String) :
    (tree.resolve? s name).getD s < tree.entries.length := by
  cases hfound : tree.resolve? s name with
  | none => exact hs
  | some r =>
    by_contra hr
    exact (h.resolve?_eq_some_iff.mp hfound).2 (binding?_absent hr)

theorem Rooted.assigned (h : tree.Rooted) (hs : s < tree.entries.length) :
    Assigned tree (tree.assign s name value) s name value := by
  have ht := h.resolved_lt hs name
  have hshares (q : Nat) :
      tree.Clear name q ((tree.resolve? s name).getD s) ↔ tree.Shares name s q :=
    h.clear_iff_shares
  rw [h.assign_eq_put hs]
  refine ⟨?_, fun q hq => h.lookup_put_of_clear ht ((hshares q).mpr hq),
    fun q hq => h.lookup_put_of_not_clear ht fun hclear => hq ((hshares q).mp hclear),
    fun q other => h.lookup_put_of_ne ht, fun q other hbound => ?_, fun q other hfree hbound => ?_⟩
  · refine h.lookup_put_of_clear ht ((hshares s).mpr ?_)
    cases hfound : tree.resolve? s name with
    | none => exact .inr ⟨hfound, .self s⟩
    | some r => exact .inl ⟨r, hfound, hfound⟩
  · rw [binding?_put ht]
    split
    · exact Option.some_ne_none _
    · exact hbound
  · rw [binding?_put ht] at hbound
    split at hbound
    · rename_i hnew
      obtain ⟨rfl, rfl⟩ := hnew
      cases hfound : tree.resolve? s other with
      | none => exact ⟨rfl, rfl, rfl⟩
      | some r =>
        rw [hfound] at hfree
        exact absurd hfree (h.resolve?_eq_some_iff.mp hfound).2
    · exact absurd hfree hbound

theorem Rooted.declared (h : tree.Rooted) (hs : s < tree.entries.length) :
    Declared tree (tree.put s name value) s name value := by
  refine ⟨h.lookup_put_of_clear hs (.self s), fun q => h.lookup_put_of_clear hs,
    fun q => h.lookup_put_of_not_clear hs, fun q other => h.lookup_put_of_ne hs, ?_,
    fun q other hne => ?_⟩
  · rw [binding?_put hs, if_pos ⟨rfl, rfl⟩]
  · rw [binding?_put hs, if_neg (by tauto)]

/-! ## What is done in a tree -/

namespace World

variable {world : World} {context : Context}

/-- A tree that is built scope by scope, by whatever is done in its scopes: declarations,
assignments, whole templates. -/
inductive Built : World → Prop
  | empty : Built .empty
  | addRoot {world : World} (h : Built world) (context : Context) (start : Eval Unit) :
    Built (world.addRoot context start).2
  | addChild {world : World} (h : Built world) {parent : Nat}
    (hparent : parent < world.tree.entries.length) (tests : Option (List Test)) :
    Built (world.addChild parent tests).2
  | run {world : World} (h : Built world) (number : Nat) (context : Context) {α : Type}
    (x : Eval α) : Built (world.run number context x).2

end World

theorem Rooted.add (h : tree.Rooted) {parent : Option Nat}
    (hparent : ∀ p ∈ parent, p < tree.entries.length) (scope : Scope) :
    (tree.add parent scope).Rooted := by
  intro s p hp
  rw [parent?, ScopeTree.add] at hp
  rcases Nat.lt_trichotomy s tree.entries.length with hs | rfl | hs
  · rw [List.getElem?_append_left hs] at hp
    exact h s p hp
  · rw [List.getElem?_concat_length] at hp
    exact hparent p hp
  · rw [List.getElem?_eq_none (by simp; omega)] at hp
    cases hp

theorem parent?_setScopes (numbers : List Nat) (scopes : List Scope) (tree : ScopeTree) (s : Nat) :
    (setScopes numbers scopes tree).parent? s = tree.parent? s := by
  fun_induction setScopes numbers scopes tree with
  | case1 number numbers scope scopes tree ih =>
    rw [ih, parent?, parent?, setScope, List.getElem?_modify]
    cases tree.entries[s]? with
    | none => rfl
    | some entry => by_cases h : number = s <;> simp [h]
  | case2 => rfl

theorem World.Built.rooted {world : World} (h : world.Built) : world.tree.Rooted := by
  induction h with
  | empty => exact nofun
  | addRoot _ context start ih =>
    unfold World.addRoot
    split
    · exact ih.add (fun p hp => (Option.not_mem_none p hp).elim) _
    · exact ih
  | addChild _ hparent tests ih =>
    exact ih.add (fun p hp => Option.some.inj hp ▸ hparent) _
  | run _ number context x ih =>
    intro s p hp
    rw [World.run] at hp
    exact ih s p ((parent?_setScopes _ _ _ s).symm.trans hp)

namespace World

variable {world : World} {context : Context}

theorem run_lookup (h : world.tree.Rooted) (hs : s < world.tree.entries.length) :
    world.run s context (Eval.ofEnvironment (·.lookup name)) =
      (.ok (world.tree.lookup s name), world) := by
  obtain ⟨outer, henvironment, -⟩ := h.exists_environment? (List.getElem?_eq_getElem hs)
  simp only [run, ScopeTree.lookup, henvironment, Eval.ofEnvironment, Option.getD_some,
    Option.map_some, h.write_self henvironment]

theorem run_assignName (h : world.tree.Rooted) (hs : s < world.tree.entries.length) :
    world.run s context (Eval.assignName name value) =
      (.ok (), ⟨world.tree.assign s name value, world.memory⟩) := by
  obtain ⟨outer, henvironment, -⟩ := h.exists_environment? (List.getElem?_eq_getElem hs)
  simp only [run, ScopeTree.assign, change, henvironment, Eval.assignName, Eval.changeEnvironment,
    Option.getD_some]

theorem run_declare (h : world.tree.Rooted) (hs : s < world.tree.entries.length) :
    world.run s context (Eval.declare name value) =
      if world.tree.binding? s name = none
      then (.ok (), ⟨world.tree.put s name value, world.memory⟩)
      else (.error (.alreadyDeclared name), world) := by
  have hentry := List.getElem?_eq_getElem hs
  obtain ⟨outer, henvironment, haround⟩ := h.exists_environment? hentry
  have hhas : world.tree.entries[s].scope.bindings.has name =
      (world.tree.binding? s name).isSome := by
    rw [binding?_eq hentry]
    rfl
  have hdeclare : Eval.declare name value context
      ⟨world.memory, ⟨world.tree.entries[s].scope, outer⟩⟩ =
        if world.tree.binding? s name = none
        then (.ok (), ⟨world.memory, Environment.bind ⟨world.tree.entries[s].scope, outer⟩ name
          value⟩)
        else (.error (.alreadyDeclared name), ⟨world.memory,
          ⟨world.tree.entries[s].scope, outer⟩⟩) := by
    show (if world.tree.entries[s].scope.bindings.has name then _ else _ : Eval Unit) _ _ = _
    rw [hhas]
    cases world.tree.binding? s name <;> rfl
  rw [run, henvironment, Option.getD_some, hdeclare]
  by_cases hfree : world.tree.binding? s name = none
  · simp only [if_pos hfree, Environment.bind]
    rw [h.write_inner hentry haround, setScope_eq_put hentry]
  · simp only [if_neg hfree, h.write_self henvironment]

/-- In a tree of scopes, lookups and resolutions find the nearest binding, an assignment changes
this one binding or adds one, and a declaration adds one where there is none. -/
theorem run_in_scope (h : world.Built) (hs : s < world.tree.entries.length) (context : Context)
    (name : String) (value : Value) :
    (world.tree.Finds s name ∧
      world.run s context (Eval.ofEnvironment (·.lookup name)) =
        (.ok (world.tree.lookup s name), world)) ∧
    (∃ after, world.run s context (Eval.assignName name value) =
        (.ok (), ⟨after, world.memory⟩) ∧ Assigned world.tree after s name value) ∧
    (world.tree.binding? s name ≠ none → world.run s context (Eval.declare name value) =
        (.error (.alreadyDeclared name), world)) ∧
    (world.tree.binding? s name = none → ∃ after,
      world.run s context (Eval.declare name value) = (.ok (), ⟨after, world.memory⟩) ∧
        Declared world.tree after s name value) := by
  have hrooted := h.rooted
  refine ⟨⟨hrooted.finds s name, run_lookup hrooted hs⟩,
    ⟨_, run_assignName hrooted hs, hrooted.assigned hs⟩, fun hbound => ?_, fun hfree => ?_⟩
  · rw [run_declare hrooted hs, if_neg hbound]
  · exact ⟨_, by rw [run_declare hrooted hs, if_pos hfree], hrooted.declared hs⟩

/-- A scope with two others in it; the second one declares a name of its own. -/
def twins : World :=
  let context := Context.ofLibrary Host.stock [] false
  let root := (empty.addRoot context do Eval.startScope Test.all; Eval.declare "x" .null).2
  ((root.addChild 0 none).2.addChild 0 none).2.run 2 context (Eval.declare "y" .null) |>.2

theorem twins_built : twins.Built :=
  .run (.addChild (.addChild (.addRoot .empty _ _) (by decide) _) (by decide) _) _ _ _

/-- What one of two scopes assigns to a name of the scope around them is seen from the other one; a
name that is new in one of them is not. -/
theorem twins_see :
    twins.Built ∧ 1 < twins.tree.entries.length ∧
    (∃ after, twins.run 1 (.ofLibrary Host.stock [] false)
        (Eval.assignName "x" (.bool true)) = (.ok (), ⟨after, twins.memory⟩) ∧
      after.lookup 2 "x" = .bool true) ∧
    ∃ after, twins.run 1 (.ofLibrary Host.stock [] false)
        (Eval.assignName "y" (.bool true)) = (.ok (), ⟨after, twins.memory⟩) ∧
      after.lookup 2 "y" = twins.tree.lookup 2 "y" := by
  have hlength : 1 < twins.tree.entries.length := by decide
  refine ⟨twins_built, hlength, ?_, ?_⟩
  · obtain ⟨-, ⟨after, hrun, hassigned⟩, -⟩ :=
      run_in_scope twins_built hlength (.ofLibrary Host.stock [] false) "x" (.bool true)
    exact ⟨after, hrun, hassigned.shared 2 (.inl ⟨0, by decide, by decide⟩)⟩
  · obtain ⟨-, ⟨after, hrun, hassigned⟩, -⟩ :=
      run_in_scope twins_built hlength (.ofLibrary Host.stock [] false) "y" (.bool true)
    refine ⟨after, hrun, hassigned.apart 2 ?_⟩
    have hown : twins.tree.resolve? 1 "y" = none := by decide
    rintro (⟨r, hr, -⟩ | ⟨-, hclear⟩)
    · rw [hown] at hr
      cases hr
    · cases hclear with
      | outer hfree => exact absurd hfree nofun

end World

end TextTemplate.ScopeTree
