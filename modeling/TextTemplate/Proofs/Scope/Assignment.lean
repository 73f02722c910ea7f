import Mathlib
import TextTemplate.Scope

/-!
# How assignments change variables

An assignment binds a name anew where it is bound, or binds it in the innermost scope. Whatever a
run of assignments does, it unbinds no name and adds none to the outer scopes.
-/

namespace TextTemplate

/-! ## Fields -/

namespace Fields

variable {α : Type} {key name : String} {value : α}

theorem get?_put (fields : Fields α) :
    get? (put key value fields) name = if name = key then some value else get? fields name := by
  induction fields with
  | nil =>
    by_cases h : name = key
    · simp [put, get?, h]
    · simp [put, get?, h, List.lookup, beq_eq_false_iff_ne.mpr h]
  | cons pair rest ih =>
    obtain ⟨k, v⟩ := pair
    simp only [get?] at ih ⊢
    by_cases hk : k = key
    · subst hk
      by_cases h : name = k
      · simp [put, h]
      · simp [put, h, List.lookup, beq_eq_false_iff_ne.mpr h]
    · by_cases h : name = k
      · subst h
        simp [put, hk, List.lookup]
      · simp [put, hk, List.lookup, beq_eq_false_iff_ne.mpr h, ih]

theorem has_iff_mem_keys (fields : Fields α) : fields.has name ↔ name ∈ fields.keys := by
  induction fields with
  | nil => simp [has, get?, keys]
  | cons pair rest ih =>
    obtain ⟨k, v⟩ := pair
    simp only [has, get?, keys] at ih ⊢
    by_cases h : name = k
    · simp [h]
    · simp [List.lookup, beq_eq_false_iff_ne.mpr h, h, ih]

/-- A key that is present keeps its place. -/
theorem keys_put_of_mem {fields : Fields α} (h : key ∈ fields.keys) :
    keys (put key value fields) = fields.keys := by
  induction fields with
  | nil => cases h
  | cons pair rest ih =>
    obtain ⟨k, v⟩ := pair
    by_cases hk : k = key
    · simp [put, hk, keys]
    · have hrest : key ∈ keys rest := by
        rcases List.mem_cons.mp h with heq | hrest
        · exact absurd heq.symm hk
        · exact hrest
      have := ih hrest
      simp only [keys] at this ⊢
      simp [put, hk, this]

theorem mem_keys_put (fields : Fields α) :
    name ∈ keys (put key value fields) ↔ name = key ∨ name ∈ fields.keys := by
  simp only [← has_iff_mem_keys, has, get?_put]
  by_cases h : name = key <;> simp [h]

end Fields

/-! ## Scopes -/

namespace Scope

/-- The names that are bound in a scope. -/
def names (scope : Scope) : List String := scope.bindings.keys

variable {name : String} {value : Value} {scopes changed : List Scope}

/-- What is bound anew is bound already, so every scope keeps its names. -/
theorem names_of_overwriteIn? (h : overwriteIn? name value scopes = some changed) :
    changed.map names = scopes.map names := by
  induction scopes generalizing changed with
  | nil => cases h
  | cons scope rest ih =>
    unfold overwriteIn? at h
    split at h
    · rename_i hhas
      cases h
      have hkeys : (scope.bindings.put name value).keys = scope.bindings.keys :=
        Fields.keys_put_of_mem ((Fields.has_iff_mem_keys _).mp hhas)
      simp [names, hkeys]
    · obtain ⟨others, hothers, rfl⟩ := Option.map_eq_some_iff.mp h
      simp [ih hothers]

/-- All other names keep their bindings. -/
theorem get?_of_overwriteIn? {other : String} (h : overwriteIn? name value scopes = some changed)
    (hne : other ≠ name) :
    changed.map (·.bindings.get? other) = scopes.map (·.bindings.get? other) := by
  induction scopes generalizing changed with
  | nil => cases h
  | cons scope rest ih =>
    unfold overwriteIn? at h
    split at h
    · cases h
      simp [Fields.get?_put, hne]
    · obtain ⟨others, hothers, rfl⟩ := Option.map_eq_some_iff.mp h
      simp [ih hothers]

end Scope

/-! ## Environments -/

namespace Environment

/-- One assignment: a name of the first kind is bound in the innermost scope, or one of the second
kind is bound anew in the first scope that binds it. -/
inductive Step (here anywhere : String → Prop) : Environment → Environment → Prop
  | bind {env : Environment} {name : String} (value : Value) (h : here name) :
    Step here anywhere env (env.bind name value)
  | rebind {env : Environment} {name : String} {value : Value} {inner : Scope} {outer : List Scope}
    (h : anywhere name) (ho : Scope.overwriteIn? name value env.scopes = some (inner :: outer)) :
    Step here anywhere env ⟨inner, outer⟩

/-- Any number of assignments. -/
abbrev Reach (here anywhere : String → Prop) : Environment → Environment → Prop :=
  Relation.ReflTransGen (Step here anywhere)

variable {here anywhere : String → Prop} {before after : Environment}

theorem reach_assign (env : Environment) (name : String) (value : Value) (hhere : here name)
    (hanywhere : anywhere name) : Reach here anywhere env (env.assign name value) := by
  unfold assign
  split
  case h_1 heq => exact .single (.rebind hanywhere heq)
  case h_2 => exact .single (.bind value hhere)

theorem reach_eq_of_forall_not (h : Reach here anywhere before after) (hhere : ∀ name, ¬here name)
    (hanywhere : ∀ name, ¬anywhere name) : after = before := by
  induction h with
  | refl => rfl
  | tail _ hstep _ =>
    cases hstep with
    | bind value h => exact absurd h (hhere _)
    | rebind h _ => exact absurd h (hanywhere _)

/-! ### Names -/

theorem Step.names (h : Step here anywhere before after) :
    after.outer.map Scope.names = before.outer.map Scope.names ∧
      (∀ name ∈ before.inner.names, name ∈ after.inner.names) ∧
      ∀ name ∈ after.inner.names, name ∈ before.inner.names ∨ here name := by
  cases h with
  | @bind name value h =>
    refine ⟨rfl, fun other hother => ?_, fun other hother => ?_⟩
    · exact (Fields.mem_keys_put _).mpr (.inr hother)
    · rcases (Fields.mem_keys_put _).mp hother with rfl | hother
      · exact .inr h
      · exact .inl hother
  | rebind h ho =>
    have hnames := Scope.names_of_overwriteIn? ho
    simp only [scopes, List.map_cons, List.cons.injEq] at hnames
    exact ⟨hnames.2, fun _ hother => hnames.1 ▸ hother, fun _ hother => .inl (hnames.1 ▸ hother)⟩

/-- Assignments unbind nothing, and they add names to the innermost scope only. -/
theorem Reach.names (h : Reach here anywhere before after) :
    after.outer.map Scope.names = before.outer.map Scope.names ∧
      (∀ name ∈ before.inner.names, name ∈ after.inner.names) ∧
      ∀ name ∈ after.inner.names, name ∈ before.inner.names ∨ here name := by
  induction h with
  | refl => exact ⟨rfl, fun _ h => h, fun _ h => .inl h⟩
  | tail _ hstep ih =>
    obtain ⟨houter, hkept, hadded⟩ := ih
    obtain ⟨houter', hkept', hadded'⟩ := hstep.names
    refine ⟨houter'.trans houter, fun name h => hkept' name (hkept name h), fun name h => ?_⟩
    rcases hadded' name h with h | h
    · exact hadded name h
    · exact .inr h

/-- Where no name may be bound in the innermost scope, all scopes keep their names. -/
theorem Reach.names_of_forall_not (h : Reach here anywhere before after)
    (hhere : ∀ name, ¬here name) :
    after.scopes.map Scope.names = before.scopes.map Scope.names := by
  induction h with
  | refl => rfl
  | tail _ hstep ih =>
    cases hstep with
    | bind value h => exact absurd h (hhere _)
    | rebind _ ho => exact (Scope.names_of_overwriteIn? ho).trans ih

/-! ### Bindings -/

theorem Step.get? {name : String} (h : Step here anywhere before after) (hhere : ¬here name)
    (hanywhere : ¬anywhere name) :
    after.scopes.map (·.bindings.get? name) = before.scopes.map (·.bindings.get? name) := by
  cases h with
  | @bind other value h =>
    have hne : name ≠ other := fun heq => hhere (heq ▸ h)
    simp [scopes, Environment.bind, Fields.get?_put, hne]
  | @rebind other _ _ _ h ho =>
    exact Scope.get?_of_overwriteIn? ho fun heq => hanywhere (heq ▸ h)

/-- Names that are not assigned to keep their bindings in every scope. -/
theorem Reach.get? {name : String} (h : Reach here anywhere before after) (hhere : ¬here name)
    (hanywhere : ¬anywhere name) :
    after.scopes.map (·.bindings.get? name) = before.scopes.map (·.bindings.get? name) := by
  induction h with
  | refl => rfl
  | tail _ hstep ih => exact (hstep.get? hhere hanywhere).trans ih

/-! ### Leaving a scope -/

theorem Step.leave {here' : String → Prop} {parent : Scope} {ancestors : List Scope}
    (h : Step here' anywhere before after) (houter : before.outer = parent :: ancestors) :
    Reach here anywhere before.leave after.leave ∧
      ∃ parent' ancestors', after.outer = parent' :: ancestors' := by
  cases h with
  | bind value h =>
    refine ⟨?_, parent, ancestors, houter⟩
    simp only [leave, Environment.bind, houter]
    exact .refl
  | @rebind _ _ _ outer h ho =>
    simp only [scopes, houter] at ho
    unfold Scope.overwriteIn? at ho
    split at ho
    · cases ho
      refine ⟨?_, parent, ancestors, rfl⟩
      simp only [leave, houter]
      exact .refl
    · obtain ⟨others, hothers, heq⟩ := Option.map_eq_some_iff.mp ho
      cases heq
      have hlength := congrArg List.length (Scope.names_of_overwriteIn? hothers)
      cases outer with
      | nil => simp at hlength
      | cons parent' ancestors' =>
        refine ⟨?_, parent', ancestors', rfl⟩
        simp only [leave, houter]
        exact .single (.rebind h hothers)

/-- Assignments inside a scope do to the scopes around it what assignments there do, except that
they bind no names. -/
theorem Reach.leave {here' : String → Prop} {parent : Scope} {ancestors : List Scope}
    (h : Reach here' anywhere before after) (houter : before.outer = parent :: ancestors) :
    Reach here anywhere before.leave after.leave ∧
      ∃ parent' ancestors', after.outer = parent' :: ancestors' := by
  induction h with
  | refl => exact ⟨.refl, parent, ancestors, houter⟩
  | tail _ hstep ih =>
    obtain ⟨hreach, _, _, hbetween⟩ := ih
    obtain ⟨hlast, hafter⟩ := hstep.leave hbetween
    exact ⟨hreach.trans hlast, hafter⟩

end Environment

end TextTemplate
