import TextTemplate.Proofs.Matching.Scope

/-!
# Where assignments write

An assignment changes one binding in one scope: that of its name in the scope that resolves the
name, or in the innermost scope if none does. So where a name is written does not depend on what was
assigned before.
-/

namespace TextTemplate

variable {name other : String} {value : Value}

namespace Scope

variable {scopes changed : List Scope}

/-- The binding of a name in the scope at a depth. -/
def bindingIn? (scopes : List Scope) (depth : Nat) (name : String) : Option Value :=
  scopes[depth]?.bind (·.bindings.get? name)

theorem overwriteIn?_eq_none_iff :
    overwriteIn? name value scopes = none ↔ depthIn? name scopes = none := by
  induction scopes with
  | nil => simp [overwriteIn?, depthIn?]
  | cons scope rest ih =>
    unfold overwriteIn? depthIn?
    split <;> simp [ih]

theorem bindingIn?_of_overwriteIn? (h : overwriteIn? name value scopes = some changed)
    (depth : Nat) :
    bindingIn? changed depth other =
      if other = name ∧ depthIn? name scopes = some depth then some value
      else bindingIn? scopes depth other := by
  induction scopes generalizing changed depth with
  | nil => cases h
  | cons scope rest ih =>
    unfold overwriteIn? at h
    unfold depthIn?
    split at h
    · rename_i hhas
      cases h
      cases depth with
      | zero => simp [bindingIn?, Fields.get?_put, hhas]
      | succ depth => simp [bindingIn?, hhas]
    · rename_i hhas
      obtain ⟨others, hothers, rfl⟩ := Option.map_eq_some_iff.mp h
      cases depth with
      | zero => simp [bindingIn?, hhas]
      | succ depth => simpa [bindingIn?, hhas] using ih hothers depth

/-- The depth of a name depends only on which scopes have it. -/
theorem depthIn?_congr (h : changed.map (·.bindings.has name) = scopes.map (·.bindings.has name)) :
    depthIn? name changed = depthIn? name scopes := by
  induction changed generalizing scopes with
  | nil =>
    obtain rfl := List.map_eq_nil_iff.mp h.symm
    rfl
  | cons scope rest ih =>
    cases scopes with
    | nil => cases h
    | cons scope' rest' =>
      obtain ⟨hscope, hrest⟩ := List.cons_eq_cons.mp h
      dsimp only at hscope
      rw [depthIn?, depthIn?, hscope, ih hrest]

end Scope

namespace Environment

/-- The depth of the scope in which an assignment to a name writes. -/
def writeDepth (env : Environment) (name : String) : Nat := (env.depth? name).getD 0

/-- The binding of a name in the scope at a depth, the innermost one at depth zero. -/
def bindingAt? (env : Environment) (depth : Nat) (name : String) : Option Value :=
  Scope.bindingIn? env.scopes depth name

theorem writeDepth_of_overwriteIn?_eq_none {env : Environment}
    (h : Scope.overwriteIn? name value env.scopes = none) : env.writeDepth name = 0 := by
  rw [writeDepth, depth?, Scope.overwriteIn?_eq_none_iff.mp h]
  rfl

/-- An assignment writes one binding. -/
theorem bindingAt?_assign (env : Environment) (name other : String) (value : Value) (depth : Nat) :
    (env.assign name value).bindingAt? depth other =
      if other = name ∧ depth = env.writeDepth name then some value
      else env.bindingAt? depth other := by
  rcases env.assign_cases name value with h | ⟨hnone, hbind⟩
  · have hbound : Scope.depthIn? name env.scopes = some (env.writeDepth name) := by
      cases hdepth : Scope.depthIn? name env.scopes with
      | none =>
        rw [Scope.overwriteIn?_eq_none_iff.mpr hdepth] at h
        cases h
      | some found => rw [writeDepth, depth?, hdepth, Option.getD_some]
    simp only [bindingAt?, Scope.bindingIn?_of_overwriteIn? h, hbound, Option.some.injEq,
      eq_comm]
  · rw [hbind, writeDepth_of_overwriteIn?_eq_none hnone]
    cases depth with
    | zero => simp [bindingAt?, Scope.bindingIn?, scopes, bind, Fields.get?_put]
    | succ depth => simp [bindingAt?, Scope.bindingIn?, scopes, bind]

/-- Where a name is written stays the same. -/
theorem writeDepth_assign (env : Environment) (name other : String) (value : Value) :
    (env.assign name value).writeDepth other = env.writeDepth other := by
  rcases env.assign_cases name value with h | ⟨hnone, hbind⟩
  · have hhas (scope : Scope) : scope.bindings.has other = decide (other ∈ scope.names) := by
      rw [Bool.eq_iff_iff, Fields.has_iff_mem_keys, decide_eq_true_iff, Scope.names]
    have hnames := congrArg (List.map fun names => decide (other ∈ names))
      (Scope.names_of_overwriteIn? h)
    simp only [List.map_map, Function.comp_def, ← hhas] at hnames
    rw [writeDepth, depth?, Scope.depthIn?_congr hnames]
    rfl
  · by_cases hother : other = name
    · subst hother
      rw [hbind, writeDepth_of_overwriteIn?_eq_none hnone]
      simp [writeDepth, depth?, scopes, bind, Scope.depthIn?, Fields.has, Fields.get?_put]
    · have hbindings := congrArg (List.map Option.isSome) (env.get?_bind value hother)
      simp only [List.map_map, Function.comp_def] at hbindings
      rw [hbind, writeDepth, depth?, Scope.depthIn?_congr hbindings]
      rfl

end Environment

end TextTemplate
