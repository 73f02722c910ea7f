import TextTemplate.Proofs.Value.Fields

/-!
# What variables hold

What the values of all variables have in common stays so when a good value is bound or assigned, and
when a scope is entered or left.
-/

namespace TextTemplate

/-- The values of all variables are good ones. -/
def Environment.All (good : Value → Prop) (environment : Environment) : Prop :=
  ∀ scope ∈ environment.scopes, Fields.All good scope.bindings

namespace Environment

variable {good : Value → Prop} {environment : Environment} {value : Value}

theorem All.bind (h : environment.All good) (name : String) (hvalue : good value) :
    (environment.bind name value).All good := by
  obtain ⟨hinner, houter⟩ := List.forall_mem_cons.mp h
  exact List.forall_mem_cons.mpr ⟨hinner.put name hvalue, houter⟩

theorem all_of_overwriteIn? {name : String} (hvalue : good value) {scopes scopes' : List Scope}
    (h : ∀ scope ∈ scopes, Fields.All good scope.bindings)
    (hfound : Scope.overwriteIn? name value scopes = some scopes') :
    ∀ scope ∈ scopes', Fields.All good scope.bindings := by
  induction scopes generalizing scopes' with
  | nil => cases hfound
  | cons scope rest ih =>
    obtain ⟨hscope, hrest⟩ := List.forall_mem_cons.mp h
    simp only [Scope.overwriteIn?] at hfound
    split at hfound
    · cases hfound
      exact List.forall_mem_cons.mpr ⟨hscope.put name hvalue, hrest⟩
    · obtain ⟨rest', hrest', rfl⟩ := Option.map_eq_some_iff.mp hfound
      exact List.forall_mem_cons.mpr ⟨hscope, ih hrest hrest'⟩

theorem All.assign (h : environment.All good) (name : String) (hvalue : good value) :
    (environment.assign name value).All good := by
  unfold Environment.assign
  split
  · rename_i hfound
    exact all_of_overwriteIn? hvalue h hfound
  · exact h.bind name hvalue

theorem All.enter (h : environment.All good) : environment.enter.All good :=
  List.forall_mem_cons.mpr ⟨nofun, h⟩

theorem All.leave (h : environment.All good) : environment.leave.All good := by
  unfold Environment.leave
  split
  · exact h
  · rename_i houter
    obtain ⟨-, hrest⟩ := List.forall_mem_cons.mp h
    rwa [houter] at hrest

/-- A name stands for a good value if `undefined` is one. -/
theorem All.lookup (h : environment.All good) (hundefined : good .undefined) (name : String) :
    good (environment.lookup name) := by
  have hscopes : ∀ scopes : List Scope, (∀ scope ∈ scopes, Fields.All good scope.bindings) →
      good ((Scope.lookupIn? name scopes).getD .undefined) := by
    intro scopes hscopes
    induction scopes with
    | nil => exact hundefined
    | cons scope rest ih =>
      obtain ⟨hscope, hrest⟩ := List.forall_mem_cons.mp hscopes
      simp only [Scope.lookupIn?]
      split
      · rename_i hget
        exact hscope.get? hget
      · exact ih hrest
  exact hscopes _ h

end Environment

end TextTemplate
