import TextTemplate.Proofs.Matching.Value
import TextTemplate.Proofs.Scope.Assignment

/-!
# Variables in two runs

Two runs may disagree about some names. For every scope it is known of some names that they have
been bound there or further out. In both runs such a name stands for the same from that scope on,
although the scopes that bind it may be different ones: where one run has bound it anew, the other
may have found it bound further out.
-/

namespace TextTemplate

variable {w : Matching} {name other : String} {value value' : Value}

namespace Scope

variable {scopes scopes' changed changed' : List Scope}

theorem lookupIn?_cons (scope : Scope) (rest : List Scope) :
    lookupIn? name (scope :: rest) = (scope.bindings.get? name).or (lookupIn? name rest) := by
  simp only [lookupIn?]
  split <;> simp_all

theorem lookupIn?_congr
    (h : changed.map (·.bindings.get? name) = scopes.map (·.bindings.get? name)) :
    lookupIn? name changed = lookupIn? name scopes := by
  induction changed generalizing scopes with
  | nil =>
    obtain rfl := List.map_eq_nil_iff.mp h.symm
    rfl
  | cons scope rest ih =>
    cases scopes with
    | nil => cases h
    | cons scope' rest' =>
      obtain ⟨hscope, hrest⟩ := List.cons_eq_cons.mp h
      dsimp only at hscope
      rw [lookupIn?_cons, lookupIn?_cons, hscope, ih hrest]

theorem lookupIn?_of_overwriteIn? (h : overwriteIn? name value scopes = some changed) :
    lookupIn? name changed = some value := by
  induction scopes generalizing changed with
  | nil => cases h
  | cons scope rest ih =>
    unfold overwriteIn? at h
    split at h
    · cases h
      simp [lookupIn?_cons, Fields.get?_put]
    · rename_i hhas
      obtain ⟨others, hothers, rfl⟩ := Option.map_eq_some_iff.mp h
      have hnone : scope.bindings.get? name = none := by simpa [Fields.has] using hhas
      rw [lookupIn?_cons, hnone, ih hothers, Option.none_or]

theorem isSome_overwriteIn? (scopes : List Scope) :
    (overwriteIn? name value scopes).isSome = (lookupIn? name scopes).isSome := by
  induction scopes with
  | nil => rfl
  | cons scope rest ih =>
    rw [lookupIn?_cons]
    unfold overwriteIn? Fields.has
    cases hscope : scope.bindings.get? name with
    | none => simpa using ih
    | some found => simp

theorem tests_of_overwriteIn? (h : overwriteIn? name value scopes = some changed) :
    changed.map (·.tests) = scopes.map (·.tests) := by
  induction scopes generalizing changed with
  | nil => cases h
  | cons scope rest ih =>
    unfold overwriteIn? at h
    split at h
    · cases h
      rfl
    · obtain ⟨others, hothers, rfl⟩ := Option.map_eq_some_iff.mp h
      simp [ih hothers]

/-- A name is bound in both chains of scopes, to values that are alike. -/
def Found (w : Matching) (name : String) (scopes scopes' : List Scope) : Prop :=
  ∃ value value', lookupIn? name scopes = some value ∧ lookupIn? name scopes' = some value' ∧
    Value.Alike w value value'

/-- How two chains of scopes bind a name, given whether the runs agree about it and which names are
known to be bound. Inside a scope from which on the name is known to be bound, and everywhere if the
runs agree about it, the scopes bind it alike one by one. -/
inductive Binds (w : Matching) (agreed : Prop) (name : String) :
    List (List String) → List Scope → List Scope → Prop
  | nil : Binds w agreed name [] [] []
  | cons {bound : List String} {outer : List (List String)} {scope scope' : Scope}
    {scopes scopes' : List Scope} (hrest : Binds w agreed name outer scopes scopes')
    (hsame : agreed ∨ (∃ known ∈ outer, name ∈ known) →
      Option.Rel (Value.Alike w) (scope.bindings.get? name) (scope'.bindings.get? name))
    (hbound : name ∈ bound → Found w name (scope :: scopes) (scope' :: scopes')) :
    Binds w agreed name (bound :: outer) (scope :: scopes) (scope' :: scopes')

namespace Binds

variable {agreed : Prop} {bounds : List (List String)} {bound : List String}

theorem lookup_of_agreed (h : Binds w agreed name bounds scopes scopes') (hagreed : agreed) :
    Option.Rel (Value.Alike w) (lookupIn? name scopes) (lookupIn? name scopes') := by
  induction h with
  | nil => exact .none
  | @cons _ _ scope scope' _ _ _ hsame _ ih =>
    have hscope := hsame (.inl hagreed)
    rw [lookupIn?_cons, lookupIn?_cons]
    generalize scope.bindings.get? name = found at hscope
    generalize scope'.bindings.get? name = found' at hscope
    cases hscope with
    | some h => exact .some h
    | none => exact ih

theorem lookup (h : Binds w agreed name (bound :: bounds) scopes scopes')
    (hname : agreed ∨ name ∈ bound) :
    Option.Rel (Value.Alike w) (lookupIn? name scopes) (lookupIn? name scopes') := by
  rcases hname with hagreed | hbound
  · exact h.lookup_of_agreed hagreed
  · cases h with
    | cons _ _ hfound =>
      obtain ⟨value, value', hvalue, hvalue', halike⟩ := hfound hbound
      rw [hvalue, hvalue']
      exact .some halike

/-- Only what the scopes bind the name to matters. -/
theorem congr (h : Binds w agreed name bounds scopes scopes')
    (hchanged : changed.map (·.bindings.get? name) = scopes.map (·.bindings.get? name))
    (hchanged' : changed'.map (·.bindings.get? name) = scopes'.map (·.bindings.get? name)) :
    Binds w agreed name bounds changed changed' := by
  induction h generalizing changed changed' with
  | nil =>
    obtain rfl := List.map_eq_nil_iff.mp hchanged
    obtain rfl := List.map_eq_nil_iff.mp hchanged'
    exact .nil
  | cons hrest hsame hbound ih =>
    have hlookup := lookupIn?_congr hchanged
    have hlookup' := lookupIn?_congr hchanged'
    cases changed with
    | nil => cases hchanged
    | cons scope rest =>
      cases changed' with
      | nil => cases hchanged'
      | cons scope' rest' =>
        obtain ⟨hscope, hscopes⟩ := List.cons_eq_cons.mp hchanged
        obtain ⟨hscope', hscopes'⟩ := List.cons_eq_cons.mp hchanged'
        dsimp only at hscope hscope'
        refine .cons (ih hscopes hscopes') (hscope ▸ hscope' ▸ hsame) fun hmem => ?_
        obtain ⟨found, found', hfound, hfound', halike⟩ := hbound hmem
        exact ⟨found, found', hlookup.trans hfound, hlookup'.trans hfound', halike⟩

theorem length_eq (h : Binds w agreed name bounds scopes scopes') :
    scopes.length = bounds.length ∧ scopes'.length = bounds.length := by
  induction h with
  | nil => exact ⟨rfl, rfl⟩
  | cons _ _ _ ih => simpa using ih

/-- Nothing is asked of a name about which nothing is known. -/
theorem of_unknown (hagreed : ¬agreed) (hunknown : ¬∃ known ∈ bounds, name ∈ known)
    (hlength : scopes.length = bounds.length) (hlength' : scopes'.length = bounds.length) :
    Binds w agreed name bounds scopes scopes' := by
  induction bounds generalizing scopes scopes' with
  | nil =>
    obtain rfl := List.length_eq_zero_iff.mp hlength
    obtain rfl := List.length_eq_zero_iff.mp hlength'
    exact .nil
  | cons bound bounds ih =>
    obtain ⟨scope, rest, rfl⟩ := List.exists_cons_of_length_eq_add_one hlength
    obtain ⟨scope', rest', rfl⟩ := List.exists_cons_of_length_eq_add_one hlength'
    have hrest : ¬∃ known ∈ bounds, name ∈ known := fun ⟨known, hmem, hname⟩ =>
      hunknown ⟨known, List.mem_cons_of_mem _ hmem, hname⟩
    refine .cons (ih hrest ?_ ?_) (fun h => ?_) fun hmem => ?_
    · simpa using hlength
    · simpa using hlength'
    · exact absurd h (not_or.mpr ⟨hagreed, hrest⟩)
    · exact absurd ⟨bound, List.mem_cons_self, hmem⟩ hunknown

/-- What is known of the innermost scope may be replaced by anything that holds. -/
theorem head {bound' : List String} (h : Binds w agreed name (bound :: bounds) scopes scopes')
    (hbound : name ∈ bound' → Found w name scopes scopes') :
    Binds w agreed name (bound' :: bounds) scopes scopes' := by
  cases h with
  | cons hrest hsame _ => exact .cons hrest hsame hbound

theorem found (h : Binds w agreed name (bound :: bounds) scopes scopes') (hmem : name ∈ bound) :
    Found w name scopes scopes' := by
  cases h with
  | cons _ _ hbound => exact hbound hmem

/-- Where the name is known to be bound in the innermost scope only, both runs bind it anew. -/
theorem overwrite_of_unknown (h : Binds w agreed name (bound :: bounds) scopes scopes')
    (hmem : name ∈ bound) (hagreed : ¬agreed) (hunknown : ¬∃ known ∈ bounds, name ∈ known)
    (hvalue : Value.Alike w value value') :
    Option.Rel (Binds w agreed name (bound :: bounds)) (overwriteIn? name value scopes)
      (overwriteIn? name value' scopes') := by
  obtain ⟨found, found', hfound, hfound', _⟩ := h.found hmem
  obtain ⟨hlength, hlength'⟩ := h.length_eq
  obtain ⟨changed, hchanged⟩ := Option.isSome_iff_exists.mp
    ((isSome_overwriteIn? scopes).trans (Option.isSome_of_eq_some hfound))
  obtain ⟨changed', hchanged'⟩ := Option.isSome_iff_exists.mp
    ((isSome_overwriteIn? scopes').trans (Option.isSome_of_eq_some hfound'))
  have hsize := congrArg List.length (names_of_overwriteIn? hchanged)
  have hsize' := congrArg List.length (names_of_overwriteIn? hchanged')
  simp only [List.length_map] at hsize hsize'
  obtain ⟨scope, rest, rfl⟩ := List.exists_cons_of_length_eq_add_one (hsize.trans hlength)
  obtain ⟨scope', rest', rfl⟩ := List.exists_cons_of_length_eq_add_one (hsize'.trans hlength')
  rw [hchanged, hchanged']
  refine .some (.cons (.of_unknown hagreed hunknown ?_ ?_) (fun h => ?_) fun _ => ?_)
  · simpa using hsize.trans hlength
  · simpa using hsize'.trans hlength'
  · exact absurd h (not_or.mpr ⟨hagreed, hunknown⟩)
  · exact ⟨value, value', lookupIn?_of_overwriteIn? hchanged, lookupIn?_of_overwriteIn? hchanged',
      hvalue⟩

/-- Where a name is known to be bound, or where the runs agree about it, it is bound anew in both
runs or in neither. -/
theorem overwrite (h : Binds w agreed name bounds scopes scopes')
    (hknown : agreed ∨ ∃ known ∈ bounds, name ∈ known) (hvalue : Value.Alike w value value') :
    Option.Rel (Binds w agreed name bounds) (overwriteIn? name value scopes)
      (overwriteIn? name value' scopes') := by
  induction h with
  | nil => exact .none
  | @cons bound outer scope scope' rest rest' hrest hsame hbound ih =>
    by_cases houter : agreed ∨ ∃ known ∈ outer, name ∈ known
    · have hscope := hsame houter
      have hover := ih houter
      rcases rel_cases hscope with ⟨hnone, hnone'⟩ | ⟨_, _, hsome, hsome', _⟩
      · simp only [overwriteIn?, Fields.has, hnone, hnone', Option.isSome_none, Bool.false_eq_true,
          ↓reduceIte]
        rcases rel_cases hover with ⟨hnone, hnone'⟩ | ⟨_, _, hchanged, hchanged', hover⟩
        · simp [hnone, hnone']
        · rw [hchanged, hchanged']
          refine .some (.cons hover hsame fun _ => ⟨value, value', ?_, ?_, hvalue⟩)
          · rw [lookupIn?_cons, hnone, Option.none_or, lookupIn?_of_overwriteIn? hchanged]
          · rw [lookupIn?_cons, hnone', Option.none_or, lookupIn?_of_overwriteIn? hchanged']
      · simp only [overwriteIn?, Fields.has, hsome, hsome', Option.isSome_some, ↓reduceIte]
        refine .some (.cons hrest (fun _ => ?_) fun _ => ⟨value, value', ?_, ?_, hvalue⟩)
        · simpa [Fields.get?_put] using Option.Rel.some hvalue
        · simp [lookupIn?_cons, Fields.get?_put]
        · simp [lookupIn?_cons, Fields.get?_put]
    · obtain ⟨hagreed, hunknown⟩ := not_or.mp houter
      refine (Binds.cons hrest hsame hbound).overwrite_of_unknown ?_ hagreed hunknown hvalue
      rcases hknown with h | ⟨known, hmem, hname⟩
      · exact absurd h hagreed
      · rcases List.mem_cons.mp hmem with rfl | hmem
        · exact hname
        · exact absurd ⟨known, hmem, hname⟩ hunknown

end Binds

end Scope

/-! ## Environments -/

namespace Environment

variable {env env' : Environment}

theorem get?_bind (env : Environment) (value : Value) (h : other ≠ name) :
    (env.bind name value).scopes.map (·.bindings.get? other) =
      env.scopes.map (·.bindings.get? other) := by
  simp [scopes, bind, Fields.get?_put, h]

theorem lookup?_bind (env : Environment) : (env.bind name value).lookup? name = some value := by
  simp [lookup?, scopes, bind, Scope.lookupIn?_cons, Fields.get?_put]

/-- An assignment binds the name anew where it is bound, or else in the innermost scope. -/
theorem assign_cases (env : Environment) (name : String) (value : Value) :
    Scope.overwriteIn? name value env.scopes = some (env.assign name value).scopes ∨
      Scope.overwriteIn? name value env.scopes = none ∧
        env.assign name value = env.bind name value := by
  cases h : Scope.overwriteIn? name value env.scopes with
  | none =>
    refine .inr ⟨rfl, ?_⟩
    simp only [assign, h]
  | some changed =>
    have hlength := congrArg List.length (Scope.names_of_overwriteIn? h)
    cases changed with
    | nil => simp [scopes] at hlength
    | cons inner outer =>
      refine .inl ?_
      simp only [assign, h]
      rfl

theorem lookup?_assign (env : Environment) (name : String) (value : Value) :
    (env.assign name value).lookup? name = some value := by
  rcases env.assign_cases name value with h | ⟨_, h⟩
  · exact Scope.lookupIn?_of_overwriteIn? h
  · rw [h, lookup?_bind]

theorem get?_assign (env : Environment) (value : Value) (h : other ≠ name) :
    (env.assign name value).scopes.map (·.bindings.get? other) =
      env.scopes.map (·.bindings.get? other) := by
  rcases env.assign_cases name value with hover | ⟨_, hbind⟩
  · exact Scope.get?_of_overwriteIn? hover h
  · rw [hbind, get?_bind _ _ h]

theorem tests_assign (env : Environment) (name : String) (value : Value) :
    (env.assign name value).scopes.map (·.tests) = env.scopes.map (·.tests) := by
  rcases env.assign_cases name value with h | ⟨_, h⟩
  · exact Scope.tests_of_overwriteIn? h
  · rw [h]
    rfl

theorem length_assign (env : Environment) (name : String) (value : Value) :
    (env.assign name value).scopes.length = env.scopes.length := by
  simpa using congrArg List.length (env.tests_assign name value)

/-- Environments that bind alike the names that the runs agree about, and those that are known to be
bound. -/
structure Alike (w : Matching) (agreed : String → Prop) (bounds : List (List String))
    (env env' : Environment) : Prop where
  binds : ∀ name, Scope.Binds w (agreed name) name bounds env.scopes env'.scopes
  tests : env.scopes.map (·.tests) = env'.scopes.map (·.tests)

namespace Alike

variable {agreed : String → Prop} {bounds : List (List String)} {bound bound' : List String}

theorem lookup (h : Alike w agreed (bound :: bounds) env env')
    (hname : agreed name ∨ name ∈ bound) :
    Value.Alike w (env.lookup name) (env'.lookup name) := by
  simp only [Environment.lookup, lookup?]
  rcases rel_cases ((h.binds name).lookup hname) with
    ⟨hnone, hnone'⟩ | ⟨_, _, hsome, hsome', halike⟩
  · rw [hnone, hnone']
    exact .undefined
  · rw [hsome, hsome']
    exact halike

theorem inner_tests (h : Alike w agreed bounds env env') : env.inner.tests = env'.inner.tests :=
  (List.cons_eq_cons.mp h.tests).1

theorem weaken (h : Alike w agreed (bound :: bounds) env env') (hsub : bound' ⊆ bound) :
    Alike w agreed (bound' :: bounds) env env' :=
  ⟨fun name => (h.binds name).head fun hmem => (h.binds name).found (hsub hmem), h.tests⟩

theorem bind (h : Alike w agreed (bound :: bounds) env env') (name : String)
    (hvalue : Value.Alike w value value') :
    Alike w agreed ((name :: bound) :: bounds) (env.bind name value) (env'.bind name value') := by
  refine ⟨fun other => ?_, h.tests⟩
  by_cases hother : other = name
  · subst hother
    refine .cons ?_ (fun _ => ?_) fun _ =>
      ⟨value, value', env.lookup?_bind, env'.lookup?_bind, hvalue⟩
    · cases h.binds other with
      | cons hrest _ _ => exact hrest
    · simpa [Environment.bind, Fields.get?_put] using Option.Rel.some hvalue
  · have hbinds := (h.binds other).congr (env.get?_bind value hother)
      (env'.get?_bind value' hother)
    exact hbinds.head fun hmem => hbinds.found (List.mem_of_ne_of_mem hother hmem)

theorem assign (h : Alike w agreed (bound :: bounds) env env') (name : String)
    (hvalue : Value.Alike w value value') :
    Alike w agreed ((name :: bound) :: bounds) (env.assign name value)
      (env'.assign name value') := by
  refine ⟨fun other => ?_, ?_⟩
  · by_cases hother : other = name
    · subst hother
      have hfound : Scope.Found w other (env.assign other value).scopes
          (env'.assign other value').scopes :=
        ⟨value, value', env.lookup?_assign other value, env'.lookup?_assign other value', hvalue⟩
      have hbinds : Scope.Binds w (agreed other) other (bound :: bounds)
          (env.assign other value).scopes (env'.assign other value').scopes := by
        by_cases hknown : agreed other ∨ ∃ known ∈ bound :: bounds, other ∈ known
        · have hover := (h.binds other).overwrite hknown hvalue
          rcases env.assign_cases other value with hassign | ⟨hnone, hassign⟩
          · rcases env'.assign_cases other value' with hassign' | ⟨hnone', _⟩
            · rw [hassign, hassign'] at hover
              cases hover with
              | some hbinds => exact hbinds
            · rw [hassign, hnone'] at hover
              cases hover
          · rcases env'.assign_cases other value' with hassign' | ⟨_, hassign'⟩
            · rw [hnone, hassign'] at hover
              cases hover
            · rw [hassign, hassign']
              have hbind := (h.bind other hvalue).binds other
              exact hbind.head fun _ => hbind.found List.mem_cons_self
        · obtain ⟨hagreed, hunknown⟩ := not_or.mp hknown
          obtain ⟨hlength, hlength'⟩ := (h.binds other).length_eq
          exact .of_unknown hagreed hunknown ((env.length_assign other value).trans hlength)
            ((env'.length_assign other value').trans hlength')
      exact hbinds.head fun _ => hfound
    · have hbinds := (h.binds other).congr (env.get?_assign value hother)
        (env'.get?_assign value' hother)
      exact hbinds.head fun hmem => hbinds.found (List.mem_of_ne_of_mem hother hmem)
  · rw [tests_assign, tests_assign, h.tests]

theorem enter (h : Alike w agreed (bound :: bounds) env env') :
    Alike w agreed (bound :: bound :: bounds) env.enter env'.enter := by
  refine ⟨fun name => .cons (h.binds name) (fun _ => .none) fun hmem => ?_, ?_⟩
  · obtain ⟨value, value', hvalue, hvalue', halike⟩ := (h.binds name).found hmem
    refine ⟨value, value', ?_, ?_, halike⟩
    · rw [Scope.lookupIn?_cons]
      exact hvalue
    · rw [Scope.lookupIn?_cons]
      exact hvalue'
  · exact List.cons_eq_cons.mpr ⟨h.inner_tests, h.tests⟩

theorem leave (h : Alike w agreed (bound' :: bound :: bounds) env env') :
    Alike w agreed (bound :: bounds) env.leave env'.leave := by
  obtain ⟨inner, outer⟩ := env
  obtain ⟨inner', outer'⟩ := env'
  have hrest (name : String) : Scope.Binds w (agreed name) name (bound :: bounds) outer outer' := by
    cases h.binds name with
    | cons hrest _ _ => exact hrest
  have htests := (List.cons_eq_cons.mp h.tests).2
  cases hrest "" with
  | cons _ _ _ => exact ⟨hrest, htests⟩

end Alike

end Environment

end TextTemplate
