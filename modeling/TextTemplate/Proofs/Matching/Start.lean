import TextTemplate.Proofs.Matching.Exchange
import TextTemplate.Proofs.Matching.Parallel
import TextTemplate.Proofs.Scope.Bindings
import TextTemplate.Template

/-!
# The variables a template starts with

A template is given variables one after the other. Neither a variable that is never read nor the
order of the variables makes a difference to what comes after them.
-/

namespace TextTemplate

open List (Forall₂)

/-- However two runs that start from the same memory are matched, the host functions treat alike
what is alike. -/
def Context.Deterministic (start : Memory) (context : Context) : Prop :=
  ∀ w, Matching.Trims start.self start.self w → Context.Uniform w context

/-- A host value with a counterpart in the template language. -/
def Host.Convertible (host : Host) : Prop :=
  ∀ context state, ∃ value, (Eval.fromHost host context state).1 = .ok value

/-- The same scopes around are alike wherever what they hold is. -/
theorem Scope.binds_self {w : Matching} {agreed : Prop} {name : String} {scopes : List Scope}
    (h : ∀ scope ∈ scopes, Fields.All (fun value => Value.Alike w value value) scope.bindings) :
    Scope.Binds w agreed name (scopes.map fun _ => []) scopes scopes := by
  induction scopes with
  | nil => exact .nil
  | cons scope rest ih =>
    obtain ⟨hscope, hrest⟩ := List.forall_mem_cons.mp h
    refine .cons (ih hrest) (fun _ => ?_) fun hmem => nomatch hmem
    cases hget : scope.bindings.get? name with
    | none => exact .none
    | some value => exact .some (hscope.get? hget)

/-- Environments are alike that have the same scopes around them and agree inside. -/
theorem Environment.alike_inner {w : Matching} {agreed : String → Prop} {env env' : Environment}
    (houter : env.outer = env'.outer)
    (hheld : ∀ scope ∈ env.outer,
      Fields.All (fun value => Value.Alike w value value) scope.bindings)
    (hbindings : ∀ name, agreed name → Option.Rel (Value.Alike w) (env.inner.bindings.get? name)
      (env'.inner.bindings.get? name))
    (htests : env.inner.tests = env'.inner.tests) :
    Environment.Alike w agreed ([] :: env.outer.map fun _ => []) env env' := by
  refine ⟨fun name => ?_, ?_⟩
  · simp only [scopes, ← houter]
    refine .cons (Scope.binds_self hheld) (fun h => ?_) fun hmem => nomatch hmem
    rcases h with hagreed | ⟨_, hmem, hname⟩
    · exact hbindings name hagreed
    · obtain ⟨_, _, rfl⟩ := List.mem_map.mp hmem
      cases hname
  · simp [scopes, houter, htests]

theorem Environment.alike_root {w : Matching} {agreed : String → Prop} {env env' : Environment}
    (houter : env.outer = []) (houter' : env'.outer = [])
    (hbindings : ∀ name, agreed name → Option.Rel (Value.Alike w) (env.inner.bindings.get? name)
      (env'.inner.bindings.get? name))
    (htests : env.inner.tests = env'.inner.tests) :
    Environment.Alike w agreed [[]] env env' := by
  have halike := alike_inner (houter.trans houter'.symm) (by simp [houter]) hbindings htests
  rwa [houter] at halike

namespace Eval

variable {α β γ : Type} {w : Matching} {agreed : String → Prop} {before after : List String}

theorem bind_assoc (x : Eval α) (f : α → Eval β) (g : β → Eval γ) :
    x >>= f >>= g = x >>= fun a => f a >>= g := by
  funext context s
  show Eval.bind (Eval.bind x f) g context s =
    Eval.bind x (fun a => Eval.bind (f a) g) context s
  simp only [Eval.bind]
  split
  · rename_i heq
    split at heq
    · rw [heq]
    · cases heq
  · rename_i heq
    split at heq
    · rw [heq]
    · cases heq
      rfl

/-! ## Declarations -/

theorem declare_parallel {name : String} (hname : agreed name) {value value' : Value}
    (h : Value.Alike w value value') :
    Parallel w agreed before (name :: before) Eq (declare name value) (declare name value') := by
  have htaken : Parallel w agreed before before Eq (ofEnvironment (·.inner.bindings.has name))
      (ofEnvironment (·.inner.bindings.has name)) := by
    refine fun _ _ _ s s' hmemory henvironment => .ok ?_ hmemory henvironment
    cases henvironment.binds name with
    | cons _ hsame _ => exact isSome_eq_of_rel (hsame (.inl hname))
  refine htaken.bind fun taken _ hsame => ?_
  subst hsame
  exact .ite (fun _ => .fail _) fun _ => bindName_parallel name h

theorem declareHost_parallel {name : String} (hname : agreed name) {host : Host}
    (h : Host.Alike w host host) :
    Parallel w agreed before (name :: before) (Value.Alike w) (declareHost name host)
      (declareHost name host) :=
  (Parallel.of_works (fromHost_alike h) (fromHost_adds _).works
    (fromHost_adds _).works).bind fun _ _ hvalue =>
      (declare_parallel hname hvalue).bind fun _ _ _ => .pure hvalue

/-- Declares the variables in a map. -/
abbrev declareFields (fields : Fields Host) : Eval Unit :=
  declareAll (fields.map fun (name, host) => (.text name, host))

theorem declareFields_parallel {fields : Fields Host}
    (h : ∀ pair ∈ fields, agreed pair.1 ∧ Host.Alike w pair.2 pair.2) :
    Parallel w agreed before before Eq (declareFields fields) (declareFields fields) := by
  induction fields with
  | nil => exact .pure rfl
  | cons pair rest ih =>
    obtain ⟨⟨hname, hhost⟩, hrest⟩ := List.forall_mem_cons.mp h
    exact ((declareHost_parallel hname hhost).weaken (List.subset_cons_self _ _)).bind
      fun _ _ _ => ih hrest

/-! ## Starting states -/

/-- A state that has been reached from a memory by declaring some of the names, and nothing else. -/
structure Started (start : Memory) (names : List String) (s : State) : Prop where
  grows : Memory.Grows start s.memory
  closed : s.memory.Closed
  outer : s.environment.outer = []
  held : s.memory.HoldsFields s.environment.inner.bindings
  names : s.environment.inner.names ⊆ names

variable {start : Memory} {names : List String} {context : Context} {s : State} {name : String}
  {host : Host}

theorem declare_of_free (value : Value) (context : Context)
    (hfree : s.environment.inner.bindings.has name = false) :
    declare name value context s =
      (.ok (), { s with environment := s.environment.bind name value }) := by
  unfold declare
  show Eval.bind (ofEnvironment (·.inner.bindings.has name)) _ context s = _
  simp only [Eval.bind, ofEnvironment, hfree]
  rfl

theorem run_bind {x : Eval α} {a : α} {t : State} (h : x context s = (.ok a, t)) (f : α → Eval β) :
    (x >>= f) context s = f a context t := by
  show Eval.bind x f context s = f a context t
  simp only [Eval.bind, h]

theorem run_bind_error {x : Eval α} {fault : Fault} {t : State}
    (h : x context s = (.error fault, t)) (f : α → Eval β) :
    (x >>= f) context s = (.error fault, t) := by
  show Eval.bind x f context s = (.error fault, t)
  simp only [Eval.bind, h]

theorem bind_eq_ok {x : Eval α} {f : α → Eval β} {t : State} {b : β}
    (h : (x >>= f) context s = (.ok b, t)) :
    ∃ a r, x context s = (.ok a, r) ∧ f a context r = (.ok b, t) := by
  change Eval.bind x f context s = _ at h
  unfold Eval.bind at h
  split at h
  · rename_i a r hx
    exact ⟨a, r, hx, h⟩
  · cases h

theorem run_mapAll {ι : Type} {f : ι → Eval α} {items : List ι} {results : List α}
    (h : Forall₂ (fun item a => f item context s = (.ok a, s)) items results) :
    mapAll f items context s = (.ok results, s) := by
  induction h with
  | nil => rfl
  | cons hitem _ ih => exact (run_bind hitem _).trans ((run_bind ih _).trans rfl)

theorem run_snapshot {value : Value} (h : s.memory.ends value) (context : Context) :
    snapshot value context s = (.ok (s.memory.snapshot value), s) := by
  refine (run_bind (a := s.memory.ends value) (t := s) rfl _).trans ?_
  rw [if_pos h]
  rfl

theorem run_declareHost (name : String) {value : Value} {m : Memory}
    (hvalue : fromHost host context s = (.ok value, { s with memory := m }))
    (hfree : s.environment.inner.bindings.has name = false) :
    declareHost name host context s = (.ok value, ⟨m, s.environment.bind name value⟩) := by
  refine (run_bind hvalue _).trans ?_
  exact run_bind (declare_of_free (s := ⟨m, s.environment⟩) value context hfree) _

/-- Declaring a new name for a host value adds to the memory and binds the name. -/
theorem Started.declareHost (hs : Started start names s) (context : Context) (hname : name ∉ names)
    (hhost : start.HoldsHost host) (hconvertible : host.Convertible) :
    ∃ value m, fromHost host context s = (.ok value, { s with memory := m }) ∧
      Eval.declareHost name host context s = (.ok value, ⟨m, s.environment.bind name value⟩) ∧
      Memory.Grows s.memory m ∧ m.Closed ∧ m.Holds value := by
  obtain ⟨value, hvalue⟩ := hconvertible context s
  have hkept := (fromHost_adds host).works.indifferent.environment_eq context s
  cases hrun : fromHost host context s with
  | mk outcome t =>
    obtain ⟨m, environment⟩ := t
    rw [hrun] at hvalue hkept
    dsimp only at hvalue hkept
    subst hvalue hkept
    obtain ⟨hgrows, hclosed, hholds⟩ :=
      convert_builds false host s.memory (hs.grows.holdsHost hhost) context s value _ rfl hs.closed
        hrun
    have hfree : s.environment.inner.bindings.has name = false := by
      refine Bool.eq_false_iff.mpr fun hhas => hname (hs.names ?_)
      exact (Fields.has_iff_mem_keys _).mp hhas
    exact ⟨value, m, rfl, run_declareHost name hrun hfree, hgrows, hclosed, hholds⟩

theorem Started.bind (hs : Started start names s) {m : Memory} {value : Value}
    (hgrows : Memory.Grows s.memory m) (hclosed : m.Closed) (hholds : m.Holds value) :
    Started start (name :: names) ⟨m, s.environment.bind name value⟩ := by
  refine ⟨hs.grows.trans hgrows, hclosed, hs.outer, ?_, fun other hother => ?_⟩
  · exact Fields.put_rel (hgrows.holdsFields hs.held) name hholds
  · rcases (Fields.mem_keys_put _).mp hother with rfl | hother
    · exact List.mem_cons_self
    · exact List.mem_cons_of_mem _ (hs.names hother)

/-! ## Variables that make no difference -/

theorem Parallel.outcome_eq {x y : Eval α} (h : Parallel w agreed [] after Eq x y)
    (hcontext : Context.Uniform w context) {s s' : State}
    (hmemory : Memory.Alike w s.memory s'.memory) (outer : List (List String))
    (henvironment : Environment.Alike w agreed ([] :: outer) s.environment s'.environment) :
    (x context s).1 = (y context s').1 := by
  have hmatch := h context hcontext outer s s' hmemory henvironment
  generalize x context s = result at hmatch
  generalize y context s' = result' at hmatch
  cases hmatch with
  | ok h _ _ => exact congrArg Except.ok h
  | error fault t t' => rfl

/-- What comes after goes alike however the two runs are matched that start from a memory. -/
abbrev Follows (start : Memory) (agreed : String → Prop) (rest : Eval α) : Prop :=
  ∀ w, Matching.Trims start.self start.self w → ∃ after, Parallel w agreed [] after Eq rest rest

/-- A variable that what comes after does not read may be left out. -/
theorem Started.declareHost_eq_skip (hs : Started start names s)
    (hcontext : context.Deterministic start) (hname : name ∉ names) (hhost : start.HoldsHost host)
    (hconvertible : host.Convertible) {rest : Eval α} (hrest : Follows start (· ≠ name) rest) :
    ((Eval.declareHost name host >>= fun _ => rest) context s).1 = (rest context s).1 := by
  obtain ⟨value, m, _, hrun, hgrows, hclosed, hholds⟩ :=
    hs.declareHost context hname hhost hconvertible
  have htrims : Matching.Trims s.memory.self s.memory.self (.apart hgrows (.refl s.memory)) :=
    Memory.trims_apart _ _
  obtain ⟨after, hparallel⟩ := hrest _ (hs.grows.trims_of_trims htrims)
  rw [run_bind hrun]
  refine hparallel.outcome_eq (hcontext _ (hs.grows.trims_of_trims htrims))
    (Memory.alike_apart hs.closed hgrows (.refl s.memory)) [] ?_
  refine Environment.alike_root hs.outer hs.outer (fun other hother => ?_) rfl
  simp only [Environment.bind, Fields.get?_put, if_neg hother]
  exact Fields.get?_rel (Value.Alike.trimFields htrims hs.held hs.held) other

theorem fromHost_apart {m : Memory} {s₁ s₂ t₁ t₂ : State} {value₁ value₂ : Value}
    (hclosed : m.Closed) (h₁ : Memory.Grows m s₁.memory) (h₂ : Memory.Grows m s₂.memory)
    (hstart : Memory.Grows start m) (hcontext : context.Deterministic start)
    (hhost : start.HoldsHost host) (hrun₁ : fromHost host context s₁ = (.ok value₁, t₁))
    (hrun₂ : fromHost host context s₂ = (.ok value₂, t₂)) :
    Value.Alike (.apart h₁ h₂) value₁ value₂ ∧
      Memory.Alike (.apart h₁ h₂) t₁.memory t₂.memory := by
  have htrims := hstart.trims_of_trims (Memory.trims_apart h₁ h₂)
  obtain ⟨hagree, hmemory⟩ := fromHost_alike (hhost.trim htrims _ hhost) context
    (hcontext _ htrims) s₁ s₂ (Memory.alike_apart hclosed h₁ h₂)
  rw [hrun₁, hrun₂] at hagree hmemory
  cases hagree with
  | ok h => exact ⟨h, hmemory⟩

/-- Two variables may be declared in either order. -/
theorem Started.declareHost_comm (hs : Started start names s)
    (hcontext : context.Deterministic start) {other : String} {host' : Host} (hne : name ≠ other)
    (hname : name ∉ names) (hother : other ∉ names) (hhost : start.HoldsHost host)
    (hhost' : start.HoldsHost host') (hconvertible : host.Convertible)
    (hconvertible' : host'.Convertible) {rest : Eval α}
    (hrest : Follows start (fun _ => True) rest) :
    ((Eval.declareHost name host >>= fun _ => Eval.declareHost other host' >>= fun _ => rest)
        context s).1 =
      ((Eval.declareHost other host' >>= fun _ => Eval.declareHost name host >>= fun _ => rest)
        context s).1 := by
  obtain ⟨value₁, m₁, hfrom₁, hrun₁, hgrows₁, hclosed₁, hholds₁⟩ :=
    hs.declareHost context hname hhost hconvertible
  obtain ⟨value₂, m₂, hfrom₂, hrun₂, hgrows₂, hclosed₂, hholds₂⟩ :=
    hs.declareHost context hother hhost' hconvertible'
  obtain ⟨value₁₂, m₁₂, hfrom₁₂, hrun₁₂, hgrows₁₂, hclosed₁₂, hholds₁₂⟩ :=
    (hs.bind hgrows₁ hclosed₁ hholds₁).declareHost context
      (List.not_mem_cons_of_ne_of_not_mem hne.symm hother) hhost' hconvertible'
  obtain ⟨value₂₁, m₂₁, hfrom₂₁, hrun₂₁, hgrows₂₁, hclosed₂₁, hholds₂₁⟩ :=
    (hs.bind hgrows₂ hclosed₂ hholds₂).declareHost context
      (List.not_mem_cons_of_ne_of_not_mem hne hname) hhost hconvertible
  obtain ⟨hvalue, hmemory⟩ := fromHost_apart hs.closed (.refl s.memory) hgrows₂ hs.grows hcontext
    hhost hfrom₁ hfrom₂₁
  obtain ⟨hvalue', hmemory'⟩ := fromHost_apart hs.closed hgrows₁ (.refl s.memory) hs.grows hcontext
    hhost' hfrom₁₂ hfrom₂
  have hexchange : Memory.Exchange s.memory m₁ m₁₂ m₂ m₂₁ :=
    ⟨hgrows₁, hgrows₁₂, hgrows₂, hgrows₂₁, hs.closed, hclosed₁, hclosed₁₂, hmemory, hmemory'⟩
  have htrims : Matching.Trims start.self start.self (Memory.Exchange.matching s.memory m₁ m₂) :=
    hs.grows.trims_of_trims Memory.Exchange.trims_start
  obtain ⟨after, hparallel⟩ := hrest _ htrims
  rw [run_bind hrun₁, run_bind hrun₁₂, run_bind hrun₂, run_bind hrun₂₁]
  refine hparallel.outcome_eq (hcontext _ htrims) hexchange.alike [] ?_
  refine Environment.alike_root hs.outer hs.outer (fun third _ => ?_) rfl
  simp only [Environment.bind, Fields.get?_put]
  by_cases hthird : third = name
  · subst hthird
    rw [if_neg hne, if_pos rfl, if_pos rfl]
    exact .some (hvalue.trim hexchange.trims_first _ _ hholds₁)
  · rw [if_neg hthird, if_neg hthird]
    split
    · exact .some (hvalue'.trim hexchange.trims_second _ _ hholds₁₂)
    · exact Fields.get?_rel
        (Value.Alike.trimFields Memory.Exchange.trims_start hs.held hs.held) third

/-! ## Maps of variables -/

/-- Variables that can be declared where some names are taken: each has a new name and a value with
a counterpart, all of which the memory holds. -/
structure Declarable (start : Memory) (names : List String) (fields : Fields Host) : Prop where
  keys : fields.keys.Nodup
  fresh : ∀ pair ∈ fields, pair.1 ∉ names
  convertible : ∀ pair ∈ fields, pair.2.Convertible
  held : ∀ pair ∈ fields, start.HoldsHost pair.2

namespace Declarable

variable {fields fields' : Fields Host}

theorem tail {pair : String × Host} (h : Declarable start names (pair :: fields)) :
    Declarable start (pair.1 :: names) fields := by
  obtain ⟨hnew, hkeys⟩ := List.nodup_cons.mp h.keys
  refine ⟨hkeys, fun other hmem => ?_, fun other hmem => h.convertible other (.tail _ hmem),
    fun other hmem => h.held other (.tail _ hmem)⟩
  refine List.not_mem_cons_of_ne_of_not_mem (fun heq => hnew ?_) (h.fresh other (.tail _ hmem))
  exact List.mem_map.mpr ⟨other, hmem, heq⟩

theorem sublist (h : Declarable start names fields) (hsub : fields'.Sublist fields) :
    Declarable start names fields' :=
  ⟨h.keys.sublist (hsub.map _), fun pair hmem => h.fresh pair (hsub.subset hmem),
    fun pair hmem => h.convertible pair (hsub.subset hmem),
    fun pair hmem => h.held pair (hsub.subset hmem)⟩

theorem perm (h : Declarable start names fields) (hperm : fields.Perm fields') :
    Declarable start names fields' :=
  ⟨(hperm.map _).nodup_iff.mp h.keys, fun pair hmem => h.fresh pair (hperm.mem_iff.mpr hmem),
    fun pair hmem => h.convertible pair (hperm.mem_iff.mpr hmem),
    fun pair hmem => h.held pair (hperm.mem_iff.mpr hmem)⟩

/-- A key and its value are in a map if the map has the value for the key. -/
theorem mem_iff_get? (h : Declarable start names fields) (name : String) (host : Host) :
    (name, host) ∈ fields ↔ fields.get? name = some host :=
  Fields.mem_iff_get? h.keys

theorem get?_of_mem (h : Declarable start names fields) (hname : name ∈ names) :
    fields.get? name = none := by
  refine Option.eq_none_iff_forall_ne_some.mpr fun host hhost => ?_
  exact h.fresh _ ((h.mem_iff_get? name host).mpr hhost) hname

/-- Two maps hold the same under the keys for which they have the same. -/
theorem filter_perm {names' : List String} {keep : String → Bool}
    (h : Declarable start names fields) (h' : Declarable start names' fields')
    (hget : ∀ name, keep name → fields.get? name = fields'.get? name) :
    (fields.filter (keep ·.1)).Perm (fields'.filter (keep ·.1)) := by
  refine (List.perm_ext_iff_of_nodup (h.sublist List.filter_sublist).keys.of_map
    (h'.sublist List.filter_sublist).keys.of_map).mpr fun ⟨name, host⟩ => ?_
  simp only [List.mem_filter, h.mem_iff_get?, h'.mem_iff_get?]
  exact and_congr_left fun hkeep => by rw [hget name hkeep]

end Declarable

theorem Follows.declareFields {rest : Eval α} (h : Follows start agreed rest) {fields : Fields Host}
    (hagreed : ∀ pair ∈ fields, agreed pair.1) (hheld : ∀ pair ∈ fields, start.HoldsHost pair.2) :
    Follows start agreed (Eval.declareFields fields >>= fun _ => rest) := by
  intro w hw
  obtain ⟨after, hparallel⟩ := h w hw
  refine ⟨after, (declareFields_parallel fun pair hmem => ⟨hagreed pair hmem, ?_⟩).bind
    fun _ _ _ => hparallel⟩
  exact (hheld pair hmem).trim hw _ (hheld pair hmem)

theorem declareFields_cons (pair : String × Host) (fields : Fields Host) (rest : Eval α) :
    (declareFields (pair :: fields) >>= fun _ => rest) =
      declareHost pair.1 pair.2 >>= fun _ => (declareFields fields >>= fun _ => rest) :=
  bind_assoc _ _ _

variable {rest : Eval α}

/-- Where two maps of variables begin alike, what follows decides. -/
theorem Started.declareFields_congr (hs : Started start names s) (pair : String × Host)
    {fields fields' : Fields Host} (h : Declarable start names (pair :: fields))
    (hrest : ∀ t, Started start (pair.1 :: names) t →
      ((declareFields fields >>= fun _ => rest) context t).1 =
        ((declareFields fields' >>= fun _ => rest) context t).1) :
    ((declareFields (pair :: fields) >>= fun _ => rest) context s).1 =
      ((declareFields (pair :: fields') >>= fun _ => rest) context s).1 := by
  obtain ⟨value, m, _, hrun, hgrows, hclosed, hholds⟩ := hs.declareHost context
    (h.fresh pair List.mem_cons_self) (h.held pair List.mem_cons_self)
    (h.convertible pair List.mem_cons_self)
  rw [declareFields_cons, declareFields_cons, run_bind hrun, run_bind hrun]
  exact hrest _ (hs.bind hgrows hclosed hholds)

/-- All variables that are not read may be left out. -/
theorem Started.declareFields_filter (hcontext : context.Deterministic start) {keep : String → Bool}
    (hrest : ∀ name, keep name = false → Follows start (· ≠ name) rest) {fields : Fields Host}
    (hs : Started start names s) (h : Declarable start names fields) :
    ((declareFields fields >>= fun _ => rest) context s).1 =
      ((declareFields (fields.filter (keep ·.1)) >>= fun _ => rest) context s).1 := by
  induction fields generalizing names s with
  | nil => rfl
  | cons pair fields ih =>
    cases hkeep : keep pair.1 with
    | true =>
      simp only [List.filter_cons, hkeep, ↓reduceIte]
      exact hs.declareFields_congr pair h fun t ht => ih ht h.tail
    | false =>
      simp only [List.filter_cons, hkeep, Bool.false_eq_true, ↓reduceIte, declareFields_cons]
      have hskip : ((Eval.declareHost pair.1 pair.2 >>= fun _ =>
          (declareFields fields >>= fun _ => rest)) context s).1 =
            ((declareFields fields >>= fun _ => rest) context s).1 := by
        refine hs.declareHost_eq_skip hcontext (h.fresh pair List.mem_cons_self)
          (h.held pair List.mem_cons_self) (h.convertible pair List.mem_cons_self) ?_
        refine (hrest pair.1 hkeep).declareFields (fun other hmem heq => ?_)
          fun other hmem => h.held other (.tail _ hmem)
        exact h.tail.fresh other hmem (heq ▸ List.mem_cons_self)
      exact hskip.trans (ih hs (h.sublist (List.sublist_cons_self _ _)))

/-- The order of the variables makes no difference. -/
theorem Started.declareFields_perm (hcontext : context.Deterministic start)
    (hrest : Follows start (fun _ => True) rest) {fields fields' : Fields Host}
    (hperm : fields.Perm fields') (hs : Started start names s)
    (h : Declarable start names fields) :
    ((declareFields fields >>= fun _ => rest) context s).1 =
      ((declareFields fields' >>= fun _ => rest) context s).1 := by
  induction hperm generalizing names s with
  | nil => rfl
  | cons pair _ ih => exact hs.declareFields_congr pair h fun t ht => ih ht h.tail
  | swap first second fields =>
    have hne : second.1 ≠ first.1 := fun heq =>
      h.tail.fresh first List.mem_cons_self (heq ▸ List.mem_cons_self)
    simp only [declareFields_cons]
    refine hs.declareHost_comm hcontext hne
      (h.fresh _ List.mem_cons_self) (h.fresh _ (.tail _ List.mem_cons_self))
      (h.held _ List.mem_cons_self) (h.held _ (.tail _ List.mem_cons_self))
      (h.convertible _ List.mem_cons_self) (h.convertible _ (.tail _ List.mem_cons_self)) ?_
    exact hrest.declareFields (fun _ _ => trivial) fun pair hmem =>
      h.held pair (.tail _ (.tail _ hmem))
  | trans hperm _ ih ih' => exact (ih hs h).trans (ih' hs (h.perm hperm))

end Eval

end TextTemplate
