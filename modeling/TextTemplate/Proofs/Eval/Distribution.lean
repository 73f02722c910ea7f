import TextTemplate.Proofs.Eval.Chained
import TextTemplate.Proofs.Eval.Effects
import TextTemplate.Proofs.Eval.Iteration
import TextTemplate.Proofs.Eval.Reaches
import TextTemplate.Proofs.Variables.Soundness

/-!
# Loops one after the other

The runs of a body that has no `set` statement and no use for `loop` have nothing to do with each
other: a run adds to the memory and binds the target anew, and neither what is added nor the object
that `loop` stands for makes a difference to the next one. So a loop over two arrays in a row is the
two loops in a row, and every run comes to what it would come to alone.
-/

namespace TextTemplate

namespace Node

/-- What a target binds is there where the item is. -/
theorem Takes.holds {m : Memory} {target : Node} {item : Value} {bound : Fields Value}
    (h : target.Takes item bound) (hitem : m.Holds item) : Fields.All m.Holds bound := by
  cases h with
  | name name item => exact List.forall_mem_singleton.mpr hitem
  | tuple bound =>
    exact fun pair hmem => Memory.holds_array.mp hitem _ (List.mem_map_of_mem hmem)

theorem targetsOfAll_eq_nil {looped : Bool} {nodes : List Node}
    (h : ∀ node ∈ nodes, node.targets looped = []) : targetsOfAll looped nodes = [] := by
  induction nodes with
  | nil => rfl
  | cons node rest ih =>
    obtain ⟨hnode, hrest⟩ := List.forall_mem_cons.mp h
    rw [targetsOfAll, hnode, ih hrest, List.append_nil]

/-- Without a `set` statement no name is set. -/
theorem Fits.targets_eq_nil {place : Place} {node : Node} (h : Fits place node)
    (hplace : place = .assignment ∨ place = .statement)
    (hset : ∀ part ∈ node.parts, part.isSet = false) (looped : Bool) :
    node.targets looped = [] := by
  induction h generalizing looped with
  | value h => exact targets_of_isExpression looped _ h.expressionIn
  | assign => cases hset _ (mem_parts_self _)
  | output _ ih => exact ih (.inl rfl) hset looped
  | @branch condition body alternate hc _ _ _ ihb iha =>
    simp only [parts, List.forall_mem_cons, List.forall_mem_append] at hset
    obtain ⟨-, ⟨-, hbody⟩, halternate⟩ := hset
    have hfirst : targetsOfAll looped body = [] := targetsOfAll_eq_nil fun node hmem =>
      ihb node hmem (.inr rfl) (fun part hpart => hbody _ (mem_partsOfAll.mpr ⟨_, hmem, hpart⟩)) _
    have hsecond : targetsOfAll looped alternate = [] := targetsOfAll_eq_nil fun node hmem =>
      iha node hmem (.inr rfl)
        (fun part hpart => halternate _ (mem_partsOfAll.mpr ⟨_, hmem, hpart⟩)) _
    rw [targets, targets_of_isExpression looped _ hc.expressionIn, hfirst, hsecond]
    rfl
  | @loop target iterable body _ _ hi _ _ _ ihb =>
    simp only [parts, List.forall_mem_cons, List.forall_mem_append] at hset
    obtain ⟨-, -, hbody⟩ := hset
    have hinside (looped : Bool) : targetsOfAll looped body = [] :=
      targetsOfAll_eq_nil fun node hmem => ihb node hmem (.inr rfl)
        (fun part hpart => hbody _ (mem_partsOfAll.mpr ⟨_, hmem, hpart⟩)) looped
    simp [targets, targets_of_isExpression _ _ hi.expressionIn, hinside]
  | _ => rcases hplace with h | h <;> cases h

end Node

/-- The state in which an item is bound, once `loop` stands for a new object. -/
def State.tell (about : Fields Value) (t : State) : State where
  memory := (t.memory.allocate about).2
  environment := t.environment.bind "loop" (.object .plain t.memory.objects.size)

namespace Eval

variable {context : Context} {s t : State} {target node : Node} {body : List Node} {item : Value}
  {items : List Value}

/-! ## Bodies that may be repeated -/

/-- A body without `set` statements that has no use for `loop`, and where it is evaluated: host
functions treat alike what is alike, and the memory holds what is in it and what variables stand
for. -/
structure Repeatable (context : Context) (s : State) (body : List Node) : Prop where
  fits : ∀ node ∈ body, Node.Fits .statement node
  noSet : ∀ part ∈ Node.partsOfAll body, part.isSet = false
  noLoop : .name "loop" ∉ Node.partsOfAll body
  deterministic : context.Deterministic s.memory
  closed : s.memory.Closed
  held : s.environment.All s.memory.Holds

/-- A body may be repeated where a template has been given its variables. -/
theorem Started.repeatable {start : Memory} {names : List String} (hs : Started start names s)
    (hfits : ∀ node ∈ body, Node.Fits .statement node)
    (hset : ∀ part ∈ Node.partsOfAll body, part.isSet = false)
    (hloop : .name "loop" ∉ Node.partsOfAll body) (hcontext : context.Deterministic start) :
    Repeatable context s body where
  fits := hfits
  noSet := hset
  noLoop := hloop
  deterministic w hw := hcontext w (hs.grows.trims_of_trims hw)
  closed := hs.closed
  held := by
    have hbindings : Fields.All s.memory.Holds s.environment.inner.bindings := fun pair hpair => by
      obtain ⟨_, hvalue⟩ := List.forall₂_same.mp hs.held pair hpair
      exact hvalue
    rw [Environment.All, Environment.scopes, hs.outer]
    exact List.forall_mem_singleton.mpr hbindings

/-- A state inside the scope of a loop that was entered from another state, before or behind a run
of the body. -/
structure BetweenRuns (s : State) (target : Node) (t : State) : Prop where
  grows : Memory.Grows s.memory t.memory
  outer : t.environment.outer = s.environment.scopes
  tests : t.environment.inner.tests = s.environment.inner.tests
  names : ∀ name ∈ t.environment.inner.names, name = "loop" ∨ .name name ∈ target.aims

theorem betweenRuns_enter (target : Node) (henvironment : t.environment = s.environment)
    (hgrows : Memory.Grows s.memory t.memory) : BetweenRuns s target t.enter where
  grows := hgrows
  outer := congrArg Environment.scopes henvironment
  tests := congrArg (·.inner.tests) henvironment
  names := nofun

theorem BetweenRuns.get?_eq_none (h : BetweenRuns s target t) {name : String}
    (hloop : name ≠ "loop") (haim : .name name ∉ target.aims) :
    t.environment.inner.bindings.get? name = none := by
  cases hget : t.environment.inner.bindings.get? name with
  | none => rfl
  | some value =>
    rcases h.names name (Fields.mem_keys_iff.mpr ⟨value, hget⟩) with hname | hname
    · exact absurd hname hloop
    · exact absurd hname haim

/-- Two runs on the same item find the same in the scope of the loop, but for `loop`. -/
theorem BetweenRuns.rel_get? {w : Matching} {t₁ t₂ : State} (h₁ : BetweenRuns s target t₁)
    (h₂ : BetweenRuns s target t₂) {bound : Fields Value}
    (hbound : Fields.All (fun value => Value.Alike w value value) bound)
    (htakes : target.Takes item bound) (about₁ about₂ : Fields Value) {name : String}
    (hname : name ≠ "loop") :
    Option.Rel (Value.Alike w)
      ((State.putAll bound (t₁.tell about₁)).environment.inner.bindings.get? name)
      ((State.putAll bound (t₂.tell about₂)).environment.inner.bindings.get? name) := by
  show Option.Rel _ (((t₁.environment.inner.bindings.put "loop" _).putAll bound).get? name)
    (((t₂.environment.inner.bindings.put "loop" _).putAll bound).get? name)
  by_cases hmem : name ∈ bound.keys
  · obtain ⟨value, hvalue⟩ : ∃ value, Fields.get? bound.reverse name = some value :=
      Fields.mem_keys_iff.mp (by simpa [Fields.keys] using hmem)
    have hreverse : Fields.All (fun value => Value.Alike w value value) bound.reverse :=
      fun pair hpair => hbound pair (List.mem_reverse.mp hpair)
    simp only [Fields.get?_putAll, hvalue, Option.some_or]
    exact .some (hreverse.get? hvalue)
  · have haim : .name name ∉ target.aims := fun haim => hmem (htakes.mem_keys haim)
    simp only [Fields.get?_putAll_of_not_mem hmem, Fields.get?_put, if_neg hname,
      h₁.get?_eq_none hname haim, h₂.get?_eq_none hname haim]
    exact .none

namespace Repeatable

variable (h : Repeatable context s body)

include h

theorem environment_eq (t : State) :
    (evaluateBlock body context t).2.environment = t.environment := by
  have htargets (looped : Bool) : Node.targetsOfAll looped body = [] :=
    Node.targetsOfAll_eq_nil fun node hmem => (h.fits node hmem).targets_eq_nil (.inr rfl)
      (fun part hpart => h.noSet _ (Node.mem_partsOfAll.mpr ⟨_, hmem, hpart⟩)) looped
  have hpermits : Permits (fun _ => False) (fun _ => False)
      (fun looped => Node.targetsOfAll looped body) := by
    simp only [htargets]
    exact ⟨nofun, nofun⟩
  exact Environment.reach_eq_of_forall_not (evaluateBlock_moves body _ _ hpermits context t)
    (fun _ => id) fun _ => id

theorem covers : Covers (· ≠ "loop") (Findings.surveyAll body .empty) := by
  rintro _ (hbuiltin | hreports) rfl
  · simp [builtinNames] at hbuiltin
  · rcases Findings.reports_of_surveyAll body .empty h.noLoop hreports with hmem | hmem <;>
      cases hmem

/-- What a run comes to depends on the item only, neither on the object for `loop` nor on what else
has been added to the memory. -/
theorem run_congr (hitem : s.memory.Holds item) {t₁ t₂ : State} (h₁ : BetweenRuns s target t₁)
    (h₂ : BetweenRuns s target t₂) (about₁ about₂ : Fields Value) {bound : Fields Value}
    (htakes : target.Takes item bound) :
    (evaluateBlock body context (State.putAll bound (t₁.tell about₁))).1 =
      (evaluateBlock body context (State.putAll bound (t₂.tell about₂))).1 := by
  have hgrows₁ := h₁.grows.trans (t₁.memory.grows_allocate about₁)
  have hgrows₂ := h₂.grows.trans (t₂.memory.grows_allocate about₂)
  have htrims := Memory.trims_apart hgrows₁ hgrows₂
  have hself {value : Value} (hvalue : s.memory.Holds value) :
      Value.Alike (.apart hgrows₁ hgrows₂) value value := hvalue.trim htrims _ _ hvalue
  have hparallel := block_parallel
    (fun node hmem => goesAlike_of_fits (w := .apart hgrows₁ hgrows₂) (h.fits node hmem) (.inr rfl))
    .empty h.covers
  refine hparallel.outcome_eq (h.deterministic _ htrims)
    (Memory.alike_apart h.closed hgrows₁ hgrows₂) _
    (Environment.alike_inner (h₁.outer.trans h₂.outer.symm) ?_ (fun name hname => ?_)
      (h₁.tests.trans h₂.tests.symm))
  · show ∀ scope ∈ t₁.environment.outer, _
    rw [h₁.outer]
    exact fun scope hscope pair hpair => hself (h.held scope hscope pair hpair)
  · exact h₁.rel_get? h₂ (fun pair hpair => hself (htakes.holds hitem pair hpair)) htakes
      about₁ about₂ hname

/-- Behind a run the next one can start. -/
theorem after_run (ht : BetweenRuns s target t) {about bound : Fields Value}
    (htakes : target.Takes item bound) {result : Except Fault String} {u : State}
    (hrun : evaluateBlock body context (State.putAll bound (t.tell about)) = (result, u)) :
    BetweenRuns s target u := by
  have hgrows := evaluateBlock_grows h.noSet context (State.putAll bound (t.tell about))
  have hkept := h.environment_eq (State.putAll bound (t.tell about))
  rw [hrun] at hgrows hkept
  refine ⟨ht.grows.trans ((t.memory.grows_allocate about).trans hgrows), ?_, ?_, ?_⟩
  · exact (congrArg Environment.outer hkept).trans ht.outer
  · exact (congrArg (·.inner.tests) hkept).trans ht.tests
  · rw [hkept]
    intro name hname
    rcases Fields.mem_keys_putAll.mp hname with hbefore | hbound
    · rcases (Fields.mem_keys_put _).mp hbefore with hloop | hbefore
      · exact .inl hloop
      · exact ht.names name hbefore
    · exact .inr (htakes.name_mem_aims hbound)

end Repeatable

/-! ## Runs taken alone -/

/-- What a loop comes to that has one item only. -/
def alone (context : Context) (s : State) (target : Node) (body : List Node) (item : Value) :
    Except Fault String :=
  (inNewScope (loopOver target (evaluateBlock body) (.array [item])) context s).1

theorem loopFrom_cons (target : Node) (x : Eval String) (length index : Nat) (previous item : Value)
    (rest : List Value) (done : String) (context : Context) (t : State) :
    loopFrom target x length index previous (item :: rest) done context t =
      (do
        bindTarget target item
        let part ← x
        loopFrom target x length (index + 1) item rest (done ++ part)) context
          (t.tell (loopFields length index previous (rest.head?.getD .undefined))) := rfl

theorem alone_of_refuses {fault : Fault} (hrefuses : target.Refuses item fault) :
    alone context s target body item = .error fault := by
  obtain ⟨inner, hbind⟩ := @bindTarget_of_refuses context _ _ _ hrefuses
    (s.enter.tell (loopFields 1 0 .undefined .undefined))
  show (loopFrom target (evaluateBlock body) 1 0 .undefined [item] "" context s.enter).1 = _
  rw [loopFrom_cons]
  exact congrArg Prod.fst (run_bind_error hbind _)

/-- Any run comes to what a run on the same item comes to that is the first and last one. -/
theorem Repeatable.alone_eq (h : Repeatable context s body) (hitem : s.memory.Holds item)
    (ht : BetweenRuns s target t) (about : Fields Value) {bound : Fields Value}
    (htakes : target.Takes item bound) :
    alone context s target body item =
      (evaluateBlock body context (State.putAll bound (t.tell about))).1 := by
  rw [h.run_congr hitem ht (betweenRuns_enter target rfl (.refl s.memory)) about
    (loopFields 1 0 .undefined .undefined) htakes]
  show (loopFrom target (evaluateBlock body) 1 0 .undefined [item] "" context s.enter).1 = _
  rw [loopFrom_cons, run_bind (bindTarget_of_takes htakes _)]
  cases hrun : evaluateBlock body context
    (State.putAll bound (s.enter.tell (loopFields 1 0 .undefined .undefined))) with
  | mk result u =>
    cases result with
    | ok text =>
      refine (congrArg Prod.fst (run_bind hrun _)).trans ?_
      show Except.ok ("" ++ text) = _
      rw [String.empty_append]
    | error fault => exact congrArg Prod.fst (run_bind_error hrun _)

/-! ## Whole loops -/

/-- The runs of a loop come to what each of them comes to alone, up to the first that fails. -/
theorem Repeatable.loopFrom_eq (h : Repeatable context s body)
    (hitems : ∀ item ∈ items, s.memory.Holds item) (ht : BetweenRuns s target t)
    (length index : Nat) (previous : Value) (done : String) :
    ∃ u, loopFrom target (evaluateBlock body) length index previous items done context t =
        ((items.mapM (alone context s target body)).map (done ++ String.join ·), u) ∧
      ((items.mapM (alone context s target body)).isOk → BetweenRuns s target u) := by
  induction items generalizing t index previous done with
  | nil =>
    refine ⟨t, ?_, fun _ => ht⟩
    show (Except.ok done, t) = (Except.ok (done ++ ""), t)
    rw [String.append_empty]
  | cons item rest ih =>
    obtain ⟨hitem, hrest⟩ := List.forall_mem_cons.mp hitems
    rw [loopFrom_cons, List.mapM_cons]
    rcases target.takes_or_refuses item with ⟨bound, htakes⟩ | ⟨fault, hrefuses⟩
    · rw [run_bind (bindTarget_of_takes htakes _), h.alone_eq hitem ht _ htakes]
      cases hrun : evaluateBlock body context (State.putAll bound (t.tell
        (loopFields length index previous (rest.head?.getD .undefined)))) with
      | mk result u =>
        cases result with
        | ok text =>
          obtain ⟨v, hloop, hbetween⟩ :=
            ih hrest (h.after_run ht htakes hrun) (index + 1) item (done ++ text)
          cases hall : rest.mapM (alone context s target body) with
          | ok texts =>
            rw [hall] at hloop hbetween
            refine ⟨v, (run_bind hrun _).trans (hloop.trans ?_), fun _ => hbetween rfl⟩
            show (Except.ok (done ++ text ++ String.join texts), v) =
              (Except.ok (done ++ String.join (text :: texts)), v)
            rw [String.join_cons, String.append_assoc]
          | error fault =>
            rw [hall] at hloop
            exact ⟨v, (run_bind hrun _).trans hloop, nofun⟩
        | error fault => exact ⟨u, run_bind_error hrun _, nofun⟩
    · obtain ⟨inner, hbind⟩ := @bindTarget_of_refuses context _ _ _ hrefuses
        (t.tell (loopFields length index previous (rest.head?.getD .undefined)))
      rw [run_bind_error hbind, alone_of_refuses hrefuses]
      exact ⟨_, rfl, nofun⟩

theorem BetweenRuns.leave_eq (h : BetweenRuns s target t) :
    t.environment.leave = s.environment := by
  unfold Environment.leave
  rw [h.outer]
  rfl

/-- A tree has a value, whatever is added to the memory. -/
def Lasts (context : Context) (s : State) (node : Node) (value : Value) : Prop :=
  ∀ m, Memory.Grows s.memory m → Has context { s with memory := m } node value

namespace Lasts

theorem name {name : String} {value : Value} (h : s.environment.lookup name = value) :
    Lasts context s (.name name) value := fun _ _ => .name h

theorem concat {first second : Node} {a b : List Value}
    (hfirst : Lasts context s first (.array a)) (hsecond : Lasts context s second (.array b)) :
    Lasts context s (.binary "+" first second) (.array (a ++ b)) := fun m hm =>
  (Has.evaluate_binary (hfirst m hm) (hsecond m hm) (by decide) (by decide)).trans rfl

end Lasts

/-- A loop comes to what its runs come to alone. -/
theorem Repeatable.evaluate_loop (h : Repeatable context s body)
    (hitems : ∀ item ∈ items, s.memory.Holds item)
    (hnode : Lasts context s.enter node (.array items)) (target : Node)
    (hgrows : Memory.Grows s.memory t.memory) (henvironment : t.environment = s.environment) :
    ∃ u, evaluate (.loop target node body) context t =
        (((items.mapM (alone context s target body)).map String.join).map .text, u) ∧
      ((items.mapM (alone context s target body)).isOk →
        Memory.Grows s.memory u.memory ∧ u.environment = s.environment) := by
  obtain ⟨u, hloop, hbetween⟩ := h.loopFrom_eq hitems
    (betweenRuns_enter target henvironment hgrows) items.length 0 .undefined ""
  have henter : t.enter = ⟨t.memory, s.enter.environment⟩ :=
    congrArg (fun environment : Environment => State.mk t.memory environment.enter) henvironment
  have hiterable : evaluate node context t.enter = (.ok (.array items), t.enter) := by
    rw [henter]
    exact hnode t.memory hgrows
  refine ⟨u.leave, ?_, fun hok => ⟨(hbetween hok).grows, (hbetween hok).leave_eq⟩⟩
  simp only [String.empty_append] at hloop
  exact evaluate_loop_eq hiterable hloop

/-- The outcome of a loop over two arrays, one behind the other. -/
structure Distributes (context : Context) (s : State) (target : Node) (body : List Node)
    (first second : Node) (a b : List Value) (outcome : Except Fault String) : Prop where
  /-- It is that of the two loops in a row. -/
  inRow : outcome =
    (evaluateBlock [.loop target first body, .loop target second body] context s).1
  /-- The text is that of the one loop and then that of the other, each evaluated on its own. -/
  apart : outcome = do
    let text ← (evaluateBlock [.loop target first body] context s).1
    let text' ← (evaluateBlock [.loop target second body] context s).1
    pure (text ++ text')
  /-- The text is made of those of the items, each taken alone. -/
  items : outcome = ((a ++ b).mapM (alone context s target body)).map String.join

theorem joined_append (f : Value → Except Fault String) (a b : List Value) :
    ((a ++ b).mapM f).map String.join = (do
      let text ← (a.mapM f).map String.join
      let text' ← (b.mapM f).map String.join
      pure (text ++ text')) := by
  rw [List.mapM_append]
  cases a.mapM f with
  | error fault => rfl
  | ok texts =>
    cases b.mapM f with
    | error fault => rfl
    | ok others => exact congrArg Except.ok String.join_append

theorem loop_distributes (h : Repeatable context s body) {first second : Node} {a b : List Value}
    (ha : ∀ item ∈ a, s.memory.Holds item) (hb : ∀ item ∈ b, s.memory.Holds item)
    (hfirst : Lasts context s.enter first (.array a))
    (hsecond : Lasts context s.enter second (.array b)) (target : Node) :
    Distributes context s target body first second a b
      (evaluateBlock [.loop target (.binary "+" first second) body] context s).1 := by
  have hone {node : Node} {items : List Value} (hitems : ∀ item ∈ items, s.memory.Holds item)
      (hnode : Lasts context s.enter node (.array items)) :
      (evaluateBlock [.loop target node body] context s).1 =
        (items.mapM (alone context s target body)).map String.join := by
    obtain ⟨u, hloop, -⟩ := h.evaluate_loop hitems hnode target (.refl _) rfl
    rw [evaluateBlock_last hloop]
  have hwhole := hone (List.forall_mem_append.mpr ⟨ha, hb⟩) (hfirst.concat hsecond)
  refine ⟨?_, ?_, hwhole⟩
  · rw [hwhole, joined_append]
    obtain ⟨u, hloop, hafter⟩ := h.evaluate_loop ha hfirst target (.refl _) rfl
    cases hall : a.mapM (alone context s target body) with
    | ok texts =>
      rw [hall] at hloop hafter
      obtain ⟨hgrows, henvironment⟩ := hafter rfl
      obtain ⟨v, hloop', -⟩ := h.evaluate_loop hb hsecond target hgrows henvironment
      rw [evaluateBlock_cons hloop rfl (evaluateBlock_last hloop')]
      cases b.mapM (alone context s target body) <;> rfl
    | error fault =>
      rw [hall] at hloop
      rw [evaluateBlock]
      exact (congrArg Prod.fst (run_bind_error hloop _)).symm
  · rw [hwhole, joined_append, hone ha hfirst, hone hb hsecond]

/-- In strict mode, with two arrays of texts among the variables. -/
theorem loop_distributes_texts :
    let a : List Value := [.text "p", .text "q"]
    let b : List Value := [.text "r"]
    let s : State := ⟨.empty, ⟨⟨[("a", .array a), ("b", .array b)], Test.all⟩, []⟩⟩
    let context : Context := .ofLibrary Host.stock [] true
    let body : List Node := [.name "x", .text "-"]
    Repeatable context s body ∧ (∀ item ∈ a, s.memory.Holds item) ∧
      (∀ item ∈ b, s.memory.Holds item) ∧ Lasts context s.enter (.name "a") (.array a) ∧
      Lasts context s.enter (.name "b") (.array b) ∧
      Distributes context s (.name "x") body (.name "a") (.name "b") a b (.ok "p-q-r-") := by
  intro a b s context body
  have htexts (texts : List String) : ∀ item ∈ texts.map Value.text, s.memory.Holds item := by
    intro item hitem
    obtain ⟨text, -, rfl⟩ := List.mem_map.mp hitem
    exact .text text
  have ha : ∀ item ∈ a, s.memory.Holds item := htexts ["p", "q"]
  have hb : ∀ item ∈ b, s.memory.Holds item := htexts ["r"]
  have hbody : Repeatable context s body := by
    refine ⟨?_, by decide, by simp [body, Node.partsOfAll, Node.parts],
      Context.deterministic_stock true _, fun _ => .nil, ?_⟩
    · have hx : Node.IsPlainName "x" := by rw [Node.IsPlainName]; rfl
      exact List.forall_mem_cons.mpr ⟨.output (.value (.name hx)),
        List.forall_mem_singleton.mpr (.output (.value (.text "-")))⟩
    · refine List.forall_mem_singleton.mpr (List.forall_mem_cons.mpr ⟨?_, ?_⟩)
      · exact Memory.holds_array.mpr ha
      · exact List.forall_mem_singleton.mpr (Memory.holds_array.mpr hb)
  have hfirst : Lasts context s.enter (.name "a") (.array a) := .name rfl
  have hsecond : Lasts context s.enter (.name "b") (.array b) := .name rfl
  exact ⟨hbody, ha, hb, hfirst, hsecond, loop_distributes hbody ha hb hfirst hsecond (.name "x")⟩

end Eval

end TextTemplate
