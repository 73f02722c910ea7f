import TextTemplate.Host.Stock
import TextTemplate.Proofs.Eval.Reading
import TextTemplate.Proofs.Eval.Scoping
import TextTemplate.Proofs.Value.Fields

/-!
# What loops do

A loop runs its body once for each item that its array held at the start, all runs in the one scope
that the loop has to itself. A run starts where the one before it ended, except that `loop` is a new
object and that the names of the target are bound to the item. The texts of the runs are joined; the
first item that cannot be bound and the first run that fails are the end of the loop.
-/

namespace TextTemplate

/-! ## Targets -/

namespace Node

/-- A target makes of an item values for names. -/
inductive Takes : Node → Value → Fields Value → Prop
  | name (name : String) (item : Value) : Takes (.name name) item [(name, item)]
  | tuple (bound : Fields Value) :
    Takes (.tuple (bound.map fun pair => .name pair.1)) (.array (bound.map fun pair => pair.2))
      bound

/-- The fault of a node that is of the wrong kind, or of a node that is not there. -/
def complaint (fault : String → Fault) (node : Node) : Fault :=
  if node.isAbsent then .unlabelled else fault node.kindName

/-- Why a target can make nothing of an item. -/
inductive Refuses : Node → Value → Fault → Prop
  | noArray (targets : List Node) {item : Value} (h : ∀ items, item ≠ .array items) :
    Refuses (.tuple targets) item (.cannotUnpack item.kindName)
  | tooFew {targets : List Node} {items : List Value} (h : items.length < targets.length) :
    Refuses (.tuple targets) (.array items) (.tooFewItems targets.length items.length)
  | tooMany {targets : List Node} {items : List Value} (h : targets.length < items.length) :
    Refuses (.tuple targets) (.array items) (.tooManyItems targets.length items.length)
  | noName (names : List String) {target : Node} {later : List Node} {items : List Value}
    (hlength : items.length = (names.map name ++ target :: later).length)
    (h : ∀ name, target ≠ .name name) :
    Refuses (.tuple (names.map .name ++ target :: later)) (.array items)
      (target.complaint .unpackTarget)
  | noTarget {target : Node} (item : Value) (hname : ∀ name, target ≠ .name name)
    (htuple : ∀ targets, target ≠ .tuple targets) :
    Refuses target item (target.complaint .invalidLoopTarget)

/-- The parts of a target that are to be bound. -/
def aims : Node → List Node
  | .tuple targets => targets
  | target => [target]

theorem names_or_not (targets : List Node) :
    (∃ names : List String, targets = names.map .name) ∨
      ∃ (names : List String) (target : Node) (later : List Node),
        targets = names.map .name ++ target :: later ∧ ∀ name, target ≠ .name name := by
  induction targets with
  | nil => exact .inl ⟨[], rfl⟩
  | cons target rest ih =>
    by_cases hname : ∃ name, target = .name name
    · obtain ⟨name, rfl⟩ := hname
      rcases ih with ⟨names, rfl⟩ | ⟨names, other, later, rfl, hother⟩
      · exact .inl ⟨name :: names, rfl⟩
      · exact .inr ⟨name :: names, other, later, rfl, hother⟩
    · exact .inr ⟨[], target, rest, rfl, fun name heq => hname ⟨name, heq⟩⟩

theorem takes_or_refuses (target : Node) (item : Value) :
    (∃ bound, target.Takes item bound) ∨ ∃ fault, target.Refuses item fault := by
  by_cases htuple : ∃ targets, target = .tuple targets
  · obtain ⟨targets, rfl⟩ := htuple
    by_cases harray : ∃ items, item = .array items
    · obtain ⟨items, rfl⟩ := harray
      rcases Nat.lt_trichotomy items.length targets.length with hfew | hlength | hmany
      · exact .inr ⟨_, .tooFew hfew⟩
      · rcases names_or_not targets with ⟨names, rfl⟩ | ⟨names, other, later, rfl, hother⟩
        · rw [List.length_map] at hlength
          have htakes := Takes.tuple (names.zip items)
          have hnames : (names.zip items).map (fun pair => Node.name pair.1) = names.map .name := by
            show (names.zip items).map (Node.name ∘ Prod.fst) = _
            rw [← List.map_map, List.map_fst_zip hlength.ge]
          rw [hnames, List.map_snd_zip hlength.le] at htakes
          exact .inl ⟨_, htakes⟩
        · exact .inr ⟨_, .noName names hlength hother⟩
      · exact .inr ⟨_, .tooMany hmany⟩
    · exact .inr ⟨_, .noArray targets fun items heq => harray ⟨items, heq⟩⟩
  · by_cases hname : ∃ name, target = .name name
    · obtain ⟨name, rfl⟩ := hname
      exact .inl ⟨_, .name name item⟩
    · exact .inr ⟨_, .noTarget item (fun name heq => hname ⟨name, heq⟩) fun targets heq =>
        htuple ⟨targets, heq⟩⟩

theorem Takes.name_mem_aims {target : Node} {item : Value} {bound : Fields Value} {name : String}
    (h : target.Takes item bound) (hname : name ∈ bound.keys) : .name name ∈ target.aims := by
  cases h with
  | name _ _ => simp_all [Fields.keys, aims]
  | tuple bound =>
    obtain ⟨pair, hmem, rfl⟩ := List.mem_map.mp hname
    exact List.mem_map.mpr ⟨pair, hmem, rfl⟩

theorem Takes.mem_keys {target : Node} {item : Value} {bound : Fields Value} {name : String}
    (h : target.Takes item bound) (hname : .name name ∈ target.aims) : name ∈ bound.keys := by
  cases h with
  | name _ _ => simp_all [Fields.keys, aims]
  | tuple bound =>
    obtain ⟨pair, hmem, heq⟩ := List.mem_map.mp hname
    exact List.mem_map.mpr ⟨pair, hmem, Node.name.inj heq⟩

end Node

theorem Environment.lookup_of_get? {env : Environment} {name : String} {value : Value}
    (h : env.inner.bindings.get? name = some value) : env.lookup name = value := by
  rw [lookup, lookup?, scopes, Scope.lookupIn?_cons, h]
  rfl

theorem Environment.leave_eq_of_outer {inner inner' : Scope} {outer : List Scope}
    (h : outer ≠ []) : (mk inner outer).leave = (mk inner' outer).leave := by
  cases outer with
  | nil => exact absurd rfl h
  | cons => rfl

/-! ## Runs of the body -/

/-- The item before that at an index. -/
def previousItem (items : List Value) (index : Nat) : Value :=
  if index = 0 then .undefined else items.getD (index - 1) .undefined

/-- What the body is told about the item at an index. -/
def aboutItem (items : List Value) (index : Nat) : Fields Value :=
  [("index", .ofNat (index + 1)),
    ("index0", .ofNat index),
    ("revindex", .ofNat (items.length - index)),
    ("revindex0", .ofNat (items.length - index - 1)),
    ("first", .bool (decide (index = 0))),
    ("last", .bool (decide (index = items.length - 1))),
    ("length", .ofNat items.length),
    ("previtem", previousItem items index),
    ("nextitem", items.getD (index + 1) .undefined)]

namespace State

def enter (s : State) : State := { s with environment := s.environment.enter }

def leave (s : State) : State := { s with environment := s.environment.leave }

def putAll (bound : Fields Value) (s : State) : State :=
  { s with environment.inner.bindings := s.environment.inner.bindings.putAll bound }

/-- A state in which `loop` has been bound for the item at an index. -/
def announce (items : List Value) (index : Nat) (before : State) : State where
  memory := (before.memory.allocate (aboutItem items index)).2
  environment := before.environment.bind "loop" (.object .plain before.memory.objects.size)

/-- The state in which a run of the body starts. -/
def startRun (items : List Value) (index : Nat) (bound : Fields Value) (before : State) : State :=
  putAll bound (announce items index before)

end State

namespace Eval

variable {context : Context} {s : State} {target iterable : Node} {body : List Node}
  {items : List Value} {item : Value} {bound : Fields Value} {fault : Fault}

theorem failOfKind_eq {α : Type} (fault : String → Fault) (node : Node) :
    (failOfKind fault node : Eval α) context s = (.error (node.complaint fault), s) := by
  unfold failOfKind Node.complaint
  split <;> rfl

/-! ## Binding an item -/

theorem bindNames_eq (bound : Fields Value) (s : State) :
    bindNames (bound.map fun pair => .name pair.1) (bound.map fun pair => pair.2) context s =
      (.ok (), State.putAll bound s) := by
  induction bound generalizing s with
  | nil => rfl
  | cons pair rest ih => exact ih _

theorem bindTarget_of_takes (h : target.Takes item bound) (s : State) :
    bindTarget target item context s = (.ok (), State.putAll bound s) := by
  cases h with
  | name name item => rfl
  | tuple bound =>
    simp only [bindTarget, List.length_map, Nat.lt_irrefl, ↓reduceIte]
    exact bindNames_eq bound s

theorem bindNames_of_no_name (context : Context) {names : List String} {later : List Node}
    (hlength : items.length = (names.map Node.name ++ target :: later).length)
    (h : ∀ name, target ≠ .name name) (s : State) :
    ∃ inner, bindNames (names.map .name ++ target :: later) items context s =
      (.error (target.complaint .unpackTarget), { s with environment.inner := inner }) := by
  induction names generalizing items s with
  | nil =>
    cases items with
    | nil => cases hlength
    | cons item rest =>
      refine ⟨s.environment.inner, ?_⟩
      cases target with
      | name name => exact absurd rfl (h name)
      | _ => exact failOfKind_eq _ _
  | cons name names ih =>
    cases items with
    | nil => cases hlength
    | cons item rest => exact ih (Nat.succ.inj hlength) _

theorem bindTarget_of_refuses (h : target.Refuses item fault) (s : State) :
    ∃ inner, bindTarget target item context s =
      (.error fault, { s with environment.inner := inner }) := by
  cases h with
  | noArray targets h =>
    refine ⟨s.environment.inner, ?_⟩
    cases item with
    | array items => exact absurd rfl (h items)
    | _ => rfl
  | tooFew h =>
    refine ⟨s.environment.inner, ?_⟩
    simp only [bindTarget, h, ↓reduceIte]
    rfl
  | tooMany h =>
    refine ⟨s.environment.inner, ?_⟩
    simp only [bindTarget, h, h.not_gt, ↓reduceIte]
    rfl
  | noName names hlength h =>
    obtain ⟨inner, hbind⟩ := bindNames_of_no_name context hlength h s
    refine ⟨inner, ?_⟩
    simp only [bindTarget, ← hlength, Nat.lt_irrefl, ↓reduceIte]
    exact hbind
  | noTarget item hname htuple =>
    refine ⟨s.environment.inner, ?_⟩
    cases target with
    | name name => exact absurd rfl (hname name)
    | tuple targets => exact absurd rfl (htuple targets)
    | _ => exact failOfKind_eq _ _

/-! ## Runs of the body -/

/-- The first runs of the body of a loop: how many they are, the text of each, and the state behind
the last of them. -/
inductive Iterates (context : Context) (target : Node) (body : List Node) (items : List Value)
    (entered : State) : Nat → List String → State → Prop
  | start : Iterates context target body items entered 0 [] entered
  | next {count : Nat} {texts : List String} {before : State} {bound : Fields Value} {text : String}
    {after : State} (hcount : count < items.length)
    (earlier : Iterates context target body items entered count texts before)
    (htakes : target.Takes items[count] bound)
    (hbody : evaluateBlock body context (State.startRun items count bound before) =
      (.ok text, after)) :
    Iterates context target body items entered (count + 1) (texts ++ [text]) after

/-- The end of a loop that fails: an item that cannot be bound, or a run that fails, behind runs
that did not. -/
inductive Breaks (context : Context) (target : Node) (body : List Node) (items : List Value)
    (entered : State) : Fault → State → Prop
  | unbound {count : Nat} {texts : List String} {before : State} {fault : Fault}
    (hcount : count < items.length)
    (earlier : Iterates context target body items entered count texts before)
    (hrefuses : target.Refuses items[count] fault) :
    Breaks context target body items entered fault (State.announce items count before).leave
  | failed {count : Nat} {texts : List String} {before : State} {bound : Fields Value}
    {fault : Fault} {after : State} (hcount : count < items.length)
    (earlier : Iterates context target body items entered count texts before)
    (htakes : target.Takes items[count] bound)
    (hbody : evaluateBlock body context (State.startRun items count bound before) =
      (.error fault, after)) :
    Breaks context target body items entered fault after.leave

/-- What the body of a loop finds when a run starts. `around` are the variables around the loop,
`before` is the state behind the run before. -/
structure RunStarts (around : Environment) (items : List Value) (index : Nat) (bound : Fields Value)
    (before start : State) : Prop where
  /-- There is a new object for `loop`. -/
  loop : ∃ address, start.environment.lookup "loop" = .object .plain address ∧
    before.memory.objects.size ≤ address ∧ start.memory.fields address = aboutItem items index
  /-- All else in the scope of the loop is what the run before left there. -/
  kept : ∀ name, name ≠ "loop" → name ∉ bound.keys →
    start.environment.inner.bindings.get? name = before.environment.inner.bindings.get? name
  /-- A name that the target binds has the value that is bound last. -/
  bound : ∀ (earlier : Fields Value) name value (later : Fields Value),
    bound = earlier ++ (name, value) :: later → name ∉ later.keys →
      start.environment.lookup name = value
  outer : start.environment.outer = before.environment.outer
  grown : Memory.Grows before.memory start.memory
  /-- The scopes around that of the loop are still the same ones. -/
  around : start.environment.outer.map Scope.names = around.scopes.map Scope.names

variable {entered before : State} {count : Nat} {texts : List String}

theorem loopFields_eq (hcount : count < items.length) :
    loopFields items.length count (previousItem items count)
      ((items.drop (count + 1)).head?.getD .undefined) = aboutItem items count := by
  have hlast : (count + 1 == items.length) = decide (count = items.length - 1) := by
    rw [Bool.eq_iff_iff, beq_iff_eq, decide_eq_true_iff]
    omega
  have hnext : (items.drop (count + 1)).head?.getD .undefined =
      items.getD (count + 1) .undefined := by
    rw [List.head?_drop, List.getD_eq_getElem?_getD]
  rw [loopFields, hlast, hnext]
  rfl

/-- One item of a loop: `loop` and the target are bound, and the body is run. -/
theorem loopFrom_step (x : Eval String) (hcount : count < items.length) (done : String) :
    loopFrom target x items.length count (previousItem items count) (items.drop count) done
        context before =
      (do
        bindTarget target items[count]
        let part ← x
        loopFrom target x items.length (count + 1) (previousItem items (count + 1))
          (items.drop (count + 1)) (done ++ part)) context (State.announce items count before) := by
  have hprevious : previousItem items (count + 1) = items[count] := by
    simp [previousItem, List.getD_eq_getElem?_getD, hcount]
  rw [List.drop_eq_getElem_cons hcount, loopFrom, loopFields_eq hcount, hprevious]
  rfl

/-- Behind the first runs a loop goes on from the state that they leave. -/
theorem Iterates.loopFrom_eq (h : Iterates context target body items entered count texts before) :
    loopFrom target (evaluateBlock body) items.length 0 .undefined items "" context entered =
      loopFrom target (evaluateBlock body) items.length count (previousItem items count)
        (items.drop count) (String.join texts) context before := by
  induction h with
  | start => rfl
  | @next count texts before bound text after hcount _ htakes hbody ih =>
    rw [ih, loopFrom_step _ hcount, run_bind (bindTarget_of_takes htakes _)]
    refine (run_bind hbody _).trans ?_
    simp [String.join]

/-! ## How runs start -/

theorem reach_putAll {here anywhere : String → Prop} (bound : Fields Value)
    (h : ∀ name, here name) (s : State) :
    Environment.Reach here anywhere s.environment (State.putAll bound s).environment := by
  induction bound generalizing s with
  | nil => exact .refl
  | cons pair rest ih =>
    have hrest := ih { s with environment := s.environment.bind pair.1 pair.2 }
    exact .head (.bind pair.2 (h pair.1)) hrest

/-- Runs make assignments only, in the scope of the loop and to what is bound around it. -/
theorem Iterates.reach (h : Iterates context target body items entered count texts before) :
    Environment.Reach (fun _ => True) (fun _ => True) entered.environment before.environment := by
  induction h with
  | start => exact .refl
  | @next count texts before bound text after _ _ _ hbody ih =>
    have hmoves := evaluateBlock_moves body (fun _ => True) (fun _ => True)
      ⟨fun _ _ => ⟨trivial, trivial⟩, fun _ _ => trivial⟩ context
      (State.startRun items count bound before)
    rw [hbody] at hmoves
    have hloop : Environment.Reach (fun _ => True) (fun _ => True) before.environment
        (State.announce items count before).environment := .single (.bind _ trivial)
    exact ih.trans (hloop.trans ((reach_putAll bound (fun _ => trivial) _).trans hmoves))

theorem outer_of_entered
    (hiterable : evaluate iterable context s.enter = (.ok (.array items), entered)) :
    entered.environment.outer.map Scope.names = s.environment.scopes.map Scope.names := by
  have hmoves := evaluate_moves iterable (fun _ => True) (fun _ => True)
    ⟨fun _ _ => ⟨trivial, trivial⟩, fun _ _ => trivial⟩ context s.enter
  rw [hiterable] at hmoves
  exact hmoves.names.1

theorem Iterates.runStarts {around : Environment}
    (h : Iterates context target body items entered count texts before)
    (haround : entered.environment.outer.map Scope.names = around.scopes.map Scope.names)
    (hloop : "loop" ∉ bound.keys) :
    RunStarts around items count bound before (State.startRun items count bound before) where
  loop := by
    refine ⟨before.memory.objects.size, Environment.lookup_of_get? ?_, le_rfl, ?_⟩
    · show ((before.environment.inner.bindings.put "loop" _).putAll bound).get? "loop" = _
      rw [Fields.get?_putAll_of_not_mem hloop, Fields.get?_put, if_pos rfl]
    · exact (Memory.fields_allocate _ _ _).trans (if_pos rfl)
  kept name hname hbound := by
    show ((before.environment.inner.bindings.put "loop" _).putAll bound).get? name = _
    rw [Fields.get?_putAll_of_not_mem hbound, Fields.get?_put, if_neg hname]
  bound := by
    rintro earlier name value later rfl hlater
    exact Environment.lookup_of_get? (Fields.get?_putAll_append earlier value hlater)
  outer := rfl
  grown := Memory.grows_allocate _ _
  around := h.reach.names.1.trans haround

/-! ## Whole loops -/

/-- A loop comes to any number of runs, unless it ends before. -/
theorem iterates_or_breaks (context : Context) (target : Node) (body : List Node) (entered : State)
    (hcount : count ≤ items.length) :
    (∃ texts before, Iterates context target body items entered count texts before) ∨
      ∃ fault t, Breaks context target body items entered fault t := by
  induction count with
  | zero => exact .inl ⟨_, _, .start⟩
  | succ count ih =>
    rcases ih (Nat.le_of_succ_le hcount) with ⟨texts, before, earlier⟩ | hbreaks
    · rcases target.takes_or_refuses items[count] with ⟨bound, htakes⟩ | ⟨fault, hrefuses⟩
      · rcases hbody : evaluateBlock body context (State.startRun items count bound before) with
          ⟨text | fault, after⟩
        · exact .inr ⟨_, _, .failed hcount earlier htakes hbody⟩
        · exact .inl ⟨_, _, .next hcount earlier htakes hbody⟩
      · exact .inr ⟨_, _, .unbound hcount earlier hrefuses⟩
    · exact .inr hbreaks

theorem evaluate_loop_of_iterates
    (hiterable : evaluate iterable context s.enter = (.ok (.array items), entered))
    (h : Iterates context target body items entered items.length texts before) :
    evaluate (.loop target iterable body) context s =
      (.ok (.text (String.join texts)), before.leave) := by
  have hrun := h.loopFrom_eq
  rw [List.drop_length] at hrun
  exact evaluate_loop_eq hiterable hrun

theorem evaluate_loop_of_breaks
    (hiterable : evaluate iterable context s.enter = (.ok (.array items), entered))
    {t : State} (h : Breaks context target body items entered fault t) :
    evaluate (.loop target iterable body) context s = (.error fault, t) := by
  cases h with
  | @unbound count texts before _ hcount earlier hrefuses =>
    obtain ⟨inner, hbind⟩ := bindTarget_of_refuses hrefuses (State.announce items count before)
    have hrun := earlier.loopFrom_eq
    rw [loopFrom_step _ hcount, run_bind_error hbind] at hrun
    -- There are scopes around that of the loop, so leaving it forgets what was bound in it.
    have hnames := earlier.reach.names.1.trans (outer_of_entered hiterable)
    have houter : (State.announce items count before).environment.outer ≠ [] := by
      intro hnil
      rw [show before.environment.outer = [] from hnil] at hnames
      cases hnames
    rw [evaluate_loop_eq hiterable hrun]
    exact congrArg (Except.error fault, State.mk (State.announce items count before).memory ·)
      (Environment.leave_eq_of_outer houter)
  | failed hcount earlier htakes hbody =>
    have hrun := earlier.loopFrom_eq
    rw [loopFrom_step _ hcount, run_bind (bindTarget_of_takes htakes _)] at hrun
    exact evaluate_loop_eq hiterable (hrun.trans (run_bind_error hbody _))

/-- What a loop over an array does, whatever its body does: it succeeds just if its body has run for
every item, and then has the texts of the runs in their order; it fails just if an item cannot be
bound or a run fails, and with the fault of the first. Every run starts as described. -/
theorem evaluate_loop_runs (target iterable : Node) (body : List Node) (context : Context)
    (s entered : State) (items : List Value) (hloop : .name "loop" ∉ target.aims)
    (hiterable : evaluate iterable context s.enter = (.ok (.array items), entered)) :
    (∀ value t, evaluate (.loop target iterable body) context s = (.ok value, t) ↔
      ∃ texts last, Iterates context target body items entered items.length texts last ∧
        value = .text (String.join texts) ∧ t = last.leave) ∧
    (∀ fault t, evaluate (.loop target iterable body) context s = (.error fault, t) ↔
      Breaks context target body items entered fault t) ∧
    ∀ count texts before bound, ∀ hcount : count < items.length,
      Iterates context target body items entered count texts before →
      target.Takes items[count] bound →
      RunStarts s.environment items count bound before
        (State.startRun items count bound before) := by
  -- A loop has one outcome, and one of the two descriptions of it applies.
  have houtcome := iterates_or_breaks context target body entered items.length.le_refl
  refine ⟨fun value t => ⟨fun hrun => ?_, ?_⟩, fun fault t => ⟨fun hrun => ?_, ?_⟩, ?_⟩
  · rcases houtcome with ⟨texts, last, hall⟩ | ⟨fault, u, hbreaks⟩
    · cases hrun.symm.trans (evaluate_loop_of_iterates hiterable hall)
      exact ⟨texts, last, hall, rfl, rfl⟩
    · cases hrun.symm.trans (evaluate_loop_of_breaks hiterable hbreaks)
  · rintro ⟨texts, last, hall, rfl, rfl⟩
    exact evaluate_loop_of_iterates hiterable hall
  · rcases houtcome with ⟨texts, last, hall⟩ | ⟨fault', u, hbreaks⟩
    · cases hrun.symm.trans (evaluate_loop_of_iterates hiterable hall)
    · cases hrun.symm.trans (evaluate_loop_of_breaks hiterable hbreaks)
      exact hbreaks
  · exact evaluate_loop_of_breaks hiterable
  · intro count texts before bound hcount hiterates htakes
    exact hiterates.runStarts (outer_of_entered hiterable) fun hmem =>
      hloop (htakes.name_mem_aims hmem)

/-- A loop that takes pairs apart, and whose body assigns to one of the targets. -/
theorem evaluate_loop_runs_pairs :
    let target : Node := .tuple [.name "a", .name "b"]
    let iterable : Node := .array [.array [.text "p", .text "q"], .array [.text "r", .text "s"]]
    let body : List Node := [.set (.name "a") (.name "b"), .name "a"]
    let items : List Value := [.array [.text "p", .text "q"], .array [.text "r", .text "s"]]
    let context := Context.ofLibrary Host.stock [] false
    let entered := State.initial.enter
    .name "loop" ∉ target.aims ∧
      evaluate iterable context entered = (.ok (.array items), entered) ∧
      (evaluate (.loop target iterable body) context .initial).1 = .ok (.text "qs") ∧
      ∃ texts last, Iterates context target body items entered items.length texts last ∧
        String.join texts = "qs" := by
  intro target iterable body items context entered
  have hloop : .name "loop" ∉ target.aims := by simp [target, Node.aims]
  have hiterable : evaluate iterable context entered = (.ok (.array items), entered) := by rfl
  have hresult : (evaluate (.loop target iterable body) context .initial).1 = .ok (.text "qs") := by
    rfl
  have hruns := (evaluate_loop_runs target iterable body context .initial entered items hloop
    hiterable).1 (.text "qs") (evaluate (.loop target iterable body) context .initial).2
  obtain ⟨texts, last, hiterates, htext, -⟩ := hruns.mp (Prod.ext hresult rfl)
  exact ⟨hloop, hiterable, hresult, texts, last, hiterates, (Value.text.inj htext).symm⟩

end Eval

end TextTemplate
