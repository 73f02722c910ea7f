import TextTemplate.Eval.Evaluate
import TextTemplate.Proofs.Matching.Start
import TextTemplate.Proofs.Sequence.Selection
import TextTemplate.Proofs.Value.Equality

/-!
# Trees that only read

Most trees only read variables and fields and put texts together. Such a tree has a value in a
state, and its evaluation leaves the state as it is; the laws here say which, from the inside of a
tree to the outside. A loop whose body only reads contributes what the body says of each item.
-/

namespace TextTemplate

open List (Forall₂)

theorem Environment.lookup_assign (env : Environment) (name other : String) (value : Value) :
    (env.assign name value).lookup other = if other = name then value else env.lookup other := by
  unfold lookup
  split
  · rename_i h
    rw [h, lookup?_assign]
    rfl
  · rename_i h
    exact congrArg (·.getD .undefined) (Scope.lookupIn?_congr (env.get?_assign value h))

namespace Eval

variable {context : Context} {s t : State} {node left right object : Node} {body rest : List Node}

/-! ## Expressions -/

/-- A tree has a value, and its evaluation changes nothing. -/
def Has (context : Context) (s : State) (node : Node) (value : Value) : Prop :=
  evaluate node context s = (.ok value, s)

namespace Has

theorem name {name : String} {value : Value} (h : s.environment.lookup name = value) :
    Has context s (.name name) value := by
  rw [Has, evaluate, ← h]
  rfl

theorem text (text : String) : Has context s (.text text) (.text text) := by
  rw [Has, evaluate]
  rfl

theorem number (i : Int) : Has context s (.number (.int i)) (.number (.int i)) := by
  rw [Has, evaluate]
  rfl

/-- A field of an object, in brackets. -/
theorem item {kind : ObjectKind} {address : Address} {property : Node} {key : String}
    {value : Value} (hobject : Has context s object (.object kind address))
    (hkey : Has context s property (.text key))
    (hvalue : (s.memory.fields address).get? key = some value) :
    Has context s (.member object property true) value := by
  have hmember : member (.object kind address) (.text key) context s = (.ok value, s) := by
    rw [member, run_bind (a := s.memory.fields address) (t := s) rfl, hvalue]
    rfl
  rw [Has, evaluate, run_bind hobject, run_bind hkey, hmember]
  rintro start stop step rfl
  rw [Has, evaluate] at hkey
  cases hkey

theorem field {kind : ObjectKind} {address : Address} {key : String} {value : Value}
    (hobject : Has context s object (.object kind address))
    (hvalue : (s.memory.fields address).get? key = some value) :
    Has context s (.member object (.text key) true) value :=
  hobject.item (text key) hvalue

/-- A field of an object, behind a dot. -/
theorem dotted {kind : ObjectKind} {address : Address} {key : String} {value : Value}
    (hobject : Has context s object (.object kind address))
    (hvalue : (s.memory.fields address).get? key = some value) :
    Has context s (.member object (.name key) false) value := by
  have hmember : member (.object kind address) (.text key) context s = (.ok value, s) := by
    rw [member, run_bind (a := s.memory.fields address) (t := s) rfl, hvalue]
    rfl
  rw [Has, evaluate, run_bind hobject]
  exact hmember

theorem first {item : Value} {items : List Value}
    (hobject : Has context s object (.array (item :: items))) :
    Has context s (.member object (.number (.int 0)) true) item := by
  rw [Has, evaluate, run_bind hobject, run_bind (number 0)]
  · rfl
  · exact fun _ _ _ => Node.noConfusion

theorem others {item : Value} {items : List Value}
    (hobject : Has context s object (.array (item :: items))) :
    Has context s (.member object (.slice (some (.number (.int 1))) none none) true)
      (.array items) := by
  have hone : evaluateBound (some (.number (.int 1))) context s = (.ok (some 1), s) := by
    rw [evaluateBound, run_bind (number 1)]
    rfl
  have hnone : evaluateBound none context s = (.ok none, s) := by
    rw [evaluateBound]
    rfl
  rw [Has, evaluate, run_bind hobject]
  refine (run_bind hone _).trans ((run_bind hnone _).trans ((run_bind hnone _).trans ?_))
  show (Except.ok (Value.array (Sequence.slice (item :: items) (some 1) none 1)), s) = _
  rw [Sequence.slice_cons]

theorem concat {a b : String} (hleft : Has context s left (.text a))
    (hright : Has context s right (.text b)) :
    Has context s (.binary "+" left right) (.text (a ++ b)) := by
  rw [Has, evaluate, run_bind hleft]
  exact (run_bind hright _).trans rfl

theorem sameText {a b : String} (hleft : Has context s left (.text a))
    (hright : Has context s right (.text b)) :
    Has context s (.binary "==" left right) (.bool (a == b)) := by
  rw [Has, evaluate, run_bind hleft]
  exact (run_bind hright _).trans rfl

theorem otherBool {a b : Bool} (hleft : Has context s left (.bool a))
    (hright : Has context s right (.bool b)) :
    Has context s (.binary "!=" left right) (.bool (a != b)) := by
  rw [Has, evaluate, run_bind hleft]
  exact (run_bind hright _).trans rfl

theorem even {n : Nat} (hleft : Has context s left (.ofNat n)) :
    Has context s (.binary "==" (.binary "%" left (.number (.int 2))) (.number (.int 0)))
      (.bool (n % 2 == 0)) := by
  have hremainder : Has context s (.binary "%" left (.number (.int 2)))
      (.number (.int (Int.fmod n 2))) := by
    rw [Has, evaluate, run_bind hleft]
    exact (run_bind (number 2) _).trans rfl
  have hsame : (Number.int (Int.fmod n 2)).sameValue (.int 0) = (n % 2 == 0) := by
    have hfmod : Int.fmod n 2 = (n % 2 : Nat) := by
      rw [Int.fmod_eq_emod_of_nonneg _ (by decide)]
      rfl
    rw [Number.sameValue_int, hfmod, Bool.eq_iff_iff, beq_iff_eq, beq_iff_eq]
    omega
  rw [Has, evaluate, run_bind hremainder]
  refine (run_bind (number 0) _).trans ?_
  rw [← hsame]
  rfl

/-- What is true goes on with the right side. -/
theorem and_true {value value' : Value} (hleft : Has context s left value)
    (htrue : truth value context s = (.ok true, s)) (hright : Has context s right value') :
    Has context s (.binary "and" left right) value' := by
  rw [Has, evaluate, run_bind hleft]
  exact (run_bind htrue _).trans hright

theorem and_false {value : Value} (hleft : Has context s left value)
    (hfalse : truth value context s = (.ok false, s)) :
    Has context s (.binary "and" left right) value := by
  rw [Has, evaluate, run_bind hleft]
  exact (run_bind hfalse _).trans rfl

theorem array {nodes : List Node} {items : List Value}
    (h : Forall₂ (Has context s) nodes items) : Has context s (.array nodes) (.array items) := by
  have hall : evaluateAll nodes context s = (.ok items, s) := by
    induction h with
    | nil =>
      rw [evaluateAll]
      rfl
    | cons hitem _ ih =>
      rw [evaluateAll, run_bind hitem, run_bind ih]
      rfl
  rw [Has, evaluate]
  exact run_bind hall _

/-- All operators but `and` and `or` are applied to the values of both sides. -/
theorem evaluate_binary {a b : Value} (hleft : Has context s left a) (hright : Has context s right b)
    {operator : String} (hand : operator ≠ "and") (hor : operator ≠ "or") :
    evaluate (.binary operator left right) context s = applyBinary operator a b context s := by
  rw [evaluate, run_bind hleft]
  split
  · exact absurd rfl hand
  · exact absurd rfl hor
  · exact run_bind hright _

/-- What stands in brackets behind a tree, if it is no slice. -/
theorem evaluate_item {property : Node} {value value' : Value} (hobject : Has context s object value)
    (hproperty : Has context s property value') :
    evaluate (.member object property true) context s = member value value' context s := by
  rw [evaluate, run_bind hobject]
  · exact run_bind hproperty _
  · rintro start stop step rfl
    rw [Has, evaluate] at hproperty
    cases hproperty

theorem evaluate_filter {value : Value} (hoperand : Has context s object value) {name : String}
    (hnone : context.filters.get? name = none) :
    evaluate (.filter object (.name name)) context s =
      applyBuiltinFilter name value [] [] context s := by
  rw [evaluate, run_bind hoperand, applyFilter]
  refine (run_bind (a := ⟨[], [], []⟩) (t := s) rfl _).trans ?_
  refine (run_bind (a := context) (t := s) rfl _).trans ?_
  rw [hnone]

end Has

/-! ## Statements -/

theorem evaluateBlock_nil : evaluateBlock [] context s = (.ok "", s) := by
  rw [evaluateBlock]
  rfl

/-- A statement that contributes a text, and what comes after it. -/
theorem evaluateBlock_cons {value : Value} {text : String} {result : Except Fault String}
    {u : State} (hnode : evaluate node context s = (.ok value, t))
    (hvalue : contribution node value context t = (.ok (some text), t))
    (hrest : evaluateBlock rest context t = (result, u)) :
    evaluateBlock (node :: rest) context s = (result.map (text ++ ·), u) := by
  rw [evaluateBlock, run_bind hnode, run_bind hvalue]
  cases result with
  | ok texts => exact run_bind hrest _
  | error fault => exact run_bind_error hrest _

theorem evaluateBlock_last {result : Except Fault String}
    (hnode : evaluate node context s = (result.map .text, t)) :
    evaluateBlock [node] context s = (result, t) := by
  cases result with
  | ok text =>
    rw [evaluateBlock_cons hnode rfl evaluateBlock_nil]
    show (Except.ok (text ++ ""), t) = _
    rw [String.append_empty]
  | error fault =>
    rw [evaluateBlock]
    exact run_bind_error hnode _

theorem evaluate_set {name : String} {value : Value}
    (h : evaluate node context s = (.ok value, t)) :
    evaluate (.set (.name name) node) context s =
      (.ok .null, { t with environment := t.environment.assign name value }) := by
  rw [evaluate, run_bind h]
  rfl

theorem evaluateBlock_set {name : String} {value : Value} (h : Has context s node value) :
    evaluateBlock (.set (.name name) node :: rest) context s =
      evaluateBlock rest context { s with environment := s.environment.assign name value } := by
  generalize hrest : evaluateBlock rest context
    { s with environment := s.environment.assign name value } = outcome
  obtain ⟨result, u⟩ := outcome
  rw [evaluateBlock_cons (evaluate_set h) rfl hrest]
  cases result with
  | ok text =>
    show (Except.ok ("" ++ text), u) = _
    rw [String.empty_append]
  | error fault => rfl

theorem evaluate_branch {value : Value} {holds : Bool} {alternate : List Node}
    {result : Except Fault String} (h : Has context s node value)
    (htruth : truth value context s = (.ok holds, s))
    (hbody : evaluateBlock (if holds then body else alternate) context s = (result, t)) :
    evaluate (.branch node body alternate) context s = (result.map .text, t) := by
  rw [evaluate, run_bind h, run_bind htruth]
  cases holds with
  | true =>
    cases result with
    | ok text => exact run_bind hbody _
    | error fault => exact run_bind_error hbody _
  | false =>
    cases result with
    | ok text => exact run_bind hbody _
    | error fault => exact run_bind_error hbody _

/-! ## Loops -/

/-- The state in which the body of a loop is evaluated for an item. The scope of the loop holds
nothing but the item and what the loop tells its body; the memory has grown from that before the
loop. -/
structure InLoop (start : Memory) (around : Environment) (name : String) (length index : Nat)
    (item : Value) (s : State) : Prop where
  grows : Memory.Grows start s.memory
  outer : s.environment.outer = around.scopes
  item : s.environment.inner.bindings.get? name = some item
  others : ∀ other, other ≠ "loop" → other ≠ name → s.environment.inner.bindings.get? other = none
  about : ∃ address previous next,
    s.environment.inner.bindings.get? "loop" = some (.object .plain address) ∧
      s.memory.fields address = loopFields length index previous next

namespace InLoop

variable {start : Memory} {around : Environment} {name : String} {length index : Nat}
  {item : Value}

theorem lookup_item (h : InLoop start around name length index item s) :
    s.environment.lookup name = item := by
  rw [Environment.lookup, Environment.lookup?, Environment.scopes, Scope.lookupIn?_cons, h.item]
  rfl

theorem lookup_other (h : InLoop start around name length index item s) {other : String}
    (hloop : other ≠ "loop") (hname : other ≠ name) :
    s.environment.lookup other = around.lookup other := by
  rw [Environment.lookup, Environment.lookup?, Environment.scopes, Scope.lookupIn?_cons,
    h.others other hloop hname, h.outer]
  rfl

/-- What the loop tells its body about the current item. -/
theorem has_about (h : InLoop start around name length index item s) {key : String} {value : Value}
    (hvalue : ∀ previous next, (loopFields length index previous next).get? key = some value) :
    Has context s (.member (.name "loop") (.name key) false) value := by
  obtain ⟨address, previous, next, hloop, hfields⟩ := h.about
  have hfound : s.environment.lookup "loop" = .object .plain address := by
    rw [Environment.lookup, Environment.lookup?, Environment.scopes, Scope.lookupIn?_cons, hloop]
    rfl
  exact .dotted (.name hfound) (hfields ▸ hvalue previous next)

end InLoop

/-- The texts of the items of a list, one after the other, from an index on. -/
def joinFrom {β : Type} (f : Nat → β → Except Fault String) : Nat → List β → Except Fault String
  | _, [] => .ok ""
  | index, item :: rest =>
    match f index item with
    | .ok text => (joinFrom f (index + 1) rest).map (text ++ ·)
    | .error fault => .error fault

def loopState (name : String) (about : Fields Value) (item : Value) (s : State) : State where
  memory := (s.memory.allocate about).2
  environment :=
    (s.environment.bind "loop" (.object .plain s.memory.objects.size)).bind name item

theorem inLoop_loopState {start : Memory} {around : Environment} {name : String}
    {length index : Nat} {previous next item : Value} (hname : name ≠ "loop")
    (hgrows : Memory.Grows start s.memory) (houter : s.environment.outer = around.scopes)
    (hothers : ∀ other, other ≠ "loop" → other ≠ name →
      s.environment.inner.bindings.get? other = none) :
    InLoop start around name length index item
      (loopState name (loopFields length index previous next) item s) where
  grows := hgrows.trans (Memory.grows_allocate _ _)
  outer := houter
  item := by simp [loopState, Environment.bind, Fields.get?_put]
  others other hloop hother := by
    simp [loopState, Environment.bind, Fields.get?_put, hloop, hother, hothers other hloop hother]
  about := by
    refine ⟨s.memory.objects.size, previous, next, ?_, ?_⟩
    · simp [loopState, Environment.bind, Fields.get?_put, Ne.symm hname]
    · simp [loopState, Memory.fields_allocate]

/-- Where every item has a text, they are all joined. -/
theorem joinFrom_ok {β : Type} {f : Nat → β → Except Fault String} {g : Nat → β → String}
    {bs : List β} {index : Nat}
    (h : ∀ i (hi : i < bs.length), f (index + i) bs[i] = .ok (g (index + i) bs[i])) :
    joinFrom f index bs = .ok (String.join (bs.mapIdx fun i b => g (index + i) b)) := by
  induction bs generalizing index with
  | nil => rfl
  | cons b rest ih =>
    have hfirst : f index b = .ok (g index b) := h 0 (Nat.zero_lt_succ _)
    have hrest := @ih (index + 1) fun i hi => by
      have hnext := h (i + 1) (Nat.succ_lt_succ hi)
      rw [Nat.add_right_comm, Nat.add_assoc]
      exact hnext
    have hshift : (fun i b => g (index + 1 + i) b) = fun i b => g (index + (i + 1)) b := by
      funext i b
      rw [Nat.add_right_comm, Nat.add_assoc]
    rw [joinFrom, hfirst, hrest, List.mapIdx_cons, String.join_cons, hshift]
    rfl

/-- Where no item fails but with one fault, and some item does, it is the fault of them all. -/
theorem joinFrom_error {β : Type} {f : Nat → β → Except Fault String} {fault : Fault}
    (hf : ∀ i b, (∃ text, f i b = .ok text) ∨ f i b = .error fault) {bs : List β} {index : Nat}
    (h : ∃ i, ∃ hi : i < bs.length, f (index + i) bs[i] = .error fault) :
    joinFrom f index bs = .error fault := by
  induction bs generalizing index with
  | nil =>
    obtain ⟨i, hi, -⟩ := h
    exact absurd hi (Nat.not_lt_zero i)
  | cons b rest ih =>
    rcases hf index b with ⟨text, hfirst⟩ | hfirst
    · have hrest : joinFrom f (index + 1) rest = .error fault := by
        obtain ⟨i, hi, hfault⟩ := h
        cases i with
        | zero =>
          rw [show f (index + 0) (b :: rest)[0] = .ok text from hfirst] at hfault
          cases hfault
        | succ i =>
          refine ih ⟨i, Nat.lt_of_succ_lt_succ hi, ?_⟩
          rw [Nat.add_right_comm, Nat.add_assoc]
          exact hfault
      rw [joinFrom, hfirst, hrest]
      rfl
    · rw [joinFrom, hfirst]

section Loop

variable {β : Type} {R : Value → β → Prop} {f : Nat → β → Except Fault String} {start : Memory}
  {around : Environment} {name : String} {length : Nat}

/-- A loop whose body only reads. The relation says what the items stand for. -/
theorem loopFrom_eq {body : Eval String} (hname : name ≠ "loop")
    (hbody : ∀ index item b s, R item b → InLoop start around name length index item s →
      body context s = (f index b, s))
    {items : List Value} {bs : List β} (h : Forall₂ R items bs) (index : Nat) (previous : Value)
    (done : String) {s : State} (hgrows : Memory.Grows start s.memory)
    (houter : s.environment.outer = around.scopes)
    (hothers : ∀ other, other ≠ "loop" → other ≠ name →
      s.environment.inner.bindings.get? other = none) :
    ∃ t, loopFrom (.name name) body length index previous items done context s =
        ((joinFrom f index bs).map (done ++ ·), t) ∧
      Memory.Grows start t.memory ∧ t.environment.outer = around.scopes := by
  -- By the items that are left. Before each of them the scope holds nothing but the item before it
  -- and what the loop told of that, which are both bound again.
  induction h generalizing index previous done s with
  | nil =>
    refine ⟨s, ?_, hgrows, houter⟩
    show (Except.ok done, s) = (Except.ok (done ++ ""), s)
    rw [String.append_empty]
  | @cons item b items bs hitem _ ih =>
    obtain ⟨about, habout⟩ : ∃ about, about = loopFields length index previous
      (items.head?.getD .undefined) := ⟨_, rfl⟩
    have hin : InLoop start around name length index item (loopState name about item s) := by
      rw [habout]
      exact inLoop_loopState hname hgrows houter hothers
    have hpart := hbody index item b _ hitem hin
    have hloop : loopFrom (.name name) body length index previous (item :: items) done context s =
        (body >>= fun part => loopFrom (.name name) body length (index + 1) item items
          (done ++ part)) context (loopState name about item s) := by
      rw [habout]
      rfl
    cases hf : f index b with
    | ok text =>
      rw [hf] at hpart
      obtain ⟨t, hrun, hgrown, houter⟩ :=
        ih (index + 1) item (done ++ text) hin.grows hin.outer hin.others
      refine ⟨t, ?_, hgrown, houter⟩
      rw [hloop, run_bind hpart, hrun, joinFrom, hf]
      cases joinFrom f (index + 1) bs with
      | ok texts =>
        show (Except.ok (done ++ text ++ texts), t) = _
        rw [String.append_assoc]
        rfl
      | error fault => rfl
    | error fault =>
      rw [hf] at hpart
      refine ⟨_, ?_, hin.grows, hin.outer⟩
      rw [hloop, run_bind_error hpart, joinFrom, hf]
      rfl

/-- A loop answers what its runs come to, and takes its scope away. -/
theorem evaluate_loop_eq {target iterable : Node} {body : List Node} {items : List Value}
    {entered : State} (hiterable : evaluate iterable context
      { s with environment := s.environment.enter } = (.ok (.array items), entered))
    {result : Except Fault String} {t : State}
    (hrun : loopFrom target (evaluateBlock body) items.length 0 .undefined items "" context
      entered = (result, t)) :
    evaluate (.loop target iterable body) context s =
      (result.map .text, { t with environment := t.environment.leave }) := by
  have hbody : (do
      let iterable ← evaluate iterable
      let text ← loopOver target (evaluateBlock body) iterable
      pure (Value.text text)) context { s with environment := s.environment.enter } =
        (result.map Value.text, t) := by
    rw [run_bind hiterable]
    cases result with
    | ok text => exact run_bind hrun _
    | error fault => exact run_bind_error hrun _
  rw [evaluate, inNewScope, hbody]

theorem evaluate_loop {iterable : String} {items : List Value} {bs : List β} (hname : name ≠ "loop")
    (hiterable : s.environment.lookup iterable = .array items) (h : Forall₂ R items bs)
    (hbody : ∀ index item b t, R item b →
      InLoop s.memory s.environment name items.length index item t →
        evaluateBlock body context t = (f index b, t)) :
    ∃ m, evaluate (.loop (.name name) (.name iterable) body) context s =
        ((joinFrom f 0 bs).map .text, ⟨m, s.environment⟩) ∧ Memory.Grows s.memory m := by
  let entered : State := { s with environment := s.environment.enter }
  have hentered : Has context entered (.name iterable) (.array items) := by
    refine .name ?_
    rw [← hiterable]
    rfl
  obtain ⟨t, hrun, hgrows, houter⟩ := loopFrom_eq hname hbody h 0 .undefined "" (s := entered)
    (.refl _) rfl fun _ _ _ => rfl
  have hjoined : (joinFrom f 0 bs).map ("" ++ ·) = joinFrom f 0 bs := by
    cases joinFrom f 0 bs with
    | ok text =>
      show Except.ok ("" ++ text) = _
      rw [String.empty_append]
    | error fault => rfl
  rw [hjoined] at hrun
  -- The scopes around the loop are those from before it, so leaving its own scope restores them.
  have hleave : t.environment.leave = s.environment := by
    simp only [Environment.leave, houter, Environment.scopes]
  refine ⟨t.memory, ?_, hgrows⟩
  rw [evaluate_loop_eq hentered hrun, hleave]

end Loop

end Eval

end TextTemplate
