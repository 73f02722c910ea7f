import TextTemplate.Host.Stock
import TextTemplate.Proofs.Eval.Arguments
import TextTemplate.Proofs.Eval.Reading
import TextTemplate.Proofs.Eval.Stepwise

/-!
# Objects are ordered maps

However an object is made, each of its keys is there once and has the place where it was put in
first. Setting a field changes the value of a key that is there and appends a key that is not. And
all that reads an object, in whatever way, reads the same fields.
-/

namespace TextTemplate

/-- The fields that come from putting in pairs one after the other: each key has the place where it
comes first, and the value with which it comes last. -/
structure Fields.Collects {α : Type} (pairs fields : Fields α) : Prop where
  keys : fields.keys = pairs.keys.eraseDups
  value : ∀ key, fields.get? key = get? pairs.reverse key

theorem Fields.collects_ofPairs {α : Type} (pairs : Fields α) : pairs.Collects (ofPairs pairs) :=
  ⟨keys_ofPairs pairs, get?_ofPairs pairs⟩

theorem ObjectMethod.ofName?_name (method : ObjectMethod) : ofName? method.name = some method := by
  cases method <;> rfl

/-- The keys of a host value that becomes an object. -/
def Host.keys? : Host → Option (List Host)
  | .map entries | .model entries => some (entries.map (·.1))
  | .record _ fields => some (fields.map fun field => .text field.1)
  | _ => none

/-- A field of one object has been set, and nothing else has changed. -/
structure Memory.FieldSet (m m' : Memory) (a : Address) (key : String) (value : Value) :
    Prop where
  present : key ∈ (m.fields a).keys →
    m'.fields a = (m.fields a).map fun (k, v) => (k, if k = key then value else v)
  new : key ∉ (m.fields a).keys → m'.fields a = m.fields a ++ [(key, value)]
  others : ∀ b, b ≠ a → m'.fields b = m.fields b
  size : m'.objects.size = m.objects.size
  tables : m'.tables = m.tables

theorem Memory.fieldSet_setField {m : Memory} (h : m.Distinct) {a : Address}
    (ha : a < m.objects.size) (key : String) (value : Value) :
    m.FieldSet (m.setField a key value) a key value where
  present hkey := by rw [fields_setField, if_pos ⟨rfl, ha⟩, Fields.put_of_mem (h a) hkey]
  new hkey := by rw [fields_setField, if_pos ⟨rfl, ha⟩, Fields.put_of_not_mem hkey]
  others b hb := by rw [fields_setField, if_neg fun heq => hb heq.1.symm]
  size := by simp [setField]
  tables := rfl

namespace Eval

variable {context : Context} {s t u : State} {o : Node} {kind : ObjectKind} {a : Address}

/-! ## Making objects -/

/-- A computation makes a new object. -/
def MakesObject (x : Eval Value) (context : Context) (s : State) (fields : Fields Value) : Prop :=
  ∃ a t, x context s = (.ok (.object .plain a), t) ∧
    s.memory.objects.size ≤ a ∧ a < t.memory.objects.size ∧ t.memory.fields a = fields

theorem makesObject_of_newObject {x : Eval Value} {fields : Fields Value}
    (hsize : s.memory.objects.size ≤ t.memory.objects.size)
    (h : x context s = newObject .plain fields context t) : MakesObject x context s fields := by
  refine ⟨t.memory.objects.size, { t with memory := (t.memory.allocate fields).2 }, h, hsize,
    ?_, ?_⟩
  · simp [Memory.allocate]
  · exact (Memory.fields_allocate _ _ _).trans (if_pos rfl)

theorem Stepwise.steps {α : Type} {x : Eval α} (hx : Stepwise x) {result : Except Fault α}
    (h : x context s = (result, t)) : Memory.Steps s.memory t.memory := by
  have hsteps := hx context s
  rwa [h] at hsteps

theorem Stepwise.size_le {α : Type} {x : Eval α} (hx : Stepwise x) {result : Except Fault α}
    (h : x context s = (result, t)) : s.memory.objects.size ≤ t.memory.objects.size :=
  (hx.steps h).keepsKeys.objects

/-- Pairs of trees are evaluated one after the other, each key to a text. -/
inductive PairsTo (context : Context) : State → List (Node × Node) → Fields Value → State → Prop
  | nil (s : State) : PairsTo context s [] [] s
  | cons {s t u v : State} {key node : Node} {name : String} {value : Value}
    {rest : List (Node × Node)} {fields : Fields Value}
    (hkey : evaluate key context s = (.ok (.text name), t))
    (hvalue : evaluate node context t = (.ok value, u)) (hrest : PairsTo context u rest fields v) :
    PairsTo context s ((key, node) :: rest) ((name, value) :: fields) v

theorem PairsTo.evaluatePairs_eq {pairs : List (Node × Node)} {fields : Fields Value}
    (h : PairsTo context s pairs fields t) :
    evaluatePairs pairs context s = (.ok (labelled fields), t) := by
  induction h with
  | nil s => rfl
  | cons hkey hvalue _ ih =>
    rw [evaluatePairs, run_bind hkey]
    exact (run_bind hvalue _).trans ((run_bind ih _).trans rfl)

/-- A literal makes an object of its pairs. -/
theorem evaluate_object {pairs : List (Node × Node)} {fields : Fields Value}
    (h : PairsTo context s pairs fields t) :
    MakesObject (evaluate (.object pairs)) context s (.ofPairs fields) := by
  have hpairs := h.evaluatePairs_eq
  refine makesObject_of_newObject ((evaluatePairs_stepwise pairs).size_le hpairs) ?_
  rw [evaluate, run_bind hpairs, newLabelled_labelled]

/-! ### Conversion -/

theorem convertEntries_keys {inRecord : Bool} {entries : List (Host × Host)}
    {pairs : Fields Value} (h : convertEntries inRecord entries context s = (.ok pairs, t)) :
    entries.map (·.1) = pairs.keys.map .text := by
  induction entries generalizing s pairs with
  | nil => cases h; rfl
  | cons entry rest ih =>
    obtain ⟨key, item⟩ := entry
    cases key
    case text key =>
      rw [convertEntries] at h
      obtain ⟨value, s₁, -, h⟩ := bind_eq_ok h
      obtain ⟨fields, s₂, hrest, h⟩ := bind_eq_ok h
      cases h
      exact congrArg (_ :: ·) (ih hrest)
    all_goals
      simp only [convertEntries] at h
      generalize Host.written? _ = written at h
      cases written <;> cases h

theorem convertFields_keys {inRecord : Bool} {fields : List (String × Host)}
    {pairs : Fields Value} (h : convertFields inRecord fields context s = (.ok pairs, t)) :
    fields.map (·.1) = pairs.keys := by
  induction fields generalizing s pairs with
  | nil => cases h; rfl
  | cons field rest ih =>
    rw [convertFields] at h
    obtain ⟨value, s₁, -, h⟩ := bind_eq_ok h
    obtain ⟨others, s₂, hrest, h⟩ := bind_eq_ok h
    cases h
    exact congrArg (_ :: ·) (ih hrest)

theorem makesObject_of_entries {x : Eval Value} {inRecord : Bool} {entries : List (Host × Host)}
    (hx : x = do
      let fields ← convertEntries inRecord entries
      newObject .plain (Fields.ofPairs fields))
    {value : Value} (h : x context s = (.ok value, t)) :
    ∃ pairs : Fields Value, entries.map (·.1) = pairs.keys.map .text ∧
      MakesObject x context s (.ofPairs pairs) := by
  subst hx
  obtain ⟨pairs, s₁, hpairs, -⟩ := bind_eq_ok h
  have hsize := (Stepwise.of_works (convertEntries_adds inRecord entries).works).size_le hpairs
  exact ⟨pairs, convertEntries_keys hpairs, makesObject_of_newObject hsize (run_bind hpairs _)⟩

/-- Maps, models and records of the host become objects of their entries. -/
theorem convert_keys {inRecord : Bool} {host : Host} {keys : List Host} {value : Value}
    (hkeys : host.keys? = some keys) (h : convert inRecord host context s = (.ok value, t)) :
    ∃ pairs : Fields Value, keys = pairs.keys.map .text ∧
      MakesObject (convert inRecord host) context s (.ofPairs pairs) := by
  cases host <;> cases hkeys
  case map entries => exact makesObject_of_entries rfl h
  case model entries => exact makesObject_of_entries rfl h
  case record name fields =>
    obtain ⟨_, s₁, hapart, h⟩ := bind_eq_ok h
    obtain ⟨pairs, s₂, hpairs, -⟩ := bind_eq_ok h
    have hsize : s.memory.objects.size ≤ s₂.memory.objects.size :=
      ((Stepwise.of_works (takeApart_adds fields).works).size_le hapart).trans
        ((Stepwise.of_works (convertFields_adds true fields).works).size_le hpairs)
    refine ⟨pairs, ?_, makesObject_of_newObject hsize ?_⟩
    · rw [← convertFields_keys hpairs, List.map_map]
      rfl
    · exact (run_bind hapart _).trans (run_bind hpairs _)

/-! ### The function `namespace` -/

/-- A name stands for the function `namespace`. -/
def IsNamespace (s : State) (name : String) : Prop :=
  ∃ mark, s.environment.lookup name = .function mark (.builtin .namespace_)

theorem evaluate_namespace {name : String} {args : List Node} (passed : List Value)
    {positional : List Value} {keywords : List (Label × Value)}
    (hargs : evaluateArguments args context s = (.ok (positional, keywords), t))
    (hpassed : bundled positional keywords context t = (.ok passed, u))
    (hname : IsNamespace u name) :
    evaluate (.call (.name name) args) context s = callNamespace passed context u := by
  obtain ⟨mark, hname⟩ := hname
  rw [evaluate, run_bind hargs]
  refine (run_bind hpassed _).trans ((run_bind (Has.name hname) _).trans ?_)
  rfl

/-- Keyword arguments are evaluated one after the other. -/
inductive KeywordsTo (context : Context) : State → List Node → Fields Value → State → Prop
  | nil (s : State) : KeywordsTo context s [] [] s
  | cons {s t u : State} {name : String} {node : Node} {value : Value} {rest : List Node}
    {fields : Fields Value} (hvalue : evaluate node context s = (.ok value, t))
    (hrest : KeywordsTo context t rest fields u) :
    KeywordsTo context s (.keyword (.name name) node :: rest) ((name, value) :: fields) u

theorem KeywordsTo.evaluateArguments_eq {args : List Node} {fields : Fields Value}
    (h : KeywordsTo context s args fields t) :
    evaluateArguments args context s = (.ok ([], labelled fields), t) := by
  induction h with
  | nil s => rfl
  | cons hvalue _ ih =>
    rw [evaluateArguments, run_bind hvalue]
    exact (run_bind ih _).trans rfl

/-- Of keyword arguments `namespace` makes an object. -/
theorem evaluate_namespace_keywords {name : String} {args : List Node} {fields : Fields Value}
    (hname : IsNamespace t name) (h : KeywordsTo context s args fields t) :
    MakesObject (evaluate (.call (.name name) args)) context s (.ofPairs fields) := by
  have hargs := h.evaluateArguments_eq
  have hsize := (evaluateArguments_stepwise args).size_le hargs
  cases fields with
  | nil => exact makesObject_of_newObject hsize (evaluate_namespace [] hargs rfl hname)
  | cons field rest =>
    have hpassed : bundled [] (labelled (field :: rest)) context t =
        (.ok [.object .keywords t.memory.objects.size],
          { t with memory := (t.memory.allocate (Fields.ofPairs (field :: rest))).2 }) := by
      rw [bundled, newLabelled_labelled]
      rfl
    refine makesObject_of_newObject
      (t := { t with memory := (t.memory.allocate (Fields.ofPairs (field :: rest))).2 }) ?_ ?_
    · exact hsize.trans (Memory.KeepsKeys.allocate t.memory _).objects
    · rw [evaluate_namespace _ hargs hpassed hname]
      refine run_bind (a := Fields.ofPairs (field :: rest)) ?_ _
      exact congrArg (fun fields => (Except.ok fields, _))
        ((Memory.fields_allocate _ _ _).trans (if_pos rfl))

theorem evaluateArguments_singleton {node : Node} {value : Value}
    (h : evaluate node context s = (.ok value, t)) :
    evaluateArguments [node] context s = (.ok ([value], []), t) := by
  cases node
  case keyword =>
    rw [evaluate] at h
    cases h
  all_goals exact (run_bind h _).trans rfl

/-- Of an object `namespace` makes a copy. -/
theorem evaluate_namespace_copy {name : String} {node : Node} (hname : IsNamespace t name)
    (h : evaluate node context s = (.ok (.object kind a), t)) :
    MakesObject (evaluate (.call (.name name) [node])) context s (t.memory.fields a) :=
  makesObject_of_newObject ((evaluate_stepwise node).size_le h)
    (evaluate_namespace [.object kind a] (evaluateArguments_singleton h) rfl hname)

/-! ## Setting fields -/

/-- An assignment to a member sets the field. -/
theorem evaluate_set_member {node : Node} {key : String} {value : Value}
    (hvalue : evaluate node context s = (.ok value, t))
    (ho : evaluate o context t = (.ok (.object kind a), u)) :
    evaluate (.set (.member o (.name key) false) node) context s =
      (.ok .null, { u with memory := u.memory.setField a key value }) := by
  rw [evaluate, run_bind hvalue]
  exact (run_bind ho _).trans rfl

/-! ## Reading objects -/

/-- A tree answers a value; no object and no variable changes, though a function may have been made
on the way. -/
def Reads (context : Context) (s : State) (node : Node) (value : Value) : Prop :=
  ∃ marks, evaluate node context s = (.ok value, { s with memory := { s.memory with marks } })

theorem Has.arguments {args : List Node} {values : List Value}
    (h : List.Forall₂ (Has context s) args values) :
    evaluateArguments args context s = (.ok (values, []), s) := by
  induction h with
  | nil => rfl
  | @cons arg value _ _ harg _ ih =>
    cases arg
    case keyword =>
      rw [Has, evaluate] at harg
      cases harg
    all_goals exact (run_bind harg _).trans ((run_bind ih _).trans rfl)

/-- A filter with arguments, of which the last one is no bundle. -/
theorem evaluate_filterCall {value : Value} (ho : evaluate o context s = (.ok value, t))
    {args : List Node} {values : List Value} (hargs : List.Forall₂ (Has context t) args values)
    (hlast : ∀ value ∈ values.getLast?, value.isBundle = false) {name : String}
    (hnone : context.filters.get? name = none) :
    evaluate (.filter o (.call (.name name) args)) context s =
      applyBuiltinFilter name value values [] context t := by
  rw [evaluate, run_bind ho, run_bind (Has.arguments hargs)]
  refine (run_bind (a := values) (t := t) rfl _).trans ?_
  rw [applyFilter, splitArguments_of_unbundled hlast]
  refine (run_bind (a := ⟨values, [], []⟩) (t := t) rfl _).trans ?_
  refine (run_bind (a := context) (t := t) rfl _).trans ?_
  rw [hnone]

/-- A function is called that was made for the call. -/
theorem Reads.call {callee : Node} {function : Function} {args : List Node} {values : List Value}
    {value : Value} (hargs : List.Forall₂ (Has context s) args values)
    (hcallee : evaluate callee context s = newFunction function context s)
    (hvalue : ∀ t : State, t.memory.fields = s.memory.fields →
      Eval.call function values context t = (.ok value, t)) :
    Reads context s (.call callee args) value := by
  refine ⟨s.memory.marks + 1, ?_⟩
  rw [evaluate, run_bind (Has.arguments hargs)]
  refine (run_bind (a := values) (t := s) rfl _).trans ((run_bind hcallee _).trans ?_)
  exact hvalue _ rfl

/-- A method that no field hides is called for what it answers. -/
theorem Has.method (ho : Has context s o (.object kind a)) (method : ObjectMethod)
    (hfree : method.name ∉ (s.memory.fields a).keys) {args : List Node} {values : List Value}
    (hargs : List.Forall₂ (Has context s) args values) {value : Value}
    (hvalue : ∀ t : State, t.memory.fields a = s.memory.fields a →
      callObjectMethod method a values context t = (.ok value, t)) :
    Reads context s (.call (.member o (.name method.name) false) args) value := by
  have hnone : (s.memory.fields a).get? method.name = none := by
    rw [← Option.not_isSome_iff_eq_none]
    exact fun hsome => hfree ((Fields.has_iff_mem_keys _).mp hsome)
  have hmember : member (.object kind a) (.text method.name) context s =
      newFunction (.ofObject method a) context s := by
    rw [member, run_bind (a := s.memory.fields a) (t := s) rfl, hnone]
    simp only [Eval.method, ObjectMethod.ofName?_name]
  have hcallee : evaluate (.member o (.name method.name) false) context s =
      newFunction (.ofObject method a) context s := by
    rw [evaluate, run_bind ho]
    exact hmember
  exact .call hargs hcallee fun t h => hvalue t (congrFun h a)

theorem Has.isIn (ho : Has context s o (.object kind a)) {k : Node} {key : String}
    (hk : Has context s k (.text key)) :
    Has context s (.binary "in" k o) (.bool (key ∈ (s.memory.fields a).keys)) := by
  have hhas : (s.memory.fields a).has key = decide (key ∈ (s.memory.fields a).keys) := by
    rw [Bool.eq_iff_iff, Fields.has_iff_mem_keys, decide_eq_true_iff]
  rw [Has, evaluate, run_bind hk, ← hhas]
  exact (run_bind ho _).trans rfl

theorem Has.filter (ho : Has context s o (.object kind a)) {name : String} {value : Value}
    (hnone : context.filters.get? name = none)
    (hvalue : applyBuiltinFilter name (.object kind a) [] [] context s = (.ok value, s)) :
    Has context s (.filter o (.name name)) value :=
  (ho.evaluate_filter hnone).trans hvalue

/-- Keys and values side by side. -/
def pairsOf (keys : List String) (values : List Value) : Value :=
  .array (List.zipWith (fun key value => .array [.text key, value]) keys values)

theorem itemPairs_eq (fields : Fields Value) :
    itemPairs fields = pairsOf fields.keys fields.values := by
  rw [itemPairs, pairsOf, Fields.keys, Fields.values, List.zipWith_map, List.zipWith_self]

/-- What all that reads an object says of its fields. A method is asked where no field hides it, and
a filter where the host gives none of its name. -/
structure ReadAs (context : Context) (s : State) (o : Node) (fields : Fields Value) : Prop where
  isIn : ∀ k key, Has context s k (.text key) →
    Has context s (.binary "in" k o) (.bool (key ∈ fields.keys))
  stored : ∀ key, key ∈ fields.keys ↔ ∃ value, fields.get? key = some value
  item : ∀ k key value, Has context s k (.text key) → fields.get? key = some value →
    Has context s (.member o k true) value
  dotted : ∀ key value, fields.get? key = some value →
    Has context s (.member o (.name key) false) value
  keys : "keys" ∉ fields.keys →
    Reads context s (.call (.member o (.name "keys") false) []) (.array (fields.keys.map .text))
  values : "values" ∉ fields.keys →
    Reads context s (.call (.member o (.name "values") false) []) (.array fields.values)
  items : "items" ∉ fields.keys →
    Reads context s (.call (.member o (.name "items") false) [])
      (pairsOf fields.keys fields.values)
  get : "get" ∉ fields.keys → ∀ k key, Has context s k (.text key) →
    Reads context s (.call (.member o (.name "get") false) [k]) ((fields.get? key).getD .null)
  getOr : "get" ∉ fields.keys → ∀ k key d default, Has context s k (.text key) →
    Has context s d default →
    Reads context s (.call (.member o (.name "get") false) [k, d])
      ((fields.get? key).getD default)
  itemsFilter : context.filters.get? "items" = none →
    Has context s (.filter o (.name "items")) (pairsOf fields.keys fields.values)
  lengthFilter : context.filters.get? "length" = none →
    Has context s (.filter o (.name "length")) (.ofNat fields.keys.length)

theorem Has.readAs (ho : Has context s o (.object kind a)) :
    ReadAs context s o (s.memory.fields a) where
  isIn _ _ hk := ho.isIn hk
  stored _ := Fields.mem_keys_iff
  item _ _ _ hk hvalue := ho.item hk hvalue
  dotted _ _ hvalue := ho.dotted hvalue
  keys hfree := ho.method .keys hfree .nil fun t h => by
    rw [← h]
    rfl
  values hfree := ho.method .values hfree .nil fun t h => by
    rw [← h]
    rfl
  items hfree := ho.method .items hfree .nil fun t h => by
    rw [← itemPairs_eq, ← h]
    rfl
  get hfree k key hk := ho.method .get hfree (.cons hk .nil) fun t h => by
    rw [← h]
    rfl
  getOr hfree k key d default hk hd :=
    ho.method .get hfree (.cons hk (.cons hd .nil)) fun t h => by
      rw [← h]
      rfl
  itemsFilter hnone := ho.filter hnone (by rw [← itemPairs_eq]; rfl)
  lengthFilter hnone := ho.filter hnone (by rw [Fields.keys, List.length_map]; rfl)

/-- A field hides the method of its name, so that the object cannot be asked for it by `get`. -/
theorem get_hidden_by_field :
    let context := Context.ofLibrary Host.stock [] false
    let object := Node.object [(.text "get", .number (.int 1))]
    (evaluate (.member object (.text "get") true) context .initial).1 = .ok (.number (.int 1)) ∧
      (evaluate (.call (.member object (.name "get") false) [.text "get"]) context .initial).1 =
        .error (.notCallable "NumericValue") :=
  ⟨rfl, rfl⟩

/-! ## Ordered maps -/

/-- How objects are made in a state, how they are set and read, and what becomes of them. -/
structure OrderedMaps (s : State) : Prop where
  /-- No object has a key twice. -/
  distinct : ∀ a, (s.memory.fields a).keys.Nodup
  /-- Whatever happens, all objects stay and their keys stay in their places. -/
  kept : ∀ t, s.Leads t → s.memory.KeepsKeys t.memory
  /-- Of a key that a literal has more than once, the first place and the last value count. -/
  literal : ∀ context pairs fields t, PairsTo context s pairs fields t →
    ∃ made, fields.Collects made ∧ MakesObject (evaluate (.object pairs)) context s made
  /-- Maps, models and records of the host become objects, also inside of other host values. -/
  converted : ∀ context inRecord host keys value t, host.keys? = some keys →
    convert inRecord host context s = (.ok value, t) →
    ∃ pairs made : Fields Value, keys = pairs.keys.map .text ∧ pairs.Collects made ∧
      MakesObject (convert inRecord host) context s made
  keywords : ∀ context name args fields t, KeywordsTo context s args fields t →
    IsNamespace t name →
    ∃ made, fields.Collects made ∧ MakesObject (evaluate (.call (.name name) args)) context s made
  copied : ∀ context name node kind a t, evaluate node context s = (.ok (.object kind a), t) →
    IsNamespace t name →
    MakesObject (evaluate (.call (.name name) [node])) context s (t.memory.fields a)
  assigned : ∀ context o key node value kind a t u, evaluate node context s = (.ok value, t) →
    evaluate o context t = (.ok (.object kind a), u) → a < u.memory.objects.size →
    ∃ w, evaluate (.set (.member o (.name key) false) node) context s = (.ok .null, w) ∧
      w.environment = u.environment ∧ u.memory.FieldSet w.memory a key value
  readAs : ∀ context o kind a, Has context s o (.object kind a) →
    ReadAs context s o (s.memory.fields a)

/-- Objects are ordered maps in every state that templates and conversions lead to. -/
theorem orderedMaps_of_leads (h : State.initial.Leads s) : OrderedMaps s := by
  have hdistinct : s.memory.Distinct := h.steps.distinct Memory.distinct_empty
  exact {
    distinct := hdistinct
    kept := fun t ht => ht.steps.keepsKeys
    literal := fun _ _ fields _ hpairs =>
      ⟨_, fields.collects_ofPairs, evaluate_object hpairs⟩
    converted := fun _ _ _ _ _ _ hkeys hvalue =>
      have ⟨pairs, hpairs, hmakes⟩ := convert_keys hkeys hvalue
      ⟨pairs, _, hpairs, pairs.collects_ofPairs, hmakes⟩
    keywords := fun _ _ _ fields _ hargs hname =>
      ⟨_, fields.collects_ofPairs, evaluate_namespace_keywords hname hargs⟩
    copied := fun _ _ _ _ _ _ hvalue hname => evaluate_namespace_copy hname hvalue
    assigned := fun _ o key node value _ _ _ _ hvalue ho ha =>
      have hsteps : Memory.Steps s.memory _ :=
        ((evaluate_stepwise node).steps hvalue).trans ((evaluate_stepwise o).steps ho)
      ⟨_, evaluate_set_member hvalue ho, rfl,
        Memory.fieldSet_setField (hsteps.distinct hdistinct) ha key value⟩
    readAs := fun _ _ _ _ ho => ho.readAs }

/-- A variable that holds a literal in which a key is repeated. -/
theorem reads_repeated :
    let context := Context.ofLibrary Host.stock [] false
    let object := Node.object
      [(.text "a", .number (.int 1)), (.text "b", .null), (.text "a", .bool true)]
    let s := (evaluate (.set (.name "o") object) context .initial).2
    State.initial.Leads s ∧ (s.memory.fields 0).keys = ["a", "b"] ∧
      Reads context s (.call (.member (.name "o") (.name "values") false) [])
        (.array [.bool true, .null]) := by
  intro context object s
  have hleads : State.initial.Leads s := .evaluate .refl _ _
  have hread := (orderedMaps_of_leads hleads).readAs context (.name "o") .plain 0 (.name rfl)
  exact ⟨hleads, rfl, hread.values (by decide)⟩

end Eval

end TextTemplate
