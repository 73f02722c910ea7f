import TextTemplate.Proofs.Eval.Indifferent
import TextTemplate.Proofs.Matching.Held
import TextTemplate.Proofs.Value.Growth

/-!
# Computations on values and on the memory

All operators, members, calls, filters and tests, and all conversions, work on values and on the
memory: they read it and change it in small steps, and they have nothing to do with variables. They
only add to the memory. The one thing that changes what is there already is the assignment to a
member.
-/

namespace TextTemplate.Eval

/-- Computations that are put together from reading the memory and from changing it in steps. The
context may be read, but for whether the mode is strict. -/
inductive Works : {α : Type} → Eval α → Prop
  | pure {α : Type} (a : α) : Works (Pure.pure a : Eval α)
  | fail {α : Type} (fault : Fault) : Works (Eval.fail fault : Eval α)
  | ofMemory {α : Type} (f : Memory → α) : Works (Eval.ofMemory f)
  | withMemory {α : Type} {f : Memory → α × Memory}
    (h : ∀ memory : Memory, memory.Step (f memory).2) : Works (Eval.withMemory f)
  /-- A copy is made of whatever is in the memory. -/
  | copy (kind : ObjectKind) (address : Address) :
    Works (do let fields ← fieldsOf address; newObject kind fields)
  | bind {α β : Type} {x : Eval α} {f : α → Eval β} (hx : Works x) (hf : ∀ a, Works (f a)) :
    Works (x >>= f)
  | ofContext {α : Type} {f : Context → Eval α} (hf : ∀ context, Works (f context))
    (hstrict : ∀ context strict, f { context with strict } = f context) :
    Works (Eval.context >>= f)

variable {α β : Type}

theorem Works.indifferent {x : Eval α} (h : Works x) : Indifferent x := by
  induction h with
  | pure a => exact .pure a
  | fail fault => exact .fail fault
  | ofMemory f => exact .ofMemory f
  | withMemory => exact .withMemory _
  | copy kind address => exact (Indifferent.ofMemory _).bind fun _ => newObject_indifferent kind _
  | bind _ _ hx hf => exact hx.bind hf
  | ofContext _ hstrict hf => exact .ofContext hf hstrict

/-- What computations do to the memory, one after the other. -/
theorem bind_memory (rel : Memory → Memory → Prop)
    (htrans : ∀ {m m' m'' : Memory}, rel m m' → rel m' m'' → rel m m'') {x : Eval α}
    {f : α → Eval β} (hx : ∀ context s, rel s.memory (x context s).2.memory)
    (hf : ∀ a context s, rel s.memory (f a context s).2.memory) (context : Context) (s : State) :
    rel s.memory ((x >>= f) context s).2.memory := by
  have hfirst := hx context s
  show rel _ (Eval.bind x f context s).2.memory
  simp only [Eval.bind]
  cases hresult : x context s with
  | mk result after =>
    rw [hresult] at hfirst
    cases result with
    | ok a => exact htrans hfirst (hf a context after)
    | error fault => exact hfirst

/-- Computations that work on the memory and leave all that is there as it is. -/
structure Adds (x : Eval α) : Prop where
  works : Works x
  grows : ∀ context s, Memory.Grows s.memory (x context s).2.memory

namespace Adds

@[simp] protected theorem pure (a : α) : Adds (Pure.pure a : Eval α) :=
  ⟨.pure a, fun _ s => .refl s.memory⟩

@[simp] protected theorem fail (fault : Fault) : Adds (Eval.fail fault : Eval α) :=
  ⟨.fail fault, fun _ s => .refl s.memory⟩

@[simp] protected theorem ofMemory (f : Memory → α) : Adds (Eval.ofMemory f) :=
  ⟨.ofMemory f, fun _ s => .refl s.memory⟩

theorem withMemory {f : Memory → α × Memory} (hstep : ∀ memory : Memory, memory.Step (f memory).2)
    (hgrows : ∀ memory : Memory, memory.Grows (f memory).2) : Adds (Eval.withMemory f) :=
  ⟨.withMemory hstep, fun _ s => hgrows s.memory⟩

theorem copy (kind : ObjectKind) (address : Address) :
    Adds (do let fields ← fieldsOf address; newObject kind fields) :=
  ⟨.copy kind address, fun _ s => s.memory.grows_allocate _⟩

@[simp] protected theorem bind {x : Eval α} {f : α → Eval β} (hx : Adds x) (hf : ∀ a, Adds (f a)) :
    Adds (x >>= f) :=
  ⟨hx.works.bind fun a => (hf a).works, bind_memory Memory.Grows .trans hx.grows fun a =>
    (hf a).grows⟩

theorem ofContext {f : Context → Eval α} (hf : ∀ context, Adds (f context))
    (hstrict : ∀ context strict, f { context with strict } = f context) :
    Adds (Eval.context >>= f) :=
  ⟨.ofContext (fun context => (hf context).works) hstrict, fun context s =>
    (hf context).grows context s⟩

@[simp] protected theorem ite {c : Prop} [Decidable c] {x y : Eval α} :
    Adds (if c then x else y) ↔ (c → Adds x) ∧ (¬c → Adds y) := by
  split
  case isTrue h => simp [h]
  case isFalse h => simp [h]

@[simp] protected theorem mapAll {f : α → Eval β} (hf : ∀ a, Adds (f a)) (items : List α) :
    Adds (Eval.mapAll f items) := by
  induction items with
  | nil => exact .pure []
  | cons a rest ih => simp [Eval.mapAll, hf a, ih]

@[simp] theorem freshMark : Adds (Eval.withMemory Memory.freshMark) :=
  .withMemory (fun _ => .freshMark) Memory.grows_freshMark

end Adds

/-! ## Basic computations -/

theorem newObject_adds (kind : ObjectKind) {fields : Fields Value} (h : fields.keys.Nodup) :
    Adds (newObject kind fields) :=
  (Adds.withMemory (fun _ => .allocate h) fun m => m.grows_allocate fields).bind fun _ => .pure _

/-- An object can be made of any pairs, whatever their keys. -/
@[simp] theorem newObject_ofPairs_adds (kind : ObjectKind) (pairs : Fields Value) :
    Adds (newObject kind (Fields.ofPairs pairs)) :=
  newObject_adds kind (Fields.nodup_keys_ofPairs pairs)

@[simp] theorem newTable_adds (kind : ObjectKind) (entries : Table Value) :
    Adds (newTable kind entries) :=
  (Adds.withMemory (fun _ => .allocateTable entries) fun _ => ⟨le_rfl, le_rfl, fun _ _ => rfl⟩).bind
    fun _ => .pure _

@[simp] theorem newLabelled_adds (kind : ObjectKind) (pairs : List (Label × Value)) :
    Adds (newLabelled kind pairs) := by
  simp [newLabelled]

@[simp] theorem newFunction_adds (function : Function) :
    Adds (newFunction function) := by
  simp [newFunction]

@[simp] theorem ofNumber_adds (n : Number) : Adds (ofNumber n) := by
  unfold ofNumber
  split <;> simp

@[simp] theorem fieldsOf_adds (address : Address) : Adds (fieldsOf address) :=
  .ofMemory _

@[simp] theorem entriesOf_adds (address : Address) : Adds (entriesOf address) :=
  .ofMemory _

@[simp] theorem snapshot_adds (value : Value) : Adds (snapshot value) := by
  simp [snapshot]

@[simp] theorem toHost_adds (value : Value) : Adds (toHost value) := by
  simp [toHost]

/-! ## Conversion -/

theorem takeApart_adds (fields : List (String × Host)) : Adds (takeApart fields) := by
  unfold takeApart
  split <;> simp

mutual

theorem convert_adds (inRecord : Bool) : ∀ host, Adds (convert inRecord host)
  | .null => by simp [convert]
  | .bool _ => by simp [convert]
  | .number _ => by simp [convert]
  | .text _ => by simp [convert]
  | .list items => by simp [convert, convertAll_adds inRecord items]
  | .tuple items => by simp [convert, convertAll_adds inRecord items]
  | .map entries => by simp [convert, convertEntries_adds inRecord entries]
  | .model entries => by simp [convert, convertEntries_adds false entries]
  | .record _ fields => by
    simp [convert, takeApart_adds fields, convertFields_adds true fields]
  | .function _ => by simp [convert]
  | .foreign _ => by simp [convert]
  | .ready _ form => by simp [convert, convert_adds true form]

theorem convertAll_adds (inRecord : Bool) :
    ∀ items, Adds (convertAll inRecord items)
  | [] => by simp [convertAll]
  | item :: rest => by
    simp [convertAll, convert_adds inRecord item, convertAll_adds inRecord rest]

theorem convertEntries_adds (inRecord : Bool) :
    ∀ entries, Adds (convertEntries inRecord entries)
  | [] => by simp [convertEntries]
  | (key, item) :: rest => by
    unfold convertEntries
    split
    · simp
    · rename_i heq
      cases heq
      simp [convert_adds inRecord item, convertEntries_adds inRecord rest]
    · split <;> simp

theorem convertFields_adds (inRecord : Bool) :
    ∀ fields, Adds (convertFields inRecord fields)
  | [] => by simp [convertFields]
  | (_, item) :: rest => by
    simp [convertFields, convert_adds inRecord item,
      convertFields_adds inRecord rest]

end

@[simp] theorem fromHost_adds (host : Host) : Adds (fromHost host) :=
  convert_adds false host

/-! ## Operators -/

@[simp] theorem truth_adds (value : Value) : Adds (truth value) := by
  cases value <;> simp [truth]

@[simp] theorem numeral_adds (n : Number) : Adds (numeral n) := by
  unfold numeral
  split <;> simp

@[simp] theorem concatText_adds (operator : String) (value : Value) :
    Adds (concatText operator value) := by
  cases value <;> simp [concatText]

@[simp] theorem displayText_adds (value : Value) : Adds (displayText value) := by
  refine (toHost_adds value).bind fun host => ?_
  split <;> simp

@[simp] theorem equal_adds (a b : Value) : Adds (equal a b) := by
  simp [equal]

@[simp] theorem compareEquality_adds (operator : String) (left right : Value) :
    Adds (compareEquality operator left right) := by
  unfold compareEquality
  split <;> split <;> simp

@[simp] theorem arithmetic_adds (operator : String) (result : Except Number.Trouble Number) :
    Adds (arithmetic operator result) := by
  unfold arithmetic
  split <;> simp

@[simp] theorem numericBinary_adds (operator : String) (a b : Number) :
    Adds (numericBinary operator a b) := by
  unfold numericBinary
  split <;> simp

@[simp] theorem textBinary_adds (operator a b : String) :
    Adds (textBinary operator a b) := by
  unfold textBinary
  split <;> simp

@[simp] theorem isAmong_adds (value : Value) (items : List Value) :
    Adds (isAmong value items) :=
  (snapshot_adds value).bind fun _ =>
    (Adds.mapAll snapshot_adds items).bind fun _ => .pure _

@[simp] theorem concatLabel_adds (operator : String) (value : Value) :
    Adds (concatLabel operator value) := by
  cases value <;> simp [concatLabel]

@[simp] theorem joinLabels_adds (a b : Label) : Adds (joinLabels a b) := by
  unfold joinLabels
  split
  · simp
  · simp
  · split
    · refine (arithmetic_adds _ _).bind fun value => ?_
      split <;> simp
    · simp

@[simp] theorem labelContains_adds (part label : Label) :
    Adds (labelContains part label) := by
  cases label <;> simp [labelContains]

@[simp] theorem labelBinary_adds (operator : String) (a b : Label) :
    Adds (labelBinary operator a b) := by
  unfold labelBinary
  split <;> split <;> simp

@[simp] theorem concatenation_adds (operator : String) (left right : Value) :
    Adds (concatenation operator left right) := by
  unfold concatenation
  split <;> simp

@[simp] theorem tilde_adds (left right : Value) : Adds (tilde left right) := by
  simp [tilde]

@[simp] theorem hasField_adds (key : Value) (address : Address) :
    Adds (hasField key address) := by
  cases key <;> simp [hasField]

@[simp] theorem hasEntry_adds (key : Value) (address : Address) :
    Adds (hasEntry key address) := by
  refine (entriesOf_adds address).bind fun entries => ?_
  split <;> simp

@[simp] theorem presentBinary_adds (operator : String) (left right : Value) :
    Adds (presentBinary operator left right) := by
  unfold presentBinary
  split
  case h_2 => split <;> simp
  all_goals simp

@[simp] theorem applyBinary_adds (operator : String) (left right : Value) :
    Adds (applyBinary operator left right) := by
  simp [applyBinary]

@[simp] theorem applyUnary_adds (operator : String) (argument : Value) :
    Adds (applyUnary operator argument) := by
  unfold applyUnary
  split <;> simp

/-! ## Members -/

@[simp] theorem method_adds (value : Value) (name : String) :
    Adds (method value name) := by
  unfold method
  repeat' split
  all_goals simp

@[simp] theorem itemAt_adds (type : String) (length : Nat) (index : Int)
    (item : Option Value) : Adds (itemAt type length index item) := by
  unfold itemAt
  split
  · simp
  · split <;> simp

@[simp] theorem entryOf_adds (object : Value) (address : Address) (label : Label) :
    Adds (entryOf object address label) := by
  refine (entriesOf_adds address).bind fun entries => ?_
  split <;> simp

@[simp] theorem labelItem_adds (object : Value) (label : Label) (index : Int) :
    Adds (labelItem object label index) := by
  cases label <;> simp [labelItem]

@[simp] theorem member_adds (object property : Value) :
    Adds (member object property) := by
  unfold member
  split
  case h_1 =>
    refine (fieldsOf_adds _).bind fun fields => ?_
    split <;> simp
  all_goals simp

@[simp] theorem memberByLabel_adds (object : Value) (label : Option Label) :
    Adds (memberByLabel object label) := by
  cases label <;> simp [memberByLabel]

@[simp] theorem sliceBound_adds (value : Value) : Adds (sliceBound value) := by
  unfold sliceBound
  split <;> simp

@[simp] theorem slice_adds (sequence : Value) (start stop step : Option Int) :
    Adds (slice sequence start stop step) := by
  unfold slice
  dsimp only
  split
  · simp
  · split <;> simp

/-! ## Methods and calls -/

@[simp] theorem checkTextual_adds (method : TextMethod) (least most : Nat)
    (args : List Value) : Adds (checkTextual method least most args) := by
  simp [checkTextual]

@[simp] theorem textArguments_adds (method : TextMethod) (least most : Nat)
    (args : List Value) : Adds (textArguments method least most args) := by
  refine (checkTextual_adds method least most args).bind fun _ => ?_
  split <;> simp

@[simp] theorem stripWith_adds (strip : (Char → Bool) → List Char → List Char)
    (method : TextMethod) (receiver : String) (args : List Value) :
    Adds (stripWith strip method receiver args) := by
  refine (textArguments_adds method 0 1 args).bind fun texts => ?_
  split <;> simp

@[simp] theorem hasAffix_adds (holds : List Char → List Char → Bool) (method : TextMethod)
    (receiver : String) (args : List Value) :
    Adds (hasAffix holds method receiver args) := by
  refine (textArguments_adds method 1 1 args).bind fun texts => ?_
  split <;> simp

@[simp] theorem split_adds (receiver : String) (args : List Value) :
    Adds (split receiver args) := by
  refine (textArguments_adds .split 0 1 args).bind fun separator => ?_
  split <;> simp

@[simp] theorem replacementLimit_adds (count : Int) :
    Adds (replacementLimit count) := by
  simp [replacementLimit]

@[simp] theorem replace_adds (receiver : String) (args : List Value) :
    Adds (replace receiver args) := by
  unfold replace
  split <;> simp

theorem callTextMethod_adds (method : TextMethod) (receiver : String) (args : List Value) :
    Adds (callTextMethod method receiver args) := by
  cases method <;> simp [callTextMethod]

theorem callLabelMethod_adds (method : TextMethod) (receiver : Label) (args : List Value) :
    Adds (callLabelMethod method receiver args) := by
  cases method
  case length =>
    simp only [callLabelMethod]
    split <;> simp
  all_goals simp [callLabelMethod]

theorem callObjectMethod_adds (method : ObjectMethod) (address : Address)
    (args : List Value) : Adds (callObjectMethod method address args) := by
  refine (fieldsOf_adds address).bind fun fields => ?_
  cases method
  case get => dsimp only; split <;> simp
  all_goals exact .pure _

theorem callTableMethod_adds (method : ObjectMethod) (address : Address)
    (args : List Value) : Adds (callTableMethod method address args) := by
  refine (entriesOf_adds address).bind fun entries => ?_
  cases method
  case get => dsimp only; split <;> simp
  all_goals exact .pure _

@[simp] theorem splitArguments_adds (args : List Value) :
    Adds (splitArguments args) := by
  unfold splitArguments
  split <;> simp

theorem callNamespace_adds (args : List Value) : Adds (callNamespace args) := by
  unfold callNamespace
  split
  case h_1 => exact newObject_adds .plain List.nodup_nil
  case h_2 kind address => exact .copy .plain address
  all_goals simp

@[simp] theorem progressionValue_adds (start stop step : Int) :
    Adds (progressionValue start stop step) := by
  simp [progressionValue]

theorem callRange_adds (args : List Value) : Adds (callRange args) := by
  refine (splitArguments_adds args).bind fun arguments => ?_
  dsimp only
  split
  · unfold refuseKeywords
    split <;> simp
  · split <;> simp

theorem callRaiseException_adds (args : List Value) :
    Adds (callRaiseException args) := by
  unfold callRaiseException
  split <;> simp

theorem callBuiltin_adds (builtin : Builtin) (args : List Value) :
    Adds (callBuiltin builtin args) := by
  cases builtin with
  | namespace_ => exact callNamespace_adds args
  | range => exact callRange_adds args
  | raiseException => exact callRaiseException_adds args

theorem callWithArguments_adds
    {callHost : HostFunction → List Host → Fields Host → Eval Host}
    (h : ∀ function args keywords, Adds (callHost function args keywords))
    (function : HostFunction) (arguments : Arguments) :
    Adds (callWithArguments callHost function arguments) := by
  refine (Adds.mapAll (fun _ => by simp) _).bind fun keywords => ?_
  refine (Adds.mapAll toHost_adds _).bind fun args => ?_
  split
  · exact (h function args keywords).bind fromHost_adds
  · exact .fail _

theorem callWith_adds {callHost : HostFunction → List Host → Fields Host → Eval Host}
    (h : ∀ function args keywords, Adds (callHost function args keywords))
    (function : Function) (args : List Value) : Adds (callWith callHost function args) := by
  cases function with
  | ofText method receiver => exact callTextMethod_adds method receiver args
  | ofLabel method receiver => exact callLabelMethod_adds method receiver args
  | ofArray length => exact .pure _
  | ofObject method address => exact callObjectMethod_adds method address args
  | ofTable method address => exact callTableMethod_adds method address args
  | builtin builtin => exact callBuiltin_adds builtin args
  | host function =>
    exact (splitArguments_adds args).bind fun arguments =>
      callWithArguments_adds h function arguments

theorem perform_adds {callHost : HostFunction → List Host → Eval Host}
    (h : ∀ function args, Adds (callHost function args)) (action : HostAction) :
    Adds (perform callHost action) := by
  induction action with
  | answer value => exact .pure value
  | fail message => exact .fail _
  | call function args resume ih => exact (h function args).bind ih

/-- Host functions see neither the variables nor whether the mode is strict. -/
theorem callHostWithin_adds (depth : Nat) (function : HostFunction) (args : List Host)
    (keywords : Fields Host) : Adds (callHostWithin depth function args keywords) := by
  induction depth generalizing function args keywords with
  | zero => exact .fail _
  | succ depth ih =>
    cases function with
    | named name =>
      exact .ofContext (fun _ => perform_adds (fun function args => ih function args []) _)
        fun _ _ => rfl
    | template function =>
      simp only [callHostWithin]
      split
      · exact (Adds.mapAll fromHost_adds args).bind fun values =>
          (callWith_adds ih function values).bind toHost_adds
      · exact .fail _

theorem callHost_adds (function : HostFunction) (args : List Host) (keywords : Fields Host) :
    Adds (callHost function args keywords) :=
  .ofContext (fun context => callHostWithin_adds context.callDepth function args keywords)
    fun _ _ => rfl

theorem call_adds (function : Function) (args : List Value) :
    Adds (call function args) :=
  callWith_adds callHost_adds function args

@[simp] theorem callValue_adds (callee : Value) (args : List Value) :
    Adds (callValue callee args) := by
  cases callee with
  | function mark function => exact call_adds function args
  | _ => exact .fail _

@[simp] theorem bundled_adds (positional : List Value) (keywords : List (Label × Value)) :
    Adds (bundled positional keywords) := by
  simp [bundled]

/-! ## Filters and tests -/

theorem defaultTo_adds (operand : Value) (positional : List Value)
    (keywords : Fields Value) : Adds (defaultTo operand positional keywords) := by
  unfold defaultTo
  dsimp only
  split <;> simp

theorem indentOf_adds (operand indent : Value) : Adds (indentOf operand indent) := by
  unfold indentOf indentOf.spaces indentOf.refuse
  split
  case h_4 label => unfold indentOf.ofLabel indentOf.spaces indentOf.refuse; split <;> simp
  all_goals simp

theorem toJson_adds (operand indent : Value) : Adds (toJson operand indent) := by
  refine (toHost_adds operand).bind fun host => ?_
  dsimp only
  split
  · refine (Adds.pure none).bind fun spaces => ?_
    split <;> simp
  · refine (indentOf_adds operand indent).bind fun spaces => ?_
    split <;> simp

theorem toText_adds (value : Value) : Adds (toText value) := by
  cases value <;> simp [toText]

theorem joinText?_adds (value : Value) : Adds (joinText? value) := by
  cases value <;> simp [joinText?]

theorem join_adds (items : List Value) (separator : Value) :
    Adds (join items separator) := by
  cases separator with
  | text s =>
    refine (Adds.mapAll joinText?_adds items).bind fun parts => ?_
    split <;> simp
  | _ => exact .fail _

theorem filterArray_adds (name : String) (items positional : List Value)
    (keywords : Fields Value) : Adds (filterArray name items positional keywords) := by
  unfold filterArray
  split <;> simp [join_adds]

theorem filterText_adds (name s : String) : Adds (filterText name s) := by
  unfold filterText
  split <;> simp

theorem filterLabel_adds (name : String) (label : Label) :
    Adds (filterLabel name label) := by
  unfold filterLabel
  repeat' split
  all_goals simp

theorem filterTable_adds (name : String) (kind : ObjectKind) (address : Address) :
    Adds (filterTable name kind address) := by
  refine (entriesOf_adds address).bind fun entries => ?_
  split <;> simp

theorem filterObject_adds (name : String) (kind : ObjectKind) (address : Address) :
    Adds (filterObject name kind address) := by
  refine (fieldsOf_adds address).bind fun fields => ?_
  split <;> simp

theorem applyBuiltinFilter_adds (name : String) (operand : Value) (positional : List Value)
    (keywords : Fields Value) :
    Adds (applyBuiltinFilter name operand positional keywords) := by
  unfold applyBuiltinFilter
  split
  · exact defaultTo_adds operand positional keywords
  · exact defaultTo_adds operand positional keywords
  · exact toJson_adds operand _
  · exact toText_adds operand
  · split
    · exact filterArray_adds name _ positional keywords
    · exact filterText_adds name _
    · exact filterLabel_adds name _
    · simp
    · exact filterObject_adds name _ _
    · exact filterTable_adds name _ _
    · exact .fail _

@[simp] theorem applyFilter_adds (name : String) (operand : Value) (args : List Value) :
    Adds (applyFilter name operand args) := by
  refine (splitArguments_adds args).bind fun arguments =>
    .ofContext (fun context => ?_) fun _ _ => rfl
  split
  · exact callWithArguments_adds callHost_adds _ _
  · exact applyBuiltinFilter_adds name operand _ _

@[simp] theorem applyTest_adds (test : Test) (value : Value) (args : List Value) :
    Adds (applyTest test value args) := by
  unfold applyTest hasParity
  repeat' split
  all_goals simp

/-! ## Statements -/

theorem newLoop_adds (length index : Nat) (previous next : Value) :
    Adds (newObject .plain (loopFields length index previous next)) :=
  newObject_adds .plain (by simp [loopFields, Fields.keys])

@[simp] theorem failOfKind_adds (fault : String → Fault) (node : Node) :
    Adds (failOfKind fault node : Eval α) := by
  simp [failOfKind]

theorem assignField_works (target : Value) (key : String) (value : Value) :
    Works (assignField target key value) := by
  unfold assignField
  split
  case h_1 address => exact .withMemory fun _ => .setField address key value
  case h_2 address => exact .withMemory fun _ => .setEntry address (.text key) value
  case h_3 => exact .fail _

end TextTemplate.Eval
