import TextTemplate.Host.Stock
import TextTemplate.Proofs.Eval.Arguments
import TextTemplate.Proofs.Scope.Bindings

/-!
# Values without bundles

A bundle of keyword arguments is made by a call for what it calls, and is not meant to get any
further. What a template is given has no bundles in it, and conversions and functions of the host
bring none in.
-/

namespace TextTemplate

/-- A value that is no bundle of keyword arguments and holds none among its items. -/
inductive Value.Unbundled : Value → Prop
  | number (n : Number) : Unbundled (.number n)
  | bool (b : Bool) : Unbundled (.bool b)
  | text (s : String) : Unbundled (.text s)
  | label (l : Label) : Unbundled (.label l)
  | null : Unbundled .null
  | undefined : Unbundled .undefined
  | array {items : List Value} (h : ∀ item ∈ items, Unbundled item) : Unbundled (.array items)
  | object (address : Address) : Unbundled (.object .plain address)
  | table (address : Address) : Unbundled (.table .plain address)
  | function (mark : Nat) (function : Function) : Unbundled (.function mark function)

namespace Value.Unbundled

variable {value : Value}

theorem isBundle (h : value.Unbundled) : value.isBundle = false := by
  cases h <;> rfl

theorem ofLabel (label : Label) : (Value.ofLabel label).Unbundled := by
  cases label with
  | text => exact .text _
  | _ => exact .label _

theorem getD {found : Option Value} {default : Value} (h : ∀ value ∈ found, value.Unbundled)
    (hdefault : default.Unbundled) : (found.getD default).Unbundled := by
  cases found with
  | none => exact hdefault
  | some value => exact h value rfl

end Value.Unbundled

/-- Values without bundles, one and all. -/
def Value.AllUnbundled (values : List Value) : Prop := ∀ value ∈ values, value.Unbundled

open Value (AllUnbundled)

/-- A memory in which no object and no table holds a bundle. -/
structure Memory.Unbundled (memory : Memory) : Prop where
  fields : ∀ address, Fields.All Value.Unbundled (memory.fields address)
  entries : ∀ address, Table.All Value.Unbundled (memory.entries address)

/-- A state in which no variable, object or table holds a bundle. -/
structure State.Unbundled (s : State) : Prop where
  memory : s.memory.Unbundled
  environment : s.environment.All Value.Unbundled

theorem State.Unbundled.enter {s : State} (h : s.Unbundled) :
    State.Unbundled { s with environment := s.environment.enter } :=
  ⟨h.memory, h.environment.enter⟩

namespace Memory.Unbundled

variable {memory : Memory}

theorem allocate (h : memory.Unbundled) {fields : Fields Value}
    (hfields : Fields.All Value.Unbundled fields) : (memory.allocate fields).2.Unbundled := by
  refine ⟨fun address => ?_, h.entries⟩
  rw [Memory.fields_allocate]
  split
  · exact hfields
  · exact h.fields address

theorem allocateTable (h : memory.Unbundled) {entries : Table Value}
    (hentries : Table.All Value.Unbundled entries) :
    (memory.allocateTable entries).2.Unbundled := by
  refine ⟨h.fields, fun address => ?_⟩
  rw [Memory.entries_allocateTable]
  split
  · exact hentries
  · exact h.entries address

theorem setField (h : memory.Unbundled) (address : Address) (key : String) {value : Value}
    (hvalue : value.Unbundled) : (memory.setField address key value).Unbundled := by
  refine ⟨fun other => ?_, h.entries⟩
  rw [Memory.fields_setField]
  split
  · exact (h.fields other).put key hvalue
  · exact h.fields other

theorem setEntry (h : memory.Unbundled) (address : Address) (label : Label) {value : Value}
    (hvalue : value.Unbundled) : (memory.setEntry address label value).Unbundled := by
  refine ⟨h.fields, fun other => ?_⟩
  rw [Memory.entries_setEntry]
  split
  · exact (h.entries other).put label hvalue
  · exact h.entries other

end Memory.Unbundled

/-! ## The host -/

/-- A host value without bundles in it. -/
inductive Host.Unbundled : Host → Prop
  | null : Unbundled .null
  | bool (b : Bool) : Unbundled (.bool b)
  | number (n : Number) : Unbundled (.number n)
  | text (s : String) : Unbundled (.text s)
  | list {items : List Host} (h : ∀ item ∈ items, Unbundled item) : Unbundled (.list items)
  | tuple {items : List Host} (h : ∀ item ∈ items, Unbundled item) : Unbundled (.tuple items)
  | map {entries : List (Host × Host)} (h : ∀ entry ∈ entries, Unbundled entry.2) :
    Unbundled (.map entries)
  | record (typeName : String) {fields : List (String × Host)}
    (h : ∀ field ∈ fields, Unbundled field.2) : Unbundled (.record typeName fields)
  | model {entries : List (Host × Host)} (h : ∀ entry ∈ entries, Unbundled entry.2) :
    Unbundled (.model entries)
  | function (function : HostFunction) : Unbundled (.function function)
  | foreign (kind : Foreign) : Unbundled (.foreign kind)
  | ready {value : Value} {form : Host} (hvalue : value.Unbundled) (hform : Unbundled form) :
    Unbundled (.ready value form)

/-- A function of the host that makes no bundles of its own: on answers without bundles it goes on
to answer and to call without any. -/
inductive HostAction.Unbundled : HostAction → Prop
  | answer {value : Host} (h : value.Unbundled) : Unbundled (.answer value)
  | fail (message : String) : Unbundled (.fail message)
  | call (function : HostFunction) {args : List Host} {resume : Host → HostAction}
    (hargs : ∀ arg ∈ args, arg.Unbundled)
    (hresume : ∀ answer, answer.Unbundled → Unbundled (resume answer)) :
    Unbundled (.call function args resume)

def HostLibrary.Unbundled (library : HostLibrary) : Prop :=
  ∀ name args keywords, (∀ arg ∈ args, arg.Unbundled) → Fields.All Host.Unbundled keywords →
    (library name args keywords).Unbundled

theorem Host.Unbundled.ofFields {fields : Fields Host} (h : Fields.All Host.Unbundled fields) :
    (Host.ofFields fields).Unbundled := by
  refine .map fun entry hmem => ?_
  obtain ⟨pair, hpair, rfl⟩ := List.mem_map.mp hmem
  exact h pair hpair

mutual

theorem Host.ofLabel_unbundled : ∀ label : Label, (Host.ofLabel label).Unbundled
  | .text s => .text s
  | .number n => .number n
  | .bool b => .bool b
  | .null => .null
  | .tuple items => .tuple (Host.ofLabels_unbundled items)
  | .node kind parts => by
    rw [Host.ofLabel]
    split
    · exact .foreign _
    · exact .record kind (Host.ofParts_unbundled parts)

theorem Host.ofLabels_unbundled : ∀ labels : List Label,
    ∀ host ∈ Host.ofLabels labels, host.Unbundled
  | [] => nofun
  | label :: rest =>
    List.forall_mem_cons.mpr ⟨Host.ofLabel_unbundled label, Host.ofLabels_unbundled rest⟩

theorem Host.ofParts_unbundled : ∀ parts : List (String × Label),
    ∀ field ∈ Host.ofParts parts, field.2.Unbundled
  | [] => nofun
  | (_, label) :: rest =>
    List.forall_mem_cons.mpr ⟨Host.ofLabel_unbundled label, Host.ofParts_unbundled rest⟩

end

/-- The stock functions make no bundles. -/
theorem Host.unbundled_stock : HostLibrary.Unbundled Host.stock := by
  intro name args keywords hargs hkeywords
  have hfirst : (args.head?.getD .null).Unbundled := by
    cases args with
    | nil => exact .null
    | cons arg _ => exact hargs arg List.mem_cons_self
  unfold Host.stock
  split
  · exact .answer (.ofFields (List.forall_mem_cons.mpr ⟨.list hargs,
      List.forall_mem_singleton.mpr (.ofFields hkeywords)⟩))
  · exact .answer hfirst
  · exact .answer (.number _)
  · split
    · exact .answer (.text _)
    · exact .answer (.text _)
  · exact .answer (.number _)
  · exact .answer (.bool _)
  · exact .answer (.tuple fun item hmem => hargs item (List.mem_of_mem_take hmem))
  · split
    · exact .call _ (fun arg hmem => hargs arg (.tail _ hmem)) fun _ hanswer => .answer hanswer
    · exact .answer .null
  · exact .answer (.function _)
  · exact .fail _
  · exact .answer (.foreign _)
  · exact .answer (.map (List.forall_mem_singleton.mpr (.text _)))
  · exact .answer .null

namespace Eval

/-- A computation comes, if to anything, to what is good and to a state without bundles. -/
def KeepsAt {α : Type} (good : α → Prop) (x : Eval α) (context : Context) (s : State) : Prop :=
  ∀ a t, x context s = (.ok a, t) → good a ∧ t.Unbundled

/-- It does so from every state without bundles. -/
def Keeps {α : Type} (good : α → Prop) (x : Eval α) : Prop :=
  ∀ (context : Context) (s : State), HostLibrary.Unbundled context.library → s.Unbundled →
    KeepsAt good x context s

/-- Nothing is said of a result. -/
abbrev Whatever {α : Type} (_ : α) : Prop := True

variable {α β : Type} {good : α → Prop} {good' : β → Prop}

namespace KeepsAt

variable {context : Context} {s : State}

protected theorem pure {a : α} (h : good a) (hs : s.Unbundled) :
    KeepsAt good (Pure.pure a : Eval α) context s := by
  intro a t hrun
  cases hrun
  exact ⟨h, hs⟩

protected theorem fail (fault : Fault) : KeepsAt good (Eval.fail fault : Eval α) context s := by
  intro a t hrun
  cases hrun

protected theorem bind {x : Eval α} {f : α → Eval β} (hx : KeepsAt good x context s)
    (hf : ∀ a t, x context s = (.ok a, t) → good a → t.Unbundled → KeepsAt good' (f a) context t) :
    KeepsAt good' (x >>= f) context s := by
  intro b t hrun
  obtain ⟨a, r, hfirst, hrest⟩ := bind_eq_ok hrun
  obtain ⟨ha, hr⟩ := hx a r hfirst
  exact hf a r hfirst ha hr b t hrest

protected theorem ite {c : Prop} [Decidable c] {x y : Eval α} (hx : c → KeepsAt good x context s)
    (hy : ¬c → KeepsAt good y context s) : KeepsAt good (if c then x else y) context s := by
  split
  · exact hx ‹c›
  · exact hy ‹¬c›

end KeepsAt

namespace Keeps

protected theorem pure {a : α} (h : good a) : Keeps good (Pure.pure a : Eval α) :=
  fun _ _ _ hs => .pure h hs

protected theorem fail (fault : Fault) : Keeps good (Eval.fail fault : Eval α) :=
  fun _ _ _ _ => .fail fault

protected theorem bind {x : Eval α} {f : α → Eval β} (hx : Keeps good x)
    (hf : ∀ a, good a → Keeps good' (f a)) : Keeps good' (x >>= f) :=
  fun context s hlibrary hs => (hx context s hlibrary hs).bind fun a t _ ha ht =>
    hf a ha context t hlibrary ht

protected theorem ite {c : Prop} [Decidable c] {x y : Eval α} (hx : c → Keeps good x)
    (hy : ¬c → Keeps good y) : Keeps good (if c then x else y) :=
  fun context s hlibrary hs =>
    .ite (fun hc => hx hc context s hlibrary hs) fun hc => hy hc context s hlibrary hs

theorem mapAll {ι : Type} {f : ι → Eval α} {items : List ι} (hf : ∀ a ∈ items, Keeps good (f a)) :
    Keeps (fun found => ∀ b ∈ found, good b) (Eval.mapAll f items) := by
  induction items with
  | nil => exact .pure nofun
  | cons a rest ih =>
    obtain ⟨ha, hrest⟩ := List.forall_mem_cons.mp hf
    exact ha.bind fun b hb => (ih hrest).bind fun bs hbs =>
      .pure (List.forall_mem_cons.mpr ⟨hb, hbs⟩)

/-- The memory may be read. -/
theorem ofMemory {f : Memory → α} (h : ∀ memory : Memory, memory.Unbundled → good (f memory)) :
    Keeps good (Eval.ofMemory f) := by
  intro context s _ hs a t hrun
  cases hrun
  exact ⟨h _ hs.memory, hs⟩

theorem withMemory {f : Memory → α × Memory}
    (h : ∀ memory : Memory, memory.Unbundled → good (f memory).1 ∧ (f memory).2.Unbundled) :
    Keeps good (Eval.withMemory f) := by
  intro context s _ hs a t hrun
  obtain ⟨hgood, hmemory⟩ := h _ hs.memory
  cases hrun
  exact ⟨hgood, hmemory, hs.environment⟩

theorem ofEnvironment {f : Environment → α}
    (h : ∀ environment : Environment, environment.All Value.Unbundled → good (f environment)) :
    Keeps good (Eval.ofEnvironment f) := by
  intro context s _ hs a t hrun
  cases hrun
  exact ⟨h _ hs.environment, hs⟩

theorem changeEnvironment {f : Environment → Environment}
    (h : ∀ environment : Environment, environment.All Value.Unbundled →
      (f environment).All Value.Unbundled) : Keeps Whatever (Eval.changeEnvironment f) := by
  intro context s _ hs a t hrun
  cases hrun
  exact ⟨trivial, hs.memory, h _ hs.environment⟩

end Keeps

theorem context_keeps : Keeps Whatever Eval.context := by
  intro context s _ hs a t hrun
  cases hrun
  exact ⟨trivial, hs⟩

/-! ## Memory -/

theorem fieldsOf_keeps (address : Address) :
    Keeps (Fields.All Value.Unbundled) (fieldsOf address) :=
  .ofMemory fun _ h => h.fields address

theorem entriesOf_keeps (address : Address) :
    Keeps (Table.All Value.Unbundled) (entriesOf address) :=
  .ofMemory fun _ h => h.entries address

theorem newObject_keeps {fields : Fields Value} (h : Fields.All Value.Unbundled fields) :
    Keeps Value.Unbundled (newObject .plain fields) := by
  have hallocate : Keeps Whatever (withMemory (·.allocate fields)) :=
    .withMemory fun _ hmemory => ⟨trivial, hmemory.allocate h⟩
  exact hallocate.bind fun address _ => .pure (.object address)

theorem newTable_keeps {entries : Table Value} (h : Table.All Value.Unbundled entries) :
    Keeps Value.Unbundled (newTable .plain entries) := by
  have hallocate : Keeps Whatever (withMemory (·.allocateTable entries)) :=
    .withMemory fun _ hmemory => ⟨trivial, hmemory.allocateTable h⟩
  exact hallocate.bind fun address _ => .pure (.table address)

theorem newLabelled_keeps {pairs : List (Label × Value)} (h : Table.All Value.Unbundled pairs) :
    Keeps Value.Unbundled (newLabelled .plain pairs) :=
  .ite (fun _ => newObject_keeps h.named.ofPairs) fun _ => newTable_keeps h.ofPairs

theorem freshMark_keeps : Keeps Whatever (withMemory Memory.freshMark) :=
  .withMemory fun _ h => ⟨trivial, h.fields, h.entries⟩

theorem newFunction_keeps (function : Function) : Keeps Value.Unbundled (newFunction function) :=
  freshMark_keeps.bind fun mark _ => .pure (.function mark function)

theorem ofNumber_keeps (n : Number) : Keeps Value.Unbundled (ofNumber n) := by
  unfold ofNumber
  split
  · exact freshMark_keeps.bind fun _ _ => .pure (.number _)
  · exact .pure (.number _)

theorem snapshot_keeps (value : Value) : Keeps Whatever (snapshot value) := by
  have hends : Keeps Whatever (ofMemory (·.ends value)) := .ofMemory fun _ _ => trivial
  exact hends.bind fun ends _ => .ite (fun _ => .ofMemory fun _ _ => trivial) fun _ => .fail _

/-! ## Conversions -/

mutual

theorem toHost_unbundled : ∀ held : Snapshot, held.toHost.Unbundled
  | .number n => .number n
  | .bool b => .bool b
  | .text s => .text s
  | .label l => Host.ofLabel_unbundled l
  | .null => .null
  | .undefined => .null
  | .array items => .list (toHosts_unbundled items)
  | .object _ fields => .map (toEntries_unbundled fields)
  | .table _ entries => .map (toLabelled_unbundled entries)
  | .function _ f => .function (.template f)

theorem toHosts_unbundled : ∀ items : List Snapshot, ∀ host ∈ Snapshot.toHosts items, host.Unbundled
  | [] => nofun
  | item :: rest => List.forall_mem_cons.mpr ⟨toHost_unbundled item, toHosts_unbundled rest⟩

theorem toEntries_unbundled : ∀ fields : List (String × Snapshot),
    ∀ entry ∈ Snapshot.toEntries fields, entry.2.Unbundled
  | [] => nofun
  | (_, value) :: rest =>
    List.forall_mem_cons.mpr ⟨toHost_unbundled value, toEntries_unbundled rest⟩

theorem toLabelled_unbundled : ∀ entries : List (Label × Snapshot),
    ∀ entry ∈ Snapshot.toLabelled entries, entry.2.Unbundled
  | [] => nofun
  | (_, value) :: rest =>
    List.forall_mem_cons.mpr ⟨toHost_unbundled value, toLabelled_unbundled rest⟩

end

theorem toHost_keeps (value : Value) : Keeps Host.Unbundled (toHost value) :=
  (snapshot_keeps value).bind fun held _ => .pure (toHost_unbundled held)

theorem takeApart_keeps (fields : List (String × Host)) :
    Keeps Whatever (takeApart fields) := by
  unfold takeApart
  split
  · exact .pure trivial
  · exact .fail _

mutual

theorem convert_keeps (inRecord : Bool) : ∀ host : Host, host.Unbundled →
    Keeps Value.Unbundled (convert inRecord host)
  | .null, _ => .pure .null
  | .bool b, _ => .pure (.bool b)
  | .number n, _ => ofNumber_keeps n
  | .text s, _ => .pure (.text s)
  | .list items, h => by
    cases h with
    | list h =>
      exact (convertAll_keeps inRecord items h).bind fun _ hitems => .pure (.array hitems)
  | .tuple items, h => by
    cases h with
    | tuple h =>
      exact (convertAll_keeps inRecord items h).bind fun _ hitems => .pure (.array hitems)
  | .map entries, h => by
    cases h with
    | map h =>
      exact (convertEntries_keeps inRecord entries h).bind fun _ hfields =>
        newObject_keeps hfields.ofPairs
  | .model entries, h => by
    cases h with
    | model h =>
      exact (convertEntries_keeps false entries h).bind fun _ hfields =>
        newObject_keeps hfields.ofPairs
  | .record _ fields, h => by
    cases h with
    | record _ h =>
      exact (takeApart_keeps fields).bind fun _ _ =>
        (convertFields_keeps true fields h).bind fun _ hfields => newObject_keeps hfields.ofPairs
  | .function f, _ => newFunction_keeps (.host f)
  | .foreign _, _ => .fail _
  | .ready value form, h => by
    cases h with
    | ready hvalue hform =>
      cases inRecord with
      | true => exact convert_keeps true form hform
      | false => exact .pure hvalue

theorem convertAll_keeps (inRecord : Bool) : ∀ items : List Host, (∀ item ∈ items, item.Unbundled) →
    Keeps AllUnbundled (convertAll inRecord items)
  | [], _ => .pure nofun
  | item :: rest, h => by
    obtain ⟨hitem, hrest⟩ := List.forall_mem_cons.mp h
    exact (convert_keeps inRecord item hitem).bind fun _ hvalue =>
      (convertAll_keeps inRecord rest hrest).bind fun _ hvalues =>
        .pure (List.forall_mem_cons.mpr ⟨hvalue, hvalues⟩)

theorem convertEntries_keeps (inRecord : Bool) : ∀ entries : List (Host × Host),
    (∀ entry ∈ entries, entry.2.Unbundled) →
    Keeps (Fields.All Value.Unbundled) (convertEntries inRecord entries)
  | [], _ => .pure nofun
  | (key, item) :: rest, h => by
    obtain ⟨hitem, hrest⟩ := List.forall_mem_cons.mp h
    have hothers := convertEntries_keeps inRecord rest hrest
    have hfirst := convert_keeps inRecord item hitem
    unfold convertEntries
    split
    · exact .pure nofun
    · rename_i heq
      cases heq
      exact hfirst.bind fun _ hvalue => hothers.bind fun _ hfields =>
        .pure (List.forall_mem_cons.mpr ⟨hvalue, hfields⟩)
    · split
      · exact .fail _
      · exact .fail _

theorem convertFields_keeps (inRecord : Bool) : ∀ fields : List (String × Host),
    (∀ field ∈ fields, field.2.Unbundled) →
    Keeps (Fields.All Value.Unbundled) (convertFields inRecord fields)
  | [], _ => .pure nofun
  | (_, item) :: rest, h => by
    obtain ⟨hitem, hrest⟩ := List.forall_mem_cons.mp h
    exact (convert_keeps inRecord item hitem).bind fun _ hvalue =>
      (convertFields_keeps inRecord rest hrest).bind fun _ hfields =>
        .pure (List.forall_mem_cons.mpr ⟨hvalue, hfields⟩)

end

theorem fromHost_keeps {host : Host} (h : host.Unbundled) : Keeps Value.Unbundled (fromHost host) :=
  convert_keeps false host h

end Eval

end TextTemplate
