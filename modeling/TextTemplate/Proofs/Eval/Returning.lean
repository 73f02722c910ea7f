import TextTemplate.Proofs.Eval.Refusal
import TextTemplate.Proofs.Value.Holding

/-!
# Data that goes to a template and comes back

Data of the host can be given to a template, and what comes back is the same but for the types of
its containers. The other way round, what a template gives to the host comes back as it was, but
that what is undefined is nothing afterwards and that a bundle of keyword arguments is a plain
object.
-/

namespace TextTemplate

open List (Forall₂)

theorem forall₂_imp_of_mem {α β : Type} {R S : α → β → Prop} {l : List α} {l' : List β}
    (h : Forall₂ R l l') (himp : ∀ a ∈ l, ∀ b, R a b → S a b) : Forall₂ S l l' :=
  ((List.forall₂_and_left _ _).mpr ⟨himp, h⟩).imp fun _ b hab => hab.1 b hab.2

theorem forall_of_forall₂ {α β : Type} {P : β → Prop} {l : List α} {l' : List β}
    (h : Forall₂ (fun _ b => P b) l l') : ∀ b ∈ l', P b := by
  induction h with
  | nil => nofun
  | cons hb _ ih => exact List.forall_mem_cons.mpr ⟨hb, ih⟩

/-! ## Data -/

namespace Host

/-- The entries of a map with the given fields. -/
def keyed (fields : Fields Host) : List (Host × Host) :=
  fields.map fun (key, value) => (text key, value)

/-- Data of the host. All keys are texts, and none is there twice. -/
inductive IsData : Host → Prop
  | null : IsData .null
  | bool (b : Bool) : IsData (.bool b)
  | number (n : Number) : IsData (.number n)
  | text (s : String) : IsData (.text s)
  | list {items : List Host} (h : ∀ item ∈ items, IsData item) : IsData (.list items)
  | tuple {items : List Host} (h : ∀ item ∈ items, IsData item) : IsData (.tuple items)
  | map {fields : Fields Host} (hkeys : fields.keys.Nodup) (h : ∀ field ∈ fields, IsData field.2) :
    IsData (.map (keyed fields))
  | record (typeName : String) {fields : Fields Host} (hkeys : fields.keys.Nodup)
    (h : ∀ field ∈ fields, IsData field.2) : IsData (.record typeName fields)
  | model {fields : Fields Host} (hkeys : fields.keys.Nodup)
    (h : ∀ field ∈ fields, IsData field.2) : IsData (.model (keyed fields))

/-- What comes back for data: tuples as lists, records and models as maps, and everything else as it
was. An undefined number that has not been told apart from others yet comes back as a new one. -/
inductive ComesBack : Host → Host → Prop
  | null : ComesBack .null .null
  | bool (b : Bool) : ComesBack (.bool b) (.bool b)
  | number {n : Number} (h : n ≠ .nan 0) : ComesBack (.number n) (.number n)
  | unmarked {mark : Nat} (h : mark ≠ 0) : ComesBack (.number (.nan 0)) (.number (.nan mark))
  | text (s : String) : ComesBack (.text s) (.text s)
  | list {items items' : List Host} (h : Forall₂ ComesBack items items') :
    ComesBack (.list items) (.list items')
  | tuple {items items' : List Host} (h : Forall₂ ComesBack items items') :
    ComesBack (.tuple items) (.list items')
  | map {fields fields' : Fields Host} (h : Forall₂ (Keyed ComesBack) fields fields') :
    ComesBack (.map (keyed fields)) (.map (keyed fields'))
  | record (typeName : String) {fields fields' : Fields Host}
    (h : Forall₂ (Keyed ComesBack) fields fields') :
    ComesBack (.record typeName fields) (.map (keyed fields'))
  | model {fields fields' : Fields Host} (h : Forall₂ (Keyed ComesBack) fields fields') :
    ComesBack (.model (keyed fields)) (.map (keyed fields'))

/-- An entry of a map and what becomes of it. -/
inductive Entered (R : Host → Snapshot → Prop) : Host × Host → String × Snapshot → Prop
  | mk (key : String) {item : Host} {held : Snapshot} (h : R item held) :
    Entered R (.text key, item) (key, held)

/-- What the template holds for data of the host. -/
inductive Becomes : Host → Snapshot → Prop
  | null : Becomes .null .null
  | bool (b : Bool) : Becomes (.bool b) (.bool b)
  | number {n : Number} (h : n ≠ .nan 0) : Becomes (.number n) (.number n)
  | unmarked {mark : Nat} (h : mark ≠ 0) : Becomes (.number (.nan 0)) (.number (.nan mark))
  | text (s : String) : Becomes (.text s) (.text s)
  | list {items : List Host} {held : List Snapshot} (h : Forall₂ Becomes items held) :
    Becomes (.list items) (.array held)
  | tuple {items : List Host} {held : List Snapshot} (h : Forall₂ Becomes items held) :
    Becomes (.tuple items) (.array held)
  | map {entries : List (Host × Host)} {held : List (String × Snapshot)}
    (h : Forall₂ (Entered Becomes) entries held) : Becomes (.map entries) (.object .plain held)
  | record (typeName : String) {fields : Fields Host} {held : List (String × Snapshot)}
    (h : Forall₂ (Keyed Becomes) fields held) :
    Becomes (.record typeName fields) (.object .plain held)
  | model {entries : List (Host × Host)} {held : List (String × Snapshot)}
    (h : Forall₂ (Entered Becomes) entries held) : Becomes (.model entries) (.object .plain held)

variable {host : Host} {held : Snapshot} {R S : Host → Snapshot → Prop} {fields : Fields Host}
  {helds : List (String × Snapshot)}

theorem entered_iff :
    Forall₂ (Entered R) (keyed fields) helds ↔ Forall₂ (Keyed R) fields helds := by
  rw [keyed, List.forall₂_map_left_iff]
  constructor <;> refine List.Forall₂.imp fun (key, _) _ h => ?_
  · cases h with | mk _ h => exact .mk key h
  · cases h with | mk _ h => exact .mk key h

theorem keyed_imp_of_mem (h : Forall₂ (Keyed R) fields helds)
    (himp : ∀ field ∈ fields, ∀ held, R field.2 held → S field.2 held) :
    Forall₂ (Keyed S) fields helds :=
  forall₂_imp_of_mem h fun field hfield pair hpair => by
    cases hpair with | mk key h => exact .mk key (himp _ hfield _ h)

end Host

namespace Snapshot

theorem toHosts_eq (items : List Snapshot) : toHosts items = items.map toHost := by
  induction items with
  | nil => rfl
  | cons item rest ih => rw [toHosts, ih, List.map_cons]

theorem toEntries_eq (fields : List (String × Snapshot)) :
    toEntries fields = Host.keyed (fields.map fun (key, held) => (key, held.toHost)) := by
  induction fields with
  | nil => rfl
  | cons field rest ih => rw [toEntries, ih]; rfl

end Snapshot

theorem Host.Becomes.comesBack {host : Host} (hdata : host.IsData) {held : Snapshot}
    (h : host.Becomes held) : host.ComesBack held.toHost := by
  have hfields {fields : Fields Host} {helds : List (String × Snapshot)}
      (h : Forall₂ (Keyed fun item held => ComesBack item held.toHost) fields helds) :
      Forall₂ (Keyed ComesBack) fields (helds.map fun (key, held) => (key, held.toHost)) := by
    refine List.forall₂_map_right_iff.mpr (h.imp fun field pair hpair => ?_)
    cases hpair with | mk key h => exact .mk key h
  induction hdata generalizing held with
  | null => cases h; exact .null
  | bool b => cases h; exact .bool b
  | number n =>
    cases h with
    | number h => exact .number h
    | unmarked h => exact .unmarked h
  | text s => cases h; exact .text s
  | list _ ih =>
    cases h with
    | list h =>
      rw [Snapshot.toHost, Snapshot.toHosts_eq]
      exact .list (List.forall₂_map_right_iff.mpr (forall₂_imp_of_mem h fun a ha _ => ih a ha))
  | tuple _ ih =>
    cases h with
    | tuple h =>
      rw [Snapshot.toHost, Snapshot.toHosts_eq]
      exact .tuple (List.forall₂_map_right_iff.mpr (forall₂_imp_of_mem h fun a ha _ => ih a ha))
  | map _ _ ih =>
    cases h with
    | map h =>
      rw [Snapshot.toHost, Snapshot.toEntries_eq]
      exact .map
        (hfields (keyed_imp_of_mem (entered_iff.mp h) fun field hfield _ => ih field hfield))
  | record typeName _ _ ih =>
    cases h with
    | record _ h =>
      rw [Snapshot.toHost, Snapshot.toEntries_eq]
      exact .record typeName (hfields (keyed_imp_of_mem h fun field hfield _ => ih field hfield))
  | model _ _ ih =>
    cases h with
    | model h =>
      rw [Snapshot.toHost, Snapshot.toEntries_eq]
      exact .model
        (hfields (keyed_imp_of_mem (entered_iff.mp h) fun field hfield _ => ih field hfield))

/-! ## Giving data to a template -/

namespace Host

theorem allUnfold_iff {items : List Host} : allUnfold items ↔ ∀ item ∈ items, item.unfolds := by
  induction items with
  | nil => simp [allUnfold]
  | cons item rest ih => rw [allUnfold, Bool.and_eq_true, ih, List.forall_mem_cons]

theorem fieldsUnfold_iff {fields : Fields Host} :
    fieldsUnfold fields ↔ ∀ field ∈ fields, field.2.unfolds := by
  induction fields with
  | nil => simp [fieldsUnfold]
  | cons field rest ih => rw [fieldsUnfold, Bool.and_eq_true, ih, List.forall_mem_cons]

/-- No text stands in the way of taking records apart. -/
theorem entriesUnfold_keyed (fields : Fields Host) :
    entriesUnfold (keyed fields) = fieldsUnfold fields := by
  induction fields with
  | nil => rfl
  | cons field rest ih =>
    show (true && unfolds field.2 && entriesUnfold (keyed rest)) = _
    rw [ih, Bool.true_and, fieldsUnfold]

theorem IsData.unfolds {host : Host} (h : host.IsData) : host.unfolds := by
  induction h with
  | list _ ih => exact allUnfold_iff.mpr ih
  | tuple _ ih => exact allUnfold_iff.mpr ih
  | @map fields _ _ ih =>
    rw [Host.unfolds, entriesUnfold_keyed]
    exact fieldsUnfold_iff.mpr ih
  | record _ _ _ ih => exact fieldsUnfold_iff.mpr ih
  | _ => rfl

end Host

namespace Eval

variable {inRecord : Bool} {items : List Host} {fields : Fields Host} {m m' : Memory} {host : Host}
  {value : Value}

/-- A value that holds what data of the host becomes. -/
def Makes (m : Memory) (host : Host) (value : Value) : Prop :=
  m.Grounded value ∧ host.Becomes (m.snapshot value)

theorem Makes.grows (h : Makes m host value) (hgrows : Memory.Grows m m') : Makes m' host value :=
  ⟨h.1.grows hgrows, by rw [h.1.snapshot_eq hgrows]; exact h.2⟩

/-- The conversion of a host value succeeds, wherever it is done. -/
def Converts (inRecord : Bool) (host : Host) : Prop :=
  ∀ context s, ∃ value m, convert inRecord host context s = (.ok value, { s with memory := m }) ∧
    Memory.Grows s.memory m ∧ Makes m host value

theorem run_convertAll (h : ∀ item ∈ items, Converts inRecord item) (context : Context)
    (s : State) : ∃ values m,
      convertAll inRecord items context s = (.ok values, { s with memory := m }) ∧
        Memory.Grows s.memory m ∧ Forall₂ (Makes m) items values := by
  induction items generalizing s with
  | nil => exact ⟨[], s.memory, rfl, .refl _, .nil⟩
  | cons item rest ih =>
    obtain ⟨hitem, hrest⟩ := List.forall_mem_cons.mp h
    obtain ⟨value, m, hvalue, hgrows, hmakes⟩ := hitem context s
    obtain ⟨values, m', hvalues, hgrows', hall⟩ := ih hrest { s with memory := m }
    refine ⟨value :: values, m', ?_, hgrows.trans hgrows', .cons (hmakes.grows hgrows') hall⟩
    exact (run_bind hvalue _).trans ((run_bind hvalues _).trans rfl)

theorem run_convertFields (h : ∀ field ∈ fields, Converts inRecord field.2) (context : Context)
    (s : State) : ∃ pairs m,
      convertFields inRecord fields context s = (.ok pairs, { s with memory := m }) ∧
        Memory.Grows s.memory m ∧ Forall₂ (Keyed (Makes m)) fields pairs := by
  induction fields generalizing s with
  | nil => exact ⟨[], s.memory, rfl, .refl _, .nil⟩
  | cons field rest ih =>
    obtain ⟨key, item⟩ := field
    obtain ⟨hitem, hrest⟩ := List.forall_mem_cons.mp h
    obtain ⟨value, m, hvalue, hgrows, hmakes⟩ := hitem context s
    obtain ⟨pairs, m', hpairs, hgrows', hall⟩ := ih hrest { s with memory := m }
    refine ⟨(key, value) :: pairs, m', ?_, hgrows.trans hgrows',
      .cons (.mk key (hmakes.grows hgrows')) hall⟩
    exact (run_bind hvalue _).trans ((run_bind hpairs _).trans rfl)

theorem convertEntries_keyed (inRecord : Bool) (fields : Fields Host) :
    convertEntries inRecord (Host.keyed fields) = convertFields inRecord fields := by
  induction fields with
  | nil => rfl
  | cons field rest ih =>
    rw [convertFields, ← ih]
    rfl

theorem Converts.array (h : ∀ item ∈ items, Converts inRecord item) (context : Context)
    (s : State) : ∃ value m held,
      (convertAll inRecord items >>= fun values => pure (.array values)) context s =
          (.ok value, { s with memory := m }) ∧
        Memory.Grows s.memory m ∧ m.Grounded value ∧ m.snapshot value = .array held ∧
          Forall₂ Host.Becomes items held := by
  obtain ⟨values, m, hvalues, hgrows, hmakes⟩ := run_convertAll h context s
  refine ⟨.array values, m, _, (run_bind hvalues _).trans rfl, hgrows,
    .array (forall_of_forall₂ (hmakes.imp fun _ _ hmakes => hmakes.1)),
    Memory.snapshot_array m values, ?_⟩
  exact List.forall₂_map_right_iff.mpr (hmakes.imp fun _ _ hmakes => hmakes.2)

/-- A new object with the fields that data becomes. -/
theorem Converts.object {x : Eval (Fields Value)} (hkeys : fields.keys.Nodup)
    (hx : ∀ context s, ∃ pairs m, x context s = (.ok pairs, { s with memory := m }) ∧
      Memory.Grows s.memory m ∧ Forall₂ (Keyed (Makes m)) fields pairs)
    (context : Context) (s : State) : ∃ value m held,
      (x >>= fun pairs => newObject .plain (Fields.ofPairs pairs)) context s =
          (.ok value, { s with memory := m }) ∧
        Memory.Grows s.memory m ∧ m.Grounded value ∧ m.snapshot value = .object .plain held ∧
          Forall₂ (Keyed Host.Becomes) fields held := by
  obtain ⟨pairs, m, hpairs, hgrows, hmakes⟩ := hx context s
  rw [Fields.keys_eq hmakes] at hkeys
  have hgrounded : ∀ pair ∈ pairs, m.Grounded pair.2 :=
    forall_of_forall₂ (hmakes.imp fun _ _ hpair => by
      cases hpair with | mk _ hpair => exact hpair.1)
  obtain ⟨hgrounded, hheld⟩ := Memory.grounded_allocate .plain hgrounded
  refine ⟨_, (m.allocate pairs).2, _, (run_bind hpairs _).trans ?_,
    hgrows.trans (Memory.grows_allocate m pairs), hgrounded, hheld,
    List.forall₂_map_right_iff.mpr (hmakes.imp fun _ _ hpair => ?_)⟩
  · rw [Fields.ofPairs_eq hkeys]
    rfl
  · cases hpair with | mk key hpair => exact .mk key hpair.2

/-- Data is converted, within a record and outside of one, and nothing of it is lost. -/
theorem converts_of_isData (h : host.IsData) (inRecord : Bool) : Converts inRecord host := by
  induction h generalizing inRecord with
  | null => exact fun _ s => ⟨_, _, rfl, .refl _, .null, .null⟩
  | bool b => exact fun _ s => ⟨_, _, rfl, .refl _, .bool b, .bool b⟩
  | text t => exact fun _ s => ⟨_, _, rfl, .refl _, .text t, .text t⟩
  | number n =>
    intro context s
    unfold convert ofNumber
    split
    · exact ⟨_, _, rfl, Memory.grows_freshMark _, .number _, .unmarked (Nat.succ_ne_zero _)⟩
    · rename_i hmarked
      exact ⟨_, _, rfl, .refl _, .number n, .number hmarked⟩
  | list _ ih =>
    intro context s
    obtain ⟨value, m, held, hvalue, hgrows, hgrounded, hheld, hbecomes⟩ :=
      Converts.array (fun item hitem => ih item hitem inRecord) context s
    exact ⟨value, m, hvalue, hgrows, hgrounded, by rw [hheld]; exact .list hbecomes⟩
  | tuple _ ih =>
    intro context s
    obtain ⟨value, m, held, hvalue, hgrows, hgrounded, hheld, hbecomes⟩ :=
      Converts.array (fun item hitem => ih item hitem inRecord) context s
    exact ⟨value, m, hvalue, hgrows, hgrounded, by rw [hheld]; exact .tuple hbecomes⟩
  | map hkeys _ ih =>
    intro context s
    obtain ⟨value, m, held, hvalue, hgrows, hgrounded, hheld, hbecomes⟩ := Converts.object hkeys
      (run_convertFields fun field hfield => ih field hfield inRecord) context s
    rw [← convertEntries_keyed] at hvalue
    exact ⟨value, m, hvalue, hgrows, hgrounded,
      by rw [hheld]; exact .map (Host.entered_iff.mpr hbecomes)⟩
  | model hkeys _ ih =>
    intro context s
    obtain ⟨value, m, held, hvalue, hgrows, hgrounded, hheld, hbecomes⟩ := Converts.object hkeys
      (run_convertFields fun field hfield => ih field hfield false) context s
    rw [← convertEntries_keyed] at hvalue
    exact ⟨value, m, hvalue, hgrows, hgrounded,
      by rw [hheld]; exact .model (Host.entered_iff.mpr hbecomes)⟩
  | @record typeName fields hkeys h ih =>
    intro context s
    obtain ⟨value, m, held, hvalue, hgrows, hgrounded, hheld, hbecomes⟩ := Converts.object hkeys
      (run_convertFields fun field hfield => ih field hfield true) context s
    have hunfolds : Host.fieldsUnfold fields :=
      Host.fieldsUnfold_iff.mpr fun field hfield => (h field hfield).unfolds
    refine ⟨value, m, ?_, hgrows, hgrounded, by rw [hheld]; exact .record typeName hbecomes⟩
    rw [convert, takeApart, if_pos hunfolds]
    exact hvalue

end Eval

/-! ## Giving what a template holds to the host -/

namespace Snapshot

mutual

/-- What is left of what a value holds once it has been with the host: nothing where something is
undefined, and plain objects in place of bundles of keyword arguments. -/
def plain : Snapshot → Snapshot
  | undefined => null
  | array items => array (plains items)
  | object _ fields => object .plain (plainFields fields)
  | table _ entries => table .plain (plainEntries entries)
  | held => held

def plains : List Snapshot → List Snapshot
  | [] => []
  | item :: rest => plain item :: plains rest

def plainFields : List (String × Snapshot) → List (String × Snapshot)
  | [] => []
  | (key, held) :: rest => (key, plain held) :: plainFields rest

def plainEntries : List (Label × Snapshot) → List (Label × Snapshot)
  | [] => []
  | (name, held) :: rest => (name, plain held) :: plainEntries rest

end

/-- What a value holds that is no function and in which there is none. Undefined numbers have marks,
and no key of an object is there twice. -/
inductive IsData : Snapshot → Prop
  | number {n : Number} (h : n ≠ .nan 0) : IsData (.number n)
  | bool (b : Bool) : IsData (.bool b)
  | text (s : String) : IsData (.text s)
  | null : IsData .null
  | undefined : IsData .undefined
  | array {items : List Snapshot} (h : ∀ item ∈ items, IsData item) : IsData (.array items)
  | object (kind : ObjectKind) {fields : Fields Snapshot} (hkeys : fields.keys.Nodup)
    (h : ∀ field ∈ fields, IsData field.2) : IsData (.object kind fields)

theorem plains_eq (items : List Snapshot) : plains items = items.map plain := by
  induction items with
  | nil => rfl
  | cons item rest ih => rw [plains, ih, List.map_cons]

theorem plainFields_eq (fields : List (String × Snapshot)) :
    plainFields fields = fields.map fun (key, held) => (key, held.plain) := by
  induction fields with
  | nil => rfl
  | cons field rest ih => rw [plainFields, ih, List.map_cons]

variable {held held' : Snapshot}

theorem IsData.toHost (h : held.IsData) : held.toHost.IsData := by
  induction h with
  | number => exact .number _
  | bool b => exact .bool b
  | text s => exact .text s
  | null => exact .null
  | undefined => exact .null
  | array _ ih =>
    rw [Snapshot.toHost, toHosts_eq]
    exact .list (List.forall_mem_map.mpr ih)
  | object kind hkeys _ ih =>
    rw [Snapshot.toHost, toEntries_eq]
    refine .map ?_ (List.forall_mem_map.mpr ih)
    simpa [Fields.keys, Function.comp_def] using hkeys

theorem eq_map_of_forall₂ {α β : Type} {f : α → β} {l : List α} {l' : List β}
    (h : Forall₂ (fun a b => b = f a) l l') : l' = l.map f := by
  induction h with
  | nil => rfl
  | cons h _ ih => rw [h, ih, List.map_cons]

/-- What comes back from the host for what a value holds. -/
theorem IsData.eq_plain (h : held.IsData) (hbecomes : held.toHost.Becomes held') :
    held' = held.plain := by
  induction h generalizing held' with
  | number h =>
    cases hbecomes with
    | number _ => rfl
    | unmarked => exact absurd rfl h
  | bool b => cases hbecomes; rfl
  | text s => cases hbecomes; rfl
  | null => cases hbecomes; rfl
  | undefined => cases hbecomes; rfl
  | array _ ih =>
    rw [Snapshot.toHost, toHosts_eq] at hbecomes
    cases hbecomes with
    | list hbecomes =>
      rw [List.forall₂_map_left_iff] at hbecomes
      rw [plain, plains_eq,
        eq_map_of_forall₂ (forall₂_imp_of_mem hbecomes fun item hitem _ => ih item hitem)]
  | @object kind fields _ _ ih =>
    rw [Snapshot.toHost, toEntries_eq] at hbecomes
    cases hbecomes with
    | map hbecomes =>
      rw [Host.entered_iff, List.forall₂_map_left_iff] at hbecomes
      rw [plain, plainFields_eq, eq_map_of_forall₂ (forall₂_imp_of_mem hbecomes
        fun field hfield pair hpair => ?_)]
      obtain ⟨key, item⟩ := field
      cases hpair with | mk _ hpair => exact congrArg (Prod.mk key) (ih _ hfield hpair)

end Snapshot

namespace Eval

variable {context : Context} {s : State} {value : Value} {host : Host} {held : Snapshot}

theorem run_toHost (h : s.memory.ends value) (context : Context) :
    toHost value context s = (.ok (s.memory.snapshot value).toHost, s) :=
  (run_bind (run_snapshot h context) _).trans rfl

theorem run_toHost_error (h : ¬ s.memory.ends value) (context : Context) :
    toHost value context s = (.error .containsItself, s) := by
  have hsnapshot : snapshot value context s = (.error .containsItself, s) := by
    refine (run_bind (a := s.memory.ends value) (t := s) rfl _).trans ?_
    rw [if_neg h]
    rfl
  exact run_bind_error hsnapshot _

/-- Data of the host comes back from a template. -/
theorem comesBack_of_isData (h : host.IsData) (context : Context) (s : State) :
    ∃ value t back, fromHost host context s = (.ok value, t) ∧
      toHost value context t = (.ok back, t) ∧ host.ComesBack back := by
  obtain ⟨value, m, hvalue, -, hgrounded, hbecomes⟩ := converts_of_isData h false context s
  exact ⟨value, _, _, hvalue, run_toHost (s := { s with memory := m }) hgrounded.ends context,
    hbecomes.comesBack h⟩

/-- What a value holds comes back from the host. -/
theorem run_fromHost_toHost (h : held.IsData) (context : Context) (s : State) :
    ∃ copy m, fromHost held.toHost context s = (.ok copy, { s with memory := m }) ∧
      Memory.Grows s.memory m ∧ m.Grounded copy ∧ m.snapshot copy = held.plain := by
  obtain ⟨copy, m, hcopy, hgrows, hgrounded, hbecomes⟩ :=
    converts_of_isData h.toHost false context s
  exact ⟨copy, m, hcopy, hgrows, hgrounded, h.eq_plain hbecomes⟩

end Eval

end TextTemplate
