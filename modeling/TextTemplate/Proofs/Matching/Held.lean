import TextTemplate.Proofs.Matching.Eval

/-!
# What a memory holds

A value is held by a memory if the memory has all objects and has given out all marks that are
found in the value. Giving a host value to a template only adds to the memory, and what comes of it
is held afterwards.
-/

namespace TextTemplate

open List (Forall₂)

/-! ## Trimming -/

section Trimming

variable {w w' w'' : Matching}

/-- What belongs together in the first matching belongs together in the third as well, where the
second matching has it. -/
structure Matching.Trims (w w' w'' : Matching) : Prop where
  objects : ∀ {a b : Address}, w.objects a b → w'.objects a a → w''.objects a b
  marks : ∀ {i j : Nat}, w.marks i j → w'.marks i i → w''.marks i j

theorem Number.Alike.trim (h : Matching.Trims w w' w'') {m n : Number}
    (hnumber : Number.Alike w m n) (hself : Number.Alike w' m m) : Number.Alike w'' m n := by
  cases hnumber with
  | int i => exact .int i
  | float x => exact .float x
  | nan hmark =>
    cases hself with
    | nan hself => exact .nan (h.marks hmark hself)

mutual

theorem Function.Alike.trim (h : Matching.Trims w w' w'') :
    ∀ f g : Function, Function.Alike w f g → Function.Alike w' f f →
    Function.Alike w'' f g
  | .host f, _, hf, hself => by
    cases hf with
    | host hf =>
      cases hself with
      | host hself => exact .host (HostFunction.Alike.trim h f _ hf hself)
  | .ofObject _ _, _, hf, hself => by
    cases hf with
    | ofObject _ hab =>
      cases hself with
      | ofObject _ hself => exact .ofObject _ (h.objects hab hself)
  | .ofText _ _, _, hf, _ => by cases hf; exact .ofText _ _
  | .ofArray _, _, hf, _ => by cases hf; exact .ofArray _
  | .builtin _, _, hf, _ => by cases hf; exact .builtin _
  | .ofLabel _ _, _, hf, _ => nomatch hf
  | .ofTable _ _, _, hf, _ => nomatch hf

theorem HostFunction.Alike.trim (h : Matching.Trims w w' w'') :
    ∀ f g : HostFunction, HostFunction.Alike w f g →
    HostFunction.Alike w' f f → HostFunction.Alike w'' f g
  | .named _, _, hf, _ => by cases hf; exact .named _
  | .template f, _, hf, hself => by
    cases hf with
    | template hf =>
      cases hself with
      | template hself => exact .template (Function.Alike.trim h f _ hf hself)

end

mutual

theorem Value.Alike.trim (h : Matching.Trims w w' w'') :
    ∀ value value' : Value, Value.Alike w value value' →
    Value.Alike w' value value → Value.Alike w'' value value'
  | .number _, _, hvalue, hself => by
    cases hvalue with
    | number hnumber =>
      cases hself with
      | number hself => exact .number (hnumber.trim h hself)
  | .array items, _, hvalue, hself => by
    cases hvalue with
    | array hitems =>
      cases hself with
      | array hself => exact .array (Value.Alike.trimAll h items _ hitems hself)
  | .object _ _, _, hvalue, hself => by
    cases hvalue with
    | object _ hab =>
      cases hself with
      | object _ hself => exact .object _ (h.objects hab hself)
  | .function _ f, _, hvalue, hself => by
    cases hvalue with
    | function hmark hf =>
      cases hself with
      | function hmark' hf' =>
        exact .function (h.marks hmark hmark') (Function.Alike.trim h f _ hf hf')
  | .bool _, _, hvalue, _ => by cases hvalue; exact .bool _
  | .text _, _, hvalue, _ => by cases hvalue; exact .text _
  | .null, _, hvalue, _ => by cases hvalue; exact .null
  | .undefined, _, hvalue, _ => by cases hvalue; exact .undefined
  | .label _, _, hvalue, _ => nomatch hvalue
  | .table _ _, _, hvalue, _ => nomatch hvalue

theorem Value.Alike.trimAll (h : Matching.Trims w w' w'') :
    ∀ items items' : List Value, Forall₂ (Value.Alike w) items items' →
    Forall₂ (Value.Alike w') items items → Forall₂ (Value.Alike w'') items items'
  | [], _, hitems, _ => by cases hitems; exact .nil
  | item :: rest, _, hitems, hself => by
    cases hitems with
    | cons hitem hrest =>
      cases hself with
      | cons hself hselfRest =>
        exact .cons (Value.Alike.trim h item _ hitem hself)
          (Value.Alike.trimAll h rest _ hrest hselfRest)

end

theorem Value.Alike.trimFields (h : Matching.Trims w w' w'')
    {fields fields' : Fields Value}
    (hfields : Forall₂ (Keyed (Value.Alike w)) fields fields')
    (hself : Forall₂ (Keyed (Value.Alike w')) fields fields) :
    Forall₂ (Keyed (Value.Alike w'')) fields fields' := by
  induction hfields with
  | nil => exact .nil
  | cons hpair _ ih =>
    obtain ⟨key, hvalue⟩ := hpair
    obtain ⟨hselfPair, hselfRest⟩ := List.forall₂_cons.mp hself
    obtain ⟨_, hselfValue⟩ := hselfPair
    exact .cons (.mk key (hvalue.trim h _ _ hselfValue)) (ih hselfRest)

mutual

theorem Host.Alike.trim (h : Matching.Trims w w' w'') :
    ∀ host : Host, Host.Alike w host host → Host.Alike w' host host →
    Host.Alike w'' host host
  | .number _, hhost, hself => by
    cases hhost with
    | number hnumber =>
      cases hself with
      | number hself => exact .number (hnumber.trim h hself)
  | .list items, hhost, hself => by
    cases hhost with
    | list hitems =>
      cases hself with
      | list hself => exact .list (Host.Alike.trimAll h items hitems hself)
  | .tuple items, hhost, hself => by
    cases hhost with
    | tuple hitems =>
      cases hself with
      | tuple hself => exact .tuple (Host.Alike.trimAll h items hitems hself)
  | .map entries, hhost, hself => by
    cases hhost with
    | map hentries =>
      cases hself with
      | map hself => exact .map (Host.Alike.trimEntries h entries hentries hself)
  | .model entries, hhost, hself => by
    cases hhost with
    | model hentries =>
      cases hself with
      | model hself => exact .model (Host.Alike.trimEntries h entries hentries hself)
  | .record _ fields, hhost, hself => by
    cases hhost with
    | record _ hfields =>
      cases hself with
      | record _ hself => exact .record _ (Host.Alike.trimFields h fields hfields hself)
  | .function f, hhost, hself => by
    cases hhost with
    | function hf =>
      cases hself with
      | function hself => exact .function (HostFunction.Alike.trim h f _ hf hself)
  | .ready value form, hhost, hself => by
    cases hhost with
    | ready hvalue hform =>
      cases hself with
      | ready hself hselfForm =>
        exact .ready (Value.Alike.trim h value _ hvalue hself)
          (Host.Alike.trim h form hform hselfForm)
  | .null, _, _ => .null
  | .bool _, _, _ => .bool _
  | .text _, _, _ => .text _
  | .foreign _, _, _ => .foreign _

theorem Host.Alike.trimAll (h : Matching.Trims w w' w'') :
    ∀ items : List Host, Forall₂ (Host.Alike w) items items →
    Forall₂ (Host.Alike w') items items → Forall₂ (Host.Alike w'') items items
  | [], _, _ => .nil
  | item :: rest, hitems, hself => by
    cases hitems with
    | cons hitem hrest =>
      cases hself with
      | cons hself hselfRest =>
        exact .cons (Host.Alike.trim h item hitem hself) (Host.Alike.trimAll h rest hrest hselfRest)

theorem Host.Alike.trimEntries (h : Matching.Trims w w' w'') :
    ∀ entries : List (Host × Host),
    Forall₂ (Paired (Host.Alike w) (Host.Alike w)) entries entries →
      Forall₂ (Paired (Host.Alike w') (Host.Alike w')) entries entries →
        Forall₂ (Paired (Host.Alike w'') (Host.Alike w'')) entries entries
  | [], _, _ => .nil
  | (key, item) :: rest, hentries, hself => by
    cases hentries with
    | cons hentry hrest =>
      cases hself with
      | cons hself hselfRest =>
        obtain ⟨hkey, hitem⟩ := hentry
        obtain ⟨hselfKey, hselfItem⟩ := hself
        have hkey' := Host.Alike.trim h key hkey hselfKey
        have hitem' := Host.Alike.trim h item hitem hselfItem
        exact .cons (.mk hkey' hitem') (Host.Alike.trimEntries h rest hrest hselfRest)

theorem Host.Alike.trimFields (h : Matching.Trims w w' w'') :
    ∀ fields : List (String × Host),
    Forall₂ (Keyed (Host.Alike w)) fields fields →
      Forall₂ (Keyed (Host.Alike w')) fields fields → Forall₂ (Keyed (Host.Alike w'')) fields fields
  | [], _, _ => .nil
  | (key, item) :: rest, hfields, hself => by
    cases hfields with
    | cons hfield hrest =>
      cases hself with
      | cons hself hselfRest =>
        obtain ⟨_, hitem⟩ := hfield
        obtain ⟨_, hselfItem⟩ := hself
        exact .cons (.mk key (Host.Alike.trim h item hitem hselfItem))
          (Host.Alike.trimFields h rest hrest hselfRest)

end

end Trimming

/-! ## Memories -/

/-- Everything below the bounds belongs together with itself. -/
def Matching.upTo (objects marks : Nat) : Matching where
  objects (a b : Nat) := a < objects ∧ a = b
  marks i j := i ≤ marks ∧ i = j
  objects_iff := by
    rintro a b a' b' ⟨_, rfl⟩ ⟨_, rfl⟩
    rfl
  marks_iff := by
    rintro i j i' j' ⟨_, rfl⟩ ⟨_, rfl⟩
    rfl
  marks_zero := ⟨Nat.zero_le _, rfl⟩

namespace Memory

/-- What there is in a memory, each belonging together with itself. -/
def self (m : Memory) : Matching := .upTo m.objects.size m.marks

/-- Whatever is found in a value is there in a memory. -/
abbrev Holds (m : Memory) (value : Value) : Prop := Value.Alike m.self value value

/-- Whatever is found in a host value is there in a memory. -/
abbrev HoldsHost (m : Memory) (host : Host) : Prop := Host.Alike m.self host host

abbrev HoldsFields (m : Memory) (fields : Fields Value) : Prop :=
  Forall₂ (Keyed (Value.Alike m.self)) fields fields

/-- A memory holds what its objects hold. -/
def Closed (m : Memory) : Prop := ∀ a, m.HoldsFields (m.fields a)

/-- A memory with more objects and marks. -/
structure Grows (m m' : Memory) : Prop where
  objects : m.objects.size ≤ m'.objects.size
  marks : m.marks ≤ m'.marks
  fields : ∀ a < m.objects.size, m'.fields a = m.fields a

variable {m m' m'' : Memory} {value : Value} {host : Host} {fields : Fields Value}

theorem holds_array {items : List Value} :
    m.Holds (.array items) ↔ ∀ item ∈ items, m.Holds item := by
  constructor
  · intro h
    cases h with
    | array hitems => exact fun item hitem => List.forall₂_same.mp hitems item hitem
  · exact fun h => .array (List.forall₂_same.mpr h)

namespace Grows

protected theorem refl (m : Memory) : Grows m m := ⟨le_rfl, le_rfl, fun _ _ => rfl⟩

theorem trans (h : Grows m m') (h' : Grows m' m'') : Grows m m'' :=
  ⟨h.objects.trans h'.objects, h.marks.trans h'.marks, fun a ha =>
    (h'.fields a (ha.trans_le h.objects)).trans (h.fields a ha)⟩

theorem trims (h : Grows m m') : Matching.Trims m.self m.self m'.self :=
  ⟨fun hab _ => ⟨hab.1.trans_le h.objects, hab.2⟩, fun hij _ => ⟨hij.1.trans h.marks, hij.2⟩⟩

/-- What goes for the things in a memory goes for those that it has grown from. -/
theorem trims_of_trims {w : Matching} (h : Grows m m') (hw : Matching.Trims m'.self m'.self w) :
    Matching.Trims m.self m.self w :=
  ⟨fun hab hself => hw.objects (h.trims.objects hab hself) (h.trims.objects hself hself),
    fun hij hself => hw.marks (h.trims.marks hij hself) (h.trims.marks hself hself)⟩

theorem holds (h : Grows m m') (hvalue : m.Holds value) : m'.Holds value :=
  hvalue.trim h.trims _ _ hvalue

theorem holdsFields (h : Grows m m') (hfields : m.HoldsFields fields) : m'.HoldsFields fields :=
  Value.Alike.trimFields h.trims hfields hfields

theorem holdsHost (h : Grows m m') (hhost : m.HoldsHost host) : m'.HoldsHost host :=
  hhost.trim h.trims _ hhost

end Grows

theorem fields_of_size_le {a : Address} (h : m.objects.size ≤ a) : m.fields a = [] := by
  simp [Memory.fields, Array.getD_eq_getD_getElem?, Array.getElem?_eq_none h]

theorem grows_allocate (m : Memory) (fields : Fields Value) : Grows m (m.allocate fields).2 := by
  refine ⟨by simp [Memory.allocate], le_rfl, fun a ha => ?_⟩
  rw [fields_allocate, if_neg (Nat.ne_of_lt ha)]

theorem grows_freshMark (m : Memory) : Grows m m.freshMark.2 :=
  ⟨le_rfl, Nat.le_succ _, fun _ _ => rfl⟩

theorem Closed.allocate (hclosed : m.Closed) (hfields : m.HoldsFields fields) :
    Grows m (m.allocate fields).2 ∧ (m.allocate fields).2.Closed := by
  have hgrows := grows_allocate m fields
  refine ⟨hgrows, fun a => ?_⟩
  rw [fields_allocate]
  split
  · exact hgrows.holdsFields hfields
  · exact hgrows.holdsFields (hclosed a)

theorem Closed.freshMark (hclosed : m.Closed) :
    Grows m m.freshMark.2 ∧ m.freshMark.2.Closed := by
  have hgrows := grows_freshMark m
  exact ⟨hgrows, fun a => hgrows.holdsFields (hclosed a)⟩

end Memory

/-! ## Computations that only add to the memory -/

namespace Eval

variable {α β : Type} {m : Memory} {Q : Memory → α → Prop} {S : Memory → β → Prop}

/-- From a closed memory, a computation adds to it and gives an answer of a certain kind. -/
def Builds (m : Memory) (Q : Memory → α → Prop) (x : Eval α) : Prop :=
  ∀ context s a t, s.memory = m → m.Closed → x context s = (.ok a, t) →
    Memory.Grows m t.memory ∧ t.memory.Closed ∧ Q t.memory a

namespace Builds

protected theorem pure {a : α} (h : Q m a) : Builds m Q (Pure.pure a) := by
  rintro _ s _ _ rfl hclosed hrun
  cases hrun
  exact ⟨.refl _, hclosed, h⟩

protected theorem fail (fault : Fault) : Builds m Q (Eval.fail fault) := by
  rintro _ s _ _ rfl hclosed hrun
  cases hrun

protected theorem bind {x : Eval α} {f : α → Eval β} (hx : Builds m Q x)
    (hf : ∀ a m', Memory.Grows m m' → Q m' a → Builds m' S (f a)) : Builds m S (x >>= f) := by
  intro context s b t hm hclosed hrun
  change Eval.bind x f context s = (.ok b, t) at hrun
  unfold Eval.bind at hrun
  split at hrun
  · rename_i a between hfirst
    obtain ⟨hgrows, hclosed', ha⟩ := hx context s a between hm hclosed hfirst
    obtain ⟨hgrows', hclosed'', hb⟩ := hf a _ hgrows ha context between b t rfl hclosed' hrun
    exact ⟨hgrows.trans hgrows', hclosed'', hb⟩
  · cases hrun

end Builds

theorem newObject_builds (kind : ObjectKind) {fields : Fields Value} (h : m.HoldsFields fields) :
    Builds m Memory.Holds (newObject kind fields) := by
  rintro _ s _ _ rfl hclosed hrun
  obtain ⟨hgrows, hclosed'⟩ := hclosed.allocate h
  cases hrun
  exact ⟨hgrows, hclosed', .object kind ⟨by simp, rfl⟩⟩

theorem newFunction_builds {function : Function} (h : Function.Alike m.self function function) :
    Builds m Memory.Holds (newFunction function) := by
  rintro _ s _ _ rfl hclosed hrun
  obtain ⟨hgrows, hclosed'⟩ := hclosed.freshMark
  cases hrun
  exact ⟨hgrows, hclosed', .function ⟨le_rfl, rfl⟩ (h.trim hgrows.trims _ _ h)⟩

theorem ofNumber_builds {n : Number} (h : Number.Alike m.self n n) :
    Builds m Memory.Holds (ofNumber n) := by
  unfold ofNumber
  split
  · rintro _ s _ _ rfl hclosed hrun
    obtain ⟨hgrows, hclosed'⟩ := hclosed.freshMark
    cases hrun
    exact ⟨hgrows, hclosed', .number (.nan ⟨le_rfl, rfl⟩)⟩
  · exact .pure (.number h)

mutual

theorem convert_builds : ∀ (inRecord : Bool) (host : Host) (m : Memory), m.HoldsHost host →
    Builds m Memory.Holds (convert inRecord host)
  | _, .null, _, _ => .pure .null
  | _, .bool _, _, _ => .pure (.bool _)
  | _, .number _, _, h => by
    cases h with
    | number h => exact ofNumber_builds h
  | _, .text _, _, _ => .pure (.text _)
  | inRecord, .list items, m, h => by
    cases h with
    | list h => exact (convertAll_builds inRecord items m h).bind fun _ _ _ h => .pure (.array h)
  | inRecord, .tuple items, m, h => by
    cases h with
    | tuple h => exact (convertAll_builds inRecord items m h).bind fun _ _ _ h => .pure (.array h)
  | inRecord, .map entries, m, h => by
    cases h with
    | map h =>
      exact (convertEntries_builds inRecord entries m h).bind fun _ _ _ h =>
        newObject_builds .plain (Fields.ofPairs_rel h)
  | _, .model entries, m, h => by
    cases h with
    | model h =>
      exact (convertEntries_builds false entries m h).bind fun _ _ _ h =>
        newObject_builds .plain (Fields.ofPairs_rel h)
  | _, .record _ fields, m, h => by
    cases h with
    | record _ h =>
      -- Taking the record apart leaves the memory alone.
      unfold convert takeApart
      split
      · exact (convertFields_builds true fields m h).bind fun _ _ _ h =>
          newObject_builds .plain (Fields.ofPairs_rel h)
      · exact .fail _
  | _, .function _, _, h => by
    cases h with
    | function h => exact newFunction_builds (.host h)
  | _, .foreign _, _, _ => .fail _
  | inRecord, .ready _ form, m, h => by
    cases h with
    | ready h hform =>
      cases inRecord with
      | true =>
        have hconvert := convert_builds true form m hform
        exact hconvert
      | false => exact .pure h

theorem convertAll_builds : ∀ (inRecord : Bool) (items : List Host) (m : Memory),
    Forall₂ (Host.Alike m.self) items items →
      Builds m (fun m values => Forall₂ (Value.Alike m.self) values values)
        (convertAll inRecord items)
  | _, [], _, _ => .pure .nil
  | inRecord, item :: rest, m, h => by
    obtain ⟨hitem, hrest⟩ := List.forall₂_cons.mp h
    refine (convert_builds inRecord item m hitem).bind fun _ m' hgrows hvalue => ?_
    have hrest' := Host.Alike.trimAll hgrows.trims rest hrest hrest
    refine (convertAll_builds inRecord rest m' hrest').bind fun _ m'' hgrows' hvalues => ?_
    exact .pure (.cons (hgrows'.holds hvalue) hvalues)

theorem convertEntries_builds : ∀ (inRecord : Bool) (entries : List (Host × Host)) (m : Memory),
    Forall₂ (Paired (Host.Alike m.self) (Host.Alike m.self)) entries entries →
      Builds m Memory.HoldsFields (convertEntries inRecord entries)
  | _, [], _, _ => .pure .nil
  | inRecord, (key, item) :: rest, m, h => by
    obtain ⟨hpair, hrest⟩ := List.forall₂_cons.mp h
    obtain ⟨hkey, hitem⟩ := hpair
    have hfirst := convert_builds inRecord item m hitem
    have hothers (m' : Memory) (hgrows : Memory.Grows m m') :=
      convertEntries_builds inRecord rest m' (Host.Alike.trimEntries hgrows.trims rest hrest hrest)
    cases key
    case text name =>
      refine hfirst.bind fun _ m' hgrows hvalue => ?_
      refine (hothers m' hgrows).bind fun _ m'' hgrows' hfields => ?_
      exact .pure (.cons (.mk name (hgrows'.holds hvalue)) hfields)
    all_goals
      simp only [convertEntries]
      split <;> exact .fail _

theorem convertFields_builds : ∀ (inRecord : Bool) (fields : List (String × Host)) (m : Memory),
    Forall₂ (Keyed (Host.Alike m.self)) fields fields →
      Builds m Memory.HoldsFields (convertFields inRecord fields)
  | _, [], _, _ => .pure .nil
  | inRecord, (key, item) :: rest, m, h => by
    obtain ⟨hpair, hrest⟩ := List.forall₂_cons.mp h
    obtain ⟨_, hitem⟩ := hpair
    refine (convert_builds inRecord item m hitem).bind fun _ m' hgrows hvalue => ?_
    refine (convertFields_builds inRecord rest m'
      (Host.Alike.trimFields hgrows.trims rest hrest hrest)).bind fun _ m'' hgrows' hfields => ?_
    exact .pure (.cons (.mk key (hgrows'.holds hvalue)) hfields)

end

end Eval

end TextTemplate
