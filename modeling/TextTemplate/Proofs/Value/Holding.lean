import TextTemplate.Proofs.Matching.Held

/-!
# What values hold, part by part

Whether a value contains itself, and what it holds, can be told from its parts, whatever the bound
on the depth. What is in a memory stays the same when the memory grows.
-/

namespace TextTemplate

theorem Snapshot.ofValues_eq (object table : ObjectKind → Address → Snapshot)
    (items : List Value) : ofValues object table items = items.map (ofValue object table) := by
  induction items with
  | nil => rfl
  | cons item rest ih => rw [ofValues, ih, List.map_cons]

theorem Value.allPartsOf_iff {object table : Address → Bool} {items : List Value} :
    Value.allPartsOf object table items ↔ ∀ item ∈ items, item.allParts object table := by
  induction items with
  | nil => simp [Value.allPartsOf]
  | cons item rest ih =>
    rw [Value.allPartsOf, Bool.and_eq_true, ih, List.forall_mem_cons]

namespace Memory

variable {m m' : Memory} {items : List Value} {kind : ObjectKind} {a : Address} {value : Value}

theorem ends_array : m.ends (.array items) ↔ ∀ item ∈ items, m.ends item := Value.allPartsOf_iff

theorem snapshot_array (m : Memory) (items : List Value) :
    m.snapshot (.array items) = .array (items.map m.snapshot) :=
  congrArg Snapshot.array (Snapshot.ofValues_eq _ _ items)

theorem objectEnds_succ (h : ∀ field ∈ m.fields a, m.ends field.2) :
    m.objectEnds (m.depth + 1) a := by
  rw [objectEnds]
  exact List.all_eq_true.mpr h

theorem ends_object : m.ends (.object kind a) ↔ ∀ field ∈ m.fields a, m.ends field.2 := by
  constructor
  · intro h field hfield
    have h : m.objectEnds m.depth a := h
    rw [depth, objectEnds] at h
    exact ends_of_allParts (List.all_eq_true.mp h field hfield)
  · intro h
    exact @ends_of_allParts m (m.depth + 1) (.object kind a) (objectEnds_succ h)

theorem snapshot_object (h : m.ends (.object kind a)) :
    m.snapshot (.object kind a) =
      .object kind ((m.fields a).map fun field => (field.1, m.snapshot field.2)) :=
  @snapshot_eq_of_allParts m (m.depth + 1) (.object kind a) (objectEnds_succ (ends_object.mp h))

theorem ends_freshMark (m : Memory) (value : Value) : m.freshMark.2.ends value = m.ends value := by
  have hparts (depth : Nat) : m.freshMark.2.objectEnds depth = m.objectEnds depth ∧
      m.freshMark.2.tableEnds depth = m.tableEnds depth := by
    induction depth with
    | zero => exact ⟨rfl, rfl⟩
    | succ depth ih =>
      constructor <;> funext a
      · rw [objectEnds, objectEnds, ih.1, ih.2]
        rfl
      · rw [tableEnds, tableEnds, ih.1, ih.2]
        rfl
  rw [ends, ends, ← (hparts _).1, ← (hparts _).2]
  rfl

/-- A value whose objects are all in the memory and do not contain themselves. -/
inductive Grounded (m : Memory) : Value → Prop
  | number (n : Number) : Grounded m (.number n)
  | bool (b : Bool) : Grounded m (.bool b)
  | text (s : String) : Grounded m (.text s)
  | null : Grounded m .null
  | undefined : Grounded m .undefined
  | function (mark : Nat) (f : Function) : Grounded m (.function mark f)
  | array {items : List Value} (h : ∀ item ∈ items, Grounded m item) : Grounded m (.array items)
  | object (kind : ObjectKind) {a : Address} (ha : a < m.objects.size)
    (h : ∀ field ∈ m.fields a, Grounded m field.2) : Grounded m (.object kind a)

theorem Grounded.ends (h : m.Grounded value) : m.ends value := by
  induction h with
  | array _ ih => exact ends_array.mpr ih
  | object _ _ _ ih => exact ends_object.mpr ih
  | _ => rfl

theorem Grounded.grows (h : m.Grounded value) (hgrows : Grows m m') : m'.Grounded value := by
  induction h with
  | number n => exact .number n
  | bool b => exact .bool b
  | text s => exact .text s
  | null => exact .null
  | undefined => exact .undefined
  | function mark f => exact .function mark f
  | array _ ih => exact .array ih
  | object kind ha _ ih =>
    refine .object kind (ha.trans_le hgrows.objects) ?_
    rw [hgrows.fields _ ha]
    exact ih

theorem Grounded.snapshot_eq (h : m.Grounded value) (hgrows : Grows m m') :
    m'.snapshot value = m.snapshot value := by
  induction h with
  | @array items _ ih =>
    rw [snapshot_array, snapshot_array, List.map_congr_left ih]
  | @object kind a ha h ih =>
    have hobject : m.Grounded (.object kind a) := .object kind ha h
    rw [snapshot_object (hobject.grows hgrows).ends, snapshot_object hobject.ends,
      hgrows.fields _ ha]
    exact congrArg (Snapshot.object kind)
      (List.map_congr_left fun field hfield => congrArg (Prod.mk field.1) (ih field hfield))
  | _ => rfl

/-- A new object holds what its fields held before. -/
theorem grounded_allocate (kind : ObjectKind) {fields : Fields Value}
    (h : ∀ field ∈ fields, m.Grounded field.2) :
    (m.allocate fields).2.Grounded (.object kind m.objects.size) ∧
      (m.allocate fields).2.snapshot (.object kind m.objects.size) =
        .object kind (fields.map fun field => (field.1, m.snapshot field.2)) := by
  have hgrows := grows_allocate m fields
  have hfields : (m.allocate fields).2.fields m.objects.size = fields := by
    rw [fields_allocate, if_pos rfl]
  have hgrounded : (m.allocate fields).2.Grounded (.object kind m.objects.size) := by
    refine .object kind (by simp [allocate]) ?_
    rw [hfields]
    exact fun field hfield => (h field hfield).grows hgrows
  refine ⟨hgrounded, ?_⟩
  rw [snapshot_object hgrounded.ends, hfields]
  exact congrArg (Snapshot.object kind) (List.map_congr_left fun field hfield =>
    congrArg (Prod.mk field.1) ((h field hfield).snapshot_eq hgrows))

/-! ## Closed memories -/

section Held

variable {object table : Address → Bool}

mutual

theorem grounded_of_allParts
    (ho : ∀ kind a, a < m.objects.size → object a → m.Grounded (.object kind a)) :
    ∀ value : Value, m.Holds value → value.allParts object table → m.Grounded value
  | .array items, h, hparts => by
    cases h with
    | array h => exact .array (grounded_of_allPartsOf ho items h hparts)
  | .object kind a, h, hparts => by
    cases h with
    | object _ h => exact ho kind a h.1 hparts
  | .label _, h, _ => nomatch h
  | .table _ _, h, _ => nomatch h
  | .number n, _, _ => .number n
  | .bool b, _, _ => .bool b
  | .text s, _, _ => .text s
  | .null, _, _ => .null
  | .undefined, _, _ => .undefined
  | .function mark f, _, _ => .function mark f

theorem grounded_of_allPartsOf
    (ho : ∀ kind a, a < m.objects.size → object a → m.Grounded (.object kind a)) :
    ∀ items : List Value, List.Forall₂ (Value.Alike m.self) items items →
      Value.allPartsOf object table items → ∀ item ∈ items, m.Grounded item
  | [], _, _ => nofun
  | item :: rest, h, hparts => by
    obtain ⟨hitem, hrest⟩ := List.forall₂_cons.mp h
    obtain ⟨hpart, hothers⟩ := Bool.and_eq_true_iff.mp hparts
    exact List.forall_mem_cons.mpr
      ⟨grounded_of_allParts ho item hitem hpart, grounded_of_allPartsOf ho rest hrest hothers⟩

end

end Held

/-- By induction on how deep the object is nested. -/
theorem grounded_of_objectEnds (hclosed : m.Closed) (depth : Nat) : ∀ kind a,
    a < m.objects.size → m.objectEnds depth a → m.Grounded (.object kind a) := by
  induction depth with
  | zero => exact fun _ _ _ h => (Bool.false_ne_true h).elim
  | succ depth ih =>
    intro kind a ha h
    refine .object kind ha fun field hfield => ?_
    obtain ⟨_, hholds⟩ := List.forall₂_same.mp (hclosed a) field hfield
    rw [objectEnds] at h
    exact grounded_of_allParts ih _ hholds (List.all_eq_true.mp h _ hfield)

/-- In a closed memory the values are grounded that do not contain themselves. -/
theorem Closed.grounded (hclosed : m.Closed) (hholds : m.Holds value) (hends : m.ends value) :
    m.Grounded value :=
  grounded_of_allParts (grounded_of_objectEnds hclosed m.depth) value hholds hends

end Memory

end TextTemplate
