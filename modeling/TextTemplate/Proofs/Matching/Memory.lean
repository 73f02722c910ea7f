import TextTemplate.Proofs.Matching.Value
import TextTemplate.Proofs.Value.Nesting

/-!
# Memories that stand for one another in two runs

Two memories are alike if objects that belong together hold what is alike, and if what is put in
next will belong together. Each may hold any number of other objects.
-/

namespace TextTemplate

open List (Forall₂)

structure Memory.Alike (w : Matching) (m m' : Memory) : Prop where
  fields : ∀ {a b : Address}, w.objects a b →
    Forall₂ (Keyed (Value.Alike w)) (m.fields a) (m'.fields b)
  objects : ∀ n, w.objects (m.objects.size + n) (m'.objects.size + n)
  marks : ∀ n, w.marks (m.marks + 1 + n) (m'.marks + 1 + n)

namespace Memory

variable {w : Matching} {m m' : Memory} {a b : Address}

/-! ## Changes -/

theorem getD_modify {α : Type} (items : Array α) (default : α) (change : α → α) (a b : Address) :
    (items.modify a change).getD b default =
      if a = b ∧ b < items.size then change (items.getD b default) else items.getD b default := by
  simp only [Array.getD_eq_getD_getElem?, Array.getElem?_modify]
  by_cases hab : a = b
  · subst hab
    by_cases hlt : a < items.size
    · simp [hlt]
    · simp [hlt]
  · simp [hab]

theorem fields_allocate (m : Memory) (fields : Fields Value) (a : Address) :
    (m.allocate fields).2.fields a = if a = m.objects.size then fields else m.fields a := by
  simp only [allocate, Memory.fields, Array.getD_eq_getD_getElem?, Array.getElem?_push]
  split <;> rfl

theorem fields_setField (m : Memory) (a : Address) (key : String) (value : Value) (b : Address) :
    (m.setField a key value).fields b =
      if a = b ∧ b < m.objects.size then (m.fields b).put key value else m.fields b :=
  getD_modify m.objects [] (·.put key value) a b

theorem entries_allocateTable (m : Memory) (entries : Table Value) (a : Address) :
    (m.allocateTable entries).2.entries a = if a = m.tables.size then entries else m.entries a := by
  simp only [allocateTable, Memory.entries, Array.getD_eq_getD_getElem?, Array.getElem?_push]
  split <;> rfl

theorem entries_setEntry (m : Memory) (a : Address) (label : Label) (value : Value) (b : Address) :
    (m.setEntry a label value).entries b =
      if a = b ∧ b < m.tables.size then (m.entries b).put label value else m.entries b :=
  getD_modify m.tables [] (·.put label value) a b

namespace Alike

/-- What belongs together is there in both memories or in neither. -/
theorem lt_iff (h : Memory.Alike w m m') (hab : w.objects a b) :
    a < m.objects.size ↔ b < m'.objects.size := by
  constructor
  · intro hlt
    by_contra hge
    have heq : a = m.objects.size + (b - m'.objects.size) :=
      (w.objects_iff hab (h.objects _)).mpr (Nat.add_sub_of_le (Nat.le_of_not_lt hge)).symm
    exact absurd hlt (heq ▸ Nat.not_lt.mpr (Nat.le_add_right _ _))
  · intro hlt
    by_contra hge
    have heq : b = m'.objects.size + (a - m.objects.size) :=
      (w.objects_iff hab (h.objects _)).mp (Nat.add_sub_of_le (Nat.le_of_not_lt hge)).symm
    exact absurd hlt (heq ▸ Nat.not_lt.mpr (Nat.le_add_right _ _))

theorem allocate (h : Memory.Alike w m m') {fields fields' : Fields Value}
    (hfields : Forall₂ (Keyed (Value.Alike w)) fields fields') :
    w.objects (m.allocate fields).1 (m'.allocate fields').1 ∧
      Memory.Alike w (m.allocate fields).2 (m'.allocate fields').2 := by
  have hnew : w.objects m.objects.size m'.objects.size := h.objects 0
  refine ⟨hnew, fun {a b} hab => ?_, fun n => ?_, h.marks⟩
  · rw [fields_allocate, fields_allocate]
    by_cases ha : a = m.objects.size
    · rw [if_pos ha, if_pos ((w.objects_iff hab hnew).mp ha)]
      exact hfields
    · rw [if_neg ha, if_neg fun hb => ha ((w.objects_iff hab hnew).mpr hb)]
      exact h.fields hab
  · have hnext := h.objects (1 + n)
    simpa [Memory.allocate, Nat.add_assoc] using hnext

theorem setField (h : Memory.Alike w m m') (hab : w.objects a b) (key : String)
    {value value' : Value} (hvalue : Value.Alike w value value') :
    Memory.Alike w (m.setField a key value) (m'.setField b key value') := by
  refine ⟨fun {a' b'} hab' => ?_, fun n => ?_, h.marks⟩
  · rw [fields_setField, fields_setField]
    have hiff : (a = a' ∧ a' < m.objects.size) ↔ (b = b' ∧ b' < m'.objects.size) :=
      and_congr (w.objects_iff hab hab') (h.lt_iff hab')
    by_cases hset : a = a' ∧ a' < m.objects.size
    · rw [if_pos hset, if_pos (hiff.mp hset)]
      exact Fields.put_rel (h.fields hab') key hvalue
    · rw [if_neg hset, if_neg fun hset' => hset (hiff.mpr hset')]
      exact h.fields hab'
  · simpa [Memory.setField] using h.objects n

theorem freshMark (h : Memory.Alike w m m') :
    w.marks m.freshMark.1 m'.freshMark.1 ∧ Memory.Alike w m.freshMark.2 m'.freshMark.2 := by
  refine ⟨h.marks 0, h.fields, h.objects, fun n => ?_⟩
  have hnext := h.marks (1 + n)
  rwa [← Nat.add_assoc, ← Nat.add_assoc] at hnext

end Alike

/-! ## What values hold -/

section Depth

variable {object object' table table' : Address → Bool}

mutual

theorem allParts_eq (ho : ∀ a b, w.objects a b → object a = object' b) :
    ∀ value value' : Value, Value.Alike w value value' →
      value.allParts object table = value'.allParts object' table'
  | .array items, _, h => by
    cases h with
    | array h => exact allPartsOf_eq ho items _ h
  | .object _ _, _, h => by
    cases h with
    | object _ h => exact ho _ _ h
  | .number _, _, h => by cases h; rfl
  | .bool _, _, h => by cases h; rfl
  | .text _, _, h => by cases h; rfl
  | .null, _, h => by cases h; rfl
  | .undefined, _, h => by cases h; rfl
  | .function _ _, _, h => by cases h; rfl

theorem allPartsOf_eq (ho : ∀ a b, w.objects a b → object a = object' b) :
    ∀ items items' : List Value, Forall₂ (Value.Alike w) items items' →
      Value.allPartsOf object table items = Value.allPartsOf object' table' items'
  | [], _, h => by cases h; rfl
  | value :: rest, _, h => by
    cases h with
    | cons hvalue hrest =>
      simp only [Value.allPartsOf, allParts_eq ho value _ hvalue, allPartsOf_eq ho rest _ hrest]

end

variable {f f' g g' : ObjectKind → Address → Snapshot}

mutual

theorem ofValue_alike (hf : ∀ kind a b, w.objects a b → Snapshot.Alike w (f kind a) (f' kind b)) :
    ∀ value value' : Value, Value.Alike w value value' →
      Snapshot.Alike w (Snapshot.ofValue f g value) (Snapshot.ofValue f' g' value')
  | .array items, _, h => by
    cases h with
    | array h => exact .array (ofValues_alike hf items _ h)
  | .object kind _, _, h => by
    cases h with
    | object _ h => exact hf kind _ _ h
  | .number _, _, h => by
    cases h with
    | number h => exact .number h
  | .bool _, _, h => by cases h; exact .bool _
  | .text _, _, h => by cases h; exact .text _
  | .null, _, h => by cases h; exact .null
  | .undefined, _, h => by cases h; exact .undefined
  | .function _ _, _, h => by
    cases h with
    | function hmark h => exact .function hmark h

theorem ofValues_alike (hf : ∀ kind a b, w.objects a b → Snapshot.Alike w (f kind a) (f' kind b)) :
    ∀ items items' : List Value, Forall₂ (Value.Alike w) items items' →
      Forall₂ (Snapshot.Alike w) (Snapshot.ofValues f g items) (Snapshot.ofValues f' g' items')
  | [], _, h => by cases h; exact .nil
  | value :: rest, _, h => by
    cases h with
    | cons hvalue hrest =>
      exact .cons (ofValue_alike hf value _ hvalue) (ofValues_alike hf rest _ hrest)

end

end Depth

theorem objectEnds_eq (h : Memory.Alike w m m') (depth : Nat) :
    ∀ a b, w.objects a b → m.objectEnds depth a = m'.objectEnds depth b := by
  induction depth with
  | zero => exact fun _ _ _ => rfl
  | succ depth ih =>
    intro a b hab
    have hfields := h.fields hab
    unfold objectEnds
    generalize m.fields a = fields at hfields
    generalize m'.fields b = fields' at hfields
    induction hfields with
    | nil => rfl
    | cons hpair _ ihrest =>
      obtain ⟨key, hvalue⟩ := hpair
      exact congrArg₂ (· && ·) (allParts_eq ih _ _ hvalue) ihrest

theorem snapshotOfObject_alike (h : Memory.Alike w m m') (depth : Nat) :
    ∀ kind a b, w.objects a b →
      Snapshot.Alike w (m.snapshotOfObject depth kind a) (m'.snapshotOfObject depth kind b) := by
  induction depth with
  | zero => exact fun kind _ _ _ => .object kind .nil
  | succ depth ih =>
    intro kind a b hab
    have hfields := h.fields hab
    unfold snapshotOfObject
    refine .object kind ?_
    generalize m.fields a = fields at hfields
    generalize m'.fields b = fields' at hfields
    induction hfields with
    | nil => exact .nil
    | cons hpair _ ihrest =>
      obtain ⟨key, hvalue⟩ := hpair
      exact .cons (.mk key (ofValue_alike ih _ _ hvalue)) ihrest

/-- A value contains itself in both memories or in neither. -/
theorem Alike.ends_eq (h : Memory.Alike w m m') {value value' : Value}
    (hvalue : Value.Alike w value value') : m.ends value = m'.ends value' := by
  have hat (depth : Nat) :
      value.allParts (m.objectEnds depth) (m.tableEnds depth) =
        value'.allParts (m'.objectEnds depth) (m'.tableEnds depth) :=
    allParts_eq (objectEnds_eq h depth) _ _ hvalue
  refine Bool.eq_iff_iff.mpr ⟨fun hends => ?_, fun hends => ?_⟩
  · exact ends_of_allParts ((hat _).symm.trans hends)
  · exact ends_of_allParts ((hat _).trans hends)

/-- What a value holds is alike in both memories, whatever else they hold. -/
theorem Alike.snapshot (h : Memory.Alike w m m') {value value' : Value}
    (hvalue : Value.Alike w value value') (hends : m.ends value) :
    Snapshot.Alike w (m.snapshot value) (m'.snapshot value') := by
  have hends' : value'.allParts (m'.objectEnds m.depth) (m'.tableEnds m.depth) :=
    (allParts_eq (objectEnds_eq h m.depth) _ _ hvalue).symm.trans hends
  rw [snapshot_eq_of_allParts hends']
  exact ofValue_alike (snapshotOfObject_alike h m.depth) _ _ hvalue

end Memory

end TextTemplate
