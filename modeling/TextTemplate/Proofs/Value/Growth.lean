import TextTemplate.Proofs.Matching.Memory
import TextTemplate.Proofs.Value.Fields

/-!
# How objects grow

The memory changes in small steps: an object is put in, with fields of its own or with those of
another object, or one field of an object is set. So no object ever has a key twice, and the keys it
has stay in their places: later ones only come behind them.
-/

namespace TextTemplate

namespace Memory

/-- One change of a memory. An object that is put in has no key twice, or it is a copy. -/
inductive Step (m : Memory) : Memory → Prop
  | allocate {fields : Fields Value} (h : fields.keys.Nodup) : Step m (m.allocate fields).2
  | copy (a : Address) : Step m (m.allocate (m.fields a)).2
  | allocateTable (entries : Table Value) : Step m (m.allocateTable entries).2
  | setField (a : Address) (key : String) (value : Value) : Step m (m.setField a key value)
  | setEntry (a : Address) (label : Label) (value : Value) : Step m (m.setEntry a label value)
  | freshMark : Step m m.freshMark.2

/-- Any number of changes. -/
abbrev Steps : Memory → Memory → Prop := Relation.ReflTransGen Step

/-- No object has a key twice. -/
def Distinct (m : Memory) : Prop := ∀ a, (m.fields a).keys.Nodup

/-- Every object is still there, with the keys it had in their places and any new ones behind. -/
structure KeepsKeys (m m' : Memory) : Prop where
  objects : m.objects.size ≤ m'.objects.size
  keys : ∀ a < m.objects.size, (m.fields a).keys <+: (m'.fields a).keys

variable {m m' m'' : Memory}

namespace KeepsKeys

protected theorem refl (m : Memory) : KeepsKeys m m := ⟨le_rfl, fun _ _ => List.prefix_rfl⟩

theorem trans (h : KeepsKeys m m') (h' : KeepsKeys m' m'') : KeepsKeys m m'' :=
  ⟨h.objects.trans h'.objects, fun a ha => (h.keys a ha).trans (h'.keys a (ha.trans_le h.objects))⟩

theorem allocate (m : Memory) (fields : Fields Value) : KeepsKeys m (m.allocate fields).2 := by
  refine ⟨by simp [Memory.allocate], fun a ha => ?_⟩
  rw [fields_allocate, if_neg ha.ne]

theorem setField (m : Memory) (a : Address) (key : String) (value : Value) :
    KeepsKeys m (m.setField a key value) := by
  refine ⟨by simp [Memory.setField], fun b _ => ?_⟩
  rw [fields_setField]
  split
  · exact Fields.keys_prefix_put _ _ _
  · exact List.prefix_rfl

end KeepsKeys

theorem Distinct.allocate (hdistinct : m.Distinct) {fields : Fields Value}
    (h : fields.keys.Nodup) : (m.allocate fields).2.Distinct := by
  intro a
  rw [fields_allocate]
  split
  · exact h
  · exact hdistinct a

theorem Distinct.step (hdistinct : m.Distinct) (h : m.Step m') : m'.Distinct := by
  cases h with
  | allocate h => exact hdistinct.allocate h
  | copy a => exact hdistinct.allocate (hdistinct a)
  | allocateTable | setEntry | freshMark => exact hdistinct
  | setField a key value =>
    intro b
    rw [fields_setField]
    split
    · exact Fields.nodup_keys_put (hdistinct b)
    · exact hdistinct b

theorem Step.keepsKeys (h : m.Step m') : m.KeepsKeys m' := by
  cases h with
  | allocate | copy => exact .allocate m _
  | allocateTable | setEntry | freshMark => exact ⟨le_rfl, fun _ _ => List.prefix_rfl⟩
  | setField a key value => exact .setField m a key value

theorem Steps.distinct (h : Steps m m') (hdistinct : m.Distinct) : m'.Distinct := by
  induction h with
  | refl => exact hdistinct
  | tail _ hstep ih => exact ih.step hstep

theorem Steps.keepsKeys (h : Steps m m') : m.KeepsKeys m' := by
  induction h with
  | refl => exact .refl m
  | tail _ hstep ih => exact ih.trans hstep.keepsKeys

theorem distinct_empty : Distinct .empty := fun _ => List.nodup_nil

end Memory

end TextTemplate
