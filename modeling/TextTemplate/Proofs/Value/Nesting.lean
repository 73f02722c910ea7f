import Mathlib.Data.Finset.Card
import Mathlib.Data.Finset.Range
import Mathlib.Order.Monotone.Basic
import TextTemplate.Value.Snapshot

/-!
# How deep objects are nested

Objects that do not contain themselves are nested no deeper than there are objects. So how deep one
looks into a value makes no difference, as long as one looks at all of it.
-/

namespace TextTemplate

/-! ## Parts of values -/

section Parts

variable {object table object' table' : Address → Bool}

mutual

theorem Value.allParts_mono (ho : ∀ a, object a → object' a) (ht : ∀ a, table a → table' a) :
    ∀ value : Value, value.allParts object table → value.allParts object' table'
  | .array items, h => Value.allPartsOf_mono ho ht items h
  | .object _ address, h => ho address h
  | .table _ address, h => ht address h
  | .number _, _ => rfl
  | .bool _, _ => rfl
  | .text _, _ => rfl
  | .label _, _ => rfl
  | .null, _ => rfl
  | .undefined, _ => rfl
  | .function _ _, _ => rfl

theorem Value.allPartsOf_mono (ho : ∀ a, object a → object' a) (ht : ∀ a, table a → table' a) :
    ∀ items : List Value, Value.allPartsOf object table items →
      Value.allPartsOf object' table' items
  | [], _ => rfl
  | value :: rest, h => by
    simp only [Value.allPartsOf, Bool.and_eq_true] at h ⊢
    exact ⟨Value.allParts_mono ho ht value h.1, Value.allPartsOf_mono ho ht rest h.2⟩

end

variable {f g f' g' : ObjectKind → Address → Snapshot}

mutual

/-- What a value holds depends on what its own parts hold. -/
theorem Snapshot.ofValue_congr (hf : ∀ kind a, object a → f kind a = f' kind a)
    (hg : ∀ kind a, table a → g kind a = g' kind a) :
    ∀ value : Value, value.allParts object table → ofValue f g value = ofValue f' g' value
  | .array items, h => congrArg Snapshot.array (Snapshot.ofValues_congr hf hg items h)
  | .object kind address, h => hf kind address h
  | .table kind address, h => hg kind address h
  | .number _, _ => rfl
  | .bool _, _ => rfl
  | .text _, _ => rfl
  | .label _, _ => rfl
  | .null, _ => rfl
  | .undefined, _ => rfl
  | .function _ _, _ => rfl

theorem Snapshot.ofValues_congr (hf : ∀ kind a, object a → f kind a = f' kind a)
    (hg : ∀ kind a, table a → g kind a = g' kind a) :
    ∀ items : List Value, Value.allPartsOf object table items →
      ofValues f g items = ofValues f' g' items
  | [], _ => rfl
  | value :: rest, h => by
    simp only [Value.allPartsOf, Bool.and_eq_true] at h
    simp only [ofValues, Snapshot.ofValue_congr hf hg value h.1,
      Snapshot.ofValues_congr hf hg rest h.2]

end

end Parts

namespace Memory

variable {memory : Memory} {depth : Nat} {address : Address}

/-! ## More depth -/

theorem ends_succ (depth : Nat) :
    (∀ address, memory.objectEnds depth address → memory.objectEnds (depth + 1) address) ∧
      ∀ address, memory.tableEnds depth address → memory.tableEnds (depth + 1) address := by
  induction depth with
  | zero => exact ⟨fun _ h => (Bool.false_ne_true h).elim, fun _ h => (Bool.false_ne_true h).elim⟩
  | succ depth ih =>
    refine ⟨fun address h => ?_, fun address h => ?_⟩
    · unfold objectEnds at h ⊢
      simp only [List.all_eq_true] at h ⊢
      exact fun pair hpair => Value.allParts_mono ih.1 ih.2 _ (h pair hpair)
    · unfold tableEnds at h ⊢
      simp only [List.all_eq_true] at h ⊢
      exact fun pair hpair => Value.allParts_mono ih.1 ih.2 _ (h pair hpair)

theorem objectEnds_mono : Monotone fun depth => memory.objectEnds depth address :=
  monotone_nat_of_le_succ fun depth => Bool.le_iff_imp.mpr ((ends_succ depth).1 address)

theorem tableEnds_mono : Monotone fun depth => memory.tableEnds depth address :=
  monotone_nat_of_le_succ fun depth => Bool.le_iff_imp.mpr ((ends_succ depth).2 address)

/-- One more level adds nothing to what an object holds, if all of it was there. -/
theorem snapshot_succ (depth : Nat) :
    (∀ kind address, memory.objectEnds depth address →
      memory.snapshotOfObject (depth + 1) kind address =
        memory.snapshotOfObject depth kind address) ∧
    ∀ kind address, memory.tableEnds depth address →
      memory.snapshotOfTable (depth + 1) kind address =
        memory.snapshotOfTable depth kind address := by
  induction depth with
  | zero =>
    exact ⟨fun _ _ h => (Bool.false_ne_true h).elim, fun _ _ h => (Bool.false_ne_true h).elim⟩
  | succ depth ih =>
    refine ⟨fun kind address h => ?_, fun kind address h => ?_⟩
    · unfold objectEnds at h
      rw [snapshotOfObject, snapshotOfObject]
      refine congrArg (Snapshot.object kind) (List.map_congr_left fun pair hpair => ?_)
      exact congrArg (Prod.mk pair.1)
        (Snapshot.ofValue_congr ih.1 ih.2 pair.2 (List.all_eq_true.mp h pair hpair))
    · unfold tableEnds at h
      rw [snapshotOfTable, snapshotOfTable]
      refine congrArg (Snapshot.table kind) (List.map_congr_left fun pair hpair => ?_)
      exact congrArg (Prod.mk pair.1)
        (Snapshot.ofValue_congr ih.1 ih.2 pair.2 (List.all_eq_true.mp h pair hpair))

theorem snapshot_of_le (memory : Memory) {depth depth' : Nat} (hle : depth ≤ depth') :
    (∀ kind address, memory.objectEnds depth address →
      memory.snapshotOfObject depth' kind address = memory.snapshotOfObject depth kind address) ∧
    ∀ kind address, memory.tableEnds depth address →
      memory.snapshotOfTable depth' kind address = memory.snapshotOfTable depth kind address := by
  induction depth', hle using Nat.le_induction with
  | base => exact ⟨fun _ _ _ => rfl, fun _ _ _ => rfl⟩
  | succ depth' hle ih =>
    refine ⟨fun kind address h => ?_, fun kind address h => ?_⟩
    · exact ((snapshot_succ depth').1 kind address (objectEnds_mono hle h)).trans
        (ih.1 kind address h)
    · exact ((snapshot_succ depth').2 kind address (tableEnds_mono hle h)).trans
        (ih.2 kind address h)

/-! ## Enough depth -/

/-- How many objects and tables are nested no deeper than `depth`. -/
def settled (memory : Memory) (depth : Nat) : Nat :=
  ((Finset.range memory.objects.size).filter (memory.objectEnds (depth + 1) ·)).card +
    ((Finset.range memory.tables.size).filter (memory.tableEnds (depth + 1) ·)).card

theorem settled_le (depth : Nat) :
    memory.settled depth ≤ memory.objects.size + memory.tables.size := by
  refine Nat.add_le_add ?_ ?_
  · exact (Finset.card_filter_le _ _).trans_eq (Finset.card_range _)
  · exact (Finset.card_filter_le _ _).trans_eq (Finset.card_range _)

theorem settledObjects_subset (memory : Memory) {depth depth' : Nat} (hle : depth ≤ depth')
    (size : Nat) :
    (Finset.range size).filter (memory.objectEnds depth ·) ⊆
      (Finset.range size).filter (memory.objectEnds depth' ·) :=
  Finset.monotone_filter_right _ fun _ _ h => objectEnds_mono hle h

theorem settledTables_subset (memory : Memory) {depth depth' : Nat} (hle : depth ≤ depth')
    (size : Nat) :
    (Finset.range size).filter (memory.tableEnds depth ·) ⊆
      (Finset.range size).filter (memory.tableEnds depth' ·) :=
  Finset.monotone_filter_right _ fun _ _ h => tableEnds_mono hle h

theorem settled_mono : Monotone memory.settled := fun _ _ hle =>
  Nat.add_le_add (Finset.card_le_card (settledObjects_subset _ (Nat.succ_le_succ hle) _))
    (Finset.card_le_card (settledTables_subset _ (Nat.succ_le_succ hle) _))

/-- Where there is no object, nothing is nested. -/
theorem objectEnds_of_size_le (h : memory.objects.size ≤ address) :
    memory.objectEnds (depth + 1) address := by
  simp [objectEnds, fields, Array.getD_eq_getD_getElem?, Array.getElem?_eq_none h]

theorem tableEnds_of_size_le (h : memory.tables.size ≤ address) :
    memory.tableEnds (depth + 1) address := by
  simp [tableEnds, entries, Array.getD_eq_getD_getElem?, Array.getElem?_eq_none h]

/-- Where as many objects are settled, the same ones are. -/
theorem ends_eq_of_settled_eq {depth depth' : Nat} (hle : depth ≤ depth')
    (h : memory.settled depth = memory.settled depth') :
    memory.objectEnds (depth + 1) = memory.objectEnds (depth' + 1) ∧
      memory.tableEnds (depth + 1) = memory.tableEnds (depth' + 1) := by
  have hnext := Nat.add_le_add_right hle 1
  have hobjects := settledObjects_subset memory hnext memory.objects.size
  have htables := settledTables_subset memory hnext memory.tables.size
  have hcard := Finset.card_le_card hobjects
  have hcard' := Finset.card_le_card htables
  simp only [settled] at h
  have heq := Finset.eq_of_subset_of_card_le hobjects (by omega)
  have heq' := Finset.eq_of_subset_of_card_le htables (by omega)
  refine ⟨funext fun address => ?_, funext fun address => ?_⟩
  · by_cases hsize : address < memory.objects.size
    · have hmem := Finset.ext_iff.mp heq address
      simpa [hsize] using hmem
    · rw [objectEnds_of_size_le (Nat.le_of_not_lt hsize),
        objectEnds_of_size_le (Nat.le_of_not_lt hsize)]
  · by_cases hsize : address < memory.tables.size
    · have hmem := Finset.ext_iff.mp heq' address
      simpa [hsize] using hmem
    · rw [tableEnds_of_size_le (Nat.le_of_not_lt hsize),
        tableEnds_of_size_le (Nat.le_of_not_lt hsize)]

/-- If one more level settles nothing, no further level does. -/
theorem settled_stable (depth : Nat) (h : memory.settled depth = memory.settled (depth + 1)) :
    memory.settled (depth + 1) = memory.settled (depth + 2) := by
  obtain ⟨hobjects, htables⟩ := ends_eq_of_settled_eq (Nat.le_succ depth) h
  have hobjects' : memory.objectEnds (depth + 2) = memory.objectEnds (depth + 3) := by
    funext address
    unfold objectEnds
    rw [hobjects, htables]
  have htables' : memory.tableEnds (depth + 2) = memory.tableEnds (depth + 3) := by
    funext address
    unfold tableEnds
    rw [hobjects, htables]
  simp only [settled, hobjects', htables']

/-- What is nested to any depth is nested no deeper than there are objects. -/
theorem ends_depth (depth : Nat) :
    (∀ address, memory.objectEnds depth address → memory.objectEnds memory.depth address) ∧
      ∀ address, memory.tableEnds depth address → memory.tableEnds memory.depth address := by
  rcases Nat.le_total depth memory.depth with hle | hle
  · exact ⟨fun _ h => objectEnds_mono hle h, fun _ h => tableEnds_mono hle h⟩
  · obtain ⟨rounds, rfl⟩ : ∃ rounds, depth = rounds + 1 :=
      ⟨depth - 1, by simp only [Memory.depth] at hle; omega⟩
    have hrounds : memory.objects.size + memory.tables.size ≤ rounds := Nat.le_of_succ_le_succ hle
    have hstable := Nat.stabilises_of_monotone settled_mono settled_le settled_stable hrounds
    obtain ⟨hobjects, htables⟩ := ends_eq_of_settled_eq hrounds hstable.symm
    refine ⟨fun address h => ?_, fun address h => ?_⟩
    · exact (congrFun hobjects address).trans h
    · exact (congrFun htables address).trans h

/-- A value that is nested to any depth does not contain itself. -/
theorem ends_of_allParts {value : Value}
    (h : value.allParts (memory.objectEnds depth) (memory.tableEnds depth)) :
    memory.ends value :=
  Value.allParts_mono (ends_depth depth).1 (ends_depth depth).2 value h

/-- What a value holds can be seen at any depth that it is nested to. -/
theorem snapshot_eq_of_allParts {value : Value}
    (h : value.allParts (memory.objectEnds depth) (memory.tableEnds depth)) :
    memory.snapshot value =
      Snapshot.ofValue (memory.snapshotOfObject depth) (memory.snapshotOfTable depth) value := by
  have hends := ends_of_allParts h
  have hdeep := snapshot_of_le memory (Nat.le_max_left depth memory.depth)
  have hfull := snapshot_of_le memory (Nat.le_max_right depth memory.depth)
  calc
    memory.snapshot value = Snapshot.ofValue
        (memory.snapshotOfObject (max depth memory.depth))
        (memory.snapshotOfTable (max depth memory.depth)) value :=
      (Snapshot.ofValue_congr hfull.1 hfull.2 value hends).symm
    _ = _ := Snapshot.ofValue_congr hdeep.1 hdeep.2 value h

end Memory

end TextTemplate
