import TextTemplate.Proofs.Value.Fields
import TextTemplate.Proofs.Value.Holding

/-!
# Equality of values

Two values are the same if they are of one kind and hold the same, part by part; an object holds the
same as another if both have the same keys with the same values, in whatever order. The comparison
of what two values hold decides this for all values that are built from texts, truth values, whole
numbers, nothing, arrays and objects.
-/

namespace TextTemplate

theorem Number.sameValue_int (i j : Int) : (int i).sameValue (int j) = (i == j) := by
  have hcompare : compare i j = .eq ↔ i = j := compare_eq_iff_eq
  rw [sameValue, compare?, Bool.eq_iff_iff]
  simp [hcompare]

namespace Memory

variable {m : Memory} {v w x : Value} {kind : ObjectKind} {a b : Address}

/-- A value that is built from texts, truth values, whole numbers and what is absent by arrays and
objects, to any depth. No object has a key twice. -/
inductive IsData (m : Memory) : Value → Prop
  | text (s : String) : IsData m (.text s)
  | bool (b : Bool) : IsData m (.bool b)
  | int (i : Int) : IsData m (.number (.int i))
  | null : IsData m .null
  | undefined : IsData m .undefined
  | array {items : List Value} (h : ∀ item ∈ items, IsData m item) : IsData m (.array items)
  | object (kind : ObjectKind) {a : Address} (hkeys : (m.fields a).keys.Nodup)
    (h : ∀ field ∈ m.fields a, IsData m field.2) : IsData m (.object kind a)

theorem IsData.ends (h : m.IsData v) : m.ends v := by
  induction h with
  | array _ ih => exact ends_array.mpr ih
  | object _ _ _ ih => exact ends_object.mpr ih
  | _ => rfl

theorem IsData.items {items : List Value} (h : m.IsData (.array items)) :
    ∀ item ∈ items, m.IsData item := by
  cases h with
  | array h => exact h

/-- Values of one kind that hold the same. The order of fields makes no difference. -/
inductive Same (m : Memory) : Value → Value → Prop
  | text (s : String) : Same m (.text s) (.text s)
  | bool (b : Bool) : Same m (.bool b) (.bool b)
  | int (i : Int) : Same m (.number (.int i)) (.number (.int i))
  | null : Same m .null .null
  | undefined : Same m .undefined .undefined
  | array {items others : List Value} (hlength : items.length = others.length)
    (h : ∀ (i : Nat) v w, items[i]? = some v → others[i]? = some w → Same m v w) :
    Same m (.array items) (.array others)
  | object (kind : ObjectKind) {a b : Address}
    (hkeys : ∀ key, key ∈ (m.fields a).keys ↔ key ∈ (m.fields b).keys)
    (h : ∀ key v w, (m.fields a).get? key = some v → (m.fields b).get? key = some w → Same m v w) :
    Same m (.object kind a) (.object kind b)

/-! ## An equivalence -/

theorem IsData.same_self (h : m.IsData v) : m.Same v v := by
  induction h with
  | text s => exact .text s
  | bool b => exact .bool b
  | int i => exact .int i
  | null => exact .null
  | undefined => exact .undefined
  | array _ ih =>
    refine .array rfl fun i v w hv hw => ?_
    obtain rfl := Option.some.inj (hv.symm.trans hw)
    exact ih v (List.mem_of_getElem? hv)
  | object kind hkeys _ ih =>
    refine .object kind (fun _ => Iff.rfl) fun key v w hv hw => ?_
    obtain rfl := Option.some.inj (hv.symm.trans hw)
    exact ih (key, v) ((Fields.mem_iff_get? hkeys).mpr hv)

theorem Same.symm (h : m.Same v w) : m.Same w v := by
  induction h with
  | text s => exact .text s
  | bool b => exact .bool b
  | int i => exact .int i
  | null => exact .null
  | undefined => exact .undefined
  | array hlength _ ih => exact .array hlength.symm fun i v w hv hw => ih i w v hw hv
  | object kind hkeys _ ih =>
    exact .object kind (fun key => (hkeys key).symm) fun key v w hv hw => ih key w v hw hv

theorem Same.trans (hvw : m.Same v w) (hwx : m.Same w x) : m.Same v x := by
  induction hvw generalizing x with
  | array hlength _ ih =>
    cases hwx with
    | array hlength' h' =>
      refine .array (hlength.trans hlength') fun i v x hv hx => ?_
      have hi := (List.getElem?_eq_some_iff.mp hv).1
      have hw := List.getElem?_eq_getElem (hlength ▸ hi)
      exact ih i v _ hv hw (h' i _ x hw hx)
  | object kind hkeys _ ih =>
    cases hwx with
    | object _ hkeys' h' =>
      refine .object kind (fun key => (hkeys key).trans (hkeys' key)) fun key v x hv hx => ?_
      obtain ⟨w, hw⟩ := Fields.mem_keys_iff.mp ((hkeys key).mp (Fields.mem_keys_iff.mpr ⟨v, hv⟩))
      exact ih key v w hv hw (h' key w x hw hx)
  | _ => exact hwx

theorem IsData.of_perm (h : m.IsData (.object kind a)) (hperm : (m.fields a).Perm (m.fields b)) :
    m.IsData (.object kind b) := by
  cases h with
  | object _ hkeys h =>
    have hkeysPerm : (m.fields a).keys.Perm (m.fields b).keys := hperm.map _
    exact .object kind (hkeysPerm.nodup_iff.mp hkeys) fun field hfield =>
      h field (hperm.mem_iff.mpr hfield)

/-- Objects with the same fields in another order are the same. -/
theorem IsData.same_of_perm (h : m.IsData (.object kind a)) (hperm : (m.fields a).Perm (m.fields b)) :
    m.Same (.object kind a) (.object kind b) := by
  cases h with
  | object _ hkeys h =>
    have hkeysPerm : (m.fields a).keys.Perm (m.fields b).keys := hperm.map _
    refine .object kind (fun key => hkeysPerm.mem_iff) fun key v w hv hw => ?_
    have hmem := (Fields.mem_iff_get? hkeys).mpr hv
    have hmem' := (Fields.mem_iff_get? (hkeysPerm.nodup_iff.mp hkeys)).mp (hperm.mem_iff.mp hmem)
    obtain rfl := Option.some.inj (hmem'.symm.trans hw)
    exact (h _ hmem).same_self

/-! ## Deciding it -/

theorem forall₂_iff_getElem? {α β : Type} {R : α → β → Prop} {as : List α} {bs : List β} :
    List.Forall₂ R as bs ↔
      as.length = bs.length ∧ ∀ (i : Nat) a b, as[i]? = some a → bs[i]? = some b → R a b := by
  rw [List.forall₂_iff_get]
  refine and_congr_right fun _ => ⟨fun h i a b ha hb => ?_, fun h i hi hi' => ?_⟩
  · obtain ⟨hi, rfl⟩ := List.getElem?_eq_some_iff.mp ha
    obtain ⟨hi', rfl⟩ := List.getElem?_eq_some_iff.mp hb
    exact h i hi hi'
  · exact h i _ _ (List.getElem?_eq_getElem hi) (List.getElem?_eq_getElem hi')

theorem equalItems_iff {items others : List Snapshot} :
    Snapshot.equalItems items others ↔ List.Forall₂ (fun a b => a.equal b) items others := by
  induction items generalizing others with
  | nil => cases others <;> simp [Snapshot.equalItems]
  | cons a as ih => cases others <;> simp [Snapshot.equalItems, ih]

theorem equalFields_iff {fields others : List (String × Snapshot)} :
    Snapshot.equalFields fields others ↔
      ∀ field ∈ fields, ∃ other, others.lookup field.1 = some other ∧ field.2.equal other := by
  induction fields with
  | nil => simp [Snapshot.equalFields]
  | cons field rest ih =>
    rw [Snapshot.equalFields, Bool.and_eq_true, ih, List.forall_mem_cons]
    refine and_congr_left fun _ => ?_
    cases others.lookup field.1 <;> simp

theorem kindName_of_equal (h : (m.snapshot v).equal (m.snapshot w)) : v.kindName = w.kindName := by
  simp only [snapshot, depth] at h
  cases v <;> cases w <;>
    simp [Snapshot.ofValue, snapshotOfObject, snapshotOfTable, Snapshot.equal] at h
  case object.object kind a kind' b =>
    obtain ⟨⟨rfl, -⟩, -⟩ := h
    cases kind <;> rfl
  case table.table kind a kind' b =>
    obtain ⟨⟨rfl, -⟩, -⟩ := h
    cases kind <;> rfl
  all_goals rfl

theorem Same.kindName (h : m.Same v w) : v.kindName = w.kindName := by
  cases h with
  | object kind => cases kind <;> rfl
  | _ => rfl

theorem equal_array_iff {items others : List Value} :
    (m.snapshot (.array items)).equal (m.snapshot (.array others)) ↔
      List.Forall₂ (fun v w => (m.snapshot v).equal (m.snapshot w)) items others := by
  rw [snapshot_array, snapshot_array, Snapshot.equal, equalItems_iff, List.forall₂_map_left_iff,
    List.forall₂_map_right_iff]

theorem equal_object_iff {kind' : ObjectKind} (ha : m.ends (.object kind a))
    (hb : m.ends (.object kind' b)) (hkeys : (m.fields a).keys.Nodup)
    (hkeys' : (m.fields b).keys.Nodup) :
    (m.snapshot (.object kind a)).equal (m.snapshot (.object kind' b)) ↔ kind = kind' ∧
      (∀ key, key ∈ (m.fields a).keys ↔ key ∈ (m.fields b).keys) ∧
        ∀ key v w, (m.fields a).get? key = some v → (m.fields b).get? key = some w →
          (m.snapshot v).equal (m.snapshot w) := by
  have hpartner := Fields.forall_partner_iff (R := fun v w => (m.snapshot v).equal (m.snapshot w))
    hkeys hkeys'
  have hlookup (key : String) :
      ((m.fields b).map fun field => (field.1, m.snapshot field.2)).lookup key =
        ((m.fields b).get? key).map m.snapshot :=
    Fields.get?_map m.snapshot (m.fields b) key
  rw [snapshot_object ha, snapshot_object hb, Snapshot.equal, Bool.and_eq_true, Bool.and_eq_true,
    equalFields_iff, List.forall_mem_map, beq_iff_eq, beq_iff_eq, List.length_map, List.length_map,
    and_assoc, ← hpartner]
  simp only [hlookup, Option.map_eq_some_iff, exists_exists_and_eq_and]

theorem same_text_iff {s s' : String} : m.Same (.text s) (.text s') ↔ s = s' :=
  ⟨by rintro ⟨⟩; rfl, by rintro rfl; exact .text s⟩

theorem same_bool_iff {b b' : Bool} : m.Same (.bool b) (.bool b') ↔ b = b' :=
  ⟨by rintro ⟨⟩; rfl, by rintro rfl; exact .bool b⟩

theorem same_int_iff {i j : Int} : m.Same (.number (.int i)) (.number (.int j)) ↔ i = j :=
  ⟨by rintro ⟨⟩; rfl, by rintro rfl; exact .int i⟩

theorem same_array_iff {items others : List Value} :
    m.Same (.array items) (.array others) ↔ items.length = others.length ∧
      ∀ (i : Nat) v w, items[i]? = some v → others[i]? = some w → m.Same v w :=
  ⟨by rintro (_ | _ | _ | _ | _ | ⟨hlength, h⟩); exact ⟨hlength, h⟩, fun h => .array h.1 h.2⟩

theorem same_object_iff {kind' : ObjectKind} :
    m.Same (.object kind a) (.object kind' b) ↔ kind = kind' ∧
      (∀ key, key ∈ (m.fields a).keys ↔ key ∈ (m.fields b).keys) ∧
        ∀ key v w, (m.fields a).get? key = some v → (m.fields b).get? key = some w →
          m.Same v w := by
  constructor
  · intro h
    cases h with
    | object _ hkeys h => exact ⟨rfl, hkeys, h⟩
  · rintro ⟨rfl, hkeys, h⟩
    exact .object kind hkeys h

/-- Comparing what two values hold decides whether they are the same. -/
theorem IsData.equal_iff (hv : m.IsData v) (hw : m.IsData w) :
    (m.snapshot v).equal (m.snapshot w) ↔ m.Same v w := by
  have apart {v w : Value} (h : v.kindName ≠ w.kindName) :
      (m.snapshot v).equal (m.snapshot w) ↔ m.Same v w :=
    iff_of_false (mt kindName_of_equal h) (mt Same.kindName h)
  induction hv generalizing w with
  | text s =>
    cases hw with
    | text s' => simp [snapshot, Snapshot.ofValue, Snapshot.equal, same_text_iff]
    | object kind => exact apart (by cases kind <;> simp [Value.kindName])
    | _ => exact apart (by simp [Value.kindName])
  | bool b =>
    cases hw with
    | bool b' => simp [snapshot, Snapshot.ofValue, Snapshot.equal, same_bool_iff]
    | object kind => exact apart (by cases kind <;> simp [Value.kindName])
    | _ => exact apart (by simp [Value.kindName])
  | int i =>
    cases hw with
    | int j =>
      simp [snapshot, Snapshot.ofValue, Snapshot.equal, Label.sameNumber, Number.sameValue_int,
        same_int_iff]
    | object kind => exact apart (by cases kind <;> simp [Value.kindName])
    | _ => exact apart (by simp [Value.kindName])
  | null =>
    cases hw with
    | null => simp [snapshot, Snapshot.ofValue, Snapshot.equal, Same.null]
    | object kind => exact apart (by cases kind <;> simp [Value.kindName])
    | _ => exact apart (by simp [Value.kindName])
  | undefined =>
    cases hw with
    | undefined => simp [snapshot, Snapshot.ofValue, Snapshot.equal, Same.undefined]
    | object kind => exact apart (by cases kind <;> simp [Value.kindName])
    | _ => exact apart (by simp [Value.kindName])
  | @array items h ih =>
    cases hw with
    | @array others h' =>
      rw [equal_array_iff, same_array_iff, forall₂_iff_getElem?]
      refine and_congr_right fun _ => forall_congr' fun i => forall₂_congr fun v w =>
        forall₂_congr fun hv hw => ?_
      exact ih v (List.mem_of_getElem? hv) (h' w (List.mem_of_getElem? hw))
    | object kind => exact apart (by cases kind <;> simp [Value.kindName])
    | _ => exact apart (by simp [Value.kindName])
  | object kind hkeys h ih =>
    cases hw with
    | object kind' hkeys' h' =>
      have hv : m.IsData (.object kind _) := .object kind hkeys h
      have hw : m.IsData (.object kind' _) := .object kind' hkeys' h'
      rw [equal_object_iff hv.ends hw.ends hkeys hkeys', same_object_iff]
      refine and_congr_right fun _ => and_congr_right fun _ => forall_congr' fun key =>
        forall₂_congr fun v w => forall₂_congr fun hv hw => ?_
      exact ih (key, v) ((Fields.mem_iff_get? hkeys).mpr hv)
        (h' (key, w) ((Fields.mem_iff_get? hkeys').mpr hw))
    | _ => exact apart (by cases kind <;> simp [Value.kindName])

end Memory

end TextTemplate
