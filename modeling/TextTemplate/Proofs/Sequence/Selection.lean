import Mathlib
import TextTemplate.Sequence

/-!
# Slices are selections

A progression holds the terms that come strictly before its end, seen in the direction of its step.
A slice holds the elements at the indices of a progression, the ends of which are held within the
ends of the sequence. So none of the indices lies outside.
-/

namespace TextTemplate.Sequence

variable {α β : Type} {items : List α} {start stop step : Int} {i : Nat}

/-! ## Progressions -/

theorem getElem?_progressionFrom (start step : Int) (count i : Nat) :
    (progressionFrom start step count)[i]? = if i < count then some (start + i * step) else none := by
  induction count generalizing start i with
  | zero => rfl
  | succ count ih =>
    cases i with
    | zero => simp [progressionFrom]
    | succ i =>
      have hterm : start + step + i * step = start + (i + 1 : Nat) * step := by
        push_cast
        ring
      rw [progressionFrom, List.getElem?_cons_succ, ih, hterm]
      simp only [Nat.succ_lt_succ_iff]

/-- The number of a term is below the length just if the term comes before the end. -/
theorem lt_progressionLength_of_pos (hstep : 0 < step) :
    i < progressionLength start stop step ↔ start + i * step < stop := by
  have hdiv : (i + 1 : Int) ≤ (stop - start + step - 1) / step ↔
      (i + 1) * step ≤ stop - start + step - 1 := Int.le_ediv_iff_mul_le hstep
  rw [progressionLength, if_pos hstep, Int.lt_toNat, ← Int.add_one_le_iff, hdiv, add_mul, one_mul]
  omega

theorem lt_progressionLength_of_neg (hstep : step < 0) :
    i < progressionLength start stop step ↔ stop < start + i * step := by
  have hdiv : (i + 1 : Int) ≤ (start - stop - step - 1) / -step ↔
      (i + 1) * -step ≤ start - stop - step - 1 := Int.le_ediv_iff_mul_le (by omega)
  rw [progressionLength, if_neg (by omega), Int.lt_toNat, ← Int.add_one_le_iff, hdiv, add_mul,
    one_mul, mul_neg]
  omega

/-- Whether a term comes strictly before the end of a progression. -/
def IsBefore (step term stop : Int) : Prop := if 0 < step then term < stop else stop < term

instance (step term stop : Int) : Decidable (IsBefore step term stop) :=
  inferInstanceAs (Decidable (if 0 < step then term < stop else stop < term))

theorem lt_progressionLength_iff (hstep : step ≠ 0) :
    i < progressionLength start stop step ↔ IsBefore step (start + i * step) stop := by
  rcases lt_or_gt_of_ne hstep with hneg | hpos
  · rw [IsBefore, if_neg (by omega), lt_progressionLength_of_neg hneg]
  · rw [IsBefore, if_pos hpos, lt_progressionLength_of_pos hpos]

theorem getElem?_progression (hstep : step ≠ 0) (start stop : Int) (i : Nat) :
    (progression start stop step)[i]? =
      if IsBefore step (start + i * step) stop then some (start + i * step) else none := by
  rw [progression, getElem?_progressionFrom]
  simp only [lt_progressionLength_iff hstep]

theorem mem_progression_iff (hstep : step ≠ 0) {term : Int} :
    term ∈ progression start stop step ↔
      ∃ i : Nat, term = start + i * step ∧ IsBefore step term stop := by
  simp only [List.mem_iff_getElem?, getElem?_progression hstep, Option.ite_none_right_eq_some,
    Option.some.injEq]
  constructor
  · rintro ⟨i, hbefore, rfl⟩
    exact ⟨i, rfl, hbefore⟩
  · rintro ⟨i, rfl, hbefore⟩
    exact ⟨i, hbefore, rfl⟩

/-! ## Steps -/

theorem getElem?_everyFrom {step : Nat} (hstep : 0 < step) (skip : Nat) (items : List α) (i : Nat) :
    (everyFrom step skip items)[i]? = items[skip + i * step]? := by
  induction items generalizing skip i with
  | nil => cases skip <;> rfl
  | cons item rest ih =>
    cases skip with
    | zero =>
      cases i with
      | zero => simp [everyFrom]
      | succ i =>
        have hnext : 0 + (i + 1) * step = step - 1 + i * step + 1 := by
          rw [add_mul]
          omega
        rw [everyFrom, List.getElem?_cons_succ, ih, hnext, List.getElem?_cons_succ]
    | succ skip => rw [everyFrom, ih, Nat.add_right_comm, List.getElem?_cons_succ]

theorem getElem?_every {step : Nat} (hstep : 0 < step) (items : List α) (i : Nat) :
    (every step items)[i]? = items[i * step]? := by
  rw [every, getElem?_everyFrom hstep, Nat.zero_add]

/-! ## Slices -/

/-- The least bound of a slice. A step backward stops in front of the first element. -/
def leastBound (step : Int) : Int := if 0 < step then 0 else -1

/-- The greatest bound of a slice. A step backward starts at the last element. -/
def greatestBound (length step : Int) : Int := if 0 < step then length else length - 1

/-- A bound of a slice, counted from the start and held between the least and the greatest one. -/
def sliceBound (length step : Int) : Int → Int :=
  clampBound length (leastBound step) (greatestBound length step)

/-- Where a slice starts: at the end of the sequence from which its step leads away, unless it is
said where. -/
def sliceStart (length step : Int) (bound : Option Int) : Int :=
  (bound.map (sliceBound length step)).getD
    (if 0 < step then leastBound step else greatestBound length step)

/-- Where a slice stops: at the end of the sequence to which its step leads, unless it is said
where. -/
def sliceStop (length step : Int) (bound : Option Int) : Int :=
  (bound.map (sliceBound length step)).getD
    (if 0 < step then greatestBound length step else leastBound step)

/-- The indices of the elements of a slice. -/
def sliceIndices (length : Nat) (start stop : Option Int) (step : Int) : List Int :=
  progression (sliceStart length step start) (sliceStop length step stop) step

theorem sliceBound_bounds (length : Nat) (step bound : Int) :
    leastBound step ≤ sliceBound length step bound ∧
      sliceBound length step bound ≤ greatestBound length step := by
  unfold sliceBound clampBound leastBound greatestBound
  split <;> omega

theorem sliceStart_bounds (length : Nat) (step : Int) (bound : Option Int) :
    leastBound step ≤ sliceStart length step bound ∧
      sliceStart length step bound ≤ greatestBound length step := by
  cases bound with
  | some bound => exact sliceBound_bounds length step bound
  | none =>
    simp only [sliceStart, Option.map_none, Option.getD_none, leastBound, greatestBound]
    split <;> omega

theorem sliceStop_bounds (length : Nat) (step : Int) (bound : Option Int) :
    leastBound step ≤ sliceStop length step bound ∧
      sliceStop length step bound ≤ greatestBound length step := by
  cases bound with
  | some bound => exact sliceBound_bounds length step bound
  | none =>
    simp only [sliceStop, Option.map_none, Option.getD_none, leastBound, greatestBound]
    split <;> omega

/-- No index of a slice lies outside the sequence. -/
theorem sliceIndices_bounds {length : Nat} {first last : Option Int} (hstep : step ≠ 0) {index : Int}
    (h : index ∈ sliceIndices length first last step) : 0 ≤ index ∧ index < length := by
  obtain ⟨i, rfl, hbefore⟩ := (mem_progression_iff hstep).mp h
  have hstart := sliceStart_bounds length step first
  have hstop := sliceStop_bounds length step last
  rcases lt_or_gt_of_ne hstep with hneg | hpos
  · have hdown : i * step ≤ 0 := mul_nonpos_of_nonneg_of_nonpos (Int.natCast_nonneg i) hneg.le
    have hnot : ¬0 < step := hneg.not_gt
    simp only [IsBefore, leastBound, greatestBound, hnot, ↓reduceIte] at hbefore hstart hstop
    omega
  · have hup : 0 ≤ i * step := mul_nonneg (Int.natCast_nonneg i) hpos.le
    simp only [IsBefore, leastBound, greatestBound, hpos, ↓reduceIte] at hbefore hstart hstop
    omega

theorem at?_of_nonneg (items : List α) {index : Int} (h : 0 ≤ index) :
    at? items index = items[index.toNat]? := by
  simp only [at?, if_neg h.not_gt]

/-- An index counted from the end. -/
theorem at?_sub_length {i : Nat} (h : i < items.length) :
    at? items ((i : Int) - items.length) = some items[i] := by
  have hneg : (i : Int) - items.length < 0 := by omega
  have hplace : (i : Int) - items.length + items.length = i := by omega
  simp only [at?, if_pos hneg, hplace, if_neg (Int.natCast_nonneg i).not_gt, Int.toNat_natCast,
    List.getElem?_eq_getElem h]

theorem at?_map (f : α → β) (items : List α) (index : Int) :
    at? (items.map f) index = (at? items index).map f := by
  simp only [at?, List.length_map, List.getElem?_map]
  generalize (if index < 0 then index + items.length else index) = position
  split <;> rfl

/-- An element of a slice forward. -/
theorem getElem?_sliceForward (items : List α) (start stop : Option Int) {step : Nat}
    (hstep : 0 < step) (i : Nat) :
    (sliceForward items start stop step)[i]? =
      (sliceIndices items.length start stop step)[i]?.bind (at? items) := by
  have hpos : (0 : Int) < step := Int.natCast_pos.mpr hstep
  have hstart := sliceStart_bounds items.length step start
  have hslice : sliceForward items start stop step =
      every step ((items.take (sliceStop items.length step stop).toNat).drop
        (sliceStart items.length step start).toNat) := by
    simp only [sliceForward, sliceStart, sliceStop, sliceBound, leastBound, greatestBound, hpos,
      ↓reduceIte]
  simp only [leastBound, hpos, ↓reduceIte] at hstart
  rw [hslice, sliceIndices, getElem?_progression hpos.ne', getElem?_every hstep,
    List.getElem?_drop, List.getElem?_take]
  generalize sliceStart items.length step start = first at hstart
  generalize sliceStop items.length step stop = last
  have hindex : first + i * step = (first.toNat + i * step : Nat) := by
    push_cast
    omega
  rw [hindex]
  simp only [IsBefore, hpos, ↓reduceIte]
  by_cases hbefore : ((first.toNat + i * step : Nat) : Int) < last
  · rw [if_pos hbefore, if_pos (Int.lt_toNat.mpr hbefore), Option.bind_some,
      at?_of_nonneg _ (Int.natCast_nonneg _), Int.toNat_natCast]
  · rw [if_neg hbefore, if_neg (mt Int.lt_toNat.mp hbefore), Option.bind_none]

/-- An element of a slice backward. -/
theorem getElem?_sliceBackward (items : List α) (start stop : Option Int) {step : Nat}
    (hstep : 0 < step) (i : Nat) :
    (sliceBackward items start stop step)[i]? =
      (sliceIndices items.length start stop (-step))[i]?.bind (at? items) := by
  have hneg : ¬(0 : Int) < -step := by omega
  have hstart := sliceStart_bounds items.length (-step) start
  have hstop := sliceStop_bounds items.length (-step) stop
  have hslice : sliceBackward items start stop step =
      every step ((items.take (sliceStart items.length (-step) start + 1).toNat).drop
        (sliceStop items.length (-step) stop + 1).toNat).reverse := by
    simp only [sliceBackward, sliceStart, sliceStop, sliceBound, leastBound, greatestBound, hneg,
      ↓reduceIte]
  simp only [leastBound, greatestBound, hneg, ↓reduceIte] at hstart hstop
  rw [hslice, sliceIndices, getElem?_progression (by omega), getElem?_every hstep]
  generalize sliceStart items.length (-step) start = first at hstart
  generalize sliceStop items.length (-step) stop = last at hstop
  have hlength : ((items.take (first + 1).toNat).drop (last + 1).toNat).length =
      (first - last).toNat := by
    rw [List.length_drop, List.length_take]
    omega
  have hindex : first + i * -(step : Int) = first - (i * step : Nat) := by
    push_cast
    ring
  rw [hindex]
  simp only [IsBefore, hneg, ↓reduceIte]
  by_cases hbefore : last < first - (i * step : Nat)
  · have hin : i * step < ((items.take (first + 1).toNat).drop (last + 1).toNat).length := by omega
    have hplace : (last + 1).toNat + ((first - last).toNat - 1 - i * step) =
        (first - (i * step : Nat)).toNat := by omega
    rw [if_pos hbefore, Option.bind_some, at?_of_nonneg _ (by omega), List.getElem?_reverse hin,
      hlength, List.getElem?_drop, hplace, List.getElem?_take, if_pos (by omega)]
  · rw [if_neg hbefore, Option.bind_none, List.getElem?_eq_none]
    rw [List.length_reverse, hlength]
    omega

theorem getElem?_slice (items : List α) (start stop : Option Int) (hstep : step ≠ 0) (i : Nat) :
    (slice items start stop step)[i]? =
      (sliceIndices items.length start stop step)[i]?.bind (at? items) := by
  rcases lt_or_gt_of_ne hstep with hneg | hpos
  · have habs : step = -(step.natAbs : Int) := by omega
    rw [slice, if_neg (by omega), getElem?_sliceBackward _ _ _ (by omega), ← habs]
  · have hnat : ((step.toNat : Nat) : Int) = step := by omega
    rw [slice, if_pos hpos, getElem?_sliceForward _ _ _ (by omega), hnat]

/-- A slice holds the elements at its indices, all of which are there. -/
theorem map_some_slice (items : List α) (start stop : Option Int) (hstep : step ≠ 0) :
    (slice items start stop step).map some =
      (sliceIndices items.length start stop step).map (at? items) := by
  refine List.ext_getElem? fun i => ?_
  rw [List.getElem?_map, List.getElem?_map, getElem?_slice items start stop hstep]
  cases hindex : (sliceIndices items.length start stop step)[i]? with
  | none => rfl
  | some index =>
    have hbounds := sliceIndices_bounds hstep (List.mem_of_getElem? hindex)
    have hin : index.toNat < items.length := by omega
    rw [Option.bind_some, at?_of_nonneg _ hbounds.1, List.getElem?_eq_getElem hin, Option.map_some,
      Option.map_some, at?_of_nonneg _ hbounds.1, List.getElem?_eq_getElem hin]

/-- The indices of a slice and the elements at them, side by side. -/
theorem forall₂_slice (items : List α) (start stop : Option Int) (hstep : step ≠ 0) :
    List.Forall₂
      (fun (index : Int) item => (0 ≤ index ∧ index < items.length) ∧ at? items index = some item)
      (sliceIndices items.length start stop step) (slice items start stop step) := by
  refine (List.forall₂_and_left _ _).mpr ⟨fun index h => sliceIndices_bounds hstep h, ?_⟩
  have hmaps := List.forall₂_eq_eq_eq ▸ (map_some_slice items start stop hstep).symm
  exact List.forall₂_map_left_iff.mp (List.forall₂_map_right_iff.mp hmaps)

theorem slice_map (f : α → β) (items : List α) (start stop : Option Int) (hstep : step ≠ 0) :
    slice (items.map f) start stop step = (slice items start stop step).map f := by
  refine List.ext_getElem? fun i => ?_
  rw [getElem?_slice _ _ _ hstep, List.getElem?_map, getElem?_slice _ _ _ hstep, List.length_map,
    Option.map_bind]
  exact congrArg _ (funext (at?_map f items))

/-! ### Slices of everyday use -/

theorem every_one (items : List α) : every 1 items = items := by
  induction items with
  | nil => rfl
  | cons item rest ih => exact congrArg (item :: ·) ih

/-- The slice of all elements, backward. -/
theorem slice_backward (items : List α) : slice items none none (-1) = items.reverse := by
  have hall : ((items.length : Int) - 1 + 1).toNat = items.length := by omega
  simp only [slice, sliceBackward, Option.map_none, Option.getD_none, hall, Int.natAbs_neg,
    Int.natAbs_one, every_one, List.take_length]
  simp

theorem slice_before (items : List α) (bound : Int) :
    slice items none (some bound) 1 =
      items.take (clampBound items.length 0 items.length bound).toNat :=
  every_one _

theorem slice_from (items : List α) (bound : Int) :
    slice items (some bound) none 1 =
      items.drop (clampBound items.length 0 items.length bound).toNat := by
  simp only [slice, sliceForward, Option.map_some, Option.map_none, Option.getD_some,
    Option.getD_none, Int.toNat_natCast, List.take_length]
  exact every_one _

/-- Any bound takes a sequence apart. -/
theorem slice_before_append_slice_from (items : List α) (bound : Int) :
    slice items none (some bound) 1 ++ slice items (some bound) none 1 = items := by
  rw [slice_before, slice_from, List.take_append_drop]

/-- The slice of one element. -/
theorem slice_at {index : Nat} (h : index < items.length) :
    slice items (some index) (some (index + 1)) 1 = [items[index]] := by
  have hstart : clampBound items.length 0 items.length index = index := by
    unfold clampBound
    omega
  have hstop : clampBound items.length 0 items.length (index + 1) = (index + 1 : Nat) := by
    unfold clampBound
    omega
  have hpart : (items.take (index + 1)).drop index = [items[index]] := by
    rw [List.drop_take, Nat.add_sub_cancel_left, List.drop_eq_getElem_cons h]
    rfl
  simp only [slice, sliceForward, Option.map_some, Option.getD_some, hstart, hstop,
    Int.toNat_natCast, hpart]
  exact every_one _

/-- The slice from the second element on. -/
theorem slice_cons (item : α) (items : List α) :
    slice (item :: items) (some 1) none 1 = items := by
  have hstart : clampBound (item :: items).length 0 (item :: items).length 1 = 1 := by
    simp only [clampBound, List.length_cons]
    omega
  rw [slice_from, hstart]
  rfl

end TextTemplate.Sequence
