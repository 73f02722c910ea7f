import TextTemplate.Host.Stock
import TextTemplate.Proofs.Eval.Reading

/-!
# Slices of texts and arrays

A text is made of its characters and an array of its items. A slice of either is one of the same
kind, made of what the sequence answers at the indices of the slice.
-/

namespace TextTemplate

open List (Forall₂)
open Sequence (sliceIndices)

/-! ## Parts -/

/-- What a sequence is made of. A character of a text is a text of its own. -/
inductive Value.HasParts : Value → List Value → Prop
  | array (items : List Value) : HasParts (.array items) items
  | text (s : String) : HasParts (.text s) (s.toList.map fun c => .text c.toString)

namespace Value.HasParts

variable {v w : Value} {parts : List Value}

theorem ofList (chars : List Char) :
    HasParts (.text (String.ofList chars)) (chars.map fun c => .text c.toString) := by
  have h := HasParts.text (String.ofList chars)
  rwa [String.toList_ofList] at h

theorem eq_array (h : v.HasParts parts) (hkind : v.kindName = "ArrayValue") : v = .array parts := by
  cases h with
  | array => rfl
  | text => simp [kindName] at hkind

/-- A sequence is known by its kind and its parts. -/
theorem unique (hv : v.HasParts parts) (hw : w.HasParts parts) (hkind : v.kindName = w.kindName) :
    v = w := by
  cases hv with
  | array => exact (hw.eq_array hkind.symm).symm
  | text a =>
    generalize hparts : a.toList.map (fun c => Value.text c.toString) = parts at hw
    cases hw with
    | array => simp [kindName] at hkind
    | text b =>
      have hinjective : Function.Injective fun c : Char => Value.text c.toString := by
        intro c d h
        simpa using congrArg String.toList (Value.text.inj h)
      rw [String.toList_injective (List.map_injective_iff.mpr hinjective hparts)]

end Value.HasParts

namespace Eval

variable {context : Context} {s : State} {o : Node} {v : Value} {parts : List Value}
  {start stop step : Option Node} {first last every : Option Int}

theorem isSequence_of_hasParts (h : v.HasParts parts) : isSequence v = true := by
  cases h <;> rfl

/-- The slice of a sequence has the slice of its parts. -/
theorem slice_hasParts (h : v.HasParts parts) (first last every : Option Int)
    (hstep : every.getD 1 ≠ 0) :
    ∃ w, slice v first last every = pure w ∧ w.kindName = v.kindName ∧
      w.HasParts (Sequence.slice parts first last (every.getD 1)) := by
  have hzero : (every.getD 1 == 0) = false := beq_eq_false_iff_ne.mpr hstep
  cases h with
  | array =>
    refine ⟨.array (Sequence.slice parts first last (every.getD 1)), ?_, rfl, .array _⟩
    simp only [slice, hzero]
    rfl
  | text a =>
    refine ⟨.text (String.ofList (Sequence.slice a.toList first last (every.getD 1))), ?_, rfl, ?_⟩
    · simp only [slice, hzero]
      rfl
    · rw [Sequence.slice_map _ _ _ _ hstep]
      exact .ofList _

/-- A sequence answers the part at an index. -/
theorem member_hasParts (h : v.HasParts parts) {index : Int} {part : Value}
    (hpart : Sequence.at? parts index = some part) :
    member v (.number (.int index)) context s = (.ok part, s) := by
  cases h with
  | array items =>
    simp only [member, hpart]
    rfl
  | text a =>
    rw [Sequence.at?_map] at hpart
    simp only [member, hpart]
    rfl

/-! ## Slices -/

/-- A bound of a slice, none where it is left out or absent. -/
def HasBound (context : Context) (s : State) (bound : Option Node) (value : Option Int) : Prop :=
  evaluateBound bound context s = (.ok value, s)

theorem HasBound.omitted : HasBound context s none none := by
  rw [HasBound, evaluateBound]
  rfl

theorem HasBound.int {node : Node} {i : Int} (h : Has context s node (.number (.int i))) :
    HasBound context s (some node) (some i) := by
  rw [HasBound, evaluateBound, run_bind h]
  rfl

/-- A slice in brackets. -/
theorem Has.evaluate_slice (ho : Has context s o v) (hv : v.HasParts parts)
    (hstart : HasBound context s start first) (hstop : HasBound context s stop last)
    (hstep : HasBound context s step every) :
    evaluate (.member o (.slice start stop step) true) context s =
      slice v first last every context s := by
  rw [evaluate, run_bind ho, if_pos (isSequence_of_hasParts hv)]
  exact (run_bind hstart _).trans ((run_bind hstop _).trans (run_bind hstep _))

theorem Has.item_hasParts (ho : Has context s o v) (hv : v.HasParts parts) {p : Node} {index : Int}
    (hp : Has context s p (.number (.int index))) {part : Value}
    (hpart : Sequence.at? parts index = some part) : Has context s (.member o p true) part :=
  (ho.evaluate_item hp).trans (member_hasParts hv hpart)

/-- What stands at an index of a sequence, inside of its bounds. -/
def StandsAt (context : Context) (s : State) (o : Node) (length : Nat) (index : Int)
    (part : Value) : Prop :=
  0 ≤ index ∧ index < length ∧
    ∀ p, Has context s p (.number (.int index)) → Has context s (.member o p true) part

theorem Has.standsAt_slice (ho : Has context s o v) (hv : v.HasParts parts)
    (first last : Option Int) {step : Int} (hstep : step ≠ 0) :
    Forall₂ (StandsAt context s o parts.length) (sliceIndices parts.length first last step)
      (Sequence.slice parts first last step) := by
  refine (Sequence.forall₂_slice parts first last hstep).imp ?_
  rintro index part ⟨⟨hfirst, hlast⟩, hpart⟩
  exact ⟨hfirst, hlast, fun _ hp => ho.item_hasParts hv hp hpart⟩

/-- A slice of a sequence in brackets is of the kind of the sequence and has the slice of its
parts. -/
theorem Has.slice (ho : Has context s o v) (hv : v.HasParts parts)
    (hstart : HasBound context s start first) (hstop : HasBound context s stop last)
    (hevery : HasBound context s step every) (hstep : every.getD 1 ≠ 0) :
    ∃ w, Has context s (.member o (.slice start stop step) true) w ∧ w.kindName = v.kindName ∧
      w.HasParts (Sequence.slice parts first last (every.getD 1)) := by
  obtain ⟨w, hw, hkind, hparts⟩ := slice_hasParts hv first last every hstep
  refine ⟨w, ?_, hkind, hparts⟩
  rw [Has, ho.evaluate_slice hv hstart hstop hevery, hw]
  rfl

/-- Sequences of one kind are put together. -/
theorem Has.append {left right : Node} {w : Value} {others : List Value}
    (hleft : Has context s left v) (hv : v.HasParts parts) (hright : Has context s right w)
    (hw : w.HasParts others) (hkind : w.kindName = v.kindName) :
    ∃ u, Has context s (.binary "+" left right) u ∧ u.kindName = v.kindName ∧
      u.HasParts (parts ++ others) := by
  have hplus : evaluate (.binary "+" left right) context s = presentBinary "+" v w context s := by
    rw [hleft.evaluate_binary hright (by decide) (by decide)]
    cases hv <;> cases hw <;> rfl
  cases hv with
  | array =>
    cases hw with
    | array => exact ⟨.array (parts ++ others), hplus, rfl, .array _⟩
    | text => simp [Value.kindName] at hkind
  | text a =>
    cases hw with
    | array => simp [Value.kindName] at hkind
    | text b =>
      refine ⟨.text (a ++ b), hplus, rfl, ?_⟩
      rw [← List.map_append, ← String.toList_append]
      exact .text _

/-! ## What slices select -/

/-- What the slices of a sequence come to. Each bound stands in any tree that has it for its value,
and may be left out. -/
structure Slices (context : Context) (s : State) (o : Node) (v : Value) (parts : List Value) :
    Prop where
  /-- A slice is of the kind of the sequence and made of what stands at its indices, none of which
  lies outside. -/
  selects : ∀ first last every, every.getD 1 ≠ 0 →
    ∃ w selected, slice v first last every = pure w ∧
      (∀ start stop step, HasBound context s start first → HasBound context s stop last →
        HasBound context s step every → Has context s (.member o (.slice start stop step) true) w) ∧
      w.kindName = v.kindName ∧ w.HasParts selected ∧
      Forall₂ (StandsAt context s o parts.length)
        (sliceIndices parts.length first last (every.getD 1)) selected
  /-- What is before any bound and what is from it on are the sequence together. -/
  cut : ∀ p k, Has context s p (.number (.int k)) →
    Has context s (.binary "+" (.member o (.slice none (some p) none) true)
      (.member o (.slice (some p) none none) true)) v
  /-- Backward, the sequence is reversed, as an array is by the filter. Twice backward it is itself. -/
  backward : ∀ p, Has context s p (.number (.int (-1))) →
    ∃ w, Has context s (.member o (.slice none none (some p)) true) w ∧
      w.kindName = v.kindName ∧ w.HasParts parts.reverse ∧
      Has context s (.member (.member o (.slice none none (some p)) true)
        (.slice none none (some p)) true) v ∧
      (v.kindName = "ArrayValue" → context.filters.get? "reverse" = none →
        Has context s (.filter o (.name "reverse")) w)
  /-- A slice of one element holds what the sequence answers at the index, which may be counted from
  the end. -/
  single : ∀ p next fromEnd (i : Nat) (h : i < parts.length),
    Has context s p (.number (.int i)) → Has context s next (.number (.int (i + 1))) →
    Has context s fromEnd (.number (.int (i - parts.length))) →
    ∃ w, Has context s (.member o (.slice (some p) (some next) none) true) w ∧
      w.kindName = v.kindName ∧ w.HasParts [parts[i]] ∧
      Has context s (.member o p true) parts[i] ∧ Has context s (.member o fromEnd true) parts[i]

/-- Slices of texts and arrays are selections, with any bounds and any step but zero. -/
theorem slices_of_hasParts (ho : Has context s o v) (hv : v.HasParts parts) :
    Slices context s o v parts where
  selects first last every hstep := by
    obtain ⟨w, hw, hkind, hparts⟩ := slice_hasParts hv first last every hstep
    refine ⟨w, _, hw, fun start stop step hstart hstop hevery => ?_, hkind, hparts,
      ho.standsAt_slice hv first last hstep⟩
    rw [Has, ho.evaluate_slice hv hstart hstop hevery, hw]
    rfl
  cut p k hp := by
    obtain ⟨before, hbefore, hkind, hparts⟩ :=
      ho.slice hv .omitted (.int hp) .omitted (by decide)
    obtain ⟨after, hafter, hkind', hparts'⟩ :=
      ho.slice hv (.int hp) .omitted .omitted (by decide)
    obtain ⟨u, hu, hkindu, hpartsu⟩ :=
      hbefore.append hparts hafter hparts' (hkind'.trans hkind.symm)
    rw [Option.getD_none, Sequence.slice_before_append_slice_from] at hpartsu
    rwa [hpartsu.unique hv (hkindu.trans hkind)] at hu
  backward p hp := by
    obtain ⟨w, hw, hkind, hparts⟩ := ho.slice hv .omitted .omitted (.int hp) (by decide)
    obtain ⟨u, hu, hkindu, hpartsu⟩ := hw.slice hparts .omitted .omitted (.int hp) (by decide)
    simp only [Option.getD_some, Sequence.slice_backward, List.reverse_reverse] at hparts hpartsu
    refine ⟨w, hw, hkind, hparts, ?_, fun harray hnone => ?_⟩
    · rwa [hpartsu.unique hv (hkindu.trans hkind)] at hu
    · have hreverse : Has context s (.filter o (.name "reverse")) (.array parts.reverse) := by
        rw [Has, ho.evaluate_filter hnone, hv.eq_array harray]
        rfl
      rwa [hparts.unique (.array _) (hkind.trans harray)]
  single p next fromEnd i h hp hnext hfromEnd := by
    obtain ⟨w, hw, hkind, hparts⟩ := ho.slice hv (.int hp) (.int hnext) .omitted (by decide)
    rw [Option.getD_none, Sequence.slice_at h] at hparts
    refine ⟨w, hw, hkind, hparts, ho.item_hasParts hv hp ?_, ho.item_hasParts hv hfromEnd ?_⟩
    · rw [Sequence.at?_of_nonneg _ (Int.natCast_nonneg i), Int.toNat_natCast,
        List.getElem?_eq_getElem h]
    · exact Sequence.at?_sub_length h

theorem slices_of_text_literal :
    let context := Context.ofLibrary Host.stock [] false
    Slices context .initial (.text "abc") (.text "abc") [.text "a", .text "b", .text "c"] :=
  slices_of_hasParts (.text "abc") (.text "abc")

/-- The filter `reverse` is one of arrays only. -/
theorem reverse_of_text_unknown :
    let context := Context.ofLibrary Host.stock [] false
    let backward := Node.slice none none (some (.unary "-" (.number (.int 1))))
    (evaluate (.member (.text "ab") backward true) context .initial).1 = .ok (.text "ba") ∧
      (evaluate (.filter (.text "ab") (.name "reverse")) context .initial).1 =
        .error (.unknownFilter "reverse" "StringValue") :=
  ⟨rfl, rfl⟩

end Eval

end TextTemplate
