import TextTemplate.Proofs.Matching.Held

/-!
# Memories that have grown in different ways

Whatever two runs have put into a memory, what they put in after it belongs together. If both have
put in the same two things, one way round and the other way round, then these belong together as
well.
-/

namespace TextTemplate

/-! ## Matchings of memories that have grown -/

namespace Matching

/-- Numbers below `n` stay, and those from `n₁` on stand for those from `n₂` on. -/
def Shifted (n n₁ n₂ a b : Nat) : Prop :=
  a < n ∧ b = a ∨ n₁ ≤ a ∧ n₂ ≤ b ∧ a + n₂ = b + n₁

/-- Numbers below `n` stay, and the `p` numbers from there on change places with the `q` numbers
after them. -/
def Exchanged (n p q a b : Nat) : Prop :=
  a < n ∧ b = a ∨ n ≤ a ∧ a < n + p ∧ b = a + q ∨
    n + p ≤ a ∧ a < n + p + q ∧ b + p = a ∨ n + p + q ≤ a ∧ b = a

theorem shifted_iff {n n₁ n₂ a b a' b' : Nat} (h₁ : n ≤ n₁) (h₂ : n ≤ n₂)
    (h : Shifted n n₁ n₂ a b) (h' : Shifted n n₁ n₂ a' b') : a = a' ↔ b = b' := by
  unfold Shifted at h h'
  omega

theorem exchanged_iff {n p q a b a' b' : Nat} (h : Exchanged n p q a b)
    (h' : Exchanged n p q a' b') : a = a' ↔ b = b' := by
  unfold Exchanged at h h'
  omega

variable {m m₁ m₂ : Memory}

/-- How two memories that have grown from the same memory belong together. What was added to either
of them belongs to nothing in the other. -/
def apart (h₁ : Memory.Grows m m₁) (h₂ : Memory.Grows m m₂) : Matching where
  objects := Shifted m.objects.size m₁.objects.size m₂.objects.size
  marks := Shifted (m.marks + 1) (m₁.marks + 1) (m₂.marks + 1)
  objects_iff := shifted_iff h₁.objects h₂.objects
  marks_iff := shifted_iff (Nat.succ_le_succ h₁.marks) (Nat.succ_le_succ h₂.marks)
  marks_zero := .inl ⟨Nat.succ_pos _, rfl⟩

/-- How memories belong together in which two things were put the other way round. -/
def exchange (m : Memory) (p q i j : Nat) : Matching where
  objects := Exchanged m.objects.size p q
  marks := Exchanged (m.marks + 1) i j
  objects_iff := exchanged_iff
  marks_iff := exchanged_iff
  marks_zero := .inl ⟨Nat.succ_pos _, rfl⟩

end Matching

namespace Memory

variable {m m₁ m₂ : Memory}

theorem trims_apart (h₁ : Grows m m₁) (h₂ : Grows m m₂) :
    Matching.Trims m.self m.self (.apart h₁ h₂) :=
  ⟨fun hab _ => .inl ⟨hab.1, hab.2.symm⟩, fun hij _ => .inl ⟨Nat.lt_succ_of_le hij.1, hij.2.symm⟩⟩

theorem alike_apart (hclosed : m.Closed) (h₁ : Grows m m₁) (h₂ : Grows m m₂) :
    Memory.Alike (.apart h₁ h₂) m₁ m₂ := by
  refine ⟨fun {a b} hab => ?_, fun n => .inr ?_, fun n => .inr ?_⟩
  · rcases hab with ⟨ha, rfl⟩ | ⟨ha, hb, _⟩
    · rw [h₁.fields _ ha, h₂.fields _ ha]
      exact Value.Alike.trimFields (trims_apart h₁ h₂) (hclosed _) (hclosed _)
    · rw [fields_of_size_le ha, fields_of_size_le hb]
      exact .nil
  · omega
  · omega

/-! ## Putting two things the other way round -/

/-- Two things put into a memory, one way round and the other way round. -/
structure Exchange (m first both second both' : Memory) : Prop where
  growsFirst : Grows m first
  growsBoth : Grows first both
  growsSecond : Grows m second
  growsBoth' : Grows second both'
  closed : m.Closed
  closedFirst : first.Closed
  closedBoth : both.Closed
  /-- The first thing comes to the same after the second one. -/
  alikeFirst : Memory.Alike (.apart (.refl m) growsSecond) first both'
  /-- The second thing comes to the same without the first one. -/
  alikeSecond : Memory.Alike (.apart growsFirst (.refl m)) both second

namespace Exchange

variable {m first both second both' : Memory} (h : Exchange m first both second both')

/-- What belongs together in the two memories that hold both things. -/
def matching (m first second : Memory) : Matching :=
  .exchange m (first.objects.size - m.objects.size) (second.objects.size - m.objects.size)
    (first.marks - m.marks) (second.marks - m.marks)

theorem trims_start : Matching.Trims m.self m.self (matching m first second) :=
  ⟨fun hab _ => .inl ⟨hab.1, hab.2.symm⟩, fun hij _ => .inl ⟨Nat.lt_succ_of_le hij.1, hij.2.symm⟩⟩

include h

theorem sizes : first.objects.size + second.objects.size = both'.objects.size + m.objects.size ∧
    both.objects.size + m.objects.size = first.objects.size + second.objects.size := by
  have hfirst : Matching.Shifted _ _ _ _ _ := h.alikeFirst.objects 0
  have hsecond : Matching.Shifted _ _ _ _ _ := h.alikeSecond.objects 0
  have := h.growsFirst.objects
  have := h.growsBoth.objects
  unfold Matching.Shifted at hfirst hsecond
  omega

theorem counts : first.marks + second.marks = both'.marks + m.marks ∧
    both.marks + m.marks = first.marks + second.marks := by
  have hfirst : Matching.Shifted _ _ _ _ _ := h.alikeFirst.marks 0
  have hsecond : Matching.Shifted _ _ _ _ _ := h.alikeSecond.marks 0
  have := h.growsFirst.marks
  have := h.growsBoth.marks
  unfold Matching.Shifted at hfirst hsecond
  omega

theorem trims_first :
    Matching.Trims (.apart (.refl m) h.growsSecond) first.self (matching m first second) := by
  have := h.growsFirst.objects
  have := h.growsSecond.objects
  have := h.growsFirst.marks
  have := h.growsSecond.marks
  constructor
  · intro a b hab hself
    obtain ⟨ha, -⟩ := hself
    change Matching.Shifted _ _ _ a b at hab
    show Matching.Exchanged _ _ _ a b
    unfold Matching.Shifted at hab
    unfold Matching.Exchanged
    omega
  · intro i j hij hself
    obtain ⟨hi, -⟩ := hself
    change Matching.Shifted _ _ _ i j at hij
    show Matching.Exchanged _ _ _ i j
    unfold Matching.Shifted at hij
    unfold Matching.Exchanged
    omega

theorem trims_second :
    Matching.Trims (.apart h.growsFirst (.refl m)) both.self (matching m first second) := by
  have := h.growsFirst.objects
  have := h.growsSecond.objects
  have := h.growsFirst.marks
  have := h.growsSecond.marks
  have := h.sizes
  have := h.counts
  constructor
  · intro a b hab hself
    obtain ⟨ha, -⟩ := hself
    change Matching.Shifted _ _ _ a b at hab
    show Matching.Exchanged _ _ _ a b
    unfold Matching.Shifted at hab
    unfold Matching.Exchanged
    omega
  · intro i j hij hself
    obtain ⟨hi, -⟩ := hself
    change Matching.Shifted _ _ _ i j at hij
    show Matching.Exchanged _ _ _ i j
    unfold Matching.Shifted at hij
    unfold Matching.Exchanged
    omega

theorem alike : Memory.Alike (matching m first second) both both' := by
  obtain ⟨hsize', hsize⟩ := h.sizes
  obtain ⟨hcount', hcount⟩ := h.counts
  have := h.growsFirst.objects
  have := h.growsSecond.objects
  have := h.growsFirst.marks
  have := h.growsSecond.marks
  refine ⟨fun {a b} hab => ?_, fun n => ?_, fun n => ?_⟩
  · change Matching.Exchanged _ _ _ a b at hab
    rcases hab with ⟨ha, rfl⟩ | ⟨hge, hlt, hb⟩ | ⟨hge, hlt, hb⟩ | ⟨hge, rfl⟩
    · rw [(h.growsFirst.trans h.growsBoth).fields _ ha,
        (h.growsSecond.trans h.growsBoth').fields _ ha]
      exact Value.Alike.trimFields trims_start (h.closed _) (h.closed _)
    · rw [h.growsBoth.fields a (by omega)]
      refine Value.Alike.trimFields h.trims_first (h.alikeFirst.fields ?_) (h.closedFirst a)
      exact .inr ⟨hge, by omega, by omega⟩
    · rw [h.growsBoth'.fields b (by omega)]
      refine Value.Alike.trimFields h.trims_second (h.alikeSecond.fields ?_) (h.closedBoth a)
      exact .inr ⟨by omega, by omega, by omega⟩
    · rw [fields_of_size_le (by omega), fields_of_size_le (by omega)]
      exact .nil
  · show Matching.Exchanged _ _ _ _ _
    unfold Matching.Exchanged
    omega
  · show Matching.Exchanged _ _ _ _ _
    unfold Matching.Exchanged
    omega

end Exchange

end Memory

end TextTemplate
