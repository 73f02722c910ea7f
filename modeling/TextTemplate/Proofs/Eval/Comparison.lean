import TextTemplate.Host.Stock
import TextTemplate.Proofs.Eval.Objects
import TextTemplate.Proofs.Eval.Slicing
import TextTemplate.Proofs.Value.Equality

/-!
# All comparisons agree

Templates compare values by the operators `==` and `!=`, by the test `equalto`, and by asking
whether a value is in an array. Where more than one of them answers, they agree about whether the
values are the same.
-/

namespace TextTemplate.Eval

variable {context : Context} {s : State} {l r : Node} {v w : Value} {items : List Value}

/-! ## Comparing values -/

/-- Whether two values hold the same at the moment. -/
def holdSame (s : State) (v w : Value) : Bool := (s.memory.snapshot v).equal (s.memory.snapshot w)

theorem run_equal (hv : s.memory.ends v) (hw : s.memory.ends w) :
    equal v w context s = (.ok (holdSame s v w), s) :=
  (run_bind (run_snapshot hv context) _).trans ((run_bind (run_snapshot hw context) _).trans rfl)

theorem run_isAmong (hv : s.memory.ends v) (h : ∀ item ∈ items, s.memory.ends item) :
    isAmong v items context s = (.ok (items.any (holdSame s v)), s) := by
  have hall : mapAll snapshot items context s = (.ok (items.map s.memory.snapshot), s) := by
    refine run_mapAll ?_
    rw [List.forall₂_map_right_iff, List.forall₂_same]
    exact fun item hitem => run_snapshot (h item hitem) context
  refine (run_bind (run_snapshot hv context) _).trans ((run_bind hall _).trans ?_)
  rw [List.any_map]
  rfl

/-- The values between which `==` decides. -/
inductive Comparable : Value → Value → Prop
  | text (a b : String) : Comparable (.text a) (.text b)
  | int (i j : Int) : Comparable (.number (.int i)) (.number (.int j))
  | bool (a b : Bool) : Comparable (.bool a) (.bool b)

theorem comparable_of_ok (hv : s.memory.IsData v) (hw : s.memory.IsData w) {same : Bool} {t : State}
    (h : compareEquality "==" v w context s = (.ok same, t)) : Comparable v w := by
  cases hv <;> cases hw <;> first | constructor | cases h

/-- Both operators say whether comparable values hold the same. -/
theorem Comparable.compareEquality_eq (h : Comparable v w) (s : State) (operator : String) :
    compareEquality operator v w =
      pure (if operator == "==" then holdSame s v w else !holdSame s v w) := by
  cases h with
  | text a b =>
    simp [compareEquality, holdSame, Memory.snapshot, Snapshot.ofValue, Snapshot.equal]
  | int i j =>
    simp [compareEquality, holdSame, Memory.snapshot, Snapshot.ofValue, Snapshot.equal,
      Label.sameNumber]
  | bool a b =>
    simp [compareEquality, holdSame, Memory.snapshot, Snapshot.ofValue, Snapshot.equal]

theorem Comparable.isAbsent_eq (h : Comparable v w) : isAbsent v = false := by
  cases h <;> rfl

theorem compareEquality_of_apart (hv : s.memory.IsData v) (hw : s.memory.IsData w)
    (h : v.kindName ≠ w.kindName) : compareEquality "!=" v w = pure true := by
  have hkind : v.sameKind w = false := beq_eq_false_iff_ne.mpr h
  cases hv <;> cases hw <;> first | exact absurd rfl h | simp [compareEquality, hkind]

theorem find?_equalto {tests : List Test} (h : Test.equalto ∈ tests) :
    tests.find? (·.name == "equalto") = some .equalto := by
  cases hfound : tests.find? (·.name == "equalto") with
  | none => exact absurd rfl (List.find?_eq_none.mp hfound .equalto h)
  | some test =>
    have hname := List.find?_some hfound
    cases test <;> first | rfl | exact absurd hname (by decide)

/-- Asking whether a value is in an array. -/
theorem applyBinary_isMembership (hv : s.memory.IsData v) (hpresent : isAbsent v = false)
    {operator : String} (hoperator : isMembership operator) :
    applyBinary operator v (.array items) = (do
      let found ← isAmong v items
      pure (membership operator found)) := by
  have hcases : operator = "in" ∨ operator = "not in" := by simpa [isMembership] using hoperator
  rcases hcases with rfl | rfl <;> cases hv <;> first | rfl | cases hpresent

/-! ## Trees with values -/

section Has

variable {a b : Node}

theorem Has.equalTo (hl : Has context s l v) (hr : Has context s r w) (hv : s.memory.ends v)
    (hw : s.memory.ends w) (htests : Test.equalto ∈ s.environment.inner.tests) (negate : Bool) :
    Has context s (.test l negate (.name "equalto") [r]) (.bool (holdSame s v w != negate)) := by
  have hfind : findTest (some (.text "equalto")) context s = (.ok .equalto, s) := by
    refine (run_bind (a := s.environment.inner.tests) (t := s) rfl _).trans ?_
    rw [find?_equalto htests]
    rfl
  rw [Has, evaluate, run_bind hl]
  refine (run_bind hfind _).trans ((run_bind (Has.arguments (.cons hr .nil)) _).trans ?_)
  refine (run_bind (a := [w]) (t := s) rfl _).trans ?_
  exact run_bind (run_equal hv hw) _

theorem Has.isMember (hl : Has context s l v) (hv : s.memory.IsData v) (hpresent : isAbsent v = false)
    (ha : Has context s a (.array items)) (hitems : s.memory.IsData (.array items)) :
    Has context s (.binary "in" l a) (.bool (items.any (holdSame s v))) ∧
      Has context s (.binary "not in" l a) (.bool !items.any (holdSame s v)) := by
  have hamong : isAmong v items context s = (.ok (items.any (holdSame s v)), s) :=
    run_isAmong hv.ends (Memory.ends_array.mp hitems.ends)
  constructor
  · rw [Has, hl.evaluate_binary ha (by decide) (by decide),
      applyBinary_isMembership hv hpresent (by decide)]
    exact run_bind hamong _
  · rw [Has, hl.evaluate_binary ha (by decide) (by decide),
      applyBinary_isMembership hv hpresent (by decide)]
    exact run_bind hamong _

theorem Has.arrays (ha : Has context s a (.array items)) {others : List Value}
    (hb : Has context s b (.array others)) :
    Has context s (.binary "+" a b) (.array (items ++ others)) := by
  rw [Has, ha.evaluate_binary hb (by decide) (by decide)]
  rfl

theorem Has.backward (ha : Has context s a (.array items)) {p : Node}
    (hp : Has context s p (.number (.int (-1)))) :
    Has context s (.member a (.slice none none (some p)) true) (.array items.reverse) := by
  obtain ⟨u, hu, hkind, hparts⟩ := ha.slice (.array items) .omitted .omitted (.int hp) (by decide)
  rw [Option.getD_some, Sequence.slice_backward] at hparts
  rwa [hparts.eq_array hkind] at hu

end Has

/-! ## Agreement -/

/-- What all comparisons of the values of two trees say, given whether the values hold the same. -/
structure Compared (context : Context) (s : State) (l r : Node) (v w : Value) (same : Bool) :
    Prop where
  equalTo : ∀ negate, Has context s (.test l negate (.name "equalto") [r]) (.bool (same != negate))
  /-- Where `==` answers, all others answer as well, and all of them agree. -/
  equal : ∀ value t, evaluate (.binary "==" l r) context s = (.ok value, t) →
    value = .bool same ∧ t = s ∧ Has context s (.binary "!=" l r) (.bool !same) ∧
      Has context s (.binary "in" l (.array [r])) (.bool same) ∧
      Has context s (.binary "not in" l (.array [r])) (.bool !same)
  apart : v.kindName ≠ w.kindName → same = false ∧ Has context s (.binary "!=" l r) (.bool true)

theorem Has.comparable (hl : Has context s l v) (hr : Has context s r w) (h : Comparable v w) :
    Has context s (.binary "==" l r) (.bool (holdSame s v w)) ∧
      Has context s (.binary "!=" l r) (.bool !holdSame s v w) := by
  rw [Has, Has, hl.evaluate_binary hr (by decide) (by decide),
    hl.evaluate_binary hr (by decide) (by decide)]
  exact ⟨congrFun₂ (congrArg (· >>= _) (h.compareEquality_eq s "==")) context s,
    congrFun₂ (congrArg (· >>= _) (h.compareEquality_eq s "!=")) context s⟩

theorem compared (htests : Test.equalto ∈ s.environment.inner.tests) (hv : s.memory.IsData v)
    (hw : s.memory.IsData w) (hl : Has context s l v) (hr : Has context s r w) :
    Compared context s l r v w (holdSame s v w) where
  equalTo := hl.equalTo hr hv.ends hw.ends htests
  equal value t hanswer := by
    have hcomparable : Comparable v w := by
      rw [hl.evaluate_binary hr (by decide) (by decide)] at hanswer
      obtain ⟨same, _, hsame, -⟩ := bind_eq_ok hanswer
      exact comparable_of_ok hv hw hsame
    obtain ⟨hequal, hunequal⟩ := hl.comparable hr hcomparable
    have hone : Has context s (.array [r]) (.array [w]) := .array (.cons hr .nil)
    have hdata : s.memory.IsData (.array [w]) := .array (by simpa using hw)
    have hmember := hl.isMember hv hcomparable.isAbsent_eq hone hdata
    rw [List.any_cons, List.any_nil, Bool.or_false] at hmember
    rw [Has, hanswer] at hequal
    cases hequal
    exact ⟨rfl, rfl, hunequal, hmember⟩
  apart hkind := by
    refine ⟨Bool.eq_false_iff.mpr (mt Memory.kindName_of_equal hkind), ?_⟩
    rw [Has, hl.evaluate_binary hr (by decide) (by decide)]
    exact congrFun₂ (congrArg (· >>= _) (compareEquality_of_apart hv hw hkind)) context s

/-- The test `equalto` says that the values of two trees are the same. -/
def IsEqualTo (context : Context) (s : State) (l r : Node) : Prop :=
  Has context s (.test l false (.name "equalto") [r]) (.bool true)

/-- The comparisons of all values that are built from texts, truth values, whole numbers and what is
absent by arrays and objects. -/
structure Comparisons (context : Context) (s : State) : Prop where
  agree : ∀ l r v w, s.memory.IsData v → s.memory.IsData w → Has context s l v → Has context s r w →
    ∃ same : Bool, (same ↔ s.memory.Same v w) ∧ Compared context s l r v w same
  reflexive : ∀ l v, s.memory.IsData v → Has context s l v → IsEqualTo context s l l
  symmetric : ∀ l r v w, s.memory.IsData v → s.memory.IsData w → Has context s l v →
    Has context s r w → IsEqualTo context s l r → IsEqualTo context s r l
  transitive : ∀ l r o v w x, s.memory.IsData v → s.memory.IsData w → s.memory.IsData x →
    Has context s l v → Has context s r w → Has context s o x →
    IsEqualTo context s l r → IsEqualTo context s r o → IsEqualTo context s l o
  /-- The order of the fields of objects makes no difference. -/
  reordered : ∀ l r kind a b, s.memory.IsData (.object kind a) → Has context s l (.object kind a) →
    Has context s r (.object kind b) → (s.memory.fields a).Perm (s.memory.fields b) →
    IsEqualTo context s l r
  /-- A value that is present is in an array just if it is the same as an item. It is in two arrays
  together just if it is in one of them, and in an array backward just if it is in the array. -/
  contained : ∀ l a b p v items others, isAbsent v = false → s.memory.IsData v →
    s.memory.IsData (.array items) → s.memory.IsData (.array others) → Has context s l v →
    Has context s a (.array items) → Has context s b (.array others) →
    Has context s p (.number (.int (-1))) →
    ∃ inItems inOthers : Bool, (inItems ↔ ∃ item ∈ items, s.memory.Same v item) ∧
      Has context s (.binary "in" l a) (.bool inItems) ∧
      Has context s (.binary "in" l b) (.bool inOthers) ∧
      Has context s (.binary "in" l (.binary "+" a b)) (.bool (inItems || inOthers)) ∧
      Has context s (.binary "in" l (.member a (.slice none none (some p)) true)) (.bool inItems)

theorem any_holdSame_iff (hv : s.memory.IsData v) (hitems : s.memory.IsData (.array items)) :
    items.any (holdSame s v) ↔ ∃ item ∈ items, s.memory.Same v item := by
  rw [List.any_eq_true]
  exact exists_congr fun item => and_congr_right fun hitem =>
    hv.equal_iff (hitems.items item hitem)

theorem isEqualTo_iff (htests : Test.equalto ∈ s.environment.inner.tests) (hv : s.memory.IsData v)
    (hw : s.memory.IsData w) (hl : Has context s l v) (hr : Has context s r w) :
    IsEqualTo context s l r ↔ s.memory.Same v w := by
  have hanswer := hl.equalTo hr hv.ends hw.ends htests false
  rw [← hv.equal_iff hw, IsEqualTo, Has, hanswer]
  simp [holdSame]

/-- In all states that have the test `equalto` all comparisons agree, and what they decide is an
equivalence. -/
theorem comparisons_agree (htests : Test.equalto ∈ s.environment.inner.tests) :
    Comparisons context s where
  agree l r v w hv hw hl hr := ⟨holdSame s v w, hv.equal_iff hw, compared htests hv hw hl hr⟩
  reflexive l v hv hl := (isEqualTo_iff htests hv hv hl hl).mpr hv.same_self
  symmetric l r v w hv hw hl hr h := by
    rw [isEqualTo_iff htests hv hw hl hr] at h
    exact (isEqualTo_iff htests hw hv hr hl).mpr h.symm
  transitive l r o v w x hv hw hx hl hr ho hlr hro := by
    rw [isEqualTo_iff htests hv hw hl hr] at hlr
    rw [isEqualTo_iff htests hw hx hr ho] at hro
    exact (isEqualTo_iff htests hv hx hl ho).mpr (hlr.trans hro)
  reordered l r kind a b ha hl hr hperm :=
    (isEqualTo_iff htests ha (ha.of_perm hperm) hl hr).mpr (ha.same_of_perm hperm)
  contained l a b p v items others hpresent hv hitems hothers hl ha hb hp := by
    have hboth : s.memory.IsData (.array (items ++ others)) :=
      .array (List.forall_mem_append.mpr ⟨hitems.items, hothers.items⟩)
    have hbackward : s.memory.IsData (.array items.reverse) :=
      .array fun item hitem => hitems.items item (List.mem_reverse.mp hitem)
    have hinBoth := (hl.isMember hv hpresent (ha.arrays hb) hboth).1
    have hinBackward := (hl.isMember hv hpresent (ha.backward hp) hbackward).1
    rw [List.any_append] at hinBoth
    rw [List.any_reverse] at hinBackward
    exact ⟨items.any (holdSame s v), others.any (holdSame s v), any_holdSame_iff hv hitems,
      (hl.isMember hv hpresent ha hitems).1, (hl.isMember hv hpresent hb hothers).1, hinBoth,
      hinBackward⟩

/-- Two variables hold objects with the same fields, which are arrays, in another order. -/
theorem comparisons_agree_on_objects :
    let context := Context.ofLibrary Host.stock [] false
    let one := Node.object [(.text "a", .array [.null]), (.text "b", .number (.int 1))]
    let other := Node.object [(.text "b", .number (.int 1)), (.text "a", .array [.null])]
    let s := (evaluateBlock [.set (.name "x") one, .set (.name "y") other] context .initial).2
    Test.equalto ∈ s.environment.inner.tests ∧ IsEqualTo context s (.name "x") (.name "y") := by
  intro context one other s
  have htests : Test.equalto ∈ s.environment.inner.tests := by decide
  have hfields : s.memory.fields 0 = [("a", .array [.null]), ("b", .number (.int 1))] := rfl
  have hdata : s.memory.IsData (.object .plain 0) := by
    refine .object .plain (by rw [hfields]; decide) ?_
    rw [hfields]
    simp [Memory.IsData.array, Memory.IsData.null, Memory.IsData.int]
  have hperm : (s.memory.fields 0).Perm (s.memory.fields 1) := .swap _ _ _
  exact ⟨htests, (comparisons_agree htests).reordered (.name "x") (.name "y") .plain 0 1 hdata
    (.name rfl) (.name rfl) hperm⟩

end TextTemplate.Eval
