import TextTemplate.Proofs.Eval.Scoping
import TextTemplate.Proofs.Matching.Filter
import TextTemplate.Proofs.Matching.Scope
import TextTemplate.Variables

/-!
# Computations with variables that go alike in two runs

Such a computation starts from environments that are alike, and unless it fails it ends in
environments that are. It may bind names, of which more is then known than before.
-/

namespace TextTemplate.Eval

open List (Forall₂)

variable {α β γ δ : Type} {w : Matching} {agreed : String → Prop} {R : α → β → Prop}
  {S : γ → δ → Prop} {bounds : List (List String)} {before between after : List String}

/-- The same fault, or answers that are related, in states that are alike. -/
inductive Matches (w : Matching) (agreed : String → Prop) (bounds : List (List String))
    (R : α → β → Prop) : Except Fault α × State → Except Fault β × State → Prop
  | ok {a : α} {b : β} {s s' : State} (h : R a b) (hmemory : Memory.Alike w s.memory s'.memory)
    (henvironment : Environment.Alike w agreed bounds s.environment s'.environment) :
    Matches w agreed bounds R (.ok a, s) (.ok b, s')
  | error (fault : Fault) (s s' : State) :
    Matches w agreed bounds R (.error fault, s) (.error fault, s')

/-- Two computations go alike, given which names are known to be bound before and after. -/
def Parallel (w : Matching) (agreed : String → Prop) (before after : List String)
    (R : α → β → Prop) (x : Eval α) (y : Eval β) : Prop :=
  ∀ context, Context.Uniform w context → ∀ (outer : List (List String)) (s s' : State),
    Memory.Alike w s.memory s'.memory →
      Environment.Alike w agreed (before :: outer) s.environment s'.environment →
        Matches w agreed (after :: outer) R (x context s) (y context s')

namespace Parallel

protected theorem pure {a : α} {b : β} (h : R a b) :
    Parallel w agreed before before R (Pure.pure a) (Pure.pure b) :=
  fun _ _ _ _ _ hmemory henvironment => .ok h hmemory henvironment

protected theorem fail (fault : Fault) :
    Parallel w agreed before after R (Eval.fail fault : Eval α) (Eval.fail fault : Eval β) :=
  fun _ _ _ s s' _ _ => .error fault s s'

protected theorem bind {x : Eval α} {y : Eval β} {f : α → Eval γ} {g : β → Eval δ}
    (hx : Parallel w agreed before between R x y)
    (hf : ∀ a b, R a b → Parallel w agreed between after S (f a) (g b)) :
    Parallel w agreed before after S (x >>= f) (y >>= g) := by
  intro context hcontext outer s s' hmemory henvironment
  have hmatch := hx context hcontext outer s s' hmemory henvironment
  show Matches w agreed (after :: outer) S (Eval.bind x f context s) (Eval.bind y g context s')
  simp only [Eval.bind]
  generalize x context s = result at hmatch
  generalize y context s' = result' at hmatch
  cases hmatch with
  | ok h hmemory henvironment => exact hf _ _ h context hcontext outer _ _ hmemory henvironment
  | error fault t t' => exact .error fault t t'

/-- Less may be known afterwards. -/
theorem weaken {x : Eval α} {y : Eval β} (h : Parallel w agreed before between R x y)
    (hsub : after ⊆ between) : Parallel w agreed before after R x y := by
  intro context hcontext outer s s' hmemory henvironment
  have hmatch := h context hcontext outer s s' hmemory henvironment
  generalize x context s = result at hmatch
  generalize y context s' = result' at hmatch
  cases hmatch with
  | ok h hmemory henvironment => exact .ok h hmemory (henvironment.weaken hsub)
  | error fault t t' => exact .error fault t t'

protected theorem ite {c : Prop} [Decidable c] {x x' : Eval α} {y y' : Eval β}
    (htrue : c → Parallel w agreed before after R x y)
    (hfalse : ¬c → Parallel w agreed before after R x' y') :
    Parallel w agreed before after R (if c then x else x') (if c then y else y') := by
  split
  case isTrue h => exact htrue h
  case isFalse h => exact hfalse h

/-- What goes alike in the memory and leaves the variables alone goes alike. -/
theorem of_alike {x : Eval α} {y : Eval β} (h : RunsAlike w R x y)
    (hx : Moves (fun _ => False) (fun _ => False) x)
    (hy : Moves (fun _ => False) (fun _ => False) y) :
    Parallel w agreed before before R x y := by
  intro context hcontext outer s s' hmemory henvironment
  obtain ⟨hagree, hafter⟩ := h context hcontext s s' hmemory
  have hkept : (x context s).2.environment = s.environment :=
    Environment.reach_eq_of_forall_not (hx context s) (fun _ => id) fun _ => id
  have hkept' : (y context s').2.environment = s'.environment :=
    Environment.reach_eq_of_forall_not (hy context s') (fun _ => id) fun _ => id
  generalize x context s = result at hagree hafter hkept
  generalize y context s' = result' at hagree hafter hkept'
  obtain ⟨outcome, t⟩ := result
  obtain ⟨outcome', t'⟩ := result'
  cases hagree with
  | ok h =>
    refine .ok h hafter ?_
    rw [hkept, hkept']
    exact henvironment
  | error fault => exact .error fault t t'

theorem of_works {x : Eval α} {y : Eval β} (h : RunsAlike w R x y) (hx : Works x) (hy : Works y) :
    Parallel w agreed before before R x y :=
  of_alike h (.of_works hx) (.of_works hy)

/-- What is bound in a scope of its own is not known afterwards. -/
theorem inNewScope {x : Eval α} {y : Eval β} (h : Parallel w agreed before after R x y) :
    Parallel w agreed before before R (inNewScope x) (inNewScope y) := by
  intro context hcontext outer s s' hmemory henvironment
  have hmatch := h context hcontext (before :: outer)
    { s with environment := s.environment.enter } { s' with environment := s'.environment.enter }
    hmemory henvironment.enter
  show Matches w agreed (before :: outer) R (Eval.inNewScope x context s)
    (Eval.inNewScope y context s')
  simp only [Eval.inNewScope]
  generalize x context { s with environment := s.environment.enter } = result at hmatch
  generalize y context { s' with environment := s'.environment.enter } = result' at hmatch
  cases hmatch with
  | ok h hmemory henvironment => exact .ok h hmemory henvironment.leave
  | error fault t t' => exact .error fault _ _

end Parallel

/-! ## Variables -/

theorem lookup_parallel {name : String} (h : agreed name ∨ name ∈ before) :
    Parallel w agreed before before (Value.Alike w) (ofEnvironment (·.lookup name))
      (ofEnvironment (·.lookup name)) :=
  fun _ _ _ _ _ hmemory henvironment => .ok (henvironment.lookup h) hmemory henvironment

theorem bindName_parallel (name : String) {value value' : Value} (h : Value.Alike w value value') :
    Parallel w agreed before (name :: before) Eq (bindName name value) (bindName name value') :=
  fun _ _ _ _ _ hmemory henvironment => .ok rfl hmemory (henvironment.bind name h)

theorem assignName_parallel (name : String) {value value' : Value}
    (h : Value.Alike w value value') :
    Parallel w agreed before (name :: before) Eq (assignName name value) (assignName name value') :=
  fun _ _ _ _ _ hmemory henvironment => .ok rfl hmemory (henvironment.assign name h)

theorem findTest_parallel (label : Option Label) :
    Parallel w agreed before before Eq (findTest label) (findTest label) := by
  unfold findTest
  split
  · refine Parallel.bind (R := Eq) (fun _ _ _ _ _ hmemory henvironment =>
      .ok henvironment.inner_tests hmemory henvironment) fun tests _ hsame => ?_
    subst hsame
    split
    · exact .pure rfl
    · exact .fail _
  · exact .fail _
  · exact .fail _

theorem failOfKind_parallel (fault : String → Fault) (node : Node) :
    Parallel w agreed before after R (failOfKind fault node) (failOfKind fault node) :=
  .ite (fun _ => .fail _) fun _ => .fail _

theorem contribution_parallel (statement : Node) {value value' : Value}
    (h : Value.Alike w value value') :
    Parallel w agreed before before Eq (contribution statement value)
      (contribution statement value') :=
  .of_alike (contribution_alike statement h) (contribution_moves _ _) (contribution_moves _ _)

/-! ## Loops -/

/-- The names among the targets of a loop. -/
abbrev targetNames (targets : List Node) : List String :=
  targets.filterMap fun
    | .name name => some name
    | _ => none

theorem bindNames_parallel {targets : List Node} {items items' : List Value}
    (h : Forall₂ (Value.Alike w) items items') (hlength : targets.length = items.length) :
    Parallel w agreed before (targetNames targets ++ before) Eq (bindNames targets items)
      (bindNames targets items') := by
  induction h generalizing targets before with
  | nil =>
    obtain rfl := List.length_eq_zero_iff.mp hlength
    exact .pure rfl
  | cons hitem _ ih =>
    obtain ⟨target, rest, rfl⟩ := List.exists_cons_of_length_eq_add_one hlength
    cases target
    case name name =>
      refine (bindName_parallel name hitem).bind fun _ _ _ => (ih ?_).weaken ?_
      · simpa using hlength
      · intro other
        simp only [targetNames, List.filterMap_cons, List.mem_append, List.mem_cons]
        tauto
    all_goals exact failOfKind_parallel _ _

theorem bindTarget_parallel (target : Node) {item item' : Value} (h : Value.Alike w item item') :
    Parallel w agreed ("loop" :: before) (Findings.loopNames target ++ before) Eq
      (bindTarget target item) (bindTarget target item') := by
  cases target
  case name name =>
    refine (bindName_parallel name h).weaken fun other => ?_
    simp only [Findings.loopNames, List.mem_append, List.mem_cons]
    tauto
  case tuple targets =>
    have hother : Parallel w agreed ("loop" :: before)
        (Findings.loopNames (.tuple targets) ++ before) (Eq (α := Unit))
        (fail (.cannotUnpack item.kindName)) (fail (.cannotUnpack item'.kindName)) := by
      rw [h.kindName]
      exact .fail _
    cases h with
    | array hitems =>
      simp only [bindTarget, hitems.length_eq]
      refine .ite (fun _ => .fail _) fun hfew => .ite (fun _ => .fail _) fun hmany => ?_
      refine (bindNames_parallel hitems ?_).weaken fun other => ?_
      · have := hitems.length_eq
        omega
      · simp only [Findings.loopNames, targetNames, List.mem_append, List.mem_cons]
        tauto
    | _ => exact hother
  all_goals exact failOfKind_parallel _ _

/-- Every round of a loop starts from what its targets bind and what was bound before the loop. -/
theorem loopFrom_parallel {target : Node} {x y : Eval String}
    (hbody : Parallel w agreed (Findings.loopNames target ++ before) after Eq x y)
    (hsub : before ⊆ after) (length index : Nat) {previous previous' : Value}
    (hprevious : Value.Alike w previous previous') {items items' : List Value}
    (hitems : Forall₂ (Value.Alike w) items items') (done : String) :
    Parallel w agreed before before Eq (loopFrom target x length index previous items done)
      (loopFrom target y length index previous' items' done) := by
  induction hitems generalizing index previous previous' done with
  | nil => exact .pure rfl
  | @cons item item' rest rest' hitem hrest ih =>
    have hnext : Value.Alike w (rest.head?.getD .undefined) (rest'.head?.getD .undefined) := by
      cases hrest with
      | nil => exact .undefined
      | cons hnext _ => exact hnext
    refine (Parallel.of_works
      (newObject_alike .plain (loopFields_alike length index hprevious hnext))
      (newLoop_adds _ _ _ _).works (newLoop_adds _ _ _ _).works).bind fun _ _ habout => ?_
    refine (bindName_parallel "loop" habout).bind fun _ _ _ => ?_
    refine (bindTarget_parallel target hitem).bind fun _ _ _ => ?_
    refine (hbody.weaken hsub).bind fun part _ hpart => ?_
    subst hpart
    exact ih _ hitem _

theorem loopOver_parallel {target : Node} {x y : Eval String}
    (hbody : Parallel w agreed (Findings.loopNames target ++ before) after Eq x y)
    (hsub : before ⊆ after) {iterable iterable' : Value} (h : Value.Alike w iterable iterable') :
    Parallel w agreed before before Eq (loopOver target x iterable)
      (loopOver target y iterable') := by
  have hother : Parallel w agreed before before (Eq (α := String))
      (fail (.notIterable iterable.kindName)) (fail (.notIterable iterable'.kindName)) := by
    rw [h.kindName]
    exact .fail _
  cases h with
  | array hitems =>
    simp only [loopOver, hitems.length_eq]
    exact loopFrom_parallel hbody hsub _ _ .undefined hitems _
  | _ => exact hother

end TextTemplate.Eval
