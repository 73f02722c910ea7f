import TextTemplate.Proofs.Matching.Parallel
import TextTemplate.Proofs.Variables.Survey

/-!
# Two runs of a template

Where two runs agree about every name that a survey reports, a template goes alike in both of them.
By induction on the tree: in an expression the names that are known to be bound stay the same, and a
statement makes known what the survey takes it to bind.
-/

namespace TextTemplate.Eval

open List (Forall₂)
open Node (Fits)
open Findings

/-- The runs agree about the names that are reported, and about those that are built in. -/
def Covers (agreed : String → Prop) (found : Findings) : Prop :=
  ∀ name, name ∈ builtinNames ∨ found.Reports name → agreed name

variable {w : Matching} {agreed : String → Prop} {found found' : Findings} {bound : List String}

theorem Covers.of_le (h : Covers agreed found') (hle : Le found found') : Covers agreed found :=
  fun name hname => h name (hname.imp_right hle.reports)

/-- What the arguments of a call come to. -/
structure AlikeArguments (w : Matching) (p q : List Value × List (Label × Value)) : Prop where
  positional : Forall₂ (Value.Alike w) p.1 q.1
  keywords : Forall₂ (Named (Value.Alike w)) p.2 q.2

/-! ## Expressions -/

theorem evaluateArguments_cons {arg : Node} (h : Fits .expression arg) (rest : List Node) :
    evaluateArguments (arg :: rest) = (do
      let value ← evaluate arg
      let (positional, keywords) ← evaluateArguments rest
      pure (value :: positional, keywords)) := by
  cases h <;> rfl

theorem evaluate_item {owner property : Node} (h : Fits .expression property) :
    evaluate (.member owner property true) = (do
      let object ← evaluate owner
      let property ← evaluate property
      member object property) := by
  cases h <;> rfl

mutual

theorem expression_parallel : ∀ (node : Node), Fits .expression node →
    ∀ (guarded : Bool) (found : Findings), Covers agreed (visit guarded node found) →
      found.bound = bound →
        Parallel w agreed bound bound (Value.Alike w) (evaluate node) (evaluate node)
  | .name name, _, guarded, found, hcovers, hbound => by
    refine lookup_parallel ?_
    rcases reports_use guarded name found with h | h
    · exact .inr (hbound ▸ h)
    · exact .inl (hcovers name h)
  | .number _, h, _, _, _, _ => by
    cases h with
    | number =>
      exact .of_works (ofNumber_alike (.int _)) (ofNumber_adds _).works
        (ofNumber_adds _).works
  | .text _, _, _, _, _, _ => .pure (.text _)
  | .bool _, _, _, _, _, _ => .pure (.bool _)
  | .null, _, _, _, _, _ => .pure .null
  | .array items, h, _, found, hcovers, hbound => by
    cases h with
    | array h =>
      exact (all_parallel items h found hcovers hbound).bind fun _ _ hitems => .pure (.array hitems)
  | .tuple items, h, _, found, hcovers, hbound => by
    cases h with
    | tuple _ h =>
      exact (all_parallel items h found hcovers hbound).bind fun _ _ hitems => .pure (.array hitems)
  | .object pairs, h, _, found, hcovers, hbound => by
    cases h with
    | object hkeys hvalues =>
      exact (pairs_parallel pairs hkeys hvalues found hcovers hbound).bind fun _ _ hfields =>
        .of_works (newLabelled_alike .plain hfields) (newLabelled_adds _ _).works
          (newLabelled_adds _ _).works
  | .ternary condition whenTrue whenFalse, h, _, found, hcovers, hbound => by
    cases h with
    | ternary hc ht hf =>
      have hafter := (hc.unbinding (.inl rfl) false found).trans hbound
      have hcondition := expression_parallel condition hc false found
        (hcovers.of_le ((le_visit _ _ _).trans (le_visit _ _ _))) hbound
      have htrue := expression_parallel whenTrue ht false _ (hcovers.of_le (le_visit _ _ _)) hafter
      have hfalse := expression_parallel whenFalse hf false _ hcovers
        ((ht.unbinding (.inl rfl) false _).trans hafter)
      refine hcondition.bind fun _ _ h => (Parallel.of_works (truth_alike h)
        (truth_adds _).works (truth_adds _).works).bind fun holds _ hholds => ?_
      subst hholds
      exact .ite (fun _ => htrue) fun _ => hfalse
  | .binary operator left right, h, _, found, hcovers, hbound => by
    cases h with
    | binary _ hl hr =>
      have hleft := expression_parallel left hl false found (hcovers.of_le (le_visit _ _ _)) hbound
      have hright := expression_parallel right hr false _ hcovers
        ((hl.unbinding (.inl rfl) false found).trans hbound)
      refine hleft.bind fun left left' h => ?_
      have htruth : Parallel w agreed bound bound Eq (truth left) (truth left') :=
        .of_works (truth_alike h) (truth_adds _).works (truth_adds _).works
      split
      · refine htruth.bind fun holds _ hholds => ?_
        subst hholds
        exact .ite (fun _ => hright) fun _ => .pure h
      · refine htruth.bind fun holds _ hholds => ?_
        subst hholds
        exact .ite (fun _ => .pure h) fun _ => hright
      · exact hright.bind fun _ _ h' => .of_works (applyBinary_alike operator h h')
          (applyBinary_adds _ _ _).works (applyBinary_adds _ _ _).works
  | .unary operator argument, h, _, found, hcovers, hbound => by
    cases h with
    | unary _ ha =>
      exact (expression_parallel argument ha false found hcovers hbound).bind fun _ _ h =>
        .of_works (applyUnary_alike operator h) (applyUnary_adds _ _).works
          (applyUnary_adds _ _).works
  | .test operand negate predicate args, h, _, found, hcovers, hbound => by
    cases h with
    | test ho _ ha =>
      have hoperand := expression_parallel operand ho _ found
        (hcovers.of_le (le_visitAll args _)) hbound
      have hargs := arguments_parallel args ha _ hcovers
        ((ho.unbinding (.inl rfl) _ found).trans hbound)
      refine hoperand.bind fun _ _ h => (findTest_parallel _).bind fun test _ htest => ?_
      subst htest
      refine hargs.bind fun _ _ hargs => ?_
      refine (Parallel.of_works (bundled_alike hargs.positional hargs.keywords)
        (bundled_adds _ _).works (bundled_adds _ _).works).bind fun _ _ hargs => ?_
      refine (Parallel.of_works (applyTest_alike test h hargs) (applyTest_adds _ _ _).works
        (applyTest_adds _ _ _).works).bind fun holds _ hholds => ?_
      subst hholds
      exact .pure (.bool _)
  | .filter operand applied, h, _, found, hcovers, hbound => by
    cases h with
    | filter ho _ =>
      exact (expression_parallel operand ho _ found hcovers hbound).bind fun _ _ h =>
        .of_works (applyFilter_alike _ h .nil) (applyFilter_adds _ _ _).works
          (applyFilter_adds _ _ _).works
    | @filterCall _ name args ho _ ha =>
      have hargs := arguments_parallel args ha found (hcovers.of_le (le_visit _ operand _)) hbound
      have hafter :=
        (bound_visitAll (fun arg hmem => (ha arg hmem).unbinding (.inr rfl)) found).trans hbound
      refine (expression_parallel operand ho _ _ hcovers hafter).bind fun _ _ h => ?_
      refine hargs.bind fun _ _ hargs => ?_
      refine (Parallel.of_works (bundled_alike hargs.positional hargs.keywords)
        (bundled_adds _ _).works (bundled_adds _ _).works).bind fun _ _ hargs => ?_
      exact .of_works (applyFilter_alike _ h hargs) (applyFilter_adds _ _ _).works
        (applyFilter_adds _ _ _).works
  | .member owner property computed, h, guarded, found, hcovers, hbound => by
    cases h with
    | member ho _ =>
      exact (expression_parallel owner ho guarded found hcovers hbound).bind fun _ _ h =>
        .of_works (memberByLabel_alike h _) (memberByLabel_adds _ _).works
          (memberByLabel_adds _ _).works
    | item ho hp =>
      have howner := expression_parallel owner ho guarded found
        (hcovers.of_le (le_visit false property _)) hbound
      have hproperty := expression_parallel property hp false _ hcovers
        ((ho.unbinding (.inl rfl) guarded found).trans hbound)
      rw [evaluate_item hp]
      exact howner.bind fun _ _ h => hproperty.bind fun _ _ h' =>
        .of_works (member_alike h h') (member_adds _ _).works (member_adds _ _).works
    | @slice _ start stop step ho hstart hstop hstep =>
      have hafter := (ho.unbinding (.inl rfl) guarded found).trans hbound
      have hafter' := (bound_visitPart
        (fun node hmem => (hstart node hmem).unbinding (.inl rfl)) _).trans hafter
      have hafter'' := (bound_visitPart
        (fun node hmem => (hstop node hmem).unbinding (.inl rfl)) _).trans hafter'
      have hcoversStop := hcovers.of_le (le_visitPart step _)
      have hcoversStart := hcoversStop.of_le (le_visitPart stop _)
      have howner := expression_parallel owner ho guarded found
        (hcoversStart.of_le (le_visitPart start _)) hbound
      have hfirst := bound_parallel start hstart _ hcoversStart hafter
      have hsecond := bound_parallel stop hstop _ hcoversStop hafter'
      have hthird := bound_parallel step hstep _ hcovers hafter''
      refine howner.bind fun sequence sequence' h => ?_
      rw [isSequence_eq h, h.kindName]
      refine .ite (fun _ => ?_) fun _ => .fail _
      refine hfirst.bind fun start _ hsame => hsecond.bind fun stop _ hsame' =>
        hthird.bind fun step _ hsame'' => ?_
      subst hsame hsame' hsame''
      exact .of_works (slice_alike h start stop step) (slice_adds _ _ _ _).works
        (slice_adds _ _ _ _).works
  | .call callee args, h, _, found, hcovers, hbound => by
    cases h with
    | call hc ha =>
      have hcallee := expression_parallel callee hc false found
        (hcovers.of_le (le_visitAll args _)) hbound
      have hargs := arguments_parallel args ha _ hcovers
        ((hc.unbinding (.inl rfl) false found).trans hbound)
      refine hargs.bind fun _ _ hargs => ?_
      refine (Parallel.of_works (bundled_alike hargs.positional hargs.keywords)
        (bundled_adds _ _).works (bundled_adds _ _).works).bind fun _ _ hargs => ?_
      exact hcallee.bind fun _ _ h => .of_works (callValue_alike h hargs)
        (callValue_adds _ _).works (callValue_adds _ _).works

theorem all_parallel : ∀ (items : List Node), (∀ item ∈ items, Fits .expression item) →
    ∀ found : Findings, Covers agreed (visitAll items found) → found.bound = bound →
      Parallel w agreed bound bound (Forall₂ (Value.Alike w)) (evaluateAll items)
        (evaluateAll items)
  | [], _, _, _, _ => .pure .nil
  | item :: rest, h, found, hcovers, hbound => by
    obtain ⟨hitem, hrest⟩ := List.forall_mem_cons.mp h
    have hfirst := expression_parallel item hitem false found
      (hcovers.of_le (le_visitAll rest _)) hbound
    have hothers := all_parallel rest hrest _ hcovers
      ((hitem.unbinding (.inl rfl) false found).trans hbound)
    exact hfirst.bind fun _ _ hvalue => hothers.bind fun _ _ hvalues =>
      .pure (.cons hvalue hvalues)

theorem arguments_parallel : ∀ (args : List Node), (∀ arg ∈ args, Fits .argument arg) →
    ∀ found : Findings, Covers agreed (visitAll args found) → found.bound = bound →
      Parallel w agreed bound bound (AlikeArguments w) (evaluateArguments args)
        (evaluateArguments args)
  | [], _, _, _, _ => .pure ⟨.nil, .nil⟩
  | arg :: rest, h, found, hcovers, hbound => by
    obtain ⟨harg, hrest⟩ := List.forall_mem_cons.mp h
    have hcoversArg := hcovers.of_le (le_visitAll rest _)
    have hothers := arguments_parallel rest hrest _ hcovers
      ((harg.unbinding (.inr rfl) false found).trans hbound)
    cases harg with
    | positional harg =>
      rw [evaluateArguments_cons harg]
      refine (expression_parallel arg harg false found hcoversArg hbound).bind fun _ _ hvalue => ?_
      exact hothers.bind fun _ _ hothers =>
        .pure ⟨.cons hvalue hothers.positional, hothers.keywords⟩
    | @keyword name value _ hv =>
      refine (expression_parallel value hv false found hcoversArg hbound).bind fun _ _ hvalue => ?_
      exact hothers.bind fun _ _ hothers =>
        .pure ⟨hothers.positional, .cons (.mk _ hvalue) hothers.keywords⟩

theorem pairs_parallel : ∀ (pairs : List (Node × Node)),
    (∀ pair ∈ pairs, Fits .expression pair.1) → (∀ pair ∈ pairs, Fits .expression pair.2) →
      ∀ found : Findings, Covers agreed (visitPairs pairs found) → found.bound = bound →
        Parallel w agreed bound bound (Forall₂ (Named (Value.Alike w))) (evaluatePairs pairs)
          (evaluatePairs pairs)
  | [], _, _, _, _, _ => .pure .nil
  | (key, value) :: rest, hkeys, hvalues, found, hcovers, hbound => by
    obtain ⟨hkey, hkeys⟩ := List.forall_mem_cons.mp hkeys
    obtain ⟨hvalue, hvalues⟩ := List.forall_mem_cons.mp hvalues
    have hbetween := (hkey.unbinding (.inl rfl) false found).trans hbound
    have hfirst := expression_parallel key hkey false found
      (hcovers.of_le ((le_visit _ _ _).trans (le_visitPairs rest _))) hbound
    have hsecond := expression_parallel value hvalue false _
      (hcovers.of_le (le_visitPairs rest _)) hbetween
    have hothers := pairs_parallel rest hkeys hvalues _ hcovers
      ((hvalue.unbinding (.inl rfl) false _).trans hbetween)
    refine hfirst.bind fun key key' halike => ?_
    have hother : Parallel w agreed bound bound (Forall₂ (Named (Value.Alike w)))
        (fail (.objectKey key.kindName)) (fail (.objectKey key'.kindName)) := by
      rw [halike.kindName]
      exact .fail _
    cases halike with
    | text name =>
      exact hsecond.bind fun _ _ hvalue => hothers.bind fun _ _ hfields =>
        .pure (.cons (.mk name hvalue) hfields)
    | _ => exact hother

theorem bound_parallel : ∀ (part : Option Node), (∀ node ∈ part, Fits .expression node) →
    ∀ found : Findings, Covers agreed (visitPart part found) → found.bound = bound →
      Parallel w agreed bound bound Eq (evaluateBound part) (evaluateBound part)
  | none, _, _, _, _ => .pure rfl
  | some node, h, found, hcovers, hbound =>
    (expression_parallel node (h node rfl) false found hcovers hbound).bind fun _ _ h =>
      .of_works (sliceBound_alike h) (sliceBound_adds _).works (sliceBound_adds _).works

end

/-! ## Statements -/

/-- Evaluating a statement goes alike where the runs agree about what a survey of it reports. -/
def GoesAlike (w : Matching) (agreed : String → Prop) (node : Node) : Prop :=
  ∀ found : Findings, Covers agreed (survey node found) →
    Parallel w agreed found.bound (survey node found).bound (Value.Alike w) (evaluate node)
      (evaluate node)

theorem block_parallel {body : List Node} (h : ∀ node ∈ body, GoesAlike w agreed node)
    (found : Findings) (hcovers : Covers agreed (surveyAll body found)) :
    Parallel w agreed found.bound (surveyAll body found).bound Eq (evaluateBlock body)
      (evaluateBlock body) := by
  induction body generalizing found with
  | nil => exact .pure rfl
  | cons statement rest ih =>
    obtain ⟨hstatement, hrest⟩ := List.forall_mem_cons.mp h
    have hfirst := hstatement found (hcovers.of_le (le_surveyAll rest _))
    refine hfirst.bind fun _ _ hvalue => ?_
    refine (contribution_parallel statement hvalue).bind fun text _ htext => ?_
    refine (ih hrest _ hcovers).bind fun texts _ htexts => ?_
    subst htext htexts
    split
    · exact .pure rfl
    · exact .fail _

/-- A statement whose value is the text of a block. -/
theorem text_parallel {x y : Eval String} {before after : List String}
    (h : Parallel w agreed before after Eq x y) :
    Parallel w agreed before after (Value.Alike w) (x >>= fun text => pure (.text text))
      (y >>= fun text => pure (.text text)) :=
  h.bind fun _ _ htext => .pure (htext ▸ .text _)

theorem evaluate_set_item (owner property value : Node) :
    evaluate (.set (.member owner property true) value) = (do
      let _ ← evaluate value
      failOfKind .invalidTarget (.member owner property true)) := by
  cases property <;> rfl

theorem set_goesAlike {target value : Node} (ht : Fits .expression target)
    (hvalue : GoesAlike w agreed value) : GoesAlike w agreed (.set target value) := by
  intro found hcovers
  have hbound := ht.unbinding (.inl rfl) false (survey value found)
  cases ht
  case name name _ =>
    exact (hvalue found hcovers).bind fun _ _ h =>
      (assignName_parallel name h).bind fun _ _ _ => .pure .null
  case member owner name ho hn =>
    have howner := expression_parallel (w := w) owner ho false _ hcovers rfl
    refine ((hvalue found (hcovers.of_le (le_visit _ _ _))).bind fun _ _ h => howner.bind
      fun _ _ htarget => ?_).weaken fun _ hname => hbound ▸ hname
    exact (Parallel.of_works (assignField_alike htarget name h)
      (assignField_works _ _ _) (assignField_works _ _ _)).bind fun _ _ _ => .pure .null
  case item | slice =>
    rw [evaluate_set_item]
    exact (hvalue found (hcovers.of_le (le_visit _ _ _))).bind fun _ _ _ => failOfKind_parallel _ _
  all_goals
    exact (hvalue found (hcovers.of_le (le_visit _ _ _))).bind fun _ _ _ => failOfKind_parallel _ _

theorem branch_goesAlike {condition : Node} {body alternate : List Node}
    (hc : Fits .expression condition) (hbody : ∀ node ∈ body, GoesAlike w agreed node)
    (halternate : ∀ node ∈ alternate, GoesAlike w agreed node) :
    GoesAlike w agreed (.branch condition body alternate) := by
  intro found hcovers
  let first := surveyAll body (visit false condition found)
  let second := surveyAll alternate { first with bound := (visit false condition found).bound }
  have hle := le_surveyAll alternate { first with bound := (visit false condition found).bound }
  have hcoversSecond : Covers agreed second := hcovers
  have hcoversFirst : Covers agreed first :=
    hcoversSecond.of_le ⟨hle.required, hle.guarded⟩
  have hbound := hc.unbinding (.inl rfl) false found
  have hcondition := expression_parallel (w := w) condition hc false found
    (hcoversFirst.of_le (le_surveyAll body _)) hbound.symm
  have hfirst : Parallel w agreed (visit false condition found).bound
      (first.bound.filter second.bound.contains) Eq (evaluateBlock body) (evaluateBlock body) :=
    (block_parallel hbody _ hcoversFirst).weaken (List.filter_subset_self _)
  have hsecond : Parallel w agreed (visit false condition found).bound
      (first.bound.filter second.bound.contains) Eq (evaluateBlock alternate)
      (evaluateBlock alternate) :=
    (block_parallel halternate { first with bound := _ } hcoversSecond).weaken fun _ hname =>
      List.contains_iff_mem.mp (List.mem_filter.mp hname).2
  rw [← hbound]
  refine hcondition.bind fun _ _ h => (Parallel.of_works (truth_alike h)
    (truth_adds _).works (truth_adds _).works).bind fun holds _ hholds => ?_
  subst hholds
  exact .ite (fun _ => text_parallel hfirst) fun _ => text_parallel hsecond

theorem loop_goesAlike {target iterable : Node} {body : List Node}
    (hi : Fits .expression iterable) (hfits : ∀ node ∈ body, Fits .statement node)
    (hbody : ∀ node ∈ body, GoesAlike w agreed node) :
    GoesAlike w agreed (.loop target iterable body) := by
  intro found hcovers
  let inside : Findings :=
    { visit false iterable found with
      bound := loopNames target ++ (visit false iterable found).bound }
  have hle := le_surveyAll body inside
  have hcoversBody : Covers agreed (surveyAll body inside) := hcovers
  have hbound := hi.unbinding (.inl rfl) false found
  have hiterable := expression_parallel (w := w) iterable hi false found
    (hcoversBody.of_le ⟨hle.required, hle.guarded⟩) hbound.symm
  have hsub : (visit false iterable found).bound ⊆ (surveyAll body inside).bound := fun _ hname =>
    bound_subset_surveyAll (fun node hmem => (hfits node hmem).bound_subset_survey (.inr rfl))
      inside (List.mem_append_right _ hname)
  have hrounds := block_parallel hbody inside hcoversBody
  rw [← hbound]
  exact .inNewScope (hiterable.bind fun _ _ h => text_parallel (loopOver_parallel hrounds hsub h))

theorem goesAlike_of_fits {place : Node.Place} {node : Node} (h : Fits place node)
    (hplace : place = .assignment ∨ place = .statement) : GoesAlike w agreed node := by
  induction h with
  | value h =>
    intro found hcovers
    rw [h.survey_eq_visit] at hcovers ⊢
    rw [h.unbinding (.inl rfl)]
    exact expression_parallel _ h false found hcovers rfl
  | assign ht _ _ ih => exact set_goesAlike ht (ih (.inl rfl))
  | output _ ih => exact ih (.inl rfl)
  | branch hc _ _ _ ihb iha =>
    exact branch_goesAlike hc (fun node hmem => ihb node hmem (.inr rfl))
      fun node hmem => iha node hmem (.inr rfl)
  | loop _ _ hi hb _ _ ihb => exact loop_goesAlike hi hb fun node hmem => ihb node hmem (.inr rfl)
  | _ => rcases hplace with h | h <;> cases h

end TextTemplate.Eval
