import TextTemplate.Host.Stock
import TextTemplate.Proofs.Eval.Arguments
import TextTemplate.Proofs.Syntax.Parts
import TextTemplate.Proofs.Variables.Soundness

/-!
# What a guard makes of a variable that is not there

The search takes a name for optional if it stands under guards only, with any number of members
behind it. A guard stands in for a name that is not bound. It does nothing for a member of it, which
cannot be read.
-/

namespace TextTemplate

/-- A guard around an operand: a test whether it is there, or a filter that stands in for it. -/
inductive Guard
  | test (negate : Bool) (name : String) (args : List Node)
  | filter (name : String)
  | filterCall (name : String) (args : List Node)

namespace Guard

def node (operand : Node) : Guard → Node
  | test negate name args => .test operand negate (.name name) args
  | filter name => .filter operand (.name name)
  | filterCall name args => .filter operand (.call (.name name) args)

/-- The search knows the guard by its name. -/
def IsKnown : Guard → Prop
  | test _ name _ => name ∈ guardTests
  | filter name | filterCall name _ => name ∈ guardFilters

/-- The guard is the one that templates find: the tests are all there, and no filter has been
registered under the name of the filter. -/
def IsStandard (filters : Fields HostFunction) (tests : List Test) : Guard → Prop
  | test _ _ _ => tests = Test.all
  | filter name | filterCall name _ => filters.get? name = none

def arguments : Guard → List Node
  | test _ _ args | filterCall _ args => args
  | filter _ => []

/-- What the guard says of a value that is not there: a test its truth value, a filter the value
that is to stand in. -/
def answer (arguments : Eval.Arguments) : Guard → Value
  | test negate name _ => .bool ((name == "undefined") != negate)
  | filter _ | filterCall _ _ =>
    Eval.pickArgument arguments.positional arguments.keywords 0 "default_value" (.text "")

end Guard

/-- A name with a number of members behind it. -/
inductive Accesses (name : String) : Nat → Node → Prop
  | name : Accesses name 0 (.name name)
  | dotted {n : Nat} {object : Node} (key : String) (h : Accesses name n object) :
    Accesses name (n + 1) (.member object (.name key) false)
  | bracketed {n : Nat} {object : Node} (key : String) (h : Accesses name n object) :
    Accesses name (n + 1) (.member object (.text key) true)

/-- The name at the bottom of a chain of members. -/
def Node.root? : Node → Option String
  | .name s => some s
  | .member owner _ _ => owner.root?
  | _ => none

/-! ## Where guarded names come from -/

namespace Findings

variable {name : String} {guarded : Bool} {found found' : Findings} {parts parts' : List Node}

/-- Among some trees is a guard around a chain of members with the name at the bottom. -/
def GuardedIn (name : String) (parts : List Node) : Prop :=
  ∃ guard : Guard, ∃ operand : Node,
    guard.IsKnown ∧ guard.node operand ∈ parts ∧ operand.root? = some name

theorem GuardedIn.mono (h : GuardedIn name parts) (hsub : parts ⊆ parts') :
    GuardedIn name parts' := by
  obtain ⟨guard, operand, hknown, hmem, hroot⟩ := h
  exact ⟨guard, operand, hknown, hsub hmem, hroot⟩

/-- A name was found under a guard before, or it is under one in some trees. -/
def Sourced (name : String) (found : Findings) (parts : List Node) : Prop :=
  name ∈ found.guarded ∨ GuardedIn name parts

theorem Sourced.mono (h : Sourced name found parts) (hsub : parts ⊆ parts') :
    Sourced name found parts' := h.imp_right (·.mono hsub)

/-- One search after another. -/
theorem Sourced.after (h : Sourced name found' parts')
    (hbefore : name ∈ found'.guarded → Sourced name found parts) :
    Sourced name found (parts ++ parts') := by
  rcases h with hfound | hparts
  · exact (hbefore hfound).mono (List.subset_append_left _ _)
  · exact .inr (hparts.mono (List.subset_append_right _ _))

/-- Where a name that the search finds under guards comes from: what was found before, a guard in
the tree, or the tree itself. -/
def Accounted (name : String) (node : Node) : Prop :=
  ∀ guarded found, name ∈ (visit guarded node found).guarded →
    Sourced name found node.parts ∨ guarded = true ∧ node.root? = some name

/-- The tree itself is no source where it stands under no guard. -/
theorem Accounted.sourced {node : Node} (h : Accounted name node)
    (hmem : name ∈ (visit false node found).guarded) : Sourced name found node.parts :=
  (h false found hmem).resolve_right fun ⟨hfalse, _⟩ => Bool.false_ne_true hfalse

theorem sourced_visitAll {nodes : List Node} (h : ∀ node ∈ nodes, Accounted name node)
    (hmem : name ∈ (visitAll nodes found).guarded) :
    Sourced name found (Node.partsOfAll nodes) := by
  induction nodes generalizing found with
  | nil => exact .inl hmem
  | cons node rest ih =>
    obtain ⟨hnode, hrest⟩ := List.forall_mem_cons.mp h
    exact (ih hrest hmem).after hnode.sourced

theorem sourced_visitPairs {pairs : List (Node × Node)}
    (hkeys : ∀ pair ∈ pairs, Accounted name pair.1)
    (hvalues : ∀ pair ∈ pairs, Accounted name pair.2)
    (hmem : name ∈ (visitPairs pairs found).guarded) :
    Sourced name found (Node.partsOfPairs pairs) := by
  induction pairs generalizing found with
  | nil => exact .inl hmem
  | cons pair rest ih =>
    obtain ⟨hkey, hkeys⟩ := List.forall_mem_cons.mp hkeys
    obtain ⟨hvalue, hvalues⟩ := List.forall_mem_cons.mp hvalues
    exact (ih hkeys hvalues hmem).after fun hpair => (hvalue.sourced hpair).after hkey.sourced

theorem sourced_visitPart {part : Option Node} (h : ∀ node ∈ part, Accounted name node)
    (hmem : name ∈ (visitPart part found).guarded) :
    Sourced name found (Node.partsOfPart part) := by
  cases part with
  | none => exact .inl hmem
  | some node => exact (h node rfl).sourced hmem

/-- A name that an operand brings in is under the guard, if the search knows it. -/
theorem sourced_operand (guard : Guard) {operand : Node} (hoperand : Accounted name operand)
    (hparts : operand.parts ⊆ (guard.node operand).parts) {known : Bool}
    (hknown : known = true → guard.IsKnown)
    (hmem : name ∈ (visit known operand found).guarded) :
    Sourced name found (guard.node operand).parts := by
  rcases hoperand known found hmem with hsourced | ⟨hguarded, hroot⟩
  · exact hsourced.mono hparts
  · exact .inr ⟨guard, operand, hknown hguarded, Node.mem_parts_self _, hroot⟩

end Findings

namespace Node.Fits

open Findings

/-- The search accounts for what it finds under guards. -/
theorem accounted {place : Place} {node : Node} (h : Fits place node) (name : String) :
    Accounted name node := by
  induction h with
  | number | text | bool | null => exact fun _ _ hmem => .inl (.inl hmem)
  | name =>
    rename_i s _
    intro guarded found hmem
    rw [visit, use] at hmem
    split at hmem
    · exact .inl (.inl hmem)
    · split at hmem
      · rename_i hguarded
        rcases List.mem_cons.mp hmem with rfl | hmem
        · exact .inr ⟨hguarded, rfl⟩
        · exact .inl (.inl hmem)
      · exact .inl (.inl hmem)
  | array _ ih =>
    exact fun _ _ hmem => .inl ((sourced_visitAll ih hmem).mono (List.subset_cons_self _ _))
  | tuple _ _ ih =>
    exact fun _ _ hmem => .inl ((sourced_visitAll ih hmem).mono (List.subset_cons_self _ _))
  | object _ _ ihkeys ihvalues =>
    exact fun _ _ hmem =>
      .inl ((sourced_visitPairs ihkeys ihvalues hmem).mono (List.subset_cons_self _ _))
  | ternary _ _ _ ihc iht ihf =>
    intro _ found hmem
    have hsourced := (ihf.sourced hmem).after fun hmem => (iht.sourced hmem).after ihc.sourced
    exact .inl (hsourced.mono (by simp [Node.parts]))
  | binary _ _ _ ihl ihr =>
    intro _ found hmem
    exact .inl (((ihr.sourced hmem).after ihl.sourced).mono (List.subset_cons_self _ _))
  | unary _ _ ih =>
    exact fun _ _ hmem => .inl ((ih.sourced hmem).mono (List.subset_cons_self _ _))
  | test _ _ _ iho iha =>
    rename_i operand negate test args _ _ _
    intro _ found hmem
    have hsourced := (sourced_visitAll iha hmem).after <|
      sourced_operand (.test negate test args) iho (by simp [Guard.node, Node.parts])
        fun h => List.contains_iff_mem.mp h
    refine .inl (hsourced.mono fun part hpart => ?_)
    simp only [Guard.node, Node.parts, List.mem_append, List.mem_cons] at hpart ⊢
    tauto
  | filter _ _ ih =>
    rename_i operand filter _ _
    exact fun _ _ hmem => .inl (sourced_operand (.filter filter) ih
      (by simp [Guard.node, Node.parts]) (fun h => List.contains_iff_mem.mp h) hmem)
  | filterCall _ _ _ iho iha =>
    rename_i operand filter args _ _ _
    intro _ found hmem
    have hoperand := sourced_operand (.filterCall filter args) iho
      (by simp [Guard.node, Node.parts]) (fun h => List.contains_iff_mem.mp h) hmem
    refine .inl ((hoperand.after (sourced_visitAll iha)).mono fun part hpart => ?_)
    simp only [Guard.node, Node.parts, List.mem_append, List.mem_cons] at hpart ⊢
    tauto
  | member _ _ ih =>
    intro guarded found hmem
    exact (ih guarded found hmem).imp_left (·.mono (by simp [Node.parts]))
  | item _ _ iho ihp =>
    intro guarded found hmem
    rcases ihp.sourced hmem with hmem | hparts
    · exact (iho guarded found hmem).imp_left (·.mono (by simp [Node.parts]))
    · exact .inl (.inr (hparts.mono (by simp [Node.parts])))
  | slice _ _ _ _ iho ihstart ihstop ihstep =>
    intro guarded found hmem
    have hbounds := (sourced_visitPart ihstep hmem).after fun hmem =>
      (sourced_visitPart ihstop hmem).after (sourced_visitPart ihstart)
    rcases hbounds with hmem | hparts
    · exact (iho guarded found hmem).imp_left (·.mono (by simp [Node.parts]))
    · refine .inl (.inr (hparts.mono fun part hpart => ?_))
      simp only [Node.parts, List.mem_append, List.mem_cons] at hpart ⊢
      tauto
  | call _ _ ihc iha =>
    intro _ found hmem
    exact .inl (((sourced_visitAll iha hmem).after ihc.sourced).mono (List.subset_cons_self _ _))
  | positional _ ih => exact ih
  | keyword _ _ ih =>
    exact fun _ _ hmem => .inl ((ih.sourced hmem).mono (by simp [Node.parts]))
  | value _ ih => exact ih
  | assign _ _ iht ihv =>
    -- A target that is a name is bound and not visited.
    rename_i target value _ _
    intro guarded found hmem
    have hvalue : name ∈ (visit false value found).guarded →
        Sourced name found (Node.set target value).parts := fun hmem =>
      (ihv.sourced hmem).mono (by simp [Node.parts])
    have htarget : target.parts ⊆ (Node.set target value).parts := by simp [Node.parts]
    refine .inl ?_
    cases target
    case name => exact hvalue hmem
    all_goals
      rcases iht.sourced hmem with hmem | hparts
      · exact hvalue hmem
      · exact .inr (hparts.mono htarget)
  | output _ ih => exact ih
  | branch _ _ _ ihc ihb iha =>
    intro _ found hmem
    have hsourced := (sourced_visitAll iha hmem).after fun hmem =>
      (sourced_visitAll ihb hmem).after ihc.sourced
    exact .inl (hsourced.mono (by simp [Node.parts]))
  | loop _ _ _ _ iht ihi ihb =>
    intro _ found hmem
    have hsourced := (sourced_visitAll ihb hmem).after ihi.sourced
    exact .inl (hsourced.mono (by simp [Node.parts]))

end Node.Fits

namespace Eval

variable {context : Context} {s : State} {name : String} {n : Nat} {operand : Node}

/-- A name that is not bound evaluates, but no member of it does. -/
theorem evaluate_accesses (h : Accesses name n operand)
    (hunbound : s.environment.lookup? name = none) :
    evaluate operand context s =
      if n = 0 then (.ok .undefined, s)
      else (.error (.cannotAccess "UndefinedValue" "StringValue"), s) := by
  induction h with
  | name =>
    show (Except.ok (s.environment.lookup name), s) = _
    rw [Environment.lookup, hunbound]
    rfl
  | @dotted n object key _ ih =>
    have hmember : evaluate (.member object (.name key) false) =
        (evaluate object >>= fun object => memberByLabel object (some (.text key))) := rfl
    rw [hmember, if_neg (Nat.succ_ne_zero n)]
    split at ih
    · rw [run_bind ih]
      rfl
    · exact run_bind_error ih _
  | @bracketed n object key _ ih =>
    have hmember : evaluate (.member object (.text key) true) =
        (evaluate object >>= fun object => evaluate (.text key) >>= fun property =>
          member object property) := rfl
    rw [hmember, if_neg (Nat.succ_ne_zero n)]
    split at ih
    · rw [run_bind ih]
      rfl
    · exact run_bind_error ih _

theorem findTest_of_guard (context : Context) {test : String} (htest : test ∈ guardTests)
    (htests : s.environment.inner.tests = Test.all) :
    ∃ found, findTest (some (.text test)) context s = (.ok found, s) ∧
      ∀ args t, applyTest found .undefined args context t = (.ok (test == "undefined"), t) := by
  have hfind (found : Test) (h : Test.all.find? (·.name == test) = some found) :
      findTest (some (.text test)) context s = (.ok found, s) := by
    have htable : ofEnvironment (·.inner.tests) context s = (.ok Test.all, s) :=
      congrArg (fun tests => (Except.ok tests, s)) htests
    rw [findTest, run_bind htable, h]
    rfl
  simp only [guardTests, List.mem_cons, List.not_mem_nil, or_false] at htest
  rcases htest with rfl | rfl | rfl
  · exact ⟨.defined, hfind _ rfl, fun _ _ => rfl⟩
  · exact ⟨.undefined, hfind _ rfl, fun _ _ => rfl⟩
  · exact ⟨.none, hfind _ rfl, fun _ _ => rfl⟩

theorem run_applyFilter_of_guard {filter : String} (hknown : filter ∈ guardFilters)
    (hbuiltin : context.filters.get? filter = none) {args : List Value} {arguments : Arguments}
    (hsplit : splitArguments args context s = (.ok arguments, s)) :
    applyFilter filter .undefined args context s =
      (.ok (pickArgument arguments.positional arguments.keywords 0 "default_value" (.text "")),
        s) := by
  have hcontext : Eval.context context s = (.ok context, s) := rfl
  rw [applyFilter, run_bind hsplit, run_bind hcontext, hbuiltin]
  simp only [guardFilters, List.mem_cons, List.not_mem_nil, or_false] at hknown
  rcases hknown with rfl | rfl
  · rfl
  · rfl

end Eval

namespace Guard

open Eval

/-- A guard answers for a name that is not bound when its arguments can be evaluated. -/
theorem evaluate_of_unbound {guard : Guard} (hknown : guard.IsKnown) {name : String}
    {context : Context} {s t : State} (hunbound : s.environment.lookup? name = none)
    (hstandard : guard.IsStandard context.filters s.environment.inner.tests)
    {positional : List Value}
    {keywords : List (Label × Value)}
    (hargs : evaluateArguments guard.arguments context s = (.ok (positional, keywords), t)) :
    ∃ arguments t',
      evaluate (guard.node (.name name)) context s =
        (.ok (guard.answer arguments), t') ∧
      ((∀ value ∈ positional.getLast?, value.isBundle = false) →
        arguments = Arguments.written positional keywords) := by
  have hoperand : evaluate (.name name) context s = (.ok .undefined, s) :=
    evaluate_accesses .name hunbound
  obtain ⟨args, t', arguments, hbundled, hsplit, -, hwritten⟩ :=
    run_bundled positional keywords context t
  refine ⟨arguments, t', ?_, hwritten⟩
  cases guard with
  | test negate test args =>
    obtain ⟨found, hfind, happly⟩ := findTest_of_guard context hknown hstandard
    have hnode : evaluate (node (.name name) (.test negate test args)) =
        (evaluate (.name name) >>= fun operand => findTest (some (.text test)) >>= fun found =>
          evaluateArguments args >>= fun evaluated => bundled evaluated.1 evaluated.2 >>=
            fun args => applyTest found operand args >>= fun holds =>
              pure (.bool (holds != negate))) := rfl
    have hargs : evaluateArguments args context s = (.ok (positional, keywords), t) := hargs
    rw [hnode, run_bind hoperand, run_bind hfind, run_bind hargs, run_bind hbundled,
      run_bind (happly _ t')]
    rfl
  | filter filter =>
    cases hargs
    cases hbundled
    have hnode : evaluate (node (.name name) (.filter filter)) =
        (evaluate (.name name) >>= fun operand => applyFilter filter operand []) := rfl
    rw [hnode, run_bind hoperand]
    exact run_applyFilter_of_guard hknown hstandard hsplit
  | filterCall filter args =>
    have hnode : evaluate (node (.name name) (.filterCall filter args)) =
        (evaluate (.name name) >>= fun operand => evaluateArguments args >>= fun evaluated =>
          bundled evaluated.1 evaluated.2 >>= fun args => applyFilter filter operand args) := rfl
    have hargs : evaluateArguments args context s = (.ok (positional, keywords), t) := hargs
    rw [hnode, run_bind hoperand, run_bind hargs, run_bind hbundled]
    exact run_applyFilter_of_guard hknown hstandard hsplit

/-- A guard fails as its operand does. -/
theorem evaluate_of_error (guard : Guard) {operand : Node} {context : Context} {s t : State}
    {fault : Fault} (h : evaluate operand context s = (.error fault, t)) :
    evaluate (guard.node operand) context s = (.error fault, t) := by
  cases guard with
  | test negate test args => exact run_bind_error h _
  | filter filter => exact run_bind_error h _
  | filterCall filter args => exact run_bind_error h _

end Guard

theorem mem_guarded_of_optional {program : Node} {name : String}
    (h : name ∈ (findVariables program).optional) :
    name ∈ (Findings.visit false program .empty).guarded := by
  simp only [findVariables, TemplateVariables.ofFindings, sortedTexts, List.mem_mergeSort,
    List.mem_eraseDups] at h
  exact List.mem_of_mem_filter h

/-- A name that is taken for optional stands under a guard. Where it is not bound, a guard around
the name itself answers as soon as its arguments can be evaluated: a test with its truth value, a
filter with its fallback. A guard around a member of it always fails. -/
theorem evaluate_guard_of_optional {trimming : Source.Trimming} {source : String} {program : Node}
    (hcompile : compile trimming source = .ok program) {name : String}
    (hoptional : name ∈ (findVariables program).optional) :
    Findings.GuardedIn name program.parts ∧
    ∀ (guard : Guard) (operand : Node) (n : Nat), guard.IsKnown →
      guard.node operand ∈ program.parts → Accesses name n operand →
      ∀ (context : Context) (s : State), s.environment.lookup? name = none →
        (n = 0 → guard.IsStandard context.filters s.environment.inner.tests →
          ∀ positional keywords t,
            Eval.evaluateArguments guard.arguments context s = (.ok (positional, keywords), t) →
            ∃ arguments t',
              Eval.evaluate (guard.node operand) context s =
                (.ok (guard.answer arguments), t') ∧
              ((∀ value ∈ positional.getLast?, value.isBundle = false) →
                arguments = Eval.Arguments.written positional keywords)) ∧
        (n ≠ 0 → Eval.evaluate (guard.node operand) context s =
          (.error (.cannotAccess "UndefinedValue" "StringValue"), s)) := by
  have htemplate := isTemplate_of_compile hcompile
  refine ⟨?_, fun guard operand n hknown _ haccesses context s hunbound => ⟨?_, ?_⟩⟩
  · obtain ⟨body, rfl⟩ : ∃ body, program = .program body := by
      cases program with
      | program body => exact ⟨body, rfl⟩
      | _ => exact htemplate.elim
    have hsourced := Findings.sourced_visitAll
      (fun node hmem => (htemplate node hmem).accounted name) (mem_guarded_of_optional hoptional)
    rcases hsourced with hnone | hguarded
    · cases hnone
    · exact hguarded.mono (List.subset_cons_self _ _)
  · rintro rfl hstandard positional keywords t hargs
    cases haccesses
    exact guard.evaluate_of_unbound hknown hunbound hstandard hargs
  · intro hn
    refine guard.evaluate_of_error ?_
    rw [Eval.evaluate_accesses haccesses hunbound, if_neg hn]

/-- A name under two guards, with and without a member behind it. Where it is not bound, the first
guard says that it is not there, and the second one fails. -/
theorem evaluate_guard_of_optional_member :
    let source := "\x7b\x7bx is defined\x7d\x7d\x7b\x7bx.k is defined\x7d\x7d"
    let bare : Guard := .test false "defined" []
    let program : Node :=
      .program [bare.node (.name "x"), bare.node (.member (.name "x") (.name "k") false)]
    let context := Context.ofLibrary Host.stock [] false
    let s := Eval.builtinState .initial
    compile {} source = .ok program ∧ "x" ∈ (findVariables program).optional ∧
      s.environment.lookup? "x" = none ∧
      (∃ t, Eval.evaluate (bare.node (.name "x")) context s = (.ok (.bool false), t)) ∧
      Eval.evaluate (bare.node (.member (.name "x") (.name "k") false)) context s =
        (.error (.cannotAccess "UndefinedValue" "StringValue"), s) := by
  intro source bare program context s
  have hprepared : Source.prepareChars {}
      ['{', '{', 'x', ' ', 'i', 's', ' ', 'd', 'e', 'f', 'i', 'n', 'e', 'd', '}', '}', '{', '{',
        'x', '.', 'k', ' ', 'i', 's', ' ', 'd', 'e', 'f', 'i', 'n', 'e', 'd', '}', '}'] =
      ['{', '{', 'x', ' ', 'i', 's', ' ', 'd', 'e', 'f', 'i', 'n', 'e', 'd', '}', '}', '{', '{',
        'x', '.', 'k', ' ', 'i', 's', ' ', 'd', 'e', 'f', 'i', 'n', 'e', 'd', '}', '}'] := by
    decide +kernel
  have hcompile : compile {} source = .ok program :=
    compile_of_analyse (analyse_of_spells (.chars _) hprepared rfl rfl)
  have hoptional : "x" ∈ (findVariables program).optional := by decide +kernel
  obtain ⟨-, hguards⟩ := evaluate_guard_of_optional hcompile hoptional
  have hknown : bare.IsKnown := List.mem_cons_self
  have hunbound : s.environment.lookup? "x" = none := by rfl
  obtain ⟨hbare, -⟩ := hguards bare (.name "x") 0 hknown (by simp [program, Node.parts,
    Node.partsOfAll, bare, Guard.node]) .name context s hunbound
  obtain ⟨-, hmember⟩ := hguards bare _ 1 hknown (by simp [program, Node.parts,
    Node.partsOfAll, bare, Guard.node]) (.dotted "k" .name) context s hunbound
  obtain ⟨arguments, t, hrun, -⟩ := hbare rfl rfl [] [] s rfl
  exact ⟨hcompile, hoptional, hunbound, ⟨t, hrun⟩, hmember Nat.one_ne_zero⟩

end TextTemplate
