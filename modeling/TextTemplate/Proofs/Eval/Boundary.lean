import TextTemplate.Proofs.Eval.Copies
import TextTemplate.Proofs.Eval.Obstacle
import TextTemplate.Proofs.Variables.Soundness

/-!
# The boundary between templates and the host

What crosses the boundary comes back: data of the host, what a template holds, and functions, which
do the same afterwards as before. What cannot cross it is refused.
-/

namespace TextTemplate

open List (Forall₂)

namespace Snapshot

variable {w : Matching} {held held' : Snapshot}

/-- What is alike to plain data is plain data. -/
theorem IsData.of_alike (h : held.IsData) (halike : Alike w held held') : held'.IsData := by
  induction h generalizing held' with
  | number h =>
    cases halike with
    | number halike =>
      refine .number fun heq => ?_
      cases halike with
      | int => cases heq
      | float => cases heq
      | nan hmark =>
        cases heq
        exact h (congrArg Number.nan ((w.marks_iff hmark w.marks_zero).mpr rfl))
  | bool b => cases halike; exact .bool b
  | text s => cases halike; exact .text s
  | null => cases halike; exact .null
  | undefined => cases halike; exact .undefined
  | array _ ih =>
    cases halike with
    | array halike =>
      exact .array (forall_of_forall₂ (forall₂_imp_of_mem halike fun item hitem _ => ih item hitem))
  | object kind hkeys _ ih =>
    cases halike with
    | object _ halike =>
      refine .object kind (Fields.keys_eq halike ▸ hkeys)
        (forall_of_forall₂ (forall₂_imp_of_mem halike fun field hfield pair hpair => ?_))
      cases hpair with | mk _ hpair => exact ih _ hfield hpair

theorem IsData.plain_alike (h : held.IsData) (halike : Alike w held held') :
    Alike w held.plain held'.plain := by
  induction h generalizing held' with
  | number => cases halike with | number halike => exact .number halike
  | bool b => cases halike; exact .bool b
  | text s => cases halike; exact .text s
  | null => cases halike; exact .null
  | undefined => cases halike; exact .null
  | array _ ih =>
    cases halike with
    | array halike =>
      rw [plain, plains_eq, plain, plains_eq]
      refine .array ?_
      rw [List.forall₂_map_left_iff, List.forall₂_map_right_iff]
      exact forall₂_imp_of_mem halike fun item hitem _ => ih item hitem
  | object kind _ _ ih =>
    cases halike with
    | object _ halike =>
      rw [plain, plainFields_eq, plain, plainFields_eq]
      refine .object .plain ?_
      rw [List.forall₂_map_left_iff, List.forall₂_map_right_iff]
      refine forall₂_imp_of_mem halike fun field hfield pair hpair => ?_
      cases hpair with | mk key hpair => exact .mk key (ih _ hfield hpair)

end Snapshot

namespace Eval

open Memory (HoldsData IsCopy Tells)

variable {context : Context} {s t : State} {args copies : List Value} {f : Function} {mark : Nat}

theorem run_bind_congr {α β : Type} {x y : Eval α} (h : x context s = y context t)
    (f : α → Eval β) : (x >>= f) context s = (y >>= f) context t := by
  show Eval.bind x f context s = Eval.bind y f context t
  unfold Eval.bind
  rw [h]

/-! ## Functions that come back -/

/-- Calls a function that has gone to the host and come back. -/
def callReturned (function : Value) (args : List Value) : Eval Value := do
  let host ← toHost function
  let returned ← fromHost host
  callValue returned args

/-- The counterparts of what arguments hold are copies of the arguments. -/
theorem run_mapAll_fromHost {m : Memory} (h : ∀ arg ∈ args, m.HoldsData arg) (context : Context)
    (t : State) : ∃ copies m',
      mapAll fromHost (args.map fun arg => (m.snapshot arg).toHost) context t =
          (.ok copies, { t with memory := m' }) ∧
        Memory.Grows t.memory m' ∧ Forall₂ (IsCopy m m') args copies := by
  induction args generalizing t with
  | nil => exact ⟨[], t.memory, rfl, .refl _, .nil⟩
  | cons arg rest ih =>
    obtain ⟨harg, hrest⟩ := List.forall_mem_cons.mp h
    obtain ⟨copy, m₁, hcopy, hgrows, hgrounded, hheld⟩ := run_fromHost_toHost harg.data context t
    obtain ⟨copies, m₂, hcopies, hgrows', hall⟩ := ih hrest { t with memory := m₁ }
    have hiscopy : IsCopy m m₁ arg copy := ⟨harg, hgrounded, hheld.trans harg.plain⟩
    refine ⟨copy :: copies, m₂, ?_, hgrows.trans hgrows', .cons (hiscopy.grows hgrows') hall⟩
    exact (run_bind hcopy _).trans ((run_bind hcopies _).trans rfl)

/-- The returned function is called with what the arguments hold, behind one new mark. -/
theorem run_callReturned (hbundle : ∀ value ∈ args.getLast?, value.isBundle = false) :
    callReturned (.function mark f) args context s =
      callWithArguments callHost (.template f) ⟨args, [], []⟩ context
        { s with memory := s.memory.freshMark.2 } := by
  have hhost : toHost (.function mark f) context s = (.ok (.function (.template f)), s) :=
    run_toHost rfl context
  have hreturned : fromHost (.function (.template f)) context s =
      (.ok (.function (s.memory.marks + 1) (.host (.template f))),
        { s with memory := s.memory.freshMark.2 }) := rfl
  have hcall : callReturned (.function mark f) args context s =
      callWith callHost (.host (.template f)) args context
        { s with memory := s.memory.freshMark.2 } :=
    (run_bind hhost _).trans (run_bind hreturned _)
  rw [hcall, callWith, splitArguments_of_unbundled hbundle]
  rfl

theorem run_mapAll_toHost_error (h : ∃ arg ∈ args, ¬ s.memory.ends arg) (context : Context) :
    mapAll toHost args context s = (.error .containsItself, s) := by
  induction args with
  | nil => obtain ⟨_, hmem, _⟩ := h; cases hmem
  | cons arg rest ih =>
    by_cases harg : s.memory.ends arg
    · obtain ⟨other, hmem, hother⟩ := h
      rcases List.mem_cons.mp hmem with rfl | hrest
      · exact absurd harg hother
      · exact (run_bind (run_toHost harg context) _).trans
          (run_bind_error (ih ⟨other, hrest, hother⟩) _)
    · exact run_bind_error (run_toHost_error harg context) _

/-- A returned function cannot be given an argument that contains itself. -/
theorem callReturned_refused (hbundle : ∀ value ∈ args.getLast?, value.isBundle = false)
    (h : ∃ arg ∈ args, ¬ s.memory.ends arg) (mark : Nat) (f : Function) (context : Context) :
    (callReturned (.function mark f) args context s).1 = .error .containsItself := by
  have hends : ∃ arg ∈ args, ¬ s.memory.freshMark.2.ends arg := by
    simpa only [Memory.ends_freshMark] using h
  rw [run_callReturned hbundle]
  exact congrArg Prod.fst (run_bind_error (run_mapAll_toHost_error hends context) _)

/-- A returned function calls the function with copies of the arguments, and its answer goes to the
host and comes back. -/
theorem callReturned_eq (hclosed : s.memory.Closed) (hcontext : context.Deterministic s.memory)
    {depth : Nat} (hdepth : context.callDepth = depth + 1)
    (hf : Function.Alike s.memory.self f f) (hargs : ∀ arg ∈ args, s.memory.HoldsData arg)
    (mark : Nat) : ∃ w copies t,
      Answers w (callWith (callHostWithin depth) f args context s)
          (callWith (callHostWithin depth) f copies context t) ∧
        callReturned (.function mark f) args context s =
          (callWith (callHostWithin depth) f copies >>= fun answer =>
            toHost answer >>= fromHost) context t := by
  have hbundle : ∀ value ∈ args.getLast?, value.isBundle = false := fun value hvalue =>
    (hargs value (List.mem_of_getLast? hvalue)).isBundle_eq
  let u : State := { s with memory := s.memory.freshMark.2 }
  have hmark : Memory.Grows s.memory u.memory := Memory.grows_freshMark s.memory
  have hgrounded : ∀ arg ∈ args, s.memory.Grounded arg := fun arg harg =>
    hclosed.grounded (hargs arg harg).holds (hargs arg harg).ends
  have hends : ∀ arg ∈ args, u.memory.ends arg := fun arg harg =>
    ((hgrounded arg harg).grows hmark).ends
  have hhosts : (args.map fun arg => (u.memory.snapshot arg).toHost) =
      args.map fun arg => (s.memory.snapshot arg).toHost :=
    List.map_congr_left fun arg harg =>
      congrArg Snapshot.toHost ((hgrounded arg harg).snapshot_eq hmark)
  obtain ⟨copies, m, hcopies, hgrows, hall⟩ := run_mapAll_fromHost hargs context u
  have hlater : context.Later s { s with memory := m } := ⟨hclosed, hmark.trans hgrows, hcontext⟩
  refine ⟨hlater.matching, copies, _, callWith_copies hlater depth hf hall, ?_⟩
  have hcall : callHost (.template f) (args.map fun arg => (s.memory.snapshot arg).toHost) []
      context u = (callWith (callHostWithin depth) f copies >>= toHost) context
        { s with memory := m } := by
    show callHostWithin context.callDepth (.template f) _ [] context u = _
    rw [hdepth]
    exact run_bind hcopies _
  rw [run_callReturned hbundle]
  show callWithArguments callHost (.template f) ⟨args, [], []⟩ context u = _
  rw [run_callWithArguments callHost (.template f) hends context, hhosts, ← bind_assoc]
  exact run_bind_congr hcall fromHost

/-- The outcome of a call of a returned function, given that of a call of the function itself: the
same fault, or an answer that holds the same as far as that can go to the host and come back. -/
def Returned (direct returned : Except Fault Value × State) : Prop :=
  match direct with
  | (.error fault, _) => returned.1 = .error fault
  | (.ok answer, t) =>
    if t.memory.ends answer then (t.memory.snapshot answer).IsData →
      ∃ w answer' t', returned = (.ok answer', t') ∧ t'.memory.ends answer' ∧
        Snapshot.Alike w (t.memory.snapshot answer).plain (t'.memory.snapshot answer')
    else returned.1 = .error .containsItself

/-- A returned function answers what the function itself answers, with one call fewer to go. -/
theorem callReturned_answers (hclosed : s.memory.Closed) (hcontext : context.Deterministic s.memory)
    {depth : Nat} (hdepth : context.callDepth = depth + 1)
    (hf : Function.Alike s.memory.self f f) (hargs : ∀ arg ∈ args, s.memory.HoldsData arg)
    (mark : Nat) : Returned (callWith (callHostWithin depth) f args context s)
      (callReturned (.function mark f) args context s) := by
  obtain ⟨w, copies, u, hanswers, hreturned⟩ :=
    callReturned_eq hclosed hcontext hdepth hf hargs mark
  rw [hreturned]
  generalize callWith (callHostWithin depth) f args context s = result at hanswers
  cases hcopies : callWith (callHostWithin depth) f copies context u with
  | mk outcome' t' =>
  rw [hcopies] at hanswers
  obtain ⟨outcome, t⟩ := result
  cases hanswers with
  | error fault => exact congrArg Prod.fst (run_bind_error hcopies _)
  | @ok answer answer' htells =>
    rw [run_bind hcopies, Returned]
    split
    · rename_i hends
      intro hdata
      have halike := htells.held hends
      have hends' := htells.ends_eq ▸ hends
      obtain ⟨final, m, hfinal, -, hgrounded, hheld⟩ :=
        run_fromHost_toHost (hdata.of_alike halike) context t'
      have hcopied := (run_bind (run_toHost hends' context) _).trans hfinal
      refine ⟨w, final, _, hcopied, hgrounded.ends, ?_⟩
      dsimp only
      rw [hheld]
      exact hdata.plain_alike halike
    · rename_i hends
      have hends' := htells.ends_eq ▸ hends
      exact congrArg Prod.fst (run_bind_error (run_toHost_error hends' context) _)

/-! ## The boundary -/

/-- What crosses the boundary between templates and the host. Data of the host comes back, and what
is refused has something in its way, which the error names. What a template holds comes back, unless
it contains itself. A function does the same once it has come back. -/
theorem crosses_boundary (context : Context) (s : State) :
    (∀ host : Host, host.IsData → ∃ value t back, fromHost host context s = (.ok value, t) ∧
      toHost value context t = (.ok back, t) ∧ host.ComesBack back) ∧
    (∀ host : Host, ((∃ fault, (fromHost host context s).1 = .error fault) ↔
        ∃ fault, host.Obstacle false fault) ∧
      ∀ fault, (fromHost host context s).1 = .error fault → host.Obstacle false fault ∧
        (fault.IsValueError ∨ fault = .unfit ∨ fault = .numeralTooLong)) ∧
    (∀ value, if s.memory.ends value then (s.memory.snapshot value).IsData →
        ∃ host, toHost value context s = (.ok host, s) ∧
          ∀ t, ∃ copy t', fromHost host context t = (.ok copy, t') ∧ t'.memory.ends copy ∧
            t'.memory.snapshot copy = (s.memory.snapshot value).plain
      else toHost value context s = (.error .containsItself, s)) ∧
    (s.memory.Closed → context.Deterministic s.memory → ∀ depth mark f args,
      context.callDepth = depth + 1 → s.memory.Holds (.function mark f) →
        (∀ arg ∈ args, s.memory.HoldsData arg) →
          Returned (callWith (callHostWithin depth) f args context s)
            (callReturned (.function mark f) args context s)) ∧
    ∀ mark f args, (∀ value ∈ args.getLast?, value.isBundle = false) →
      (∃ arg ∈ args, ¬ s.memory.ends arg) →
        (callReturned (.function mark f) args context s).1 = .error .containsItself := by
  refine ⟨fun host h => comesBack_of_isData h context s, fun host => ?_, fun value => ?_,
    fun hclosed hcontext depth mark f args hdepth hf hargs => ?_,
    fun mark f args hbundle h => callReturned_refused hbundle h mark f context⟩
  · obtain ⟨hiff, hobstacle⟩ := fromHost_refused host context s
    exact ⟨hiff, fun fault h => ⟨hobstacle fault h, (hobstacle fault h).isValueError⟩⟩
  · split
    · rename_i hends
      refine fun hdata => ⟨_, run_toHost hends context, fun t => ?_⟩
      obtain ⟨copy, m, hcopy, -, hgrounded, hheld⟩ := run_fromHost_toHost hdata context t
      exact ⟨copy, _, hcopy, hgrounded.ends, hheld⟩
    · rename_i hends
      exact run_toHost_error hends context
  · cases hf with
    | function _ hf => exact callReturned_answers hclosed hcontext hdepth hf hargs mark

/-- A record in which a value of the template language is a key is refused, but not for that key. -/
theorem crosses_boundary_clogged :
    let context : Context := .ofLibrary Host.stock [] false
    let s : State := { State.initial with memory := Memory.empty.freshMark.2 }
    let undefined : Host := .ready .undefined (.record "UndefinedValue" [])
    let record : Host := .record "Record" [("a", .map [(undefined, .number (.int 1))])]
    (fromHost record context s).1 = .error .unfit ∧
      Returned (callWith (callHostWithin 199) (.ofText .startswith "ab") [.text "a"] context s)
        (callReturned (.function 1 (.ofText .startswith "ab")) [.text "a"] context s) := by
  intro context s undefined record
  obtain ⟨-, hrefused, -, hreturned, -⟩ := crosses_boundary context s
  refine ⟨?_, hreturned (fun _ => .nil) (Context.deterministic_stock false _) 199 1 _ _ rfl
    (.function ⟨le_rfl, rfl⟩ (.ofText _ _)) ?_⟩
  · obtain ⟨hiff, hfault⟩ := hrefused record
    obtain ⟨fault, h⟩ := hiff.mpr ⟨.unfit, .clogged false "Record" rfl⟩
    have hobstacle : Host.Obstacle false (.record "Record" _) fault := (hfault fault h).1
    rw [h]
    cases hobstacle with
    | clogged => rfl
    | field _ _ hfields => cases hfields
  · exact List.forall_mem_singleton.mpr ⟨.text "a", rfl, .text "a", rfl⟩

end Eval

end TextTemplate
