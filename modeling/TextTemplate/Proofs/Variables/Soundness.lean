import TextTemplate.Host.Stock
import TextTemplate.Proofs.Matching.Start
import TextTemplate.Proofs.Syntax.Compiling
import TextTemplate.Proofs.Variables.Simulation

/-!
# Variables that the search does not report

Two maps of variables render a template alike if they agree about every name that the search reports
and about the hidden ones. Where no branch binds a name there are no hidden ones.
-/

namespace TextTemplate

open List (Forall₂)

/-! ## The stock of host functions -/

section Stock

variable {w : Matching}

namespace Host

theorem Alike.isFilled {a b : Host} (h : Alike w a b) : a.isFilled = b.isFilled := by
  cases h with
  | number h => simp only [Host.isFilled, h.isZero]
  | list h | tuple h => simp only [Host.isFilled, forall₂_isEmpty h]
  | map h => simp only [Host.isFilled, forall₂_isEmpty h]
  | _ => rfl

theorem Alike.truthy {a b : Host} (h : Alike w a b) : a.truthy = b.truthy := by
  have hfilled := h.isFilled
  cases h with
  | ready _ hform =>
    cases hform with
    | record _ hfields =>
      cases hfields with
      | nil => rfl
      | cons hfield hrest =>
        obtain ⟨_, hheld⟩ := hfield
        cases hrest with
        | nil => exact hheld.isFilled
        | cons _ _ => rfl
    | _ => rfl
  | _ => exact hfilled

theorem total_eq {args args' : List Host} (h : Forall₂ (Alike w) args args') :
    total args = total args' := by
  induction h with
  | nil => rfl
  | cons harg _ ih =>
    cases harg with
    | number harg =>
      cases harg with
      | int i => simp only [total, ih]
      | _ => exact ih
    | _ => exact ih

theorem ofFields_alike {fields fields' : Fields Host}
    (h : Forall₂ (Keyed (Alike w)) fields fields') :
    Alike w (ofFields fields) (ofFields fields') := by
  refine .map ?_
  induction h with
  | nil => exact .nil
  | cons hpair _ ih =>
    obtain ⟨key, hvalue⟩ := hpair
    exact .cons (.mk (.text key) hvalue) ih

/-- The stock functions treat alike what is alike. -/
theorem stock_alike (name : String) {args args' : List Host} {keywords keywords' : Fields Host}
    (hargs : Forall₂ (Alike w) args args')
    (hkeywords : Forall₂ (Keyed (Alike w)) keywords keywords') :
    HostAction.Alike w (stock name args keywords) (stock name args' keywords') := by
  have hfirst : Alike w (args.head?.getD null) (args'.head?.getD null) := by
    cases hargs with
    | nil => exact .null
    | cons harg _ => exact harg
  have htruth : args.head?.any Host.truthy = args'.head?.any Host.truthy := by
    cases hargs with
    | nil => rfl
    | cons harg _ => exact harg.truthy
  unfold stock
  split
  · exact .answer (ofFields_alike (.cons (.mk _ (.list hargs))
      (.cons (.mk _ (ofFields_alike hkeywords)) .nil)))
  · exact .answer hfirst
  · rw [hargs.length_eq, hkeywords.length_eq]
    exact .answer (.number (.int _))
  · cases hargs with
    | nil => exact .answer (.text _)
    | cons harg _ => cases harg <;> exact .answer (.text _)
  · rw [total_eq hargs]
    exact .answer (.number (.int _))
  · rw [htruth]
    exact .answer (.bool _)
  · exact .answer (.tuple (List.forall₂_take 2 hargs))
  · cases hargs with
    | nil => exact .answer .null
    | cons harg hrest =>
      cases harg with
      | function hf => exact .call hf hrest fun _ _ h => .answer h
      | _ => exact .answer .null
  · exact .answer (.function (.named _))
  · exact .fail _
  · exact .answer (.foreign _)
  · exact .answer (.map (.cons (.mk (.number (.int 1)) (.text _)) .nil))
  · exact .answer .null

end Host

theorem Context.deterministic_stock (strict : Bool) (start : Memory) :
    Context.Deterministic start (.ofLibrary Host.stock [] strict) :=
  fun _ _ => ⟨Host.stock_alike, .nil⟩

end Stock

/-! ## Templates -/

theorem isTemplate_of_compile {trimming : Source.Trimming} {source : String} {program : Node}
    (h : compile trimming source = .ok program) : program.IsTemplate := by
  obtain ⟨tokens, htokens, htree⟩ := tokens_of_compile h
  refine Node.isTemplate_of_ofTokens (fun token hmem => ?_) htree
  exact Token.IsScanned.lexical ⟨trimming, source, tokens, htokens, hmem⟩

namespace Eval

/-- The environment before the variables are declared. -/
def builtinEnvironment (marks : Nat) : Environment where
  inner := {
    bindings := [("namespace", .function (marks + 1) (.builtin .namespace_)),
      ("true", .bool true), ("false", .bool false), ("True", .bool true), ("False", .bool false),
      ("None", .null), ("range", .function (marks + 2) (.builtin .range)),
      ("raise_exception", .function (marks + 3) (.builtin .raiseException))]
    tests := Test.all }
  outer := []

/-- The state before the variables are declared. -/
def builtinState (s : State) : State :=
  ⟨{ s.memory with marks := s.memory.marks + 3 }, builtinEnvironment s.memory.marks⟩

theorem run_builtins (context : Context) (s : State) :
    (startScope Test.all >>= fun _ => declareBuiltins) context s = (.ok (), builtinState s) := rfl

theorem started_builtins {s : State} (hclosed : s.memory.Closed) :
    Started s.memory builtinNames (builtinState s) := by
  have hgrows : Memory.Grows s.memory (builtinState s).memory :=
    ⟨le_rfl, Nat.le_add_right _ 3, fun _ _ => rfl⟩
  refine ⟨hgrows, fun a => hgrows.holdsFields (hclosed a), rfl, ?_, ?_⟩
  · have hmark (n : Nat) (hn : n ≤ 3) (builtin : Builtin) :
        (builtinState s).memory.Holds (.function (s.memory.marks + n) (.builtin builtin)) :=
      .function ⟨Nat.add_le_add_left hn _, rfl⟩ (.builtin builtin)
    refine .cons (.mk _ (hmark 1 (by decide) _)) ?_
    refine .cons (.mk _ (.bool _)) (.cons (.mk _ (.bool _)) ?_)
    refine .cons (.mk _ (.bool _)) (.cons (.mk _ (.bool _)) (.cons (.mk _ .null) ?_))
    exact .cons (.mk _ (hmark 2 (by decide) _)) (.cons (.mk _ (hmark 3 (by decide) _)) .nil)
  · simp [Scope.names, Fields.keys, builtinState, builtinEnvironment, builtinNames]

theorem render_eq_declareFields (body : List Node) (fields : Fields Host) (context : Context)
    (s : State) :
    render (.program body) (.ofFields fields) context s =
      (declareFields fields >>= fun _ => evaluateBlock body) context (builtinState s) := by
  have hstart : startEnvironment (.ofFields fields) =
      (startScope Test.all >>= fun _ => declareBuiltins) >>= fun _ => declareFields fields :=
    (bind_assoc _ _ _).symm
  show (startEnvironment (.ofFields fields) >>= fun _ => evaluateBlock body) context s = _
  rw [hstart, bind_assoc, run_bind (run_builtins context s)]

/-- A block goes alike in two runs that agree about what a survey of it reports. -/
theorem block_follows {body : List Node} (hfits : ∀ node ∈ body, Node.Fits .statement node)
    {agreed : String → Prop} (hcovers : Covers agreed (Findings.surveyAll body .empty))
    (start : Memory) : Follows start agreed (evaluateBlock body) := fun _ _ =>
  ⟨_, block_parallel (fun node hmem => goesAlike_of_fits (hfits node hmem) (.inr rfl)) .empty
    hcovers⟩

/-- Maps that agree about every name that a survey reports render a template alike. -/
theorem render_eq_of_surveyed {program : Node} (htemplate : program.IsTemplate) {context : Context}
    {s : State} (hclosed : s.memory.Closed) (hcontext : context.Deterministic s.memory)
    {fields fields' : Fields Host} (h : Declarable s.memory builtinNames fields)
    (h' : Declarable s.memory builtinNames fields') {names : List String}
    (hnames : ∀ name, (Findings.survey program .empty).Reports name → name ∈ names)
    (hagree : ∀ name ∈ names, fields.get? name = fields'.get? name) :
    (render program (.ofFields fields) context s).1 =
      (render program (.ofFields fields') context s).1 := by
  obtain ⟨body, rfl⟩ : ∃ body, program = .program body := by
    cases program with
    | program body => exact ⟨body, rfl⟩
    | _ => exact htemplate.elim
  let keep (name : String) : Bool := (builtinNames ++ names).contains name
  have hkeep (name : String) : keep name ↔ name ∈ builtinNames ∨ name ∈ names := by
    simp [keep]
  have hrest (name : String) (hnot : keep name = false) :
      Follows s.memory (· ≠ name) (evaluateBlock body) := by
    have hcovers : Covers (· ≠ name) (Findings.surveyAll body .empty) := by
      intro other hother heq
      subst heq
      exact Bool.eq_false_iff.mp hnot ((hkeep other).mpr (hother.imp_right (hnames other)))
    exact block_follows htemplate hcovers _
  have hget (name : String) (hname : keep name) : fields.get? name = fields'.get? name := by
    rcases (hkeep name).mp hname with hbuiltin | hreported
    · rw [h.get?_of_mem hbuiltin, h'.get?_of_mem hbuiltin]
    · exact hagree name hreported
  have hstarted := started_builtins hclosed
  rw [render_eq_declareFields, render_eq_declareFields,
    hstarted.declareFields_filter hcontext hrest h, hstarted.declareFields_filter hcontext hrest h']
  exact hstarted.declareFields_perm hcontext (block_follows htemplate (fun _ _ => trivial) _)
    (h.filter_perm h' hget) (h.sublist List.filter_sublist)

/-- Where no branch binds a name, a variable that the search does not report makes no difference. -/
theorem render_eq_of_steady {trimming : Source.Trimming} {source : String} {program : Node}
    (hcompile : compile trimming source = .ok program) (hsteady : program.steady)
    {context : Context} {s : State} (hclosed : s.memory.Closed)
    (hcontext : context.Deterministic s.memory) {fields fields' : Fields Host}
    (h : Declarable s.memory builtinNames fields) (h' : Declarable s.memory builtinNames fields')
    (hagree : ∀ name ∈ (findVariables program).all, fields.get? name = fields'.get? name) :
    (render program (.ofFields fields) context s).1 =
      (render program (.ofFields fields') context s).1 := by
  have htemplate := isTemplate_of_compile hcompile
  refine render_eq_of_surveyed htemplate hclosed hcontext h h' (fun name hname => ?_) hagree
  rcases Node.mem_of_survey_reports hname with hall | hhidden
  · exact hall
  · rw [Node.hiddenVariables_eq_nil htemplate hsteady] at hhidden
    cases hhidden

/-- A variable that the search does not report makes no difference, unless it is hidden. -/
theorem render_eq_of_agree {trimming : Source.Trimming} {source : String} {program : Node}
    (hcompile : compile trimming source = .ok program) {context : Context} {s : State}
    (hclosed : s.memory.Closed) (hcontext : context.Deterministic s.memory)
    {fields fields' : Fields Host} (h : Declarable s.memory builtinNames fields)
    (h' : Declarable s.memory builtinNames fields')
    (hagree : ∀ name ∈ (findVariables program).all, fields.get? name = fields'.get? name)
    (hhidden : ∀ name ∈ program.hiddenVariables, fields.get? name = fields'.get? name) :
    (render program (.ofFields fields) context s).1 =
      (render program (.ofFields fields') context s).1 := by
  refine render_eq_of_surveyed (isTemplate_of_compile hcompile) hclosed hcontext h h'
    (fun name hname => List.mem_append.mpr (Node.mem_of_survey_reports hname)) fun name hname => ?_
  rcases List.mem_append.mp hname with hall | hname
  · exact hagree name hall
  · exact hhidden name hname

/-- The template may read `x` although only `y` is reported; `z` makes no difference to it. -/
theorem render_eq_hidden :
    let source := "\x7b%if y%\x7d\x7b%set x=1%\x7d\x7b%endif%\x7d\x7b\x7bx\x7d\x7d"
    let program : Node :=
      .program [.branch (.name "y") [.set (.name "x") (.number (.int 1))] [], .name "x"]
    let context : Context := .ofLibrary Host.stock [] false
    let fields : Fields Host := [("x", .text "a"), ("y", .text ""), ("z", .text "b")]
    let fields' : Fields Host := [("y", .text ""), ("x", .text "a")]
    compile {} source = .ok program ∧ (findVariables program).all = ["y"] ∧
      program.hiddenVariables = ["x"] ∧
      (render program (.ofFields fields) context .initial).1 =
        (render program (.ofFields fields') context .initial).1 := by
  intro source program context fields fields'
  have hcompile : compile {} source = .ok program := by cbv
  have hall : (findVariables program).all = ["y"] := by decide +kernel
  have hhidden : program.hiddenVariables = ["x"] := by decide +kernel
  have htext (text : String) : (Host.text text).Convertible := fun _ _ => ⟨.text text, rfl⟩
  have hheld (fields : Fields Host) (h : ∀ pair ∈ fields, ∃ text, pair.2 = .text text) :
      (∀ pair ∈ fields, pair.2.Convertible) ∧
        ∀ pair ∈ fields, State.initial.memory.HoldsHost pair.2 := by
    refine ⟨fun pair hmem => ?_, fun pair hmem => ?_⟩
    · obtain ⟨text, heq⟩ := h pair hmem
      exact heq ▸ htext text
    · obtain ⟨text, heq⟩ := h pair hmem
      exact heq ▸ .text text
  obtain ⟨hconvertible, hholds⟩ := hheld fields (by simp [fields])
  obtain ⟨hconvertible', hholds'⟩ := hheld fields' (by simp [fields'])
  refine ⟨hcompile, hall, hhidden, render_eq_of_agree hcompile (fun _ => ?_)
    (Context.deterministic_stock false _) ⟨by decide, by decide, hconvertible, hholds⟩
    ⟨by decide, by decide, hconvertible', hholds'⟩ (fun name hname => ?_) fun name hname => ?_⟩
  · exact .nil
  · rw [hall] at hname
    obtain rfl := List.mem_singleton.mp hname
    rfl
  · rw [hhidden] at hname
    obtain rfl := List.mem_singleton.mp hname
    rfl

end Eval

end TextTemplate
