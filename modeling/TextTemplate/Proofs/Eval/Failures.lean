import TextTemplate.Proofs.Eval.Answers
import TextTemplate.Proofs.Syntax.Compiling
import TextTemplate.Proofs.Variables.Soundness

/-!
# How a rendering fails

A template that was read off a text and is given plain data either has a text or fails in a way
that is foreseen. Almost all failures are reported as errors of the template; the arithmetic and the
texts beneath the template language have three faults of their own, which are not reported.
-/

namespace TextTemplate

open Value (AllPlain PlainFields)

namespace Environment

variable {environment : Environment}

theorem Plain.bind (h : environment.Plain) (name : String) {value : Value} (hvalue : value.Plain) :
    (environment.bind name value).Plain :=
  All.bind h name hvalue

theorem Plain.assign (h : environment.Plain) (name : String) {value : Value}
    (hvalue : value.Plain) : (environment.assign name value).Plain :=
  All.assign h name hvalue

theorem Plain.enter (h : environment.Plain) : environment.enter.Plain := All.enter h

theorem Plain.leave (h : environment.Plain) : environment.leave.Plain := All.leave h

theorem Plain.lookup (h : environment.Plain) (name : String) : (environment.lookup name).Plain :=
  All.lookup h .undefined name

end Environment

namespace Eval

open Node (Fits)

variable {α : Type} {good : α → Prop}

/-! ## Variables -/

theorem Sound.ofEnvironment {f : Environment → α}
    (h : ∀ environment, environment.Plain → good (f environment)) :
    Sound good (Eval.ofEnvironment f) := fun _ _ _ hs => ⟨h _ hs.environment, hs⟩

theorem Sound.changeEnvironment {f : Environment → Environment}
    (h : ∀ environment, environment.Plain → (f environment).Plain) :
    Sound Anything (Eval.changeEnvironment f) := fun _ _ _ hs =>
  ⟨trivial, hs.memory, h _ hs.environment⟩

theorem Sound.inNewScope {x : Eval α} (h : Sound good x) : Sound good (Eval.inNewScope x) := by
  intro context s hfilters hs
  have hinside := h context { s with environment := s.environment.enter } hfilters
    ⟨hs.memory, hs.environment.enter⟩
  unfold Eval.inNewScope
  split at hinside
  · rename_i heq
    simp only [heq]
    exact ⟨hinside.1, hinside.2.memory, hinside.2.environment.leave⟩
  · rename_i heq
    simp only [heq]
    exact ⟨hinside.1, hinside.2.memory, hinside.2.environment.leave⟩

theorem bindName_sound (name : String) {value : Value} (h : value.Plain) :
    Sound Anything (bindName name value) :=
  .changeEnvironment fun _ henvironment => henvironment.bind name h

theorem assignName_sound (name : String) {value : Value} (h : value.Plain) :
    Sound Anything (assignName name value) :=
  .changeEnvironment fun _ henvironment => henvironment.assign name h

theorem assignField_sound {target : Value} (htarget : target.Plain) (key : String) {value : Value}
    (h : value.Plain) : Sound Anything (assignField target key value) := by
  cases htarget with
  | object _ address =>
    refine .withMemory (f := fun memory => ((), memory.setField address key value))
      fun memory hmemory => ⟨trivial, fun other => ?_⟩
    rw [Memory.fields_setField]
    split
    · exact (hmemory other).put key h
    · exact hmemory other
  | _ => exact .fail rfl

/-- A test is known by a name. -/
theorem findTest_sound (name : String) : Sound Anything (findTest (some (.text name))) := by
  have htests : Sound Anything (ofEnvironment (·.inner.tests)) := .ofEnvironment fun _ _ => trivial
  refine htests.bind fun tests _ => ?_
  split
  · exact .pure trivial
  · exact .fail rfl

/-! ## Statements -/

/-- A plain value contributes a text. -/
theorem contribution_sound (statement : Node) {value : Value} (h : value.Plain) :
    Sound (·.isSome) (contribution statement value) := by
  cases h with
  | null | text => exact .pure rfl
  | number n => exact (numeral_sound n).bind fun _ _ => .pure rfl
  | undefined =>
    refine context_sound.bind fun context _ => .ite (fun _ => ?_) fun _ => .pure rfl
    split
    · exact .fail rfl
    · exact .fail rfl
  | _ => exact .fail rfl

theorem not_absent_of_fits {place : Node.Place} {node : Node} (h : Fits place node) :
    node.isAbsent = false := by
  induction h with
  | positional _ ih | value _ ih | output _ ih => exact ih
  | _ => rfl

theorem failOfKind_sound {fault : String → Fault} (hfault : ∀ kind, (fault kind).isStrange = false)
    {place : Node.Place} {node : Node} (h : Fits place node) :
    Sound good (failOfKind fault node : Eval α) := by
  rw [failOfKind, if_neg (by simp [not_absent_of_fits h])]
  exact .fail (hfault _)

theorem bindNames_sound {targets : List Node}
    (htargets : ∀ target ∈ targets, Fits .expression target) {items : List Value}
    (hitems : AllPlain items) : Sound Anything (bindNames targets items) := by
  induction targets generalizing items with
  | nil => exact .pure trivial
  | cons target targets ih =>
    obtain ⟨htarget, hothers⟩ := List.forall_mem_cons.mp htargets
    cases items with
    | nil => cases target <;> exact .pure trivial
    | cons item items =>
      obtain ⟨hitem, hitems⟩ := List.forall_mem_cons.mp hitems
      cases target with
      | name name => exact (bindName_sound name hitem).bind fun _ _ => ih hothers hitems
      | _ => exact failOfKind_sound (fun _ => rfl) htarget

theorem bindTarget_sound {target : Node} (htarget : Fits .expression target) {item : Value}
    (hitem : item.Plain) : Sound Anything (bindTarget target item) := by
  unfold bindTarget
  split
  · exact bindName_sound _ hitem
  · cases htarget with
    | tuple _ htargets =>
      cases hitem with
      | array hitems =>
        exact .ite (fun _ => .fail rfl) fun _ => .ite (fun _ => .fail rfl) fun _ =>
          bindNames_sound htargets hitems
      | _ => exact .fail rfl
  · exact failOfKind_sound (fun _ => rfl) htarget

theorem loopFields_plain (length index : Nat) {previous next : Value} (hprevious : previous.Plain)
    (hnext : next.Plain) : PlainFields (loopFields length index previous next) := by
  simp only [loopFields, PlainFields, List.forall_mem_cons, List.not_mem_nil, false_implies,
    implies_true, and_true]
  exact ⟨.number _, .number _, .number _, .number _, .bool _, .bool _, .number _, hprevious, hnext⟩

/-- By induction on the items, every round starts and ends in a plain state. -/
theorem loopFrom_sound {target : Node} (htarget : Fits .expression target) {body : Eval String}
    (hbody : Sound Anything body) (length index : Nat) {previous : Value}
    (hprevious : previous.Plain) {items : List Value} (hitems : AllPlain items) (done : String) :
    Sound Anything (loopFrom target body length index previous items done) := by
  induction items generalizing index previous done with
  | nil => exact .pure trivial
  | cons item rest ih =>
    obtain ⟨hitem, hrest⟩ := List.forall_mem_cons.mp hitems
    have hnext : (rest.head?.getD .undefined).Plain := by
      cases rest with
      | nil => exact .undefined
      | cons next _ => exact hrest next List.mem_cons_self
    refine (newObject_sound .plain (loopFields_plain length index hprevious hnext)).bind
      fun about habout => ?_
    refine (bindName_sound "loop" habout).bind fun _ _ => ?_
    refine (bindTarget_sound htarget hitem).bind fun _ _ => ?_
    exact hbody.bind fun part _ => ih (index + 1) hitem hrest (done ++ part)

theorem loopOver_sound {target : Node} (htarget : Fits .expression target) {body : Eval String}
    (hbody : Sound Anything body) {iterable : Value} (h : iterable.Plain) :
    Sound Anything (loopOver target body iterable) := by
  cases h with
  | array hitems => exact loopFrom_sound htarget hbody _ 0 .undefined hitems ""
  | _ => exact .fail rfl

/-! ## Expressions -/

/-- What the arguments of a call come to. -/
structure PlainArguments (found : List Value × List (Label × Value)) : Prop where
  positional : AllPlain found.1
  keywords : PlainPairs found.2

mutual

theorem expression_sound : ∀ (node : Node), Fits .expression node →
    Sound Value.Plain (evaluate node)
  | .name name, _ => .ofEnvironment fun _ h => h.lookup name
  | .number n, _ => ofNumber_sound n
  | .text s, _ => .pure (.text s)
  | .bool b, _ => .pure (.bool b)
  | .null, _ => .pure .null
  | .array items, h => by
    cases h with
    | array h => exact (all_sound items h).bind fun _ hitems => .pure (.array hitems)
  | .tuple items, h => by
    cases h with
    | tuple _ h => exact (all_sound items h).bind fun _ hitems => .pure (.array hitems)
  | .object pairs, h => by
    cases h with
    | object hkeys hvalues =>
      exact (pairs_sound pairs hkeys hvalues).bind fun _ hfields => newLabelled_sound .plain hfields
  | .ternary condition whenTrue whenFalse, h => by
    cases h with
    | ternary hc ht hf =>
      refine (expression_sound condition hc).bind fun condition _ => ?_
      exact (truth_sound condition).bind fun holds _ =>
        .ite (fun _ => expression_sound whenTrue ht) fun _ => expression_sound whenFalse hf
  | .binary operator left right, h => by
    cases h with
    | binary _ hl hr =>
      have hright := expression_sound right hr
      refine (expression_sound left hl).bind fun left hleft => ?_
      split
      · exact (truth_sound left).bind fun _ _ => .ite (fun _ => hright) fun _ => .pure hleft
      · exact (truth_sound left).bind fun _ _ => .ite (fun _ => .pure hleft) fun _ => hright
      · exact hright.bind fun _ hright => applyBinary_sound operator hleft hright
  | .unary operator argument, h => by
    cases h with
    | unary _ ha =>
      exact (expression_sound argument ha).bind fun argument _ => applyUnary_sound operator argument
  | .test operand negate predicate args, h => by
    cases h with
    | @test _ _ name _ ho _ ha =>
      refine (expression_sound operand ho).bind fun operand hoperand => ?_
      refine (findTest_sound name).bind fun test _ => ?_
      refine (arguments_sound args ha).bind fun _ hargs => ?_
      refine (bundled_sound hargs.positional hargs.keywords).bind fun args _ => ?_
      exact (applyTest_sound test hoperand args).bind fun _ _ => .pure (.bool _)
  | .filter operand applied, h => by
    cases h with
    | @filter _ name ho _ =>
      exact (expression_sound operand ho).bind fun _ hoperand =>
        applyFilter_sound name hoperand nofun
    | @filterCall _ name args ho _ ha =>
      refine (expression_sound operand ho).bind fun _ hoperand => ?_
      refine (arguments_sound args ha).bind fun _ hargs => ?_
      exact (bundled_sound hargs.positional hargs.keywords).bind fun _ hargs =>
        applyFilter_sound name hoperand hargs
  | .member owner property computed, h => by
    cases h with
    | @member _ name ho _ =>
      exact (expression_sound owner ho).bind fun _ hobject => member_sound hobject (.text name)
    | item ho hp =>
      rw [evaluate_item hp]
      exact (expression_sound owner ho).bind fun _ hobject =>
        (expression_sound property hp).bind fun _ hproperty => member_sound hobject hproperty
    | @slice _ start stop step ho hstart hstop hstep =>
      refine (expression_sound owner ho).bind fun sequence hsequence => ?_
      refine .ite (fun _ => ?_) fun _ => .fail rfl
      refine (bound_sound start hstart).bind fun start _ => ?_
      refine (bound_sound stop hstop).bind fun stop _ => ?_
      exact (bound_sound step hstep).bind fun step _ => slice_sound hsequence start stop step
  | .call callee args, h => by
    cases h with
    | call hc ha =>
      refine (arguments_sound args ha).bind fun _ hargs => ?_
      refine (bundled_sound hargs.positional hargs.keywords).bind fun _ hargs => ?_
      exact (expression_sound callee hc).bind fun _ hcallee => callValue_sound hcallee hargs

theorem all_sound : ∀ (items : List Node), (∀ item ∈ items, Fits .expression item) →
    Sound AllPlain (evaluateAll items)
  | [], _ => .pure nofun
  | item :: rest, h => by
    obtain ⟨hitem, hrest⟩ := List.forall_mem_cons.mp h
    exact (expression_sound item hitem).bind fun _ hvalue => (all_sound rest hrest).bind
      fun _ hvalues => .pure (List.forall_mem_cons.mpr ⟨hvalue, hvalues⟩)

theorem arguments_sound : ∀ (args : List Node), (∀ arg ∈ args, Fits .argument arg) →
    Sound PlainArguments (evaluateArguments args)
  | [], _ => .pure ⟨nofun, nofun⟩
  | arg :: rest, h => by
    obtain ⟨harg, hrest⟩ := List.forall_mem_cons.mp h
    cases harg with
    | positional harg =>
      rw [evaluateArguments_cons harg]
      refine (expression_sound arg harg).bind fun _ hvalue => ?_
      exact (arguments_sound rest hrest).bind fun _ hothers =>
        .pure ⟨List.forall_mem_cons.mpr ⟨hvalue, hothers.positional⟩, hothers.keywords⟩
    | @keyword name value _ hv =>
      refine (expression_sound value hv).bind fun _ hvalue => ?_
      exact (arguments_sound rest hrest).bind fun _ hothers =>
        .pure ⟨hothers.positional, List.forall_mem_cons.mpr ⟨⟨rfl, hvalue⟩, hothers.keywords⟩⟩

theorem pairs_sound : ∀ (pairs : List (Node × Node)),
    (∀ pair ∈ pairs, Fits .expression pair.1) → (∀ pair ∈ pairs, Fits .expression pair.2) →
      Sound PlainPairs (evaluatePairs pairs)
  | [], _, _ => .pure nofun
  | (key, value) :: rest, hkeys, hvalues => by
    obtain ⟨hkey, hkeys⟩ := List.forall_mem_cons.mp hkeys
    obtain ⟨hvalue, hvalues⟩ := List.forall_mem_cons.mp hvalues
    refine (expression_sound key hkey).bind fun key hkey => ?_
    cases hkey with
    | text name =>
      exact (expression_sound value hvalue).bind fun _ hvalue =>
        (pairs_sound rest hkeys hvalues).bind fun _ hfields =>
          .pure (List.forall_mem_cons.mpr ⟨⟨rfl, hvalue⟩, hfields⟩)
    | _ => exact .fail rfl

theorem bound_sound : ∀ (part : Option Node), (∀ node ∈ part, Fits .expression node) →
    Sound Anything (evaluateBound part)
  | none, _ => .pure trivial
  | some node, h => (expression_sound node (h node rfl)).bind fun value _ => sliceBound_sound value

end

/-! ## Trees -/

theorem block_sound {body : List Node} (h : ∀ node ∈ body, Sound Value.Plain (evaluate node)) :
    Sound Anything (evaluateBlock body) := by
  induction body with
  | nil => exact .pure trivial
  | cons statement rest ih =>
    obtain ⟨hstatement, hrest⟩ := List.forall_mem_cons.mp h
    refine hstatement.bind fun value hvalue => ?_
    refine (contribution_sound statement hvalue).bind fun text htext => ?_
    refine (ih hrest).bind fun texts _ => ?_
    cases text with
    | none => cases htext
    | some text => exact .pure trivial

theorem text_sound {x : Eval String} (h : Sound Anything x) :
    Sound Value.Plain (x >>= fun text => pure (.text text)) :=
  h.bind fun text _ => .pure (.text text)

theorem set_sound {target value : Node} (ht : Fits .expression target)
    (hvalue : Sound Value.Plain (evaluate value)) :
    Sound Value.Plain (evaluate (.set target value)) := by
  have hinvalid : Sound Value.Plain (failOfKind .invalidTarget target) :=
    failOfKind_sound (fun _ => rfl) ht
  cases ht
  case name name _ =>
    exact hvalue.bind fun _ h => (assignName_sound name h).bind fun _ _ => .pure .null
  case member owner name ho hn =>
    exact hvalue.bind fun _ h => (expression_sound owner ho).bind fun target htarget =>
      (assignField_sound htarget name h).bind fun _ _ => .pure .null
  case item | slice =>
    rw [evaluate_set_item]
    exact hvalue.bind fun _ _ => hinvalid
  all_goals exact hvalue.bind fun _ _ => hinvalid

theorem statement_sound {place : Node.Place} {node : Node} (h : Fits place node)
    (hplace : place = .assignment ∨ place = .statement) : Sound Value.Plain (evaluate node) := by
  induction h with
  | value h => exact expression_sound _ h
  | assign ht _ _ ih => exact set_sound ht (ih (.inl rfl))
  | output _ ih => exact ih (.inl rfl)
  | branch hc _ _ _ ihb iha =>
    refine (expression_sound _ hc).bind fun condition _ => ?_
    refine (truth_sound condition).bind fun _ _ => ?_
    exact .ite (fun _ => text_sound (block_sound fun node hmem => ihb node hmem (.inr rfl)))
      fun _ => text_sound (block_sound fun node hmem => iha node hmem (.inr rfl))
  | loop ht _ hi _ _ _ ihb =>
    have hbody := block_sound fun node hmem => ihb node hmem (.inr rfl)
    exact .inNewScope ((expression_sound _ hi).bind fun _ h =>
      text_sound (loopOver_sound ht hbody h))
  | _ => rcases hplace with h | h <;> cases h

end Eval

/-! ## Variables that are handed in -/

/-- Data of the host: no functions and no values of the template language, and only records that
can be taken apart. -/
inductive Host.Plain : Host → Prop
  | null : Plain .null
  | bool (b : Bool) : Plain (.bool b)
  | number (n : Number) : Plain (.number n)
  | text (s : String) : Plain (.text s)
  | list {items : List Host} (h : ∀ item ∈ items, Plain item) : Plain (.list items)
  | tuple {items : List Host} (h : ∀ item ∈ items, Plain item) : Plain (.tuple items)
  | map {entries : List (Host × Host)} (h : ∀ entry ∈ entries, Plain entry.2) :
    Plain (.map entries)
  | record (typeName : String) {fields : List (String × Host)} (hunfolds : fieldsUnfold fields)
    (h : ∀ field ∈ fields, Plain field.2) : Plain (.record typeName fields)
  | model {entries : List (Host × Host)} (h : ∀ entry ∈ entries, Plain entry.2) :
    Plain (.model entries)
  | foreign (kind : Foreign) : Plain (.foreign kind)

namespace Eval

mutual

theorem convert_sound (inRecord : Bool) : ∀ host : Host, host.Plain →
    Sound Value.Plain (convert inRecord host)
  | .null, _ => .pure .null
  | .bool b, _ => .pure (.bool b)
  | .number n, _ => ofNumber_sound n
  | .text s, _ => .pure (.text s)
  | .list items, h => by
    cases h with
    | list h =>
      exact (convertAll_sound inRecord items h).bind fun _ hvalues => .pure (.array hvalues)
  | .tuple items, h => by
    cases h with
    | tuple h =>
      exact (convertAll_sound inRecord items h).bind fun _ hvalues => .pure (.array hvalues)
  | .map entries, h => by
    cases h with
    | map h =>
      exact (convertEntries_sound inRecord entries h).bind fun _ hfields =>
        newObject_sound .plain hfields.ofPairs
  | .record _ fields, h => by
    cases h with
    | record _ hunfolds h =>
      simp only [convert, takeApart, hunfolds, ↓reduceIte]
      exact (convertFields_sound true fields h).bind fun _ hfields =>
        newObject_sound .plain hfields.ofPairs
  | .model entries, h => by
    cases h with
    | model h =>
      exact (convertEntries_sound false entries h).bind fun _ hfields =>
        newObject_sound .plain hfields.ofPairs
  | .foreign kind, _ => .fail rfl

theorem convertAll_sound (inRecord : Bool) : ∀ items : List Host, (∀ item ∈ items, item.Plain) →
    Sound AllPlain (convertAll inRecord items)
  | [], _ => .pure nofun
  | item :: rest, h => by
    obtain ⟨hitem, hrest⟩ := List.forall_mem_cons.mp h
    exact (convert_sound inRecord item hitem).bind fun _ hvalue =>
      (convertAll_sound inRecord rest hrest).bind fun _ hvalues =>
        .pure (List.forall_mem_cons.mpr ⟨hvalue, hvalues⟩)

theorem convertEntries_sound (inRecord : Bool) : ∀ entries : List (Host × Host),
    (∀ entry ∈ entries, entry.2.Plain) → Sound PlainFields (convertEntries inRecord entries)
  | [], _ => .pure nofun
  | (key, item) :: rest, h => by
    obtain ⟨hitem, hrest⟩ := List.forall_mem_cons.mp h
    unfold convertEntries
    split
    · exact .pure nofun
    · rename_i heq
      cases heq
      exact (convert_sound inRecord item hitem).bind fun _ hvalue =>
        (convertEntries_sound inRecord rest hrest).bind fun _ hfields =>
          .pure (List.forall_mem_cons.mpr ⟨hvalue, hfields⟩)
    · split
      · exact .fail rfl
      · exact .fail rfl

theorem convertFields_sound (inRecord : Bool) : ∀ fields : List (String × Host),
    (∀ field ∈ fields, field.2.Plain) → Sound PlainFields (convertFields inRecord fields)
  | [], _ => .pure nofun
  | (key, item) :: rest, h => by
    obtain ⟨hitem, hrest⟩ := List.forall_mem_cons.mp h
    exact (convert_sound inRecord item hitem).bind fun _ hvalue =>
      (convertFields_sound inRecord rest hrest).bind fun _ hfields =>
        .pure (List.forall_mem_cons.mpr ⟨hvalue, hfields⟩)

end

theorem declare_sound (name : String) {value : Value} (h : value.Plain) :
    Sound Anything (declare name value) := by
  have htaken : Sound Anything (ofEnvironment (·.inner.bindings.has name)) :=
    .ofEnvironment fun _ _ => trivial
  exact htaken.bind fun _ _ => .ite (fun _ => .fail rfl) fun _ => bindName_sound name h

theorem declareAll_sound {entries : List (Host × Host)} (h : ∀ entry ∈ entries, entry.2.Plain) :
    Sound Anything (declareAll entries) := by
  induction entries with
  | nil => exact .pure trivial
  | cons entry rest ih =>
    obtain ⟨hentry, hrest⟩ := List.forall_mem_cons.mp h
    have hvalue := convert_sound false _ hentry
    unfold declareAll
    split
    · exact .pure trivial
    · rename_i heq
      cases heq
      exact (hvalue.bind fun value hvalue => (declare_sound _ hvalue).bind fun _ _ =>
        Sound.pure hvalue).bind fun _ _ => ih hrest
    · rename_i heq
      cases heq
      exact hvalue.bind fun _ _ => ih hrest

theorem startScope_sound (tests : List Test) : Sound Anything (startScope tests) := by
  have hfresh : Sound Anything (changeEnvironment fun _ => ⟨⟨[], tests⟩, []⟩) :=
    .changeEnvironment fun _ _ => List.forall_mem_singleton.mpr nofun
  exact hfresh.bind fun _ _ => (newFunction_sound (.builtin .namespace_)).bind fun _ hfunction =>
    declare_sound _ hfunction

theorem declareBuiltins_sound : Sound Anything declareBuiltins := by
  refine (declare_sound _ (.bool _)).bind fun _ _ => (declare_sound _ (.bool _)).bind fun _ _ => ?_
  refine (declare_sound _ (.bool _)).bind fun _ _ => (declare_sound _ (.bool _)).bind fun _ _ => ?_
  refine (declare_sound _ .null).bind fun _ _ => ?_
  refine (newFunction_sound (.builtin .range)).bind fun _ hrange => ?_
  refine (declare_sound _ hrange).bind fun _ _ => ?_
  exact (newFunction_sound (.builtin .raiseException)).bind fun _ hraise => declare_sound _ hraise

theorem render_sound {program : Node} (hprogram : program.IsTemplate) {entries : List (Host × Host)}
    (h : ∀ entry ∈ entries, entry.2.Plain) : Sound Anything (render program (.map entries)) := by
  have hstart : Sound Anything (startEnvironment (.map entries)) :=
    (startScope_sound Test.all).bind fun _ _ => declareBuiltins_sound.bind fun _ _ =>
      declareAll_sound h
  refine hstart.bind fun _ _ => ?_
  cases program with
  | program body =>
    exact block_sound fun node hmem => statement_sound (hprogram node hmem) (.inr rfl)
  | _ => cases hprogram

theorem State.plain_initial : State.initial.Plain :=
  ⟨fun _ => nofun, List.forall_mem_singleton.mpr nofun⟩

/-- A template that is given plain data has a text or fails in one of these ways: the failure is
reported as an error of the template, it is one of the three faults that escape, or an object
contains itself. -/
theorem render_fails_foreseen {trimming : Source.Trimming} {source : String} {program : Node}
    (hprogram : compile trimming source = .ok program) {entries : List (Host × Host)}
    (hentries : ∀ entry ∈ entries, entry.2.Plain) (library : HostLibrary) (strict : Bool)
    {fault : Fault}
    (hfault : (render program (.map entries) (.ofLibrary library [] strict) .initial).1 =
      .error fault) : fault.IsReported ∨ fault.Escapes ∨ fault = .containsItself := by
  have hsound := render_sound (isTemplate_of_compile hprogram) hentries
    (.ofLibrary library [] strict) .initial rfl State.plain_initial
  split at hsound
  · rename_i heq
    rw [heq] at hfault
    cases hfault
  · rename_i heq
    rw [heq] at hfault
    cases hfault
    exact Fault.isReported_of_isStrange hsound.1

/-- A separator that is empty escapes. -/
theorem render_fails_emptySeparator :
    let source := "\x7b\x7bx.split('')\x7d\x7d"
    let program : Node := .program [.call (.member (.name "x") (.name "split") false) [.text ""]]
    let entries : List (Host × Host) := [(.text "x", .text "a b")]
    compile {} source = .ok program ∧ (∀ entry ∈ entries, entry.2.Plain) ∧
      (render program (.map entries) (.ofLibrary Host.stock [] true) .initial).1 =
        .error .emptySeparator ∧
      Fault.emptySeparator.problem = .badValue "empty separator" ∧
      (Fault.emptySeparator.IsReported ∨ Fault.emptySeparator.Escapes ∨
        Fault.emptySeparator = .containsItself) := by
  intro source program entries
  have hprepared : Source.prepareChars {}
      ['{', '{', 'x', '.', 's', 'p', 'l', 'i', 't', '(', '\'', '\'', ')', '}', '}'] =
        ['{', '{', 'x', '.', 's', 'p', 'l', 'i', 't', '(', '\'', '\'', ')', '}', '}'] := by
    decide +kernel
  have hprogram : compile {} source = .ok program :=
    compile_of_analyse (analyse_of_spells (.chars _) hprepared rfl rfl)
  have hentries : ∀ entry ∈ entries, entry.2.Plain := List.forall_mem_singleton.mpr (.text _)
  have hfault : (render program (.map entries) (.ofLibrary Host.stock [] true) .initial).1 =
      .error .emptySeparator := by rfl
  exact ⟨hprogram, hentries, hfault, rfl, render_fails_foreseen hprogram hentries _ _ hfault⟩

end Eval

end TextTemplate
