import TextTemplate.Proofs.Syntax.Compiling
import TextTemplate.Prompt.Workspace

/-!
# What a step of a session does to the workspace

A session is a function from the workspace to an outcome and the workspace afterwards. Most steps
are quiet: they leave the prompts and the groups alone.
-/

namespace TextTemplate.Session

variable {α β : Type}

/-- The outcome of a session and the workspace it leaves behind. -/
def outcome (x : Session α) (w : Workspace) : Except Problem α × Workspace := (ExceptT.run x).run w

@[simp] theorem outcome_pure (a : α) (w : Workspace) :
    outcome (pure a) w = (.ok a, w) := rfl

@[simp] theorem outcome_throw (problem : Problem) (w : Workspace) :
    outcome (throw problem : Session α) w = (.error problem, w) := rfl

@[simp] theorem outcome_get (w : Workspace) : outcome get w = (.ok w, w) := rfl

@[simp] theorem outcome_set (w w' : Workspace) : outcome (set w') w = (.ok ⟨⟩, w') := rfl

@[simp] theorem outcome_modify (f : Workspace → Workspace) (w : Workspace) :
    outcome (modify f) w = (.ok ⟨⟩, f w) := rfl

theorem outcome_bind (x : Session α) (f : α → Session β) (w : Workspace) :
    outcome (x >>= f) w =
      match outcome x w with
      | (.ok a, w') => outcome (f a) w'
      | (.error problem, w') => (.error problem, w') := by
  show (ExceptT.run (x >>= f)).run w = _
  rw [ExceptT.run_bind, StateT.run_bind]
  show (fun p : Except Problem α × Workspace => _) ((ExceptT.run x).run w) = _
  unfold outcome
  cases (ExceptT.run x).run w with
  | mk result after => cases result <;> rfl

/-! ## Quiet steps -/

/-- Two workspaces with the same prompts, groups and library. -/
structure SameParts (w w' : Workspace) : Prop where
  library : w'.library = w.library
  prompts : w'.prompts = w.prompts
  groups : w'.groups = w.groups

theorem SameParts.refl (w : Workspace) : SameParts w w := ⟨rfl, rfl, rfl⟩

theorem SameParts.trans {w w' w'' : Workspace} (h : SameParts w w') (h' : SameParts w' w'') :
    SameParts w w'' :=
  ⟨h'.library.trans h.library, h'.prompts.trans h.prompts, h'.groups.trans h.groups⟩

/-- A step that leaves the prompts, the groups and the library alone, whether it fails or not. -/
def Quiet (x : Session α) : Prop := ∀ w, SameParts w (outcome x w).2

namespace Quiet

protected theorem pure (a : α) : Quiet (pure a : Session α) := .refl

protected theorem throw (problem : Problem) : Quiet (throw problem : Session α) := .refl

protected theorem get : Quiet get := .refl

protected theorem bind {x : Session α} {f : α → Session β} (hx : Quiet x)
    (hf : ∀ a, Quiet (f a)) : Quiet (x >>= f) := by
  intro w
  rw [outcome_bind]
  have hfirst := hx w
  split
  · rename_i heq
    rw [heq] at hfirst
    exact hfirst.trans (hf _ _)
  · rename_i heq
    rw [heq] at hfirst
    exact hfirst

protected theorem ite {c : Prop} [Decidable c] {x y : Session α} (hx : Quiet x) (hy : Quiet y) :
    Quiet (if c then x else y) := by
  split
  · exact hx
  · exact hy

theorem modify {f : Workspace → Workspace} (h : ∀ w, SameParts w (f w)) :
    Quiet (modify f : Session PUnit) := h

end Quiet

theorem prompt_quiet (number : Nat) : Quiet (prompt number) := by
  refine Quiet.get.bind fun w => ?_
  split
  · exact .pure _
  · exact .throw _

theorem group_quiet (number : Nat) : Quiet (group number) := by
  refine Quiet.get.bind fun w => ?_
  split
  · exact .pure _
  · exact .throw _

theorem globals_quiet (prompt : Prompt) : Quiet (globals prompt) := by
  unfold globals
  split
  · exact .pure _
  · exact (group_quiet _).bind fun _ => .pure _

theorem record_quiet (activity : Activity) : Quiet (record activity) :=
  .modify fun _ => ⟨rfl, rfl, rfl⟩

theorem checkNames_quiet (named : Fields Host) : Quiet (checkNames named) :=
  .ite (.throw _) (.pure _)

theorem takeOption_quiet (name : String) (given : Option Host) (named : Fields Host) :
    Quiet (takeOption name given named) := by
  unfold takeOption
  split
  · exact .throw _
  · exact .pure _
  · exact .pure _

theorem takeStrict_quiet (prompt : Prompt) (given : Option Host) (named : Fields Host) :
    Quiet (takeStrict prompt given named) := by
  refine (takeOption_quiet "strict" given named).bind fun taken => ?_
  split
  · exact .pure _
  · exact .pure _
  · exact .pure _

theorem compileSource_quiet (trimming : Source.Trimming) (source : String) :
    Quiet (compileSource trimming source) := by
  unfold compileSource
  split
  · exact .throw _
  · refine Quiet.get.bind fun w => ?_
    refine Quiet.bind (Quiet.modify fun _ => ⟨rfl, rfl, rfl⟩) fun _ => ?_
    exact (record_quiet _).bind fun _ => .pure _

theorem conversionFault?_quiet (value : Host) : Quiet (conversionFault? value) := by
  refine Quiet.get.bind fun w => ?_
  dsimp only
  split
  · exact .pure _
  · exact .pure _

theorem checkValues_quiet (values : List Host) : Quiet (checkValues values) := by
  induction values with
  | nil => exact .pure _
  | cons value rest ih =>
    refine (conversionFault?_quiet value).bind fun fault => ?_
    split
    · exact .throw _
    · exact ih

theorem evaluate_quiet (filters : Fields HostFunction) (strict : Bool) (x : Eval α) :
    Quiet (evaluate filters strict x) := by
  intro w
  rw [evaluate, outcome_bind, outcome_get]
  dsimp only
  rw [outcome_bind, outcome_set]
  dsimp only
  split
  · exact ⟨rfl, rfl, rfl⟩
  · exact ⟨rfl, rfl, rfl⟩

theorem renderIn_quiet (strict : Host) (prompt : Prompt) (given : Fields Host) :
    Quiet (renderIn strict prompt given) :=
  (globals_quiet prompt).bind fun _ => (evaluate_quiet _ _ _).bind fun _ =>
    (record_quiet _).bind fun _ => .pure _

theorem render_quiet (number : Nat) (strict : Option Host) (named : Fields Host) :
    Quiet (render number strict named) :=
  (checkNames_quiet named).bind fun _ => (prompt_quiet number).bind fun prompt =>
    (takeStrict_quiet prompt strict named).bind fun _ => renderIn_quiet _ _ _

theorem format_quiet (number : Nat) (named : Fields Host) : Quiet (format number named) :=
  (checkNames_quiet named).bind fun _ => (prompt_quiet number).bind fun _ => renderIn_quiet _ _ _

theorem applyNamed_quiet (number : Nat) (messages : Host) (options : ChatOptions)
    (named : Fields Host) : Quiet (do
      let prompt ← prompt number
      let (strict, named) ← takeStrict prompt options.strict named
      let (opened, named) ← takeOption "add_generation_prompt" options.addGenerationPrompt named
      let (bos, named) ← takeOption "bos_token" options.bosToken named
      let (eos, named) ← takeOption "eos_token" options.eosToken named
      renderIn strict prompt <|
        [("messages", messages), ("add_generation_prompt", opened.getD (.bool true)),
          ("bos_token", bos.getD (.text "")), ("eos_token", eos.getD (.text ""))] ++ named) :=
  (prompt_quiet number).bind fun prompt => (takeStrict_quiet prompt _ _).bind fun _ =>
    (takeOption_quiet _ _ _).bind fun _ => (takeOption_quiet _ _ _).bind fun _ =>
      (takeOption_quiet _ _ _).bind fun _ => renderIn_quiet _ _ _

theorem apply_quiet (number : Nat) (messages : Host) (options : ChatOptions)
    (named : Fields Host) : Quiet (apply number messages options named) := by
  have hrest := applyNamed_quiet number messages options named
  exact (checkNames_quiet named).bind fun _ =>
    .ite ((Quiet.throw _).bind fun _ => hrest) hrest

/-! ## Steps that make something -/

/-- A step that fails and leaves the parts of the workspace alone, or makes one prompt. -/
inductive MakesPrompt (w : Workspace) (good : Prompt → Prop) :
    Except Problem Nat × Workspace → Prop
  | failed {problem : Problem} {w' : Workspace} (h : SameParts w w') :
    MakesPrompt w good (.error problem, w')
  | made {prompt : Prompt} {w' : Workspace} (h : good prompt) (hlibrary : w'.library = w.library)
    (hprompts : w'.prompts = w.prompts ++ [prompt]) (hgroups : w'.groups = w.groups) :
    MakesPrompt w good (.ok w.prompts.length, w')

theorem outcome_addPrompt (prompt : Prompt) (w : Workspace) :
    outcome (addPrompt prompt) w =
      (.ok w.prompts.length, { w with prompts := w.prompts ++ [prompt] }) := rfl

theorem compile_of_compileSource {trimming : Source.Trimming} {source : String}
    {program : Program} {w w' : Workspace}
    (h : outcome (compileSource trimming source) w = (.ok program, w')) :
    compile trimming source = .ok program.tree := by
  unfold compileSource at h
  split at h
  · cases h
  · rename_i hanalyse
    cases h
    exact compile_of_analyse hanalyse

theorem newPrompt_makes (trimming : Source.Trimming) (strict : Bool) (source : Host)
    (w : Workspace) :
    MakesPrompt w
      (fun prompt => ∃ text program, source = .text text ∧
        compile trimming text = .ok program.tree ∧
        prompt = ⟨text, strict, program, [], [], none⟩)
      (outcome (newPrompt trimming strict source) w) := by
  cases source with
  | text text =>
    have hquiet := compileSource_quiet trimming text w
    rw [newPrompt, outcome_bind]
    split
    · rename_i hcompile
      rw [hcompile] at hquiet
      rw [outcome_addPrompt, hquiet.prompts]
      exact .made ⟨text, _, rfl, compile_of_compileSource hcompile, rfl⟩ hquiet.library rfl
        hquiet.groups
    · rename_i hcompile
      rw [hcompile] at hquiet
      exact .failed hquiet
  | _ => exact .failed (.refl w)

theorem newPreset_makes (name : String) (w : Workspace) :
    MakesPrompt w
      (fun prompt => ∃ preset program, Preset.ofName? name = some preset ∧
        compile .full preset.source = .ok program.tree ∧
        prompt = ⟨preset.source, false, program, [], [], none⟩)
      (outcome (newPreset name) w) := by
  unfold newPreset
  split
  · rename_i preset hpreset
    have hmakes := newPrompt_makes .full false (.text preset.source) w
    generalize outcome (newPrompt .full false (.text preset.source)) w = made at hmakes ⊢
    cases hmakes with
    | failed h => exact .failed h
    | made hprompt hlibrary hprompts hgroups =>
      obtain ⟨text, program, hsource, hprogram, rfl⟩ := hprompt
      cases hsource
      exact .made ⟨preset, program, hpreset, hprogram, rfl⟩ hlibrary hprompts hgroups
  · exact .failed (.refl w)

theorem outcome_group (number : Nat) (w : Workspace) :
    outcome (group number) w =
      match w.groups[number]? with
      | some group => (.ok group, w)
      | none => (.error .noKey, w) := by
  cases h : w.groups[number]? <;> simp [group, outcome_bind, h]

theorem outcome_prompt (number : Nat) (w : Workspace) :
    outcome (prompt number) w =
      match w.prompts[number]? with
      | some prompt => (.ok prompt, w)
      | none => (.error .noKey, w) := by
  cases h : w.prompts[number]? <;> simp [prompt, outcome_bind, h]

theorem newPromptIn_makes (number : Nat) (strict : Option Bool) (source : Host) (w : Workspace) :
    MakesPrompt w
      (fun prompt => ∃ text group program, source = .text text ∧
        w.groups[number]? = some group ∧ compile .full text = .ok program.tree ∧
        prompt = ⟨text, strict.getD group.strict, program, [], group.filters, some number⟩)
      (outcome (newPromptIn number strict source) w) := by
  rw [newPromptIn, outcome_bind, outcome_group]
  cases hgroup : w.groups[number]? with
  | none => exact .failed (.refl w)
  | some found =>
    dsimp only
    have hmakes := newPrompt_makes .full (strict.getD found.strict) source w
    rw [outcome_bind]
    generalize outcome (newPrompt .full (strict.getD found.strict) source) w = made at hmakes ⊢
    cases hmakes with
    | failed h => exact .failed h
    | @made prompt w' hprompt hlibrary hprompts hgroups =>
      obtain ⟨text, program, hsource, hprogram, rfl⟩ := hprompt
      refine .made ⟨text, found, program, hsource, rfl, hprogram, rfl⟩ hlibrary ?_ hgroups
      show w'.prompts.modify w.prompts.length _ = _
      rw [hprompts]
      exact List.modifyTailIdx_add _ 0 w.prompts _

/-- A prompt with more variables given in advance. -/
theorem settle_makes (number : Nat) (named : Fields Host) (w : Workspace) :
    MakesPrompt w
      (fun prompt => ∃ parent, w.prompts[number]? = some parent ∧ prompt = parent.settle named)
      (outcome (settle number named) w) := by
  have hnames := checkNames_quiet named w
  rw [settle, outcome_bind]
  split
  · rename_i w' heq
    rw [heq] at hnames
    rw [outcome_bind, outcome_prompt, hnames.prompts]
    cases hparent : w.prompts[number]? with
    | none => exact .failed hnames
    | some parent =>
      dsimp only
      have hvalues := checkValues_quiet named.values w'
      rw [outcome_bind]
      split
      · rename_i heq
        rw [heq] at hvalues
        have hsame := hnames.trans hvalues
        rw [outcome_addPrompt, hsame.prompts]
        exact .made ⟨parent, rfl, rfl⟩ hsame.library rfl hsame.groups
      · rename_i heq
        rw [heq] at hvalues
        exact .failed (hnames.trans hvalues)
  · rename_i heq
    rw [heq] at hnames
    exact .failed hnames

/-! ## Renderings -/

/-- A tree rendered with variables and filters, in the memory that a workspace has. -/
def rendering (w : Workspace) (tree : Node) (bound : Fields Host)
    (filters : Fields HostFunction) (strict : Bool) : Except Problem String :=
  ((Eval.render tree (.ofFields bound) (.ofLibrary w.library filters strict)
    { State.initial with memory := w.memory }).1).mapError Fault.problem

/-- The mode of a rendering that may ask for one. -/
def mode (own : Bool) : Option Host → Bool
  | none | some .null => own
  | some value => value.truthy

theorem outcome_evaluate {α : Type} (filters : Fields HostFunction) (strict : Bool) (x : Eval α)
    (w : Workspace) :
    (outcome (evaluate filters strict x) w).1 =
      (x (.ofLibrary w.library filters strict)
        { State.initial with memory := w.memory }).1.mapError Fault.problem := by
  rw [evaluate, outcome_bind, outcome_get]
  dsimp only
  rw [outcome_bind, outcome_set]
  dsimp only
  split
  · rename_i heq
    rw [heq]
    rfl
  · rename_i heq
    rw [heq]
    rfl

theorem outcome_renderIn {prompt : Prompt} {w : Workspace} {globals : Fields Host}
    (h : outcome (Session.globals prompt) w = (.ok globals, w)) (strict : Host)
    (given : Fields Host) :
    (outcome (renderIn strict prompt given) w).1 =
      rendering w prompt.program.tree (prompt.merged globals given) prompt.filters
        strict.truthy := by
  rw [renderIn, outcome_bind, h]
  dsimp only
  rw [outcome_bind, rendering, ← outcome_evaluate]
  split
  · rename_i heq
    rw [heq]
    rfl
  · rename_i heq
    rw [heq]

theorem erase_of_has {α : Type} {fields : Fields α} {name : String} (h : fields.has name = false) :
    fields.erase name = fields := by
  induction fields with
  | nil => rfl
  | cons field rest ih =>
    obtain ⟨key, value⟩ := field
    simp only [Fields.has, Fields.get?, List.lookup] at h
    split at h
    · cases h
    · rename_i hne
      have hkey : (key != name) = true := by
        rw [bne, Bool.beq_comm, hne]
        rfl
      have hrest : rest.filter (·.1 != name) = rest := ih h
      simp only [Fields.erase, List.filter_cons, hkey, ↓reduceIte, hrest]

/-- An option that no variable has the name of. -/
theorem outcome_takeOption {name : String} (given : Option Host) {named : Fields Host}
    (h : named.has name = false) (w : Workspace) :
    outcome (takeOption name given named) w = (.ok (given, named), w) := by
  have hget : named.get? name = none := Option.not_isSome_iff_eq_none.mp (by
    rw [← Fields.has, h]
    exact Bool.false_ne_true)
  cases given with
  | none => simp [takeOption, hget, erase_of_has h]
  | some value => simp [takeOption, hget]

/-- The mode of a rendering, if no variable has its name. -/
theorem outcome_takeStrict (prompt : Prompt) (asked : Option Host) {named : Fields Host}
    (h : named.has "strict" = false) (w : Workspace) :
    ∃ strict, outcome (takeStrict prompt asked named) w = (.ok (strict, named), w) ∧
      strict.truthy = mode prompt.strict asked := by
  rw [takeStrict, outcome_bind, outcome_takeOption asked h]
  cases asked with
  | none => exact ⟨.bool prompt.strict, rfl, rfl⟩
  | some value =>
    cases value with
    | null => exact ⟨.bool prompt.strict, rfl, rfl⟩
    | _ => exact ⟨_, rfl, rfl⟩

/-- Rendering in the mode of the prompt or in the one that is asked for. -/
theorem outcome_render {number : Nat} {prompt : Prompt} {w : Workspace} {globals : Fields Host}
    (hprompt : w.prompts[number]? = some prompt)
    (hglobals : outcome (Session.globals prompt) w = (.ok globals, w)) {given : Fields Host}
    (hself : given.has promptName = false) (hstrict : given.has "strict" = false)
    (asked : Option Host) :
    (outcome (render number asked given) w).1 =
      rendering w prompt.program.tree (prompt.merged globals given) prompt.filters
        (mode prompt.strict asked) := by
  obtain ⟨strict, htake, hmode⟩ := outcome_takeStrict prompt asked hstrict w
  have hnames : outcome (checkNames given) w = (.ok (), w) := by simp [checkNames, hself]
  simp only [render, outcome_bind, hnames, outcome_prompt, hprompt, htake]
  rw [outcome_renderIn hglobals, hmode]

theorem outcome_format {number : Nat} {prompt : Prompt} {w : Workspace} {globals : Fields Host}
    (hprompt : w.prompts[number]? = some prompt)
    (hglobals : outcome (Session.globals prompt) w = (.ok globals, w)) {given : Fields Host}
    (hself : given.has promptName = false) :
    (outcome (format number given) w).1 =
      rendering w prompt.program.tree (prompt.merged globals given) prompt.filters
        prompt.strict := by
  have hnames : outcome (checkNames given) w = (.ok (), w) := by simp [checkNames, hself]
  simp only [format, outcome_bind, hnames, outcome_prompt, hprompt]
  exact outcome_renderIn hglobals _ _

/-- Rendering a conversation with nothing but the messages and the options. -/
theorem outcome_apply {number : Nat} {prompt : Prompt} {w : Workspace} {globals : Fields Host}
    (hprompt : w.prompts[number]? = some prompt)
    (hglobals : outcome (Session.globals prompt) w = (.ok globals, w)) (messages : Host)
    (options : ChatOptions) :
    (outcome (apply number messages options []) w).1 =
      rendering w prompt.program.tree
        (prompt.merged globals [("messages", messages),
          ("add_generation_prompt", options.addGenerationPrompt.getD (.bool true)),
          ("bos_token", options.bosToken.getD (.text "")),
          ("eos_token", options.eosToken.getD (.text ""))])
        prompt.filters (mode prompt.strict options.strict) := by
  obtain ⟨strict, htake, hmode⟩ := @outcome_takeStrict prompt options.strict [] rfl w
  have hnames : outcome (checkNames []) w = (.ok (), w) := rfl
  have hoption (name : String) (given : Option Host) :
      outcome (takeOption name given []) w = (.ok (given, []), w) := outcome_takeOption given rfl w
  have hmessages : Fields.has ([] : Fields Host) "messages" = false := rfl
  simp only [apply, outcome_bind, hnames, hmessages, Bool.false_eq_true, ↓reduceIte,
    outcome_prompt, hprompt, htake, hoption]
  rw [outcome_renderIn hglobals, hmode]
  rfl

/-! ## Sources that are read -/

theorem outcome_compileSource {trimming : Source.Trimming} {source : String} {tokens : List Token}
    {tree : Node} (h : analyse trimming source = .ok (tokens, tree)) (w : Workspace) :
    ∃ w', outcome (compileSource trimming source) w = (.ok ⟨w.programs, tree⟩, w') ∧
      SameParts w w' := by
  have hquiet := compileSource_quiet trimming source w
  have hrun : ∃ w', outcome (compileSource trimming source) w = (.ok ⟨w.programs, tree⟩, w') := by
    rw [compileSource, h]
    exact ⟨_, rfl⟩
  obtain ⟨w', hrun⟩ := hrun
  rw [hrun] at hquiet
  exact ⟨w', hrun, hquiet⟩

end TextTemplate.Session
