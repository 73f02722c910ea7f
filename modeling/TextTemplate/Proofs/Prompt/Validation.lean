import TextTemplate.Host.Stock
import TextTemplate.Proofs.Eval.Refusal
import TextTemplate.Proofs.Prompt.History

/-!
# What a valid verdict is worth

The verdict on variables is found by looking at the variables that are given and at names. A
rendering declares all variables on top of the names that are there from the beginning, so a name
of these and a global that templates cannot take get past the verdict; nothing else does.
-/

namespace TextTemplate

namespace Session

variable {w w' : Workspace} {named : Fields Host}

/-! ## Verdicts -/

theorem outcome_conversionFault? (value : Host) (w : Workspace) :
    outcome (conversionFault? value) w = (.ok (value.refusal? false), w) := by
  let start := { State.initial with memory := w.memory }
  have hfails := Eval.convert_failsWith false value (.ofLibrary w.library [] false) start
  rw [conversionFault?, outcome_bind, outcome_get, ← hfails]
  dsimp only [Eval.fromHost, start]
  generalize (Eval.convert false value _ _).1 = result
  cases result with
  | ok => rfl
  | error => rfl

/-- Sorting out finds nothing against variables only if there is nothing against any of them. -/
theorem sortOut_of_nil {valid : Fields Host} {invalid : Fields String}
    (h : outcome (sortOut named) w = (.ok (valid, invalid), w')) :
    w' = w ∧ (invalid = [] → valid = named ∧ ∀ pair ∈ named, pair.2.Convertible) := by
  induction named generalizing valid invalid w' with
  | nil =>
    cases h
    exact ⟨rfl, fun _ => ⟨rfl, nofun⟩⟩
  | cons pair rest ih =>
    obtain ⟨name, value⟩ := pair
    rw [sortOut, outcome_bind, outcome_conversionFault?] at h
    cases hrefusal : value.refusal? false with
    | none =>
      rw [hrefusal] at h
      dsimp only at h
      rw [outcome_bind] at h
      split at h
      · rename_i found w'' hrest
        obtain ⟨valid', invalid'⟩ := found
        obtain ⟨rfl, hsound⟩ := ih hrest
        cases h
        refine ⟨rfl, fun hnil => ?_⟩
        obtain ⟨rfl, hothers⟩ := hsound hnil
        exact ⟨rfl, List.forall_mem_cons.mpr ⟨Host.convertible_iff.mpr hrefusal, hothers⟩⟩
      · cases h
    | some fault =>
      rw [hrefusal] at h
      dsimp only at h
      split at h
      · rw [outcome_bind] at h
        split at h
        · rename_i found w'' hrest
          obtain ⟨valid', invalid'⟩ := found
          obtain ⟨rfl, -⟩ := ih hrest
          cases h
          exact ⟨rfl, nofun⟩
        · cases h
      · cases h

theorem outcome_checkNames (h : named.has promptName = false) (w : Workspace) :
    outcome (checkNames named) w = (.ok (), w) := by
  simp [checkNames, h]

theorem eq_of_globals {prompt : Prompt} {globals : Fields Host}
    (h : outcome (Session.globals prompt) w = (.ok globals, w')) : w' = w := by
  unfold Session.globals at h
  split at h
  · cases h
    rfl
  · rename_i group _
    rw [outcome_bind, outcome_group] at h
    cases hgroup : w.groups[group]? with
    | none =>
      rw [hgroup] at h
      cases h
    | some found =>
      rw [hgroup] at h
      cases h
      rfl

theorem eq_nil_of_sortedByName {invalid : Fields String}
    (h : Verdict.sortedByName (Fields.ofPairs invalid) = []) : invalid = [] := by
  have hpairs : Fields.ofPairs invalid = [] := by
    rw [← List.length_eq_zero_iff, ← List.length_mergeSort, ← Verdict.sortedByName, h]
    rfl
  cases invalid with
  | nil => rfl
  | cons pair rest =>
    have hmem : pair.1 ∈ (Fields.ofPairs (pair :: rest)).keys :=
      Fields.mem_keys_putAll.mpr (.inr (.head _))
    rw [hpairs] at hmem
    cases hmem

/-- A valid verdict on variables, and what it is about. -/
structure Approves (w : Workspace) (number : Nat) (named : Fields Host) (validation : Validation)
    (prompt : Prompt) (globals : Fields Host) : Prop where
  valid : validation.verdict.isValid = true
  names : named.has promptName = false
  found : w.prompts[number]? = some prompt
  seen : outcome (Session.globals prompt) w = (.ok globals, w)
  subject : validation.subject = some ⟨number, named, prompt.strict⟩
  convertible : ∀ pair ∈ named, pair.2.Convertible

theorem approves_of_validate {number : Nat} {validation : Validation}
    (h : outcome (validate number named) w = (.ok validation, w'))
    (hvalid : validation.verdict.isValid = true) :
    w' = w ∧ ∃ prompt globals, Approves w number named validation prompt globals := by
  cases hnames : named.has promptName with
  | true =>
    simp only [validate, outcome_bind, checkNames, hnames, ↓reduceIte, outcome_throw] at h
    cases h
  | false =>
    rw [validate, outcome_bind, outcome_checkNames hnames] at h
    dsimp only at h
    rw [outcome_bind, outcome_prompt] at h
    cases hprompt : w.prompts[number]? with
    | none =>
      rw [hprompt] at h
      cases h
    | some prompt =>
      rw [hprompt] at h
      dsimp only at h
      rw [outcome_bind] at h
      split at h
      · rename_i found w₁ hsorted
        obtain ⟨valid, invalid⟩ := found
        obtain ⟨rfl, hsound⟩ := sortOut_of_nil hsorted
        dsimp only at h
        rw [outcome_bind] at h
        split at h
        · rename_i globals w₂ hglobals
          obtain rfl := eq_of_globals hglobals
          cases h
          have hnil : invalid = [] := by
            simp only [Verdict.isValid, Bool.and_eq_true, List.isEmpty_iff] at hvalid
            exact eq_nil_of_sortedByName hvalid.2
          obtain ⟨rfl, hconvertible⟩ := hsound hnil
          exact ⟨rfl, prompt, globals, hvalid, hnames, hprompt, hglobals, rfl, hconvertible⟩
        · cases h
      · cases h

theorem outcome_takeOption_of_taken {name : String} (value : Host) (h : named.has name = true)
    (w : Workspace) : outcome (takeOption name (some value) named) w = (.error .wrongType, w) := by
  obtain ⟨found, hfound⟩ := Option.isSome_iff_exists.mp h
  simp [takeOption, hfound]

/-- Rendering what has been found valid is rendering the prompt with the same variables, if nothing
has been changed in between and no variable has the name of the mode. With a variable of this name
it fails. -/
theorem renderValidated_of_validate {number : Nat} {validation : Validation}
    (h : outcome (validate number named) w = (.ok validation, w'))
    (hvalid : validation.verdict.isValid = true) :
    w' = w ∧
      (named.has "strict" = false →
        outcome (renderValidated validation none) w = outcome (format number named) w ∧
        ∀ asked, outcome (renderValidated validation (some asked)) w =
          outcome (render number (some (.bool asked)) named) w) ∧
      (named.has "strict" = true →
        ∀ asked, outcome (renderValidated validation asked) w = (.error .wrongType, w)) := by
  obtain ⟨rfl, prompt, globals, happroves⟩ := approves_of_validate h hvalid
  have hrender (asked : Option Bool) : outcome (renderValidated validation asked) w' =
      outcome (render number (some (.bool (asked.getD prompt.strict))) named) w' := by
    unfold renderValidated
    rw [happroves.subject]
    dsimp only
    rw [if_pos happroves.valid]
  have hgiven (strict : Host) : outcome (render number (some strict) named) w' =
      outcome (takeStrict prompt (some strict) named >>= fun taken =>
        renderIn taken.1 prompt taken.2) w' := by
    simp only [render, outcome_bind, outcome_checkNames happroves.names, outcome_prompt,
      happroves.found]
  refine ⟨rfl, fun hstrict => ⟨?_, fun asked => hrender (some asked)⟩, fun hstrict asked => ?_⟩
  · simp only [hrender, hgiven, takeStrict, format, outcome_bind, outcome_takeOption _ hstrict,
      outcome_checkNames happroves.names, outcome_prompt, happroves.found]
    rfl
  · simp only [hrender, hgiven, takeStrict, outcome_bind, outcome_takeOption_of_taken _ hstrict]

/-- A prompt that shows a variable, found valid with it and rendered, and found valid with a
further variable of the name of the mode, which keeps it from being rendered. -/
theorem renderValidated_of_validate_strict :
    let prompt : Prompt :=
      ⟨"\x7b\x7bx\x7d\x7d", false, ⟨0, .program [.name "x"]⟩, [], [], none⟩
    let w : Workspace := { Workspace.ofLibrary Host.stock with prompts := [prompt] }
    let named : Fields Host := [("x", .text "a")]
    let named' : Fields Host := [("x", .text "a"), ("strict", .text "b")]
    (∃ validation, outcome (validate 0 named) w = (.ok validation, w) ∧
      validation.verdict.isValid = true ∧
      outcome (renderValidated validation none) w = outcome (format 0 named) w) ∧
    ∃ validation, outcome (validate 0 named') w = (.ok validation, w) ∧
      validation.verdict.isValid = true ∧
      outcome (renderValidated validation none) w = (.error .wrongType, w) := by
  intro prompt w named named'
  obtain ⟨validation, h, hvalid⟩ : ∃ validation,
      outcome (validate 0 named) w = (.ok validation, w) ∧ validation.verdict.isValid = true :=
    ⟨_, rfl, by decide +kernel⟩
  obtain ⟨validation', h', hvalid'⟩ : ∃ validation,
      outcome (validate 0 named') w = (.ok validation, w) ∧ validation.verdict.isValid = true :=
    ⟨_, rfl, by decide +kernel⟩
  obtain ⟨-, hfree, -⟩ := renderValidated_of_validate h hvalid
  obtain ⟨-, -, htaken⟩ := renderValidated_of_validate h' hvalid'
  exact ⟨⟨validation, h, hvalid, (hfree rfl).1⟩, validation', h', hvalid', htaken rfl none⟩

end Session

/-! ## Workspaces -/

namespace Session

variable {w w' : Workspace}

theorem workspace_bind_pure {α β : Type} (x : Session α) (f : α → β) (w : Workspace) :
    (outcome (x >>= fun a => pure (f a)) w).2 = (outcome x w).2 := by
  rw [outcome_bind]
  split
  · rename_i heq
    rw [heq]
    rfl
  · rename_i heq
    rw [heq]

theorem convertible_of_checkValues {values : List Host}
    (h : outcome (checkValues values) w = (.ok (), w')) : ∀ value ∈ values, value.Convertible := by
  induction values generalizing w w' with
  | nil => exact nofun
  | cons value rest ih =>
    rw [checkValues, outcome_bind, outcome_conversionFault?] at h
    cases hrefusal : value.refusal? false with
    | none =>
      rw [hrefusal] at h
      exact List.forall_mem_cons.mpr ⟨Host.convertible_iff.mpr hrefusal, ih h⟩
    | some fault =>
      rw [hrefusal] at h
      cases h

theorem convertible_of_settle {number made : Nat} {named : Fields Host}
    (h : (outcome (settle number named) w).1 = .ok made) :
    ∀ pair ∈ named, pair.2.Convertible := by
  rw [settle, outcome_bind] at h
  split at h
  · rw [outcome_bind] at h
    split at h
    · rw [outcome_bind] at h
      split at h
      · rename_i hvalues
        exact fun pair hmem =>
          convertible_of_checkValues hvalues pair.2 (List.mem_map.mpr ⟨pair, hmem, rfl⟩)
      · cases h
    · cases h
  · cases h

end Session

/-- Variables given in advance have counterparts, and the names of globals are told apart. -/
structure Workspace.Checked (w : Workspace) : Prop where
  settled : ∀ prompt ∈ w.prompts, ∀ pair ∈ prompt.settled, pair.2.Convertible
  globals : ∀ group ∈ w.groups, group.globals.keys.Nodup

namespace Workspace.Checked

open Session (SameParts MakesPrompt outcome)

variable {w w' : Workspace}

theorem quiet (h : w.Checked) (hsame : SameParts w w') : w'.Checked :=
  ⟨hsame.prompts ▸ h.settled, hsame.groups ▸ h.globals⟩

theorem makes (h : w.Checked) {x : Session Nat} {good : Prompt → Prop}
    (hmakes : MakesPrompt w good (outcome x w))
    (hgood : ∀ made prompt, (outcome x w).1 = .ok made → good prompt →
      ∀ pair ∈ prompt.settled, pair.2.Convertible) : (outcome x w).2.Checked := by
  generalize outcome x w = result at hmakes hgood
  cases hmakes with
  | failed hsame => exact h.quiet hsame
  | made hprompt hlibrary hprompts hgroups =>
    refine ⟨fun prompt hmem => ?_, hgroups ▸ h.globals⟩
    rw [hprompts] at hmem
    rcases List.mem_append.mp hmem with hold | hnew
    · exact h.settled prompt hold
    · obtain rfl := List.mem_singleton.mp hnew
      exact hgood _ _ rfl hprompt

theorem changePrompt (h : w.Checked) (number : Nat) (f : Prompt → Prompt)
    (hf : ∀ prompt, (f prompt).settled = prompt.settled) :
    Checked { w with prompts := w.prompts.modify number f } := by
  refine ⟨fun prompt hmem => ?_, h.globals⟩
  obtain ⟨place, hplace⟩ := List.getElem?_of_mem hmem
  rw [List.getElem?_modify] at hplace
  obtain ⟨old, hold, rfl⟩ := Option.map_eq_some_iff.mp hplace
  have hsettled := h.settled old (List.mem_of_getElem? hold)
  split
  · rwa [hf]
  · exact hsettled

theorem changeGroup (h : w.Checked) (number : Nat) (f : PromptGroup → PromptGroup)
    (hf : ∀ group : PromptGroup, group.globals.keys.Nodup → (f group).globals.keys.Nodup) :
    Checked { w with groups := w.groups.modify number f } := by
  refine ⟨h.settled, fun group hmem => ?_⟩
  obtain ⟨place, hplace⟩ := List.getElem?_of_mem hmem
  rw [List.getElem?_modify] at hplace
  obtain ⟨old, hold, rfl⟩ := Option.map_eq_some_iff.mp hplace
  have hglobals := h.globals old (List.mem_of_getElem? hold)
  split
  · exact hf old hglobals
  · exact hglobals

/-- What can be done with prompts and groups keeps them in order. -/
theorem perform (h : w.Checked) (command : Command) :
    (outcome command.perform w).2.Checked := by
  cases command with
  | newPrompt trimming strict source =>
    rw [Command.perform, Session.workspace_bind_pure]
    refine h.makes (Session.newPrompt_makes trimming strict source w) ?_
    rintro - - - ⟨text, program, -, -, rfl⟩
    exact nofun
  | newPreset name =>
    rw [Command.perform, Session.workspace_bind_pure]
    refine h.makes (Session.newPreset_makes name w) ?_
    rintro - - - ⟨preset, program, -, -, rfl⟩
    exact nofun
  | newGroup strict =>
    refine ⟨h.settled, fun group hmem => ?_⟩
    rcases List.mem_append.mp hmem with hold | hnew
    · exact h.globals group hold
    · obtain rfl := List.mem_singleton.mp hnew
      exact List.nodup_nil
  | newPromptIn group strict source =>
    rw [Command.perform, Session.workspace_bind_pure]
    refine h.makes (Session.newPromptIn_makes group strict source w) ?_
    rintro - - - ⟨text, found, program, -, -, -, rfl⟩
    exact nofun
  | settle parent given =>
    rw [Command.perform, Session.workspace_bind_pure]
    refine h.makes (Session.settle_makes parent given w) ?_
    rintro made - hmade ⟨found, hfound, rfl⟩ pair hmem
    rcases Fields.mem_of_mem_putAll hmem with hgiven | hsettled
    · exact Session.convertible_of_settle hmade pair hgiven
    · exact h.settled found (List.mem_of_getElem? hfound) pair hsettled
  | putFilter target name value =>
    cases value with
    | function f => exact h.changePrompt target _ fun _ => rfl
    | _ => exact h
  | putGroupFilter group name value =>
    cases value with
    | function f => exact h.changeGroup group _ fun _ hkeys => hkeys
    | _ => exact h
  | changeGroupFilters group change => exact h.changeGroup group _ fun _ hkeys => hkeys
  | putGlobal group name value =>
    exact h.changeGroup group _ fun _ hkeys => Fields.nodup_keys_put hkeys
  | eraseGlobal group name =>
    rw [Command.perform, Session.workspace_bind_pure, Session.eraseGlobal, Session.outcome_bind,
      Session.outcome_group]
    cases w.groups[group]? with
    | none => exact h
    | some found =>
      dsimp only
      split
      · exact h.changeGroup group _ fun _ hkeys => Fields.nodup_keys_erase hkeys name
      · exact h
  | render prompt strict given =>
    exact h.quiet (((Session.render_quiet prompt strict given).bind fun _ => .pure _) w)
  | format prompt given =>
    exact h.quiet (((Session.format_quiet prompt given).bind fun _ => .pure _) w)
  | apply prompt messages options given =>
    exact h.quiet (((Session.apply_quiet prompt messages options given).bind fun _ => .pure _) w)

end Workspace.Checked

namespace Course

theorem workspace_step (course : Course) (command : Command) :
    (course.step command).workspace = (command.perform.outcome course.workspace).2 := by
  unfold step
  split
  · rename_i heq
    rw [heq]
  · rename_i heq
    rw [heq]

theorem checked_run (library : HostLibrary) (commands : List Command) :
    ((start library).run commands).workspace.Checked := by
  have hrun (course : Course) (h : course.workspace.Checked) :
      (course.run commands).workspace.Checked := by
    induction commands generalizing course with
    | nil => exact h
    | cons command rest ih =>
      refine ih (course.step command) ?_
      rw [workspace_step]
      exact h.perform command
  exact hrun (start library) ⟨nofun, nofun⟩

end Course

/-! ## Starting a rendering -/

namespace Prompt

variable {prompt : Prompt} {globals named : Fields Host} {pair : String × Host}

/-- The globals that come into a rendering: those of whose names nothing else is given. -/
def unshadowed (prompt : Prompt) (globals named : Fields Host) : Fields Host :=
  globals.filter fun (name, _) => !prompt.settled.has name && !named.has name

theorem mem_unshadowed : pair ∈ prompt.unshadowed globals named ↔
    pair ∈ globals ∧ pair.1 ∉ prompt.settled.keys ∧ pair.1 ∉ named.keys := by
  rw [← Fields.has_iff_mem_keys, ← Fields.has_iff_mem_keys]
  simp [unshadowed]

theorem mem_of_mem_merged (h : globals.keys.Nodup) (hmem : pair ∈ prompt.merged globals named) :
    pair ∈ named ∨ pair ∈ prompt.settled ∨ pair ∈ prompt.unshadowed globals named := by
  rw [mem_unshadowed]
  rcases Fields.mem_or_of_mem_putAll (Fields.nodup_keys_putAll h) hmem with hnamed | ⟨hold, hnew⟩
  · exact .inl hnamed
  · rcases Fields.mem_or_of_mem_putAll h hold with hsettled | ⟨hglobals, hsettled⟩
    · exact .inr (.inl hsettled)
    · exact .inr (.inr ⟨hglobals, hsettled, hnew⟩)

theorem mem_merged_of_mem_unshadowed (h : globals.keys.Nodup)
    (hmem : pair ∈ prompt.unshadowed globals named) : pair ∈ prompt.merged globals named := by
  obtain ⟨hglobals, hsettled, hnamed⟩ := mem_unshadowed.mp hmem
  exact Fields.mem_putAll_of_mem (Fields.nodup_keys_putAll h)
    (Fields.mem_putAll_of_mem h hglobals hsettled) hnamed

end Prompt

namespace Course

open Session (outcome)

theorem nodup_of_globals {w : Workspace} (h : w.Checked) {prompt : Prompt} {globals : Fields Host}
    (hglobals : outcome (Session.globals prompt) w = (.ok globals, w)) : globals.keys.Nodup := by
  unfold Session.globals at hglobals
  split at hglobals
  · cases hglobals
    exact List.nodup_nil
  · rename_i group _
    rw [Session.outcome_bind, Session.outcome_group] at hglobals
    cases hgroup : w.groups[group]? with
    | none =>
      rw [hgroup] at hglobals
      cases hglobals
    | some found =>
      rw [hgroup] at hglobals
      cases hglobals
      exact h.globals found (List.mem_of_getElem? hgroup)

/-- What can stand in the way of a rendering whose variables have been found valid, after any
session: a variable of a name that is there from the beginning, whether it is used or not, and a
global that templates cannot take. If there is neither, the rendering starts. -/
theorem startEnvironment_of_validate (library : HostLibrary) (commands : List Command)
    {number : Nat} {named : Fields Host} {validation : Validation} {w' : Workspace}
    (h : outcome (Session.validate number named) ((start library).run commands).workspace =
      (.ok validation, w'))
    (hvalid : validation.verdict.isValid = true) :
    ∃ prompt globals,
      ((start library).run commands).workspace.prompts[number]? = some prompt ∧
      outcome (Session.globals prompt) ((start library).run commands).workspace =
        (.ok globals, w') ∧
      ∀ context s,
        let merged := prompt.merged globals named
        let started := (Eval.startEnvironment (.ofFields merged) context s).1
        (started = .ok () ↔ (∀ name ∈ builtinNames, name ∉ merged.keys) ∧
          ∀ pair ∈ prompt.unshadowed globals named, pair.2.Convertible) ∧
        ∀ fault, started = .error fault →
          (∃ name ∈ builtinNames, name ∈ merged.keys ∧ fault = .alreadyDeclared name) ∨
          ∃ pair ∈ prompt.unshadowed globals named, pair.2.refusal? false = some fault := by
  have hchecked := checked_run library commands
  obtain ⟨rfl, prompt, globals, happroves⟩ := Session.approves_of_validate h hvalid
  have hkeys := nodup_of_globals hchecked happroves.seen
  have hmerged : (prompt.merged globals named).keys.Nodup :=
    Fields.nodup_keys_putAll (Fields.nodup_keys_putAll hkeys)
  -- What is given now has been checked by the validation, what was given in advance when it was
  -- given. Nobody checks the globals.
  have hconvertible (pair : String × Host) (hmem : pair ∈ prompt.merged globals named) :
      pair.2.Convertible ∨ pair ∈ prompt.unshadowed globals named := by
    rcases Prompt.mem_of_mem_merged hkeys hmem with hnamed | hsettled | hglobal
    · exact .inl (happroves.convertible pair hnamed)
    · exact .inl (hchecked.settled prompt (List.mem_of_getElem? happroves.found) pair hsettled)
    · exact .inr hglobal
  refine ⟨prompt, globals, happroves.found, happroves.seen, fun context s => ?_⟩
  have hfault := Eval.faultOf_startEnvironment (prompt.merged globals named) context s
  refine ⟨?_, fun fault hstarted => ?_⟩
  · rw [Eval.eq_ok_iff, hfault, Fields.obstacle?_eq_none_iff hmerged]
    constructor
    · intro hall
      refine ⟨fun name hname hmem => ?_, fun pair hmem => ?_⟩
      · obtain ⟨pair, hpair, rfl⟩ := List.mem_map.mp hmem
        simpa [hname] using (hall pair hpair).2
      · have hmerged := Prompt.mem_merged_of_mem_unshadowed hkeys hmem
        exact Host.convertible_iff.mpr (hall pair hmerged).1
    · rintro ⟨hnames, hglobals⟩ pair hmem
      refine ⟨Host.convertible_iff.mp ((hconvertible pair hmem).elim id (hglobals pair)), ?_⟩
      have hfree : pair.1 ∉ builtinNames := fun hname =>
        hnames pair.1 hname (List.mem_map.mpr ⟨pair, hmem, rfl⟩)
      simpa using hfree
  · rw [hstarted] at hfault
    obtain ⟨pair, hmem, hrefused | ⟨htaken, rfl⟩⟩ := Fields.mem_of_obstacle? hmerged hfault.symm
    · refine .inr ⟨pair, (hconvertible pair hmem).resolve_left fun hpair => ?_, hrefused⟩
      rw [Host.convertible_iff.mp hpair] at hrefused
      cases hrefused
    · exact .inl ⟨pair.1, by simpa using htaken, List.mem_map.mpr ⟨pair, hmem, rfl⟩, rfl⟩

/-- A prompt of a group with a global that templates cannot take, found valid with a variable in
the place of the global and a further one of the name of a built-in function. -/
theorem startEnvironment_of_validate_range :
    let source := "\x7b\x7bx\x7d\x7d"
    let commands : List Command := [.newGroup false, .putGlobal 0 "x" (.foreign .object),
      .newPromptIn 0 none (.text source)]
    let named : Fields Host := [("x", .text "a"), ("range", .text "b")]
    ∃ validation w',
      outcome (Session.validate 0 named) ((start Host.stock).run commands).workspace =
        (.ok validation, w') ∧
      validation.verdict.isValid = true ∧
      ∃ prompt globals,
        ((start Host.stock).run commands).workspace.prompts[0]? = some prompt ∧
        outcome (Session.globals prompt) ((start Host.stock).run commands).workspace =
          (.ok globals, w') ∧
        ∀ context s, (Eval.startEnvironment (.ofFields (prompt.merged globals named)) context s).1 ≠
          .ok () := by
  intro source commands named
  obtain ⟨tokens, hsource⟩ :
      ∃ tokens, analyse .full source = .ok (tokens, .program [.name "x"]) :=
    ⟨_, analyse_of_spells (.chars _)
      (by decide +kernel : _ = ['{', '{', 'x', '}', '}']) rfl rfl⟩
  have hcompile : Session.compileSource .full source = (do
      let number := (← get).programs
      modify fun w => { w with programs := number + 1 }
      Session.record (.compiled tokens.length 1 source.length)
      pure ⟨number, .program [.name "x"]⟩) := by
    rw [Session.compileSource, hsource]
    rfl
  obtain ⟨w, hrun, validation, h, hvalid⟩ : ∃ w,
      ((start Host.stock).run commands).workspace = w ∧ ∃ validation,
        outcome (Session.validate 0 named) w = (.ok validation, w) ∧
        validation.verdict.isValid = true := by
    simp only [commands, run, List.foldl, step, Command.perform, Session.newPromptIn,
      Session.newPrompt, hcompile]
    exact ⟨_, rfl, _, rfl, by decide +kernel⟩
  rw [← hrun] at h
  obtain ⟨prompt, globals, hprompt, hglobals, hstart⟩ :=
    startEnvironment_of_validate Host.stock commands h hvalid
  refine ⟨validation, _, h, hvalid, prompt, globals, hprompt, hglobals, fun context s hok => ?_⟩
  have hfree := ((hstart context s).1.mp hok).1 "range" (by decide)
  exact hfree (Fields.mem_keys_putAll.mpr (.inr (by simp [named, Fields.keys])))

end Course

end TextTemplate
