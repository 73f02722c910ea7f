import TextTemplate.Host.Stock
import TextTemplate.Proofs.Prompt.History

/-!
# What a prompt is rendered with

After any session, a prompt is rendered as its template is with the variables and filters that its
lineage says, and only what is done with the prompt itself and with the globals of its group
changes them.
-/

namespace TextTemplate

open Session (SameParts MakesPrompt outcome)

/-- Whether a command changes what a prompt of a group is rendered with. -/
def Command.concerns (number : Nat) (group : Option Nat) : Command → Bool
  | putFilter target _ _ => target == number
  | putGlobal target _ _ | eraseGlobal target _ => group == some target
  | _ => false

namespace Course

variable {library : HostLibrary} {w : Workspace} {past : History} {command : Command}
  {number target : Nat} {lineage : Lineage}

/-! ## What is made is new -/

theorem made_of_makes {x : Session Nat} {good : Prompt → Prop}
    (hmakes : MakesPrompt w good (outcome x w)) {made : Option Nat} {w' : Workspace}
    (h : outcome (x >>= fun number => pure (some number)) w = (.ok made, w')) :
    made = some w.prompts.length := by
  rw [Session.outcome_bind] at h
  generalize outcome x w = result at hmakes h
  cases hmakes with
  | failed => cases h
  | made => cases h; rfl

theorem made_of_none {α : Type} {x : Session α} {made : Option Nat} {w' : Workspace}
    (h : outcome (x >>= fun _ => pure none) w = (.ok made, w')) : made = none := by
  rw [Session.outcome_bind] at h
  split at h
  · cases h; rfl
  · cases h

/-- The number of what is made is not the number of a prompt that is there already. -/
theorem made_ne (hnumber : number < w.prompts.length) {made : Option Nat} {w' : Workspace}
    (h : command.perform.outcome w = (.ok made, w'))
    (hgroup : ∀ strict, command ≠ .newGroup strict) : made ≠ some number := by
  have hnew (hmade : made = some w.prompts.length) : made ≠ some number := by
    rintro rfl
    cases hmade
    exact absurd hnumber (Nat.lt_irrefl _)
  have hnone (hmade : made = none) : made ≠ some number := by
    rw [hmade]
    exact nofun
  cases command with
  | newGroup strict => exact absurd rfl (hgroup strict)
  | newPrompt trimming strict source =>
    exact hnew (made_of_makes (Session.newPrompt_makes _ _ source w) h)
  | newPreset name => exact hnew (made_of_makes (Session.newPreset_makes name w) h)
  | newPromptIn group strict source =>
    exact hnew (made_of_makes (Session.newPromptIn_makes _ _ source w) h)
  | settle parent given => exact hnew (made_of_makes (Session.settle_makes parent given w) h)
  | _ => exact hnone (made_of_none h)

/-! ## What a command leaves alone -/

theorem lineage?_cons {made : Option Nat}
    (hmade : (∀ strict, command ≠ .newGroup strict) → made ≠ some number) {group : Option Nat}
    (hconcerns : command.concerns number group = false) :
    History.lineage? ((command, made) :: past) number = past.lineage? number := by
  cases command with
  | newGroup => rfl
  | newPrompt trimming strict source =>
    cases source with
    | text => exact if_neg (hmade fun _ => Command.noConfusion)
    | _ => rfl
  | newPreset name => exact if_neg (hmade fun _ => Command.noConfusion)
  | newPromptIn target strict source =>
    cases source with
    | text => exact if_neg (hmade fun _ => Command.noConfusion)
    | _ => rfl
  | settle parent given => exact if_neg (hmade fun _ => Command.noConfusion)
  | putFilter target name value =>
    have htarget : ¬ target = number := by simpa [Command.concerns] using hconcerns
    cases value with
    | function f => simp only [History.lineage?, htarget, ↓reduceIte, Option.map_id']
    | _ => rfl
  | _ => rfl

/-- A change of the globals of a group. -/
theorem globals_change (group : PromptGroup)
    (hconcerns : command.concerns number (some target) = false) :
    (History.change target group command).globals = group.globals := by
  cases command with
  | putGlobal other name value =>
    have hother : ¬ other = target := fun h => by simp [Command.concerns, h] at hconcerns
    simp only [History.change, hother, ↓reduceIte]
  | eraseGlobal other name =>
    have hother : ¬ other = target := fun h => by simp [Command.concerns, h] at hconcerns
    simp only [History.change, hother, ↓reduceIte]
  | putGroupFilter other name value =>
    cases value with
    | function f => simp only [History.change, apply_ite, ite_self]
    | _ => rfl
  | changeGroupFilters other change => simp only [History.change, apply_ite, ite_self]
  | _ => rfl

theorem globals_cons {made : Option Nat}
    (hmade : ∀ strict, command = .newGroup strict → ∀ group ∈ lineage.group, made ≠ some group)
    (hconcerns : command.concerns number lineage.group = false) :
    History.globals ((command, made) :: past) lineage = past.globals lineage := by
  unfold History.globals
  split
  · rfl
  · rename_i group hgroup
    rw [hgroup] at hconcerns hmade
    have hchange : PromptGroup.globals ∘ (History.change group · command) = PromptGroup.globals :=
      funext fun found => globals_change found hconcerns
    cases command with
    | newGroup strict => simp only [History.group?, if_neg (hmade strict rfl group rfl)]
    | _ => simp only [History.group?, Option.map_map, hchange]

/-- The group that is made is not one that is there already. -/
theorem made_ne_group (hgroup : target < w.groups.length) {strict : Bool} {made : Option Nat}
    {w' : Workspace} (h : (Command.newGroup strict).perform.outcome w = (.ok made, w')) :
    made ≠ some target := by
  cases h
  intro heq
  cases heq
  exact absurd hgroup (Nat.lt_irrefl _)

/-- A prompt that is there already is not touched by a command that does not concern it. -/
theorem Kept.step_frame {course : Course} (h : course.Kept library)
    (hlineage : lineage ∈ course.history.lineage? number)
    (hconcerns : command.concerns number lineage.group = false) :
    lineage ∈ (course.step command).history.lineage? number ∧
      (course.step command).history.globals lineage = course.history.globals lineage := by
  have hnumber : number < course.workspace.prompts.length := by
    have hrel := h.prompts number
    rw [hlineage] at hrel
    generalize hfound : course.workspace.prompts[number]? = found at hrel
    cases hrel with
    | some => exact (List.getElem?_eq_some_iff.mp hfound).1
  have hgroups : ∀ group ∈ lineage.group, group < course.workspace.groups.length := by
    intro group hgroup
    have hsome := h.grouped number lineage hlineage group hgroup
    rw [← h.groups, Option.isSome_iff_exists] at hsome
    exact (List.getElem?_eq_some_iff.mp hsome.choose_spec).1
  unfold Course.step
  split
  · rename_i made w' hperform
    constructor
    · show History.lineage? _ _ = _
      rw [lineage?_cons (made_ne hnumber hperform) hconcerns]
      exact hlineage
    · refine globals_cons (fun strict hstrict group hgroup => ?_) hconcerns
      rw [hstrict] at hperform
      exact made_ne_group (hgroups group hgroup) hperform
  · exact ⟨hlineage, rfl⟩

theorem Kept.run_frame {course : Course} (h : course.Kept library)
    (hlineage : lineage ∈ course.history.lineage? number) (later : List Command)
    (hlater : ∀ command ∈ later, command.concerns number lineage.group = false) :
    lineage ∈ (course.run later).history.lineage? number ∧
      (course.run later).history.globals lineage = course.history.globals lineage := by
  induction later generalizing course with
  | nil => exact ⟨hlineage, rfl⟩
  | cons command rest ih =>
    obtain ⟨hstep, hglobals⟩ := h.step_frame hlineage (hlater command (List.mem_cons_self ..))
    rw [← hglobals]
    exact ih (h.step command) hstep fun other hother => hlater other (List.mem_cons_of_mem _ hother)

/-! ## Renderings -/

/-- The globals that the workspace holds are those of the history. -/
theorem Kept.outcome_globals {course : Course} (h : course.Kept library) {prompt : Prompt}
    (hmade : lineage.Made prompt) (hlineage : lineage ∈ course.history.lineage? number) :
    outcome (Session.globals prompt) course.workspace =
      (.ok (course.history.globals lineage), course.workspace) := by
  unfold Session.globals History.globals
  rw [hmade.group]
  cases hgroup : lineage.group with
  | none => rfl
  | some group =>
    have hsome := h.grouped number lineage hlineage group hgroup
    obtain ⟨found, hfound⟩ := Option.isSome_iff_exists.mp hsome
    dsimp only
    rw [Session.outcome_bind, Session.outcome_group, h.groups, hfound]
    rfl

/-- A prompt is rendered as its template is with the filters of its lineage and, besides the
variables that the caller gives, the globals and those given in advance. -/
def RendersWith (course : Course) (number : Nat) (lineage : Lineage) (globals : Fields Host) :
    Prop :=
  ∃ tree, compile lineage.trimming lineage.source = .ok tree ∧
    ∀ given : Fields Host, given.has Session.promptName = false →
      let bound := (globals.putAll (.ofPairs lineage.given)).putAll given
      (outcome (Session.format number given) course.workspace).1 =
        Session.rendering course.workspace tree bound lineage.filters lineage.strict ∧
      ∀ asked : Option Host, given.has "strict" = false →
        (outcome (Session.render number asked given) course.workspace).1 =
          Session.rendering course.workspace tree bound lineage.filters
            (Session.mode lineage.strict asked)

theorem Kept.rendersWith {course : Course} (h : course.Kept library)
    (hlineage : lineage ∈ course.history.lineage? number) :
    course.RendersWith number lineage (course.history.globals lineage) := by
  have hrel := h.prompts number
  rw [hlineage] at hrel
  generalize hprompt : course.workspace.prompts[number]? = found at hrel
  cases hrel with
  | @some prompt _ hmade =>
    have hglobals := h.outcome_globals hmade hlineage
    refine ⟨prompt.program.tree, hmade.compiled, fun given hself => ⟨?_, fun asked hstrict => ?_⟩⟩
    · rw [Session.outcome_format hprompt hglobals hself, Prompt.merged, hmade.filters,
        hmade.settled, hmade.strict]
    · rw [Session.outcome_render hprompt hglobals hself hstrict, Prompt.merged, hmade.filters,
        hmade.settled, hmade.strict]

/-- After any session, every prompt is rendered with what its lineage says and with the globals that
its group has at the moment, and goes on to be rendered so as long as nothing is done that concerns
it: no filter is registered on it and no global of its group is put in or taken away. -/
theorem rendersWith_of_run (library : HostLibrary) (commands : List Command) {prompt : Prompt}
    (hprompt : ((start library).run commands).workspace.prompts[number]? = some prompt) :
    ∃ lineage ∈ ((start library).run commands).history.lineage? number,
      prompt.source = lineage.source ∧
      ∀ later : List Command, (∀ command ∈ later, command.concerns number lineage.group = false) →
        RendersWith (((start library).run commands).run later) number lineage
          (((start library).run commands).history.globals lineage) := by
  have h := (kept_start library).run commands
  have hrel := h.prompts number
  rw [hprompt] at hrel
  generalize hlineage : ((start library).run commands).history.lineage? number = found at hrel
  cases hrel with
  | some hmade =>
    refine ⟨_, rfl, hmade.source, fun later hlater => ?_⟩
    obtain ⟨hlineage, hglobals⟩ := h.run_frame hlineage later hlater
    rw [← hglobals]
    exact (h.run later).rendersWith hlineage

/-- A prompt that was settled from one of a group. It keeps the filter that the group had when the
first one was made, whatever is registered on the group and on the first one afterwards. -/
theorem rendersWith_of_run_settled :
    let source := "\x7b\x7bx\x7d\x7d"
    let commands : List Command := [.newGroup false,
      .putGroupFilter 0 "f" (.function (.named "shout")), .putGlobal 0 "x" (.text "a"),
      .newPromptIn 0 none (.text source), .settle 0 [("y", .text "b")]]
    let later : List Command := [.putGroupFilter 0 "f" (.function (.named "first")),
      .putFilter 0 "f" (.function (.named "total")), .settle 1 [("y", .text "c")]]
    let lineage : Lineage :=
      ⟨.full, source, false, some 0, [("f", .named "shout")], [], [("y", .text "b")]⟩
    (∃ prompt, ((start Host.stock).run commands).workspace.prompts[1]? = some prompt) ∧
      (∀ command ∈ later, command.concerns 1 lineage.group = false) ∧
      RendersWith (((start Host.stock).run commands).run later) 1 lineage [("x", .text "a")] := by
  intro source commands later lineage
  obtain ⟨tokens, hsource⟩ :
      ∃ tokens, analyse .full source = .ok (tokens, .program [.name "x"]) :=
    ⟨_, analyse_of_spells (.chars _)
      (by decide +kernel : _ = ['{', '{', 'x', '}', '}']) rfl rfl⟩
  have hcompile : Session.compileSource .full source = (do
      let number := (← get).programs
      modify fun w => { w with programs := number + 1 }
      Session.record (.compiled tokens.length 1 source.length)
      pure ⟨number, .program [.name "x"]⟩) := by
    rw [Session.compileSource, hsource]
    rfl
  have hcourse : ∃ w : Workspace, (∃ prompt, w.prompts[1]? = some prompt) ∧
      (start Host.stock).run commands =
        ⟨w, commands.reverse.zip [some 1, some 0, none, none, some 0]⟩ := by
    simp only [commands, run, List.foldl, step, Command.perform, Session.newPromptIn,
      Session.newPrompt, hcompile]
    exact ⟨_, ⟨_, rfl⟩, rfl⟩
  obtain ⟨w, ⟨prompt, hprompt⟩, hcourse⟩ := hcourse
  have hfound : ((start Host.stock).run commands).workspace.prompts[1]? = some prompt := by
    rw [hcourse]
    exact hprompt
  have hlater : ∀ command ∈ later, command.concerns 1 lineage.group = false := by
    simp [later, lineage, Command.concerns]
  obtain ⟨other, hother, -, h⟩ := rendersWith_of_run Host.stock commands hfound
  have hlineage : other = lineage := by
    rw [hcourse] at hother
    exact (Option.some.inj hother).symm
  have hglobals : ((start Host.stock).run commands).history.globals lineage =
      [("x", .text "a")] := by
    rw [hcourse]
    rfl
  rw [hlineage, hglobals] at h
  exact ⟨⟨prompt, hfound⟩, hlater, h later hlater⟩

end Course

end TextTemplate
