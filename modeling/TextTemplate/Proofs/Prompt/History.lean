import TextTemplate.Proofs.Prompt.Outcome

/-!
# What a prompt sees, by what has been done

Prompts share what belongs to a group in three ways. The globals of a group are seen as they are
when a prompt is rendered, its filters as they were when the first prompt of a chain was made, and
variables and filters of prompts are passed on to what is made from them. The history of a session
says all of it: what a prompt sees follows from how it came about, whatever else was done.
-/

namespace TextTemplate

/-- What can be done with prompts and groups. -/
inductive Command
  | newPrompt (trimming : Source.Trimming) (strict : Bool) (source : Host)
  | newPreset (name : String)
  | newGroup (strict : Bool)
  | newPromptIn (group : Nat) (strict : Option Bool) (source : Host)
  | settle (prompt : Nat) (given : Fields Host)
  | putFilter (prompt : Nat) (name : String) (value : Host)
  | putGroupFilter (group : Nat) (name : String) (value : Host)
  /-- The filters of a group are changed in any way. -/
  | changeGroupFilters (group : Nat) (change : Fields HostFunction → Fields HostFunction)
  | putGlobal (group : Nat) (name : String) (value : Host)
  | eraseGlobal (group : Nat) (name : String)
  | render (prompt : Nat) (strict : Option Host) (given : Fields Host)
  | format (prompt : Nat) (given : Fields Host)
  | apply (prompt : Nat) (messages : Host) (options : Session.ChatOptions) (given : Fields Host)

/-- Does what a command says; the answer is the number of what it makes. -/
def Command.perform : Command → Session (Option Nat)
  | newPrompt trimming strict source => do
    let number ← Session.newPrompt trimming strict source
    pure (some number)
  | newPreset name => do
    let number ← Session.newPreset name
    pure (some number)
  | newGroup strict => do
    let number ← Session.addGroup strict
    pure (some number)
  | newPromptIn group strict source => do
    let number ← Session.newPromptIn group strict source
    pure (some number)
  | settle prompt given => do
    let number ← Session.settle prompt given
    pure (some number)
  | putFilter prompt name value => do
    Session.putFilter prompt name value
    pure none
  | putGroupFilter group name value => do
    Session.putGroupFilter group name value
    pure none
  | changeGroupFilters group change => do
    Session.changeGroup group fun g => { g with filters := change g.filters }
    pure none
  | putGlobal group name value => do
    Session.putGlobal group name value
    pure none
  | eraseGlobal group name => do
    Session.eraseGlobal group name
    pure none
  | render prompt strict given => do
    let _ ← Session.render prompt strict given
    pure none
  | format prompt given => do
    let _ ← Session.format prompt given
    pure none
  | apply prompt messages options given => do
    let _ ← Session.apply prompt messages options given
    pure none

/-- What was done, the latest first, with the number of what it made. -/
abbrev History := List (Command × Option Nat)

/-- How a prompt came about. A chain leads to it from a prompt that was made from a text; each
further prompt of the chain was settled from the one before. -/
structure Lineage where
  trimming : Source.Trimming
  source : String
  strict : Bool
  /-- The group in which the first prompt of the chain was made. -/
  group : Option Nat
  /-- The filters that the group had when the first prompt of the chain was made. -/
  inherited : Fields HostFunction
  /-- The filters registered on each prompt of the chain before the next one was settled from it,
  and on the last one, in the order of their registration. -/
  registered : List (String × HostFunction)
  /-- The variables given in advance along the chain, the earlier ones first. -/
  given : List (String × Host)

namespace History

/-- A change of a group, if a command makes any. -/
def change (number : Nat) (group : PromptGroup) : Command → PromptGroup
  | .putGroupFilter target name (.function f) =>
    if target = number then { group with filters := group.filters.put name f } else group
  | .changeGroupFilters target change =>
    if target = number then { group with filters := change group.filters } else group
  | .putGlobal target name value =>
    if target = number then { group with globals := group.globals.put name value } else group
  | .eraseGlobal target name =>
    if target = number then { group with globals := group.globals.erase name } else group
  | _ => group

/-- What a group holds: what was put into it itself. -/
def group? : History → Nat → Option PromptGroup
  | [], _ => none
  | (.newGroup strict, made) :: past, number =>
    if made = some number then some ⟨strict, [], []⟩ else group? past number
  | (command, _) :: past, number =>
    (group? past number).map fun group => change number group command

def lineage? : History → Nat → Option Lineage
  | [], _ => none
  | (.newPrompt trimming strict (.text source), made) :: past, number =>
    if made = some number then some ⟨trimming, source, strict, none, [], [], []⟩
    else lineage? past number
  | (.newPreset name, made) :: past, number =>
    if made = some number then
      (Preset.ofName? name).map fun preset => ⟨.full, preset.source, false, none, [], [], []⟩
    else lineage? past number
  | (.newPromptIn group strict (.text source), made) :: past, number =>
    if made = some number then
      (group? past group).map fun g =>
        ⟨.full, source, strict.getD g.strict, some group, g.filters, [], []⟩
    else lineage? past number
  | (.settle parent given, made) :: past, number =>
    if made = some number then
      (lineage? past parent).map fun l => { l with given := l.given ++ given }
    else lineage? past number
  | (.putFilter target name (.function f), _) :: past, number =>
    (lineage? past number).map fun l =>
      if target = number then { l with registered := l.registered ++ [(name, f)] } else l
  | _ :: past, number => lineage? past number

/-- The globals that a prompt of a group sees. -/
def globals (history : History) (lineage : Lineage) : Fields Host :=
  match lineage.group with
  | none => []
  | some number => ((history.group? number).map PromptGroup.globals).getD []

end History

def Lineage.filters (lineage : Lineage) : Fields HostFunction :=
  lineage.inherited.putAll lineage.registered

/-- A workspace with the history of what has been done in it. -/
structure Course where
  workspace : Workspace
  history : History

namespace Course

def start (library : HostLibrary) : Course := ⟨.ofLibrary library, []⟩

/-- One more command. A command that fails is no part of the history. -/
def step (course : Course) (command : Command) : Course :=
  match command.perform.outcome course.workspace with
  | (.ok made, workspace) => ⟨workspace, (command, made) :: course.history⟩
  | (.error _, workspace) => ⟨workspace, course.history⟩

def run (course : Course) (commands : List Command) : Course := commands.foldl step course

end Course

/-! ## The invariant -/

/-- A prompt is as its lineage says. -/
structure Lineage.Made (prompt : Prompt) (lineage : Lineage) : Prop where
  source : prompt.source = lineage.source
  compiled : compile lineage.trimming lineage.source = .ok prompt.program.tree
  strict : prompt.strict = lineage.strict
  group : prompt.group = lineage.group
  filters : prompt.filters = lineage.filters
  settled : prompt.settled = Fields.ofPairs lineage.given

/-- The workspace is what the history says. -/
structure Course.Kept (library : HostLibrary) (course : Course) : Prop where
  library : course.workspace.library = library
  groups : ∀ number, course.workspace.groups[number]? = course.history.group? number
  prompts : ∀ number, Option.Rel Lineage.Made course.workspace.prompts[number]?
    (course.history.lineage? number)
  grouped : ∀ number, ∀ lineage ∈ course.history.lineage? number, ∀ group ∈ lineage.group,
    (course.history.group? group).isSome

theorem Fields.putAll_append {α : Type} (fields first second : Fields α) :
    fields.putAll (first ++ second) = (fields.putAll first).putAll second :=
  List.foldl_append

namespace Lineage.Made

variable {prompt : Prompt} {lineage : Lineage}

theorem settle (h : Lineage.Made prompt lineage) (given : Fields Host) :
    Lineage.Made (prompt.settle given) { lineage with given := lineage.given ++ given } := by
  refine ⟨h.source, h.compiled, h.strict, h.group, h.filters, ?_⟩
  show prompt.settled.putAll given = _
  rw [h.settled, Fields.ofPairs, Fields.ofPairs, Fields.putAll_append]

theorem putFilter (h : Lineage.Made prompt lineage) (name : String) (f : HostFunction) :
    Lineage.Made (prompt.putFilter name f)
      { lineage with registered := lineage.registered ++ [(name, f)] } := by
  refine ⟨h.source, h.compiled, h.strict, h.group, ?_, h.settled⟩
  show prompt.filters.put name f = Fields.putAll lineage.inherited _
  rw [h.filters, Fields.putAll_append]
  rfl

end Lineage.Made

namespace Course

open Session (SameParts MakesPrompt outcome)

variable {library : HostLibrary} {w w' : Workspace} {past : History}
  {command : Command} {made : Option Nat}

theorem getElem?_concat {α : Type} (items : List α) (item : α) (number : Nat) :
    (items ++ [item])[number]? = if items.length = number then some item else items[number]? := by
  split
  · rename_i h
    rw [← h, List.getElem?_concat_length]
  · rename_i h
    rcases Nat.lt_or_gt_of_ne h with hlt | hgt
    · rw [List.getElem?_eq_none (by simp; omega), List.getElem?_eq_none (by omega)]
    · exact List.getElem?_append_left hgt

theorem kept_start (library : HostLibrary) : Kept library (start library) :=
  ⟨rfl, fun _ => rfl, fun _ => .none, nofun⟩

/-- Nothing is made and nothing is changed. -/
theorem Kept.quiet (h : Kept library ⟨w, past⟩) (hsame : SameParts w w') {history : History}
    (hgroups : ∀ number, history.group? number = past.group? number)
    (hlineages : ∀ number, history.lineage? number = past.lineage? number) :
    Kept library ⟨w', history⟩ where
  library := hsame.library.trans h.library
  groups number := by rw [hsame.groups, hgroups, h.groups]
  prompts number := by
    rw [hsame.prompts, hlineages]
    exact h.prompts number
  grouped number lineage hlineage group hgroup := by
    rw [hlineages] at hlineage
    rw [hgroups]
    exact h.grouped number lineage hlineage group hgroup

theorem Kept.makesPrompt (h : Kept library ⟨w, past⟩) {prompt : Prompt} {lineage : Lineage}
    (hmade : lineage.Made prompt) (hlibrary : w'.library = w.library)
    (hprompts : w'.prompts = w.prompts ++ [prompt]) (hsame : w'.groups = w.groups)
    (hgroups : ∀ number, History.group? ((command, made) :: past) number = past.group? number)
    (hlineages : ∀ number, History.lineage? ((command, made) :: past) number =
      if w.prompts.length = number then some lineage else past.lineage? number)
    (hgroup : ∀ group ∈ lineage.group, (past.group? group).isSome) :
    Kept library ⟨w', (command, made) :: past⟩ where
  library := hlibrary.trans h.library
  groups number := by rw [hsame, hgroups, h.groups]
  prompts number := by
    rw [hprompts, hlineages, getElem?_concat]
    split
    · exact .some hmade
    · exact h.prompts number
  grouped number other hother group hmem := by
    rw [hlineages] at hother
    rw [hgroups]
    split at hother
    · cases hother
      exact hgroup group hmem
    · exact h.grouped number other hother group hmem

theorem Kept.newGroup (h : Kept library ⟨w, past⟩) (strict : Bool) :
    Kept library ⟨{ w with groups := w.groups ++ [⟨strict, [], []⟩] },
      (.newGroup strict, some w.groups.length) :: past⟩ where
  library := h.library
  groups number := by
    show (w.groups ++ _)[number]? = History.group? _ _
    rw [getElem?_concat, h.groups]
    simp only [History.group?, Option.some.injEq]
  prompts number := h.prompts number
  grouped number lineage hlineage group hgroup := by
    have hfound := h.grouped number lineage hlineage group hgroup
    simp only [History.group?]
    split
    · rfl
    · exact hfound

theorem Kept.changeGroup (h : Kept library ⟨w, past⟩) {target : Nat} {f : PromptGroup → PromptGroup}
    (hgroups : ∀ number, History.group? ((command, made) :: past) number =
      (past.group? number).map fun group => if target = number then f group else group)
    (hlineages : ∀ number, History.lineage? ((command, made) :: past) number =
      past.lineage? number) :
    Kept library ⟨{ w with groups := w.groups.modify target f }, (command, made) :: past⟩ where
  library := h.library
  groups number := by
    show (w.groups.modify target f)[number]? = _
    rw [hgroups, List.getElem?_modify, h.groups]
    cases past.group? number with
    | none => rfl
    | some group => by_cases htarget : target = number <;> simp [htarget]
  prompts number := by
    rw [hlineages]
    exact h.prompts number
  grouped number lineage hlineage group hgroup := by
    rw [hlineages] at hlineage
    rw [hgroups, Option.isSome_map]
    exact h.grouped number lineage hlineage group hgroup

theorem Kept.putFilter (h : Kept library ⟨w, past⟩) (target : Nat) (name : String)
    (f : HostFunction) :
    Kept library ⟨{ w with prompts := w.prompts.modify target (·.putFilter name f) },
      (.putFilter target name (.function f), none) :: past⟩ where
  library := h.library
  groups number := by
    simp only [History.group?, History.change, Option.map_id']
    exact h.groups number
  prompts number := by
    show Option.Rel Lineage.Made (w.prompts.modify target _)[number]? _
    have hold := h.prompts number
    rw [List.getElem?_modify, History.lineage?]
    dsimp only at hold
    generalize w.prompts[number]? = found, past.lineage? number = lineage at hold ⊢
    cases hold with
    | none => exact .none
    | some hmade =>
      refine .some ?_
      split
      · exact hmade.putFilter name f
      · exact hmade
  grouped number lineage hlineage group hgroup := by
    simp only [History.group?, History.change, Option.map_id']
    simp only [History.lineage?] at hlineage
    obtain ⟨old, hold, rfl⟩ := Option.map_eq_some_iff.mp hlineage
    have hsame : group ∈ old.group := by
      split at hgroup
      · exact hgroup
      · exact hgroup
    exact h.grouped number old hold group hsame

/-- A command that makes a prompt or fails. -/
theorem Kept.stepMakes (h : Kept library ⟨w, past⟩) {x : Session Nat}
    (hperform : command.perform = x >>= fun number => pure (some number)) {good : Prompt → Prop}
    (hmakes : MakesPrompt w good (outcome x w))
    (hgroups : ∀ made number, History.group? ((command, made) :: past) number =
      past.group? number)
    (hgood : ∀ prompt, good prompt → ∃ lineage : Lineage, lineage.Made prompt ∧
      (∀ number, History.lineage? ((command, some w.prompts.length) :: past) number =
        if w.prompts.length = number then some lineage else past.lineage? number) ∧
      ∀ group ∈ lineage.group, (past.group? group).isSome) :
    (step ⟨w, past⟩ command).Kept library := by
  rw [step, hperform, Session.outcome_bind]
  generalize outcome x w = result at hmakes ⊢
  cases hmakes with
  | failed hsame => exact h.quiet hsame (fun _ => rfl) fun _ => rfl
  | made hprompt hlibrary hprompts hsame =>
    obtain ⟨lineage, hmade, hlineages, hgroup⟩ := hgood _ hprompt
    exact h.makesPrompt hmade hlibrary hprompts hsame (hgroups _) hlineages hgroup

/-- A command that changes neither prompts nor groups. -/
theorem Kept.stepQuiet (h : Kept library ⟨w, past⟩) (hquiet : Session.Quiet command.perform)
    (hgroups : ∀ made number, History.group? ((command, made) :: past) number =
      past.group? number)
    (hlineages : ∀ made number, History.lineage? ((command, made) :: past) number =
      past.lineage? number) : (step ⟨w, past⟩ command).Kept library := by
  have hsame := hquiet w
  unfold step
  split
  · rename_i heq
    rw [heq] at hsame
    exact h.quiet hsame (hgroups _) (hlineages _)
  · rename_i heq
    rw [heq] at hsame
    exact h.quiet hsame (fun _ => rfl) fun _ => rfl

theorem Kept.newPrompt (h : Kept library ⟨w, past⟩) (trimming : Source.Trimming) (strict : Bool)
    (source : Host) : (step ⟨w, past⟩ (.newPrompt trimming strict source)).Kept library := by
  refine h.stepMakes rfl (Session.newPrompt_makes trimming strict source w)
    (fun _ _ => Option.map_id') fun prompt hprompt => ?_
  obtain ⟨text, program, rfl, hprogram, rfl⟩ := hprompt
  refine ⟨⟨trimming, text, strict, none, [], [], []⟩, ⟨rfl, hprogram, rfl, rfl, rfl, rfl⟩,
    fun number => ?_, nofun⟩
  simp only [History.lineage?, Option.some.injEq]

theorem Kept.newPreset (h : Kept library ⟨w, past⟩) (name : String) :
    (step ⟨w, past⟩ (.newPreset name)).Kept library := by
  refine h.stepMakes rfl (Session.newPreset_makes name w) (fun _ _ => Option.map_id')
    fun prompt hprompt => ?_
  obtain ⟨preset, program, hpreset, hprogram, rfl⟩ := hprompt
  refine ⟨⟨.full, preset.source, false, none, [], [], []⟩, ⟨rfl, hprogram, rfl, rfl, rfl, rfl⟩,
    fun number => ?_, nofun⟩
  simp only [History.lineage?, Option.some.injEq, hpreset, Option.map_some]

theorem Kept.newPromptIn (h : Kept library ⟨w, past⟩) (group : Nat) (strict : Option Bool)
    (source : Host) : (step ⟨w, past⟩ (.newPromptIn group strict source)).Kept library := by
  refine h.stepMakes rfl (Session.newPromptIn_makes group strict source w)
    (fun _ _ => Option.map_id') fun prompt hprompt => ?_
  obtain ⟨text, found, program, rfl, hfound, hprogram, rfl⟩ := hprompt
  have hfound : past.group? group = some found := (h.groups group).symm.trans hfound
  refine ⟨⟨.full, text, strict.getD found.strict, some group, found.filters, [], []⟩,
    ⟨rfl, hprogram, rfl, rfl, rfl, rfl⟩, fun number => ?_, fun other hother => ?_⟩
  · simp only [History.lineage?, Option.some.injEq, hfound, Option.map_some]
  · cases hother
    rw [hfound]
    rfl

theorem Kept.settle (h : Kept library ⟨w, past⟩) (parent : Nat) (given : Fields Host) :
    (step ⟨w, past⟩ (.settle parent given)).Kept library := by
  refine h.stepMakes rfl (Session.settle_makes parent given w) (fun _ _ => Option.map_id')
    fun prompt hprompt => ?_
  obtain ⟨found, hfound, rfl⟩ := hprompt
  have hrel := h.prompts parent
  rw [hfound] at hrel
  generalize hlineage : past.lineage? parent = lineage at hrel
  cases hrel with
  | @some _ lineage hmade =>
    -- The lineage of the parent is the one at this moment: filters that are registered on the
    -- parent from now on are no part of it.
    refine ⟨_, hmade.settle given, fun number => ?_, h.grouped parent lineage hlineage⟩
    simp only [History.lineage?, Option.some.injEq, hlineage, Option.map_some]

theorem Kept.eraseGlobal (h : Kept library ⟨w, past⟩) (group : Nat) (name : String) :
    (step ⟨w, past⟩ (.eraseGlobal group name)).Kept library := by
  have hperform : (Command.eraseGlobal group name).perform = (do
      Session.eraseGlobal group name
      pure none) := rfl
  rw [step, hperform, Session.outcome_bind, Session.eraseGlobal, Session.outcome_bind,
    Session.outcome_group]
  cases w.groups[group]? with
  | none => exact h
  | some found =>
    dsimp only
    cases hhas : found.globals.has name with
    | true => exact h.changeGroup (fun _ => rfl) fun _ => rfl
    | false => exact h

/-- What one command preserves. -/
theorem Kept.step {course : Course} (h : course.Kept library) (command : Command) :
    (course.step command).Kept library := by
  obtain ⟨w, past⟩ := course
  have hsame (_ : Option Nat) (number : Nat) :
      (past.group? number).map (fun group => group) = past.group? number := Option.map_id'
  cases command with
  | newPrompt trimming strict source => exact h.newPrompt trimming strict source
  | newPreset name => exact h.newPreset name
  | newGroup strict => exact h.newGroup strict
  | newPromptIn group strict source => exact h.newPromptIn group strict source
  | settle prompt given => exact h.settle prompt given
  | putFilter target name value =>
    cases value with
    | function f => exact h.putFilter target name f
    | _ => exact h
  | putGroupFilter group name value =>
    cases value with
    | function f =>
      refine h.changeGroup (fun number => ?_) fun _ => rfl
      rfl
    | _ => exact h
  | changeGroupFilters group change =>
    refine h.changeGroup (fun number => ?_) fun _ => rfl
    rfl
  | putGlobal group name value =>
    refine h.changeGroup (fun number => ?_) fun _ => rfl
    rfl
  | eraseGlobal group name => exact h.eraseGlobal group name
  | render prompt strict given =>
    exact h.stepQuiet ((Session.render_quiet prompt strict given).bind fun _ => .pure _) hsame
      fun _ _ => rfl
  | format prompt given =>
    exact h.stepQuiet ((Session.format_quiet prompt given).bind fun _ => .pure _) hsame
      fun _ _ => rfl
  | apply prompt messages options given =>
    exact h.stepQuiet ((Session.apply_quiet prompt messages options given).bind fun _ => .pure _)
      hsame fun _ _ => rfl

/-- What a whole run preserves. -/
theorem Kept.run {course : Course} (h : course.Kept library) (commands : List Command) :
    (course.run commands).Kept library := by
  induction commands generalizing course with
  | nil => exact h
  | cons command rest ih => exact ih (h.step command)

end Course

end TextTemplate
