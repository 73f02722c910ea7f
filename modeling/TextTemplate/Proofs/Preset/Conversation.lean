import TextTemplate.Proofs.Eval.Conversion
import TextTemplate.Proofs.Eval.Reading
import TextTemplate.Proofs.Preset.Tree
import TextTemplate.Proofs.Prompt.Outcome
import TextTemplate.Proofs.Variables.Soundness

/-!
# Conversations given to presets

A conversation is a list of messages, each given as a map with the texts `role` and `content` and
perhaps other fields. A preset is applied to it in a state where the variable `messages` holds an
object for each of them.
-/

namespace TextTemplate

open List (Forall₂)

/-- What a message of a conversation says. -/
structure Message where
  role : String
  content : String

namespace Message

/-- A host value gives a message: a map with a role and a content, and perhaps with other fields
that a template can be given. -/
inductive Given : Host → Message → Prop
  | map {fields : Fields Host} {role content : String} (hkeys : fields.keys.Nodup)
    (hconvertible : ∀ field ∈ fields, field.2.Convertible)
    (hrole : fields.get? "role" = some (.text role))
    (hcontent : fields.get? "content" = some (.text content)) :
    Given (.ofFields fields) ⟨role, content⟩

/-- A value is an object that says a message. -/
def Shown (m : Memory) (value : Value) (message : Message) : Prop :=
  ∃ kind address, value = .object kind address ∧ address < m.objects.size ∧
    (m.fields address).get? "role" = some (.text message.role) ∧
    (m.fields address).get? "content" = some (.text message.content)

theorem Shown.grows {m m' : Memory} {value : Value} {message : Message}
    (h : Shown m value message) (hgrows : Memory.Grows m m') : Shown m' value message := by
  obtain ⟨kind, address, rfl, hlt, hrole, hcontent⟩ := h
  rw [← hgrows.fields address hlt] at hrole hcontent
  exact ⟨kind, address, rfl, hlt.trans_le hgrows.objects, hrole, hcontent⟩

end Message

namespace Eval

variable {hosts : List Host} {messages : List Message}

open Message (Given Shown)

theorem run_message {host : Host} {message : Message} (h : Given host message) (context : Context)
    (s : State) :
    ∃ value m, fromHost host context s = (.ok value, { s with memory := m }) ∧
      Memory.Grows s.memory m ∧ Shown m value message := by
  cases h with
  | map hkeys hconvertible hrole hcontent =>
    obtain ⟨address, m, hrun, hgrows, hlt, htexts⟩ :=
      run_fromHost_ofFields hkeys hconvertible context s
    exact ⟨_, m, hrun, hgrows, .plain, address, rfl, hlt, htexts _ _ hrole, htexts _ _ hcontent⟩

theorem run_messages (h : Forall₂ Given hosts messages) (context : Context) (s : State) :
    ∃ values m, fromHost (.list hosts) context s = (.ok (.array values), { s with memory := m }) ∧
      Memory.Grows s.memory m ∧ Forall₂ (Shown m) values messages := by
  have hall : ∃ values m, convertAll false hosts context s = (.ok values, { s with memory := m }) ∧
      Memory.Grows s.memory m ∧ Forall₂ (Shown m) values messages := by
    induction h generalizing s with
    | nil => exact ⟨[], s.memory, rfl, .refl _, .nil⟩
    | cons hmessage _ ih =>
      obtain ⟨value, m, hvalue, hgrows, hshown⟩ := run_message hmessage context s
      obtain ⟨values, m', hvalues, hgrows', hothers⟩ := ih { s with memory := m }
      refine ⟨value :: values, m', ?_, hgrows.trans hgrows', .cons (hshown.grows hgrows') hothers⟩
      exact (run_bind hvalue _).trans ((run_bind hvalues _).trans rfl)
  obtain ⟨values, m, hrun, hgrows, hshown⟩ := hall
  exact ⟨values, m, (run_bind hrun _).trans rfl, hgrows, hshown⟩

/-- A state in which the variables of a conversation are set. -/
structure Chat (messages : List Message) (opened : Bool) (bos eos : String) (s : State) :
    Prop where
  messages : ∃ values, s.environment.lookup "messages" = .array values ∧
    Forall₂ (Shown s.memory) values messages
  opened : s.environment.lookup "add_generation_prompt" = .bool opened
  bos : s.environment.lookup "bos_token" = .text bos
  eos : s.environment.lookup "eos_token" = .text eos
  raise : ∃ mark, s.environment.lookup "raise_exception" =
    .function mark (.builtin .raiseException)

/-- A template given a conversation is evaluated where the variables of the conversation are set. -/
theorem render_chat (h : Forall₂ Given hosts messages) (opened : Bool) (bos eos : String)
    (body : List Node) (context : Context) (s : State) :
    ∃ t, Chat messages opened bos eos t ∧
      render (.program body) (.ofFields [("messages", .list hosts),
        ("add_generation_prompt", .bool opened), ("bos_token", .text bos),
        ("eos_token", .text eos)]) context s = evaluateBlock body context t := by
  obtain ⟨values, m, hrun, hgrows, hshown⟩ := run_messages h context (builtinState s)
  let first := (builtinState s).environment.bind "messages" (.array values)
  let second := first.bind "add_generation_prompt" (.bool opened)
  let third := second.bind "bos_token" (.text bos)
  have hsteps : (declareFields [("messages", .list hosts), ("add_generation_prompt", .bool opened),
      ("bos_token", .text bos), ("eos_token", .text eos)] >>= fun _ => evaluateBlock body)
      context (builtinState s) =
        evaluateBlock body context ⟨m, third.bind "eos_token" (.text eos)⟩ := by
    rw [declareFields_cons, run_bind (run_declareHost "messages" hrun rfl)]
    rw [declareFields_cons,
      run_bind (run_declareHost (s := ⟨m, first⟩) "add_generation_prompt" rfl rfl)]
    rw [declareFields_cons, run_bind (run_declareHost (s := ⟨m, second⟩) "bos_token" rfl rfl)]
    rw [declareFields_cons, run_bind (run_declareHost (s := ⟨m, third⟩) "eos_token" rfl rfl)]
    rfl
  refine ⟨⟨m, third.bind "eos_token" (.text eos)⟩,
    ⟨⟨values, rfl, hshown⟩, rfl, rfl, rfl, s.memory.marks + 3, rfl⟩, ?_⟩
  rw [render_eq_declareFields, hsteps]

/-! ## Reading a conversation -/

theorem has_message_fields (context : Context) {start : Memory} {around : Environment}
    {length index : Nat} {item : Value} {message : Message} {t : State}
    (h : InLoop start around "message" length index item t) (hshown : Shown start item message) :
    Has context t (Preset.field "role") (.text message.role) ∧
      Has context t (Preset.field "content") (.text message.content) := by
  obtain ⟨kind, address, rfl, -, hrole, hcontent⟩ := hshown.grows h.grows
  exact ⟨.field (.name h.lookup_item) hrole, .field (.name h.lookup_item) hcontent⟩

theorem has_joined {context : Context} {t : State} {first : Node} {a : String}
    (hfirst : Has context t first (.text a)) {rest : List Node} {texts : List String}
    (hrest : Forall₂ (fun node text => Has context t node (.text text)) rest texts) :
    Has context t (Preset.joined first rest) (.text (texts.foldl (· ++ ·) a)) := by
  induction hrest generalizing first a with
  | nil => exact hfirst
  | cons hnode _ ih => exact ih (hfirst.concat hnode)

theorem has_isRole {context : Context} {t : State} {node : Node} {role : String}
    (hrole : Has context t node (.text role)) (name : String) :
    Has context t (Preset.isRole node name) (.bool (role == name)) :=
  hrole.sameText (.text name)

end Eval

/-! ## Applying presets -/

namespace Session

/-- A prompt is made from a preset. -/
theorem outcome_newPreset (preset : Preset) (w : Workspace) :
    ∃ program w', program.tree = preset.tree ∧
      outcome (newPreset preset.name) w = (.ok w.prompts.length, w') ∧
      w'.library = w.library ∧
      w'.prompts[w.prompts.length]? = some ⟨preset.source, false, program, [], [], none⟩ := by
  obtain ⟨tokens, hsource⟩ := preset.analyse_source
  obtain ⟨w', hrun, hsame⟩ := outcome_compileSource hsource w
  have hname : Preset.ofName? preset.name = some preset := by
    cases preset <;> rfl
  refine ⟨⟨w.programs, preset.tree⟩, { w' with prompts := w'.prompts ++
    [⟨preset.source, false, ⟨w.programs, preset.tree⟩, [], [], none⟩] }, rfl, ?_, hsame.library, ?_⟩
  · rw [newPreset, hname]
    dsimp only
    rw [newPrompt, outcome_bind, hrun]
    dsimp only
    rw [outcome_addPrompt, hsame.prompts]
  · rw [← hsame.prompts]
    exact List.getElem?_concat_length

/-- A preset applied to a conversation. -/
theorem outcome_applyPreset (preset : Preset) {hosts : List Host} {messages : List Message}
    (h : Forall₂ Message.Given hosts messages) (opened : Option Bool) (bos eos : Option String)
    (w : Workspace) :
    ∃ t, Eval.Chat messages (opened.getD true) (bos.getD "") (eos.getD "") t ∧
      (outcome (do
        let number ← newPreset preset.name
        apply number (.list hosts) ⟨opened.map .bool, bos.map .text, eos.map .text, none⟩ []) w).1 =
          (Eval.evaluateBlock preset.tree.statements (.ofLibrary w.library [] false) t).1.mapError
            Fault.problem := by
  obtain ⟨program, w', htree, hrun, hlibrary, hprompt⟩ := outcome_newPreset preset w
  obtain ⟨t, hchat, hrender⟩ := Eval.render_chat h (opened.getD true) (bos.getD "") (eos.getD "")
    preset.tree.statements (.ofLibrary w.library [] false)
    { State.initial with memory := w'.memory }
  refine ⟨t, hchat, ?_⟩
  have hprogram : program.tree = .program preset.tree.statements := by
    rw [htree]
    cases preset <;> rfl
  rw [outcome_bind, hrun]
  dsimp only
  rw [outcome_apply hprompt rfl, rendering, hlibrary, hprogram, ← hrender]
  cases opened <;> cases bos <;> cases eos <;> rfl

end Session

end TextTemplate
