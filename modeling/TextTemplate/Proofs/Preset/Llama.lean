import TextTemplate.Host.Stock
import TextTemplate.Proofs.Preset.Conversation

/-!
# Conversations for Llama

The preset for Llama puts the text of the system into the first turn. Users and assistants take
turns, and a conversation in which they do not is refused.
-/

namespace TextTemplate

open List (Forall₂)

namespace Llama2

/-- The text of the system, as it stands before the first turn. -/
def systemText (content : String) : String := "<<SYS>>\n" ++ content ++ "\n<</SYS>>\n\n"

/-- The text before the first turn, and the turns: the system may speak first. -/
def opening : List Message → String × List Message
  | [] => ("", [])
  | first :: rest =>
    if first.role = "system" then (systemText first.content, rest) else ("", first :: rest)

/-- Users take the turns at even places and no others. -/
def Alternates (turns : List Message) : Prop :=
  ∀ i (h : i < turns.length), turns[i].role = "user" ↔ i % 2 = 0

instance : DecidablePred Alternates := fun turns =>
  inferInstanceAs (Decidable (∀ i (h : i < turns.length), turns[i].role = "user" ↔ i % 2 = 0))

def turnText (bos eos system : String) (index : Nat) (turn : Message) : String :=
  if turn.role = "user" then
    bos ++ "[INST] " ++ (if index = 0 then system else "") ++ turn.content ++ " [/INST]"
  else if turn.role = "assistant" then " " ++ turn.content ++ " " ++ eos
  else ""

/-- What a conversation is told in which the roles do not alternate. -/
def demand : String := "Conversation roles must alternate user/assistant/user/assistant/..."

/-- The error that refuses such a conversation. -/
def refusal : Problem :=
  .reported ⟨.runtime, demand, [("source", .text "raise_exception")], ErrorClass.runtime.code⟩

/-- The prompt that a conversation becomes. -/
def prompt (bos eos : String) (messages : List Message) : Except Problem String :=
  let system := (opening messages).1
  let turns := (opening messages).2
  if Alternates turns then .ok (String.join (turns.mapIdx (turnText bos eos system)))
  else .error refusal

/-- What becomes of a single turn. -/
def turn (bos eos system : String) (index : Nat) (message : Message) : Except Fault String :=
  if message.role = "user" ↔ index % 2 = 0 then .ok (turnText bos eos system index message)
  else .error (.raised demand)

end Llama2

namespace Eval

open Message (Shown)

variable {context : Context} {messages : List Message} {opened : Bool} {bos eos : String}
  {s t : State}

/-- An environment in which the text of the system and the turns are set. -/
structure Opened (start : Environment) (system : String) (turns : List Value)
    (environment : Environment) : Prop where
  system : environment.lookup "system_message" = .text system
  turns : environment.lookup "loop_messages" = .array turns
  others : ∀ name, name ≠ "system_message" → name ≠ "loop_messages" →
    environment.lookup name = start.lookup name

theorem evaluateBlock_opening {system : String} {turns : List Value} {first second : Node}
    (hfirst : Has context s first (.text system))
    (hsecond : ∀ environment : Environment,
      environment.lookup "messages" = s.environment.lookup "messages" →
        Has context { s with environment } second (.array turns)) :
    ∃ environment, Opened s.environment system turns environment ∧
      evaluateBlock [.set (.name "system_message") first, .set (.name "loop_messages") second]
        context s = (.ok "", { s with environment }) := by
  let environment := s.environment.assign "system_message" (.text system)
  have hmessages : environment.lookup "messages" = s.environment.lookup "messages" :=
    Environment.lookup_assign ..
  refine ⟨environment.assign "loop_messages" (.array turns), ⟨?_, ?_, fun name h h' => ?_⟩, ?_⟩
  · simp [environment, Environment.lookup_assign]
  · simp [Environment.lookup_assign]
  · simp [environment, Environment.lookup_assign, h, h']
  · rw [evaluateBlock_set hfirst, evaluateBlock_set (hsecond environment hmessages),
      evaluateBlock_nil]

/-- The first statement sets the text of the system and the turns. -/
theorem evaluate_llama2Opening (context : Context) (h : Chat messages opened bos eos s) :
    ∃ environment turns, Opened s.environment (Llama2.opening messages).1 turns environment ∧
      Forall₂ (Shown s.memory) turns (Llama2.opening messages).2 ∧
      evaluate Preset.llama2Opening context s = (.ok (.text ""), { s with environment }) := by
  obtain ⟨values, hvalues, hshown⟩ := h.messages
  have hmessages (environment : Environment)
      (hsame : environment.lookup "messages" = s.environment.lookup "messages") :
      Has context { s with environment } (.name "messages") (.array values) :=
    .name (hsame.trans hvalues)
  cases hshown with
  | nil =>
    obtain ⟨environment, hopened, hblock⟩ := evaluateBlock_opening (.text "") hmessages
    refine ⟨environment, [], hopened, .nil, ?_⟩
    exact evaluate_branch (.and_false (hmessages _ rfl) rfl) rfl hblock
  | @cons value message values messages hmessage hrest =>
    obtain ⟨kind, address, rfl, -, hrole, hcontent⟩ := id hmessage
    have hfirst := (hmessages _ rfl).first
    have htest : Has context s Preset.opensWithSystem (.bool (message.role == "system")) :=
      .and_true (hmessages _ rfl) rfl (has_isRole (hfirst.field hrole) "system")
    by_cases hsystem : message.role = "system"
    · have htext : Has context s (Preset.joined (.text "<<SYS>>\n")
          [Preset.firstField "content", .text "\n<</SYS>>\n\n"])
          (.text (Llama2.systemText message.content)) :=
        has_joined (.text _) (.cons (hfirst.field hcontent) (.cons (.text _) .nil))
      obtain ⟨environment, hopened, hblock⟩ :=
        evaluateBlock_opening htext fun environment hsame => (hmessages environment hsame).others
      simp only [Llama2.opening, hsystem, ↓reduceIte]
      rw [beq_iff_eq.mpr hsystem] at htest
      exact ⟨environment, _, hopened, hrest, evaluate_branch htest rfl hblock⟩
    · obtain ⟨environment, hopened, hblock⟩ := evaluateBlock_opening (.text "") hmessages
      simp only [Llama2.opening, hsystem, ↓reduceIte]
      rw [beq_eq_false_iff_ne.mpr hsystem] at htest
      exact ⟨environment, _, hopened, .cons hmessage hrest, evaluate_branch htest rfl hblock⟩

/-- What the turns of a conversation are written with. -/
structure Turning (bos eos system : String) (around : Environment) : Prop where
  bos : around.lookup "bos_token" = .text bos
  eos : around.lookup "eos_token" = .text eos
  system : around.lookup "system_message" = .text system
  raise : ∃ mark, around.lookup "raise_exception" = .function mark (.builtin .raiseException)

section Turn

variable {start : Memory} {around : Environment} {system : String} {length index : Nat}
  {item : Value} {message : Message}

theorem evaluate_raise {message : String}
    (hraise : ∃ mark, t.environment.lookup "raise_exception" =
      .function mark (.builtin .raiseException)) :
    evaluate (.call (.name "raise_exception") [.text message]) context t =
      (.error (.raised message), t) := by
  obtain ⟨mark, hmark⟩ := hraise
  have hargs : evaluateArguments [.text message] context t = (.ok ([.text message], []), t) := by
    rw [evaluateArguments]
    · exact (run_bind (Has.text message) _).trans rfl
    · exact fun _ _ => Node.noConfusion
  rw [evaluate, run_bind hargs]
  show (evaluate (.name "raise_exception") >>= fun callee => callValue callee [.text message])
    context t = _
  rw [run_bind (Has.name hmark)]
  rfl

/-- A turn of the wrong role is refused, and one of the right role passes without a text. -/
theorem evaluate_llama2Check (context : Context) (hturning : Turning bos eos system around)
    (h : InLoop start around "message" length index item t) (hshown : Shown start item message) :
    evaluate Preset.llama2Check context t =
      (if message.role = "user" ↔ index % 2 = 0 then .ok (.text "")
        else .error (.raised Llama2.demand),
        t) := by
  obtain ⟨hrole, -⟩ := has_message_fields context h hshown
  have hindex : Has context t (.member (.name "loop") (.name "index0") false) (.ofNat index) :=
    h.has_about fun _ _ => rfl
  have htest := (has_isRole hrole "user").otherBool hindex.even
  have hraise : ∃ mark, t.environment.lookup "raise_exception" =
      .function mark (.builtin .raiseException) := by
    obtain ⟨mark, hmark⟩ := hturning.raise
    exact ⟨mark, (h.lookup_other (by decide) (by decide)).trans hmark⟩
  split
  · rename_i hsame
    have hfalse : ((message.role == "user") != (index % 2 == 0)) = false := by
      rw [bne_eq_false_iff_eq, Bool.eq_iff_iff, beq_iff_eq, beq_iff_eq]
      exact hsame
    rw [hfalse] at htest
    exact evaluate_branch htest rfl evaluateBlock_nil
  · rename_i hother
    have htrue : ((message.role == "user") != (index % 2 == 0)) = true := by
      rw [bne_iff_ne, ne_eq, Bool.eq_iff_iff, beq_iff_eq, beq_iff_eq]
      exact hother
    rw [htrue] at htest
    have hblock : evaluateBlock [.call (.name "raise_exception") [.text Llama2.demand]] context t =
        (.error (.raised Llama2.demand), t) := evaluateBlock_last (evaluate_raise hraise)
    exact evaluate_branch htest rfl hblock

theorem evaluate_llama2Turn (context : Context) (hturning : Turning bos eos system around)
    (h : InLoop start around "message" length index item t) (hshown : Shown start item message) :
    evaluateBlock [Preset.llama2Turn] context t =
      (.ok (Llama2.turnText bos eos system index message), t) := by
  obtain ⟨hrole, hcontent⟩ := has_message_fields context h hshown
  have hname {name text : String} (hloop : name ≠ "loop") (hmessage : name ≠ "message")
      (hfound : around.lookup name = .text text) : Has context t (.name name) (.text text) :=
    .name ((h.lookup_other hloop hmessage).trans hfound)
  have hbos := hname (by decide) (by decide) hturning.bos
  have heos := hname (by decide) (by decide) hturning.eos
  have hsystem := hname (by decide) (by decide) hturning.system
  have hwrite {node : Node} {text : String} (htext : Has context t node (.text text)) :
      evaluateBlock [node] context t = (.ok text, t) := evaluateBlock_last htext
  refine evaluateBlock_last (evaluate_branch (has_isRole hrole "user") rfl ?_)
  by_cases huser : message.role = "user"
  · simp only [Llama2.turnText, huser, beq_self_eq_true, ↓reduceIte]
    have hfirst : Has context t (.member (.name "loop") (.name "first") false)
        (.bool (index == 0)) := h.has_about fun _ _ => rfl
    refine evaluateBlock_last (evaluate_branch hfirst rfl ?_)
    by_cases hzero : index = 0
    · simp only [hzero, beq_self_eq_true, ↓reduceIte]
      exact hwrite (has_joined hbos
        (.cons (.text _) (.cons hsystem (.cons hcontent (.cons (.text _) .nil)))))
    · simp only [beq_eq_false_iff_ne.mpr hzero, hzero, Bool.false_eq_true, ↓reduceIte]
      rw [String.append_empty]
      exact hwrite (has_joined hbos (.cons (.text _) (.cons hcontent (.cons (.text _) .nil))))
  · simp only [Llama2.turnText, huser, beq_eq_false_iff_ne.mpr huser, Bool.false_eq_true,
      ↓reduceIte]
    refine evaluateBlock_last (evaluate_branch (has_isRole hrole "assistant") rfl ?_)
    by_cases hassistant : message.role = "assistant"
    · simp only [hassistant, beq_self_eq_true, ↓reduceIte]
      exact hwrite (has_joined (.text _) (.cons hcontent (.cons (.text _) (.cons heos .nil))))
    · simp only [hassistant, beq_eq_false_iff_ne.mpr hassistant, Bool.false_eq_true, ↓reduceIte]
      exact evaluateBlock_nil

theorem evaluateBlock_turn (hturning : Turning bos eos system around)
    (h : InLoop start around "message" length index item t) (hshown : Shown start item message) :
    evaluateBlock [Preset.llama2Check, Preset.llama2Turn] context t =
      (Llama2.turn bos eos system index message, t) := by
  have hcheck := evaluate_llama2Check context hturning h hshown
  have hturn := evaluate_llama2Turn context hturning h hshown
  unfold Llama2.turn
  split
  · rename_i hrole
    rw [if_pos hrole] at hcheck
    rw [evaluateBlock_cons hcheck rfl hturn]
    exact congrArg (fun text => (Except.ok text, t)) String.empty_append
  · rename_i hrole
    rw [if_neg hrole] at hcheck
    rw [evaluateBlock]
    exact run_bind_error hcheck _

end Turn

/-- All turns, or the refusal of a conversation in which the roles do not alternate. -/
theorem joinFrom_turn (bos eos system : String) (turns : List Message) :
    (joinFrom (Llama2.turn bos eos system) 0 turns).mapError Fault.problem =
      if Llama2.Alternates turns then
        .ok (String.join (turns.mapIdx (Llama2.turnText bos eos system)))
      else .error Llama2.refusal := by
  split
  · rename_i halternates
    have hall : joinFrom (Llama2.turn bos eos system) 0 turns = .ok (String.join
        (turns.mapIdx fun i turn => Llama2.turnText bos eos system (0 + i) turn)) := by
      refine joinFrom_ok fun i hi => ?_
      rw [Nat.zero_add]
      exact if_pos (halternates i hi)
    rw [hall]
    simp only [Nat.zero_add]
    rfl
  · rename_i halternates
    have hrefused : joinFrom (Llama2.turn bos eos system) 0 turns =
        .error (.raised Llama2.demand) := by
      refine joinFrom_error (fun i turn => ?_) ?_
      · unfold Llama2.turn
        split
        · exact .inl ⟨_, rfl⟩
        · exact .inr rfl
      · simp only [Llama2.Alternates, not_forall] at halternates
        obtain ⟨i, hi, hother⟩ := halternates
        refine ⟨i, hi, ?_⟩
        rw [Nat.zero_add]
        exact if_neg hother
    rw [hrefused]
    rfl

/-- The template of the preset, where the variables of a conversation are set. -/
theorem evaluateBlock_llama2 (h : Chat messages opened bos eos s) :
    (evaluateBlock Preset.llama2.tree.statements context s).1.mapError Fault.problem =
      Llama2.prompt bos eos messages := by
  obtain ⟨environment, turns, hopened, hshown, hopening⟩ :=
    evaluate_llama2Opening context h
  have hturning : Turning bos eos (Llama2.opening messages).1 environment := by
    obtain ⟨mark, hmark⟩ := h.raise
    have hkept := hopened.others
    exact ⟨(hkept _ (by decide) (by decide)).trans h.bos,
      (hkept _ (by decide) (by decide)).trans h.eos, hopened.system,
      mark, (hkept _ (by decide) (by decide)).trans hmark⟩
  have hloop : ∃ m, evaluate (.loop (.name "message") (.name "loop_messages")
      [Preset.llama2Check, Preset.llama2Turn]) context { s with environment } =
        ((joinFrom (Llama2.turn bos eos (Llama2.opening messages).1) 0
          (Llama2.opening messages).2).map .text, ⟨m, environment⟩) ∧ Memory.Grows s.memory m :=
    evaluate_loop (by decide) hopened.turns hshown fun _ _ _ _ hturn hin =>
      evaluateBlock_turn hturning hin hturn
  obtain ⟨m, hloop, -⟩ := hloop
  have hblock : evaluateBlock Preset.llama2.tree.statements context s = _ :=
    evaluateBlock_cons hopening rfl (evaluateBlock_last hloop)
  rw [hblock, Llama2.prompt, ← joinFrom_turn]
  cases joinFrom (Llama2.turn bos eos (Llama2.opening messages).1) 0
    (Llama2.opening messages).2 with
  | ok text => exact congrArg Except.ok String.empty_append
  | error fault => rfl

end Eval

/-- The preset for Llama makes of every conversation the prompt that the format demands, and refuses
it when the roles do not alternate. -/
theorem Session.outcome_llama2 {hosts : List Host} {messages : List Message}
    (h : Forall₂ Message.Given hosts messages) (bos eos : String) (w : Workspace) :
    (outcome (do
      let number ← newPreset "llama2"
      apply number (.list hosts) ⟨none, some (.text bos), some (.text eos), none⟩ []) w).1 =
        Llama2.prompt bos eos messages := by
  obtain ⟨t, hchat, hrun⟩ := outcome_applyPreset .llama2 h none (some bos) (some eos) w
  exact hrun.trans (Eval.evaluateBlock_llama2 hchat)

/-- The system speaks first, and the user has the first turn. -/
theorem Session.outcome_llama2_system :
    let hosts : List Host := [.ofFields [("role", .text "system"), ("content", .text "Be brief.")],
      .ofFields [("role", .text "user"), ("content", .text "Hi"), ("name", .text "Ann")]]
    let messages : List Message := [⟨"system", "Be brief."⟩, ⟨"user", "Hi"⟩]
    Forall₂ Message.Given hosts messages ∧
      Llama2.prompt "<s>" "</s>" messages =
        .ok "<s>[INST] <<SYS>>\nBe brief.\n<</SYS>>\n\nHi [/INST]" ∧
      (outcome (do
        let number ← newPreset "llama2"
        apply number (.list hosts) ⟨none, some (.text "<s>"), some (.text "</s>"), none⟩ [])
        (.ofLibrary Host.stock)).1 = Llama2.prompt "<s>" "</s>" messages := by
  intro hosts messages
  have htext (text : String) : (Host.text text).Convertible := fun _ _ => ⟨.text text, rfl⟩
  have hgiven : Forall₂ Message.Given hosts messages :=
    .cons (.map (by decide) (by simp [htext]) rfl rfl)
      (.cons (.map (by decide) (by simp [htext]) rfl rfl) .nil)
  exact ⟨hgiven, by rfl, outcome_llama2 hgiven "<s>" "</s>" _⟩

end TextTemplate
