import TextTemplate.Host.Stock
import TextTemplate.Proofs.Preset.Conversation

/-!
# Conversations message by message

All presets but the one for Llama write every message of a conversation on its own, whatever its
content, and then ask for an answer. Nobody has to take turns, and a role that a format has no
words for is passed over.
-/

namespace TextTemplate

open List (Forall₂)

/-- How a conversation is written: what stands in front of the messages, each of them, and how the
next answer is asked for. -/
structure ChatFormat where
  opening : List Message → String := fun _ => ""
  message : Message → String
  request : Bool → String

namespace ChatFormat

/-- The prompt that a conversation becomes. -/
def prompt (format : ChatFormat) (opened : Bool) (messages : List Message) : String :=
  format.opening messages ++ String.join (messages.map format.message) ++ format.request opened

def chatml : ChatFormat where
  message m := "<|im_start|>" ++ m.role ++ "\n" ++ m.content ++ "<|im_end|>\n"
  request opened := if opened then "<|im_start|>assistant\n" else ""

def zephyr : ChatFormat where
  message m := "<|" ++ m.role ++ "|>\n" ++ m.content ++ "</s>\n"
  request opened := if opened then "<|assistant|>\n" else ""

def vicuna : ChatFormat where
  message m :=
    if m.role = "system" then m.content ++ "\n\n"
    else if m.role = "user" then "USER: " ++ m.content ++ "\n"
    else if m.role = "assistant" then "ASSISTANT: " ++ m.content ++ "</s>\n"
    else ""
  request opened := if opened then "ASSISTANT:" else ""

/-- The instruction is what the users say. The answer is always asked for. -/
def alpaca : ChatFormat where
  opening
    | [] => "### Instruction:\n"
    | first :: _ =>
      (if first.role = "system" then first.content ++ "\n\n" else "") ++ "### Instruction:\n"
  message m := if m.role = "user" then m.content ++ "\n" else ""
  request _ := "\n### Response:\n"

/-- The format of a preset that writes message by message. -/
def ofPreset? : Preset → Option ChatFormat
  | .chatml => some chatml
  | .llama2 => none
  | .alpaca => some alpaca
  | .vicuna => some vicuna
  | .zephyr => some zephyr

end ChatFormat

namespace Eval

open Message (Shown)

variable {context : Context} {messages : List Message} {opened : Bool} {bos eos : String}
  {s : State}

/-! ## The parts of a template -/

theorem evaluateBlock_text {t : State} {node : Node} {text : String}
    (h : Has context t node (.text text)) : evaluateBlock [node] context t = (.ok text, t) :=
  evaluateBlock_last h

/-- What is written for one role, and what for the others. -/
theorem evaluateBlock_role {t : State} {role text other name : String} {node : Node}
    {alternate : List Node} (hrole : Has context t (Preset.field "role") (.text role))
    (hnode : Has context t node (.text text))
    (halternate : evaluateBlock alternate context t = (.ok other, t)) :
    evaluateBlock [.branch (Preset.isRole (Preset.field "role") name) [node] alternate] context t =
      (.ok (if role = name then text else other), t) := by
  refine evaluateBlock_last (evaluate_branch (has_isRole hrole name) rfl ?_)
  by_cases hname : role = name
  · simp only [hname, beq_self_eq_true, ↓reduceIte]
    exact evaluateBlock_text hnode
  · simp only [hname, beq_eq_false_iff_ne.mpr hname, Bool.false_eq_true, ↓reduceIte]
    exact halternate

theorem joinFrom_map {β : Type} (write : β → String) (index : Nat) (bs : List β) :
    joinFrom (fun _ b => .ok (write b)) index bs = .ok (String.join (bs.map write)) := by
  induction bs generalizing index with
  | nil => rfl
  | cons b rest ih =>
    rw [joinFrom, ih, List.map_cons, String.join_cons]
    rfl

/-- The loop over the messages writes each of them. -/
theorem evaluate_messages {body : List Node} {write : Message → String}
    (h : Chat messages opened bos eos s)
    (hbody : ∀ t message, Has context t (Preset.field "role") (.text message.role) →
      Has context t (Preset.field "content") (.text message.content) →
        evaluateBlock body context t = (.ok (write message), t)) :
    ∃ m, evaluate (.loop (.name "message") (.name "messages") body) context s =
      (.ok (.text (String.join (messages.map write))), ⟨m, s.environment⟩) := by
  obtain ⟨values, hvalues, hshown⟩ := h.messages
  have hname : "message" ≠ "loop" := by decide
  obtain ⟨m, hloop, -⟩ := evaluate_loop hname hvalues hshown
    fun index item message t hitem hin => by
      obtain ⟨hrole, hcontent⟩ := has_message_fields context hin hitem
      exact hbody t message hrole hcontent
  rw [joinFrom_map] at hloop
  exact ⟨m, hloop⟩

/-- A text that stands at the end when an answer is asked for. -/
theorem evaluateBlock_request {m : Memory} (h : Chat messages opened bos eos s) (text : String) :
    evaluateBlock [.branch (.name "add_generation_prompt") [.text text] []] context
      ⟨m, s.environment⟩ = (.ok (if opened then text else ""), ⟨m, s.environment⟩) := by
  refine evaluateBlock_last (evaluate_branch (.name h.opened) rfl ?_)
  cases opened with
  | true => exact evaluateBlock_text (.text text)
  | false => exact evaluateBlock_nil

/-- The messages, and then the request for an answer. -/
theorem evaluateBlock_chat {body : List Node} (format : ChatFormat) {text : String}
    (hopening : format.opening messages = "")
    (hrequest : format.request opened = if opened then text else "")
    (h : Chat messages opened bos eos s)
    (hbody : ∀ t message, Has context t (Preset.field "role") (.text message.role) →
      Has context t (Preset.field "content") (.text message.content) →
        evaluateBlock body context t = (.ok (format.message message), t)) :
    (evaluateBlock [.loop (.name "message") (.name "messages") body,
      .branch (.name "add_generation_prompt") [.text text] []] context s).1 =
        .ok (format.prompt opened messages) := by
  obtain ⟨m, hloop⟩ := evaluate_messages h hbody
  rw [evaluateBlock_cons hloop rfl (evaluateBlock_request h text), ChatFormat.prompt, hopening,
    hrequest, String.empty_append]
  rfl

/-- The first statement for Alpaca: the system may speak in front of the instruction. -/
theorem evaluate_alpacaOpening (context : Context) (h : Chat messages opened bos eos s) :
    ∃ system, ChatFormat.alpaca.opening messages = system ++ "### Instruction:\n" ∧
      evaluate (.branch Preset.opensWithSystem
        [Preset.joined (Preset.firstField "content") [.text "\n\n"]] []) context s =
          (.ok (.text system), s) := by
  obtain ⟨values, hvalues, hshown⟩ := h.messages
  have hmessages : Has context s (.name "messages") (.array values) := .name hvalues
  cases hshown with
  | nil =>
    exact ⟨"", rfl, evaluate_branch (.and_false hmessages rfl) rfl evaluateBlock_nil⟩
  | @cons value message values messages hmessage _ =>
    obtain ⟨kind, address, rfl, -, hrole, hcontent⟩ := hmessage
    have htest : Has context s Preset.opensWithSystem (.bool (message.role == "system")) :=
      .and_true hmessages rfl (has_isRole (hmessages.first.field hrole) "system")
    by_cases hsystem : message.role = "system"
    · rw [beq_iff_eq.mpr hsystem] at htest
      have htext : Has context s (Preset.joined (Preset.firstField "content") [.text "\n\n"])
          (.text (message.content ++ "\n\n")) :=
        has_joined (hmessages.first.field hcontent) (.cons (.text _) .nil)
      exact ⟨_, by simp [ChatFormat.alpaca, hsystem],
        evaluate_branch htest rfl (evaluateBlock_text htext)⟩
    · rw [beq_eq_false_iff_ne.mpr hsystem] at htest
      exact ⟨"", by simp [ChatFormat.alpaca, hsystem],
        evaluate_branch htest rfl evaluateBlock_nil⟩

/-! ## The templates -/

theorem evaluateBlock_chatml (context : Context) (h : Chat messages opened bos eos s) :
    (evaluateBlock Preset.chatml.tree.statements context s).1 =
      .ok (ChatFormat.chatml.prompt opened messages) :=
  evaluateBlock_chat .chatml rfl rfl h fun _ _ hrole hcontent =>
    evaluateBlock_text (has_joined (.text _)
      (.cons hrole (.cons (.text _) (.cons hcontent (.cons (.text _) .nil)))))

theorem evaluateBlock_zephyr (context : Context) (h : Chat messages opened bos eos s) :
    (evaluateBlock Preset.zephyr.tree.statements context s).1 =
      .ok (ChatFormat.zephyr.prompt opened messages) :=
  evaluateBlock_chat .zephyr rfl rfl h fun _ _ hrole hcontent =>
    evaluateBlock_text (has_joined (.text _)
      (.cons hrole (.cons (.text _) (.cons hcontent (.cons (.text _) .nil)))))

theorem evaluateBlock_vicuna (context : Context) (h : Chat messages opened bos eos s) :
    (evaluateBlock Preset.vicuna.tree.statements context s).1 =
      .ok (ChatFormat.vicuna.prompt opened messages) := by
  refine evaluateBlock_chat .vicuna rfl rfl h fun t message hrole hcontent => ?_
  have hsystem := has_joined hcontent (.cons (.text "\n\n") .nil)
  have huser := has_joined (.text "USER: ") (.cons hcontent (.cons (.text "\n") .nil))
  have hassistant :=
    has_joined (.text "ASSISTANT: ") (.cons hcontent (.cons (.text "</s>\n") .nil))
  exact evaluateBlock_role hrole hsystem
    (evaluateBlock_role hrole huser (evaluateBlock_role hrole hassistant evaluateBlock_nil))

theorem evaluateBlock_alpaca (context : Context) (h : Chat messages opened bos eos s) :
    (evaluateBlock Preset.alpaca.tree.statements context s).1 =
      .ok (ChatFormat.alpaca.prompt opened messages) := by
  obtain ⟨system, hopening, hfirst⟩ := evaluate_alpacaOpening context h
  obtain ⟨m, hloop⟩ := evaluate_messages h fun t message hrole hcontent =>
    evaluateBlock_role hrole (has_joined hcontent (.cons (.text "\n") .nil)) evaluateBlock_nil
  have hblock : evaluateBlock Preset.alpaca.tree.statements context s = _ :=
    evaluateBlock_cons hfirst rfl (evaluateBlock_cons (Has.text _) rfl
      (evaluateBlock_cons hloop rfl (evaluateBlock_text (.text _))))
  rw [hblock, ChatFormat.prompt, hopening, String.append_assoc, String.append_assoc]
  rfl

end Eval

/-- Every preset but the one for Llama makes of a conversation the prompt of its format. -/
theorem Session.outcome_chatFormat {preset : Preset} {format : ChatFormat}
    (hformat : ChatFormat.ofPreset? preset = some format) {hosts : List Host}
    {messages : List Message} (h : Forall₂ Message.Given hosts messages) (opened : Bool)
    (bos eos : Option String) (w : Workspace) :
    (outcome (do
      let number ← newPreset preset.name
      apply number (.list hosts) ⟨some (.bool opened), bos.map .text, eos.map .text, none⟩ [])
      w).1 = .ok (format.prompt opened messages) := by
  obtain ⟨t, hchat, hrun⟩ := outcome_applyPreset preset h (some opened) bos eos w
  refine hrun.trans ?_
  cases preset with
  | chatml => cases hformat; rw [Eval.evaluateBlock_chatml _ hchat]; rfl
  | llama2 => cases hformat
  | alpaca => cases hformat; rw [Eval.evaluateBlock_alpaca _ hchat]; rfl
  | vicuna => cases hformat; rw [Eval.evaluateBlock_vicuna _ hchat]; rfl
  | zephyr => cases hformat; rw [Eval.evaluateBlock_zephyr _ hchat]; rfl

/-- What looks like a tag in a message is plain text. -/
theorem Session.outcome_chatFormat_tag :
    let hosts : List Host := [
      .ofFields [("role", .text "user"), ("content", .text "\x7b\x7b bos_token \x7d\x7d")],
      .ofFields [("role", .text "tool"), ("content", .text "\x7b%- endfor %\x7d")],
      .ofFields [("name", .text "Ann"), ("content", .text "Be brief."), ("role", .text "system")]]
    let messages : List Message := [⟨"user", "\x7b\x7b bos_token \x7d\x7d"⟩,
      ⟨"tool", "\x7b%- endfor %\x7d"⟩, ⟨"system", "Be brief."⟩]
    ChatFormat.ofPreset? .vicuna = some .vicuna ∧ Forall₂ Message.Given hosts messages ∧
      ChatFormat.vicuna.prompt true messages =
        "USER: \x7b\x7b bos_token \x7d\x7d\nBe brief.\n\nASSISTANT:" ∧
      (outcome (do
        let number ← newPreset "vicuna"
        apply number (.list hosts) ⟨some (.bool true), none, none, none⟩ [])
        (.ofLibrary Host.stock)).1 = .ok (ChatFormat.vicuna.prompt true messages) := by
  intro hosts messages
  have htext (text : String) : (Host.text text).Convertible := fun _ _ => ⟨.text text, rfl⟩
  have hgiven : Forall₂ Message.Given hosts messages :=
    .cons (.map (by decide) (by simp [htext]) rfl rfl)
      (.cons (.map (by decide) (by simp [htext]) rfl rfl)
        (.cons (.map (by decide) (by simp [htext]) rfl rfl) .nil))
  have hformat : ChatFormat.ofPreset? .vicuna = some .vicuna := rfl
  exact ⟨hformat, hgiven, by rfl, outcome_chatFormat hformat hgiven true none none _⟩

end TextTemplate
