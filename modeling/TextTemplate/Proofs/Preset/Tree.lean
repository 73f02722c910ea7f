import TextTemplate.Proofs.Syntax.Compiling
import TextTemplate.Prompt.Preset

/-!
# The trees of the presets

White space control takes away whatever is between the tags of a preset, so its tree holds no text
but the one that the preset says.
-/

namespace TextTemplate.Preset

open List (Forall₂)
open Text (Spells)

/-- A field of the message that a loop is at. -/
def field (name : String) : Node := .member (.name "message") (.text name) true

/-- A field of the first message. -/
def firstField (name : String) : Node :=
  .member (.member (.name "messages") (.number (.int 0)) true) (.text name) true

/-- Texts one after the other. -/
def joined (first : Node) (rest : List Node) : Node := rest.foldl (.binary "+") first

def isRole (role : Node) (name : String) : Node := .binary "==" role (.text name)

/-- Whether there are messages and the first one is of the system. -/
def opensWithSystem : Node :=
  .binary "and" (.name "messages") (isRole (firstField "role") "system")

/-- The first statement of Llama's template: the text of the system and the turns after it. -/
def llama2Opening : Node :=
  .branch opensWithSystem [
    .set (.name "system_message")
      (joined (.text "<<SYS>>\n") [firstField "content", .text "\n<</SYS>>\n\n"]),
    .set (.name "loop_messages")
      (.member (.name "messages") (.slice (some (.number (.int 1))) none none) true)] [
    .set (.name "system_message") (.text ""),
    .set (.name "loop_messages") (.name "messages")]

/-- The statement of Llama's template that refuses a turn of the wrong role. -/
def llama2Check : Node :=
  .branch (.binary "!=" (isRole (field "role") "user")
    (.binary "==" (.binary "%" (.member (.name "loop") (.name "index0") false) (.number (.int 2)))
      (.number (.int 0)))) [
    .call (.name "raise_exception")
      [.text "Conversation roles must alternate user/assistant/user/assistant/..."]] []

/-- The statement of Llama's template that writes a turn. -/
def llama2Turn : Node :=
  .branch (isRole (field "role") "user") [
    .branch (.member (.name "loop") (.name "first") false) [
      joined (.name "bos_token")
        [.text "[INST] ", .name "system_message", field "content", .text " [/INST]"]] [
      joined (.name "bos_token") [.text "[INST] ", field "content", .text " [/INST]"]]] [
    .branch (isRole (field "role") "assistant") [
      joined (.text " ") [field "content", .text " ", .name "eos_token"]] []]

/-- The tree of a preset's template. -/
def tree : Preset → Node
  | chatml => .program [
      .loop (.name "message") (.name "messages") [
        joined (.text "<|im_start|>")
          [field "role", .text "\n", field "content", .text "<|im_end|>\n"]],
      .branch (.name "add_generation_prompt") [.text "<|im_start|>assistant\n"] []]
  | llama2 => .program [
      llama2Opening,
      .loop (.name "message") (.name "loop_messages") [llama2Check, llama2Turn]]
  | alpaca => .program [
      .branch opensWithSystem [joined (firstField "content") [.text "\n\n"]] [],
      .text "### Instruction:\n",
      .loop (.name "message") (.name "messages") [
        .branch (isRole (field "role") "user") [joined (field "content") [.text "\n"]] []],
      .text "\n### Response:\n"]
  | vicuna => .program [
      .loop (.name "message") (.name "messages") [
        .branch (isRole (field "role") "system") [joined (field "content") [.text "\n\n"]] [
          .branch (isRole (field "role") "user") [
            joined (.text "USER: ") [field "content", .text "\n"]] [
            .branch (isRole (field "role") "assistant") [
              joined (.text "ASSISTANT: ") [field "content", .text "</s>\n"]] []]]],
      .branch (.name "add_generation_prompt") [.text "ASSISTANT:"] []]
  | zephyr => .program [
      .loop (.name "message") (.name "messages") [
        joined (.text "<|") [field "role", .text "|>\n", field "content", .text "</s>\n"]],
      .branch (.name "add_generation_prompt") [.text "<|assistant|>\n"] []]

/-- What is left of a line: its indentation and the dash of its tag go. -/
def tag (line : List Char) : List Char :=
  match line.dropWhile (· == ' ') with
  | a :: b :: '-' :: rest => a :: b :: rest
  | line => line

theorem analyse_of_lines {preset : Preset} {lines : List (List Char)} {tokens : List Token}
    {tree : Node} (hlines : Forall₂ Spells preset.lines lines)
    (hprepared : Source.prepareChars .full (['\n'].intercalate lines) = lines.flatMap tag)
    (htokens : Token.scan (lines.flatMap tag) = .ok tokens)
    (htree : Node.ofTokens tokens = .ok tree) :
    analyse .full preset.source = .ok (tokens, tree) :=
  analyse_of_spells (.intercalate (.chars ['\n']) hlines) hprepared htokens htree

set_option maxRecDepth 100000 in
/-- Every preset is read as its tree. -/
theorem analyse_source (preset : Preset) :
    ∃ tokens, analyse .full preset.source = .ok (tokens, preset.tree) := by
  cases preset
  all_goals
    apply Exists.intro
    apply analyse_of_lines
    case hlines =>
      repeat' first
        | apply Forall₂.cons
        | apply Forall₂.nil
        | apply Spells.append
        | apply Spells.chars
    case hprepared => decide +kernel
    case htokens => rfl
    case htree => rfl

end TextTemplate.Preset
