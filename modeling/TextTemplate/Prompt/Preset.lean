/-!
Ready templates for common formats of conversations. They expect the messages, a flag that asks for
the opening of the next answer, and two tokens that mark the ends of a sequence.
-/

namespace TextTemplate

/-- The formats of conversations that need no template of the user's own. -/
inductive Preset
  | chatml
  | llama2
  | alpaca
  | vicuna
  | zephyr
  deriving DecidableEq, Repr

namespace Preset

def all : List Preset := [chatml, llama2, alpaca, vicuna, zephyr]

def name : Preset → String
  | chatml => "chatml"
  | llama2 => "llama2"
  | alpaca => "alpaca"
  | vicuna => "vicuna"
  | zephyr => "zephyr"

def ofName? (name : String) : Option Preset := all.find? (·.name == name)

/-- The lines of a preset's template. -/
def lines : Preset → List String
  | chatml => [
      "\x7b%- for message in messages %\x7d",
      "    \x7b\x7b- '<|im_start|>' + message['role'] + '\\n' + message['content'] +" ++
        " '<|im_end|>\\n' \x7d\x7d",
      "\x7b%- endfor %\x7d",
      "\x7b%- if add_generation_prompt %\x7d",
      "    \x7b\x7b- '<|im_start|>assistant\\n' \x7d\x7d",
      "\x7b%- endif %\x7d"]
  | llama2 => [
      "\x7b%- if messages and messages[0]['role'] == 'system' %\x7d",
      "    \x7b%- set system_message = '<<SYS>>\\n' + messages[0]['content'] +" ++
        " '\\n<</SYS>>\\n\\n' %\x7d",
      "    \x7b%- set loop_messages = messages[1:] %\x7d",
      "\x7b%- else %\x7d",
      "    \x7b%- set system_message = '' %\x7d",
      "    \x7b%- set loop_messages = messages %\x7d",
      "\x7b%- endif %\x7d",
      "\x7b%- for message in loop_messages %\x7d",
      "    \x7b%- if (message['role'] == 'user') != (loop.index0 % 2 == 0) %\x7d",
      "        \x7b\x7b- raise_exception('Conversation roles must alternate" ++
        " user/assistant/user/assistant/...') \x7d\x7d",
      "    \x7b%- endif %\x7d",
      "    \x7b%- if message['role'] == 'user' %\x7d",
      "        \x7b%- if loop.first %\x7d",
      "            \x7b\x7b- bos_token + '[INST] ' + system_message + message['content'] +" ++
        " ' [/INST]' \x7d\x7d",
      "        \x7b%- else %\x7d",
      "            \x7b\x7b- bos_token + '[INST] ' + message['content'] + ' [/INST]' \x7d\x7d",
      "        \x7b%- endif %\x7d",
      "    \x7b%- elif message['role'] == 'assistant' %\x7d",
      "        \x7b\x7b- ' ' + message['content'] + ' ' + eos_token \x7d\x7d",
      "    \x7b%- endif %\x7d",
      "\x7b%- endfor %\x7d"]
  | alpaca => [
      "\x7b%- if messages and messages[0]['role'] == 'system' %\x7d",
      "    \x7b\x7b- messages[0]['content'] + '\\n\\n' \x7d\x7d",
      "\x7b%- endif %\x7d",
      "\x7b\x7b- '### Instruction:\\n' \x7d\x7d",
      "\x7b%- for message in messages %\x7d",
      "    \x7b%- if message['role'] == 'user' %\x7d",
      "        \x7b\x7b- message['content'] + '\\n' \x7d\x7d",
      "    \x7b%- endif %\x7d",
      "\x7b%- endfor %\x7d",
      "\x7b\x7b- '\\n### Response:\\n' \x7d\x7d"]
  | vicuna => [
      "\x7b%- for message in messages %\x7d",
      "    \x7b%- if message['role'] == 'system' %\x7d",
      "        \x7b\x7b- message['content'] + '\\n\\n' \x7d\x7d",
      "    \x7b%- elif message['role'] == 'user' %\x7d",
      "        \x7b\x7b- 'USER: ' + message['content'] + '\\n' \x7d\x7d",
      "    \x7b%- elif message['role'] == 'assistant' %\x7d",
      "        \x7b\x7b- 'ASSISTANT: ' + message['content'] + '</s>\\n' \x7d\x7d",
      "    \x7b%- endif %\x7d",
      "\x7b%- endfor %\x7d",
      "\x7b%- if add_generation_prompt %\x7d",
      "    \x7b\x7b- 'ASSISTANT:' \x7d\x7d",
      "\x7b%- endif %\x7d"]
  | zephyr => [
      "\x7b%- for message in messages %\x7d",
      "    \x7b\x7b- '<|' + message['role'] + '|>\\n' + message['content'] + '</s>\\n' \x7d\x7d",
      "\x7b%- endfor %\x7d",
      "\x7b%- if add_generation_prompt %\x7d",
      "    \x7b\x7b- '<|assistant|>\\n' \x7d\x7d",
      "\x7b%- endif %\x7d"]

/-- The text of a preset's template. -/
def source (preset : Preset) : String := "\n".intercalate preset.lines

end Preset

end TextTemplate
