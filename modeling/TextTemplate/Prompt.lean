import TextTemplate.Template
import TextTemplate.Text.Case
import TextTemplate.Text.Search
import TextTemplate.Variables

/-!
Prompts: compiled templates together with what is settled about their renderings, the mode, the
variables given in advance and the filters of their own.
-/

namespace TextTemplate

/-- The result of a compilation. The number tells it from that of any other. -/
structure Program where
  number : Nat
  tree : Node

structure Prompt where
  source : String
  strict : Bool
  program : Program
  /-- Variables given in advance. -/
  settled : Fields Host
  filters : Fields HostFunction
  /-- The number of the group whose globals the prompt sees. -/
  group : Option Nat

namespace Prompt

/-- The variables that callers may still give, in order. -/
def inputVariables (prompt : Prompt) : List String :=
  (findVariables prompt.program.tree).all.filter (!prompt.settled.has ·)

/-- How many characters of the source a description shows. -/
def previewLength : Nat := 50

/-- The beginning of the source between quotes. -/
def describe (prompt : Prompt) : String :=
  let source := prompt.source.toList
  let rest := if previewLength < source.length then "...".toList else []
  let preview := source.take previewLength ++ rest
  "PromptTemplate(" ++ Text.quoted (String.ofList preview) ++ ")"

/-- Whether one of the texts occurs in the source in small letters. -/
def mentions (prompt : Prompt) (texts : List String) : Bool :=
  let source := (Text.lower prompt.source).toList
  texts.any fun s => Text.contains s.toList source

/-- Whether the template seems to treat messages of the system, judged by the words in its source:
it names them or copies whatever role a message has. -/
def supportsSystemRole (prompt : Prompt) : Bool :=
  prompt.mentions
    ["'system'", "\"system\"", ".role", "['role']", "[\"role\"]", "<<sys>>", "<|system|>"]

/-- Whether the template seems to treat tools, judged by the words in its source. -/
def supportsTools (prompt : Prompt) : Bool := prompt.mentions ["tools", "functions", "tool_call"]

/-- Registers a filter under a name. -/
def putFilter (prompt : Prompt) (name : String) (filter : HostFunction) : Prompt :=
  { prompt with filters := prompt.filters.put name filter }

/-- The prompt with more variables given in advance. -/
def settle (prompt : Prompt) (given : Fields Host) : Prompt :=
  { prompt with settled := prompt.settled.putAll given }

/-- The variables of a rendering: what the caller gives comes before what was given in advance, and
that before what the group provides. -/
def merged (prompt : Prompt) (globals given : Fields Host) : Fields Host :=
  (globals.putAll prompt.settled).putAll given

end Prompt

/-- What prompts made together have in common. Its globals are seen as they are when a prompt is
rendered, its filters are passed on to a prompt when it is made. -/
structure PromptGroup where
  strict : Bool
  filters : Fields HostFunction
  globals : Fields Host

end TextTemplate
