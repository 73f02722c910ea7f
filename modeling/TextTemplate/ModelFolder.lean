import TextTemplate.Files.Tree
import TextTemplate.Json.Reader
import TextTemplate.Report

/-!
Folders of models. The template for conversations with a model is an entry of its settings file, or
stands in a file of its own.
-/

namespace TextTemplate.ModelFolder

/-- The file of settings, a JSON document. -/
def settingsName : String := "tokenizer_config.json"

/-- The file that holds nothing but the template. -/
def templateName : String := "chat_template.jinja"

/-- The name of the template that comes before all others. -/
def defaultName : String := "default"

/-- The name and the text of an entry in a list of templates, none when it has no text. An entry
may do without a name. -/
def usable? : Host → Option (Host × String)
  | .map entries =>
    match Host.entry? "template" entries with
    | some (.text template) => some ((Host.entry? "name" entries).getD .null, template)
    | _ => none
  | _ => none

/-- Templates by their names, which have to be able to be keys. -/
def named (templates : List (Host × String)) : Except Problem (List (Host × String)) :=
  if templates.all (·.1.isKey) then .ok (Host.entriesOfPairs templates) else .error .wrongType

/-- The template that the entry of a settings file stands for: a text is one itself, and of a list
it is the one with the name of the default or else the first; of templates with the same name it is
the last. -/
def select : Host → Except Problem (Option String)
  | .text template => .ok (some template)
  | .list entries => do
    let templates ← named (entries.filterMap usable?)
    .ok <| match Host.entry? defaultName templates with
      | some template => some template
      | none => templates.head?.map (·.2)
  | _ => .ok none

/-- The text of a file, none when there is no such file. -/
def readText? (tree : FileTree) (path : Path) : Except Problem (Option String) :=
  if !tree.canFollow path then .error .beyondSystem
  else match tree.bytes? path with
  | none => .ok none
  | some bytes =>
    match Text.decode? bytes with
    | some text => .ok (some text)
    | none => .error .undecodable

/-- The settings in a file, none when there is no such file. -/
def readSettings? (tree : FileTree) (path : Path) : Except Problem (Option Host) := do
  match ← readText? tree path with
  | none => .ok none
  | some text =>
    match Json.read text with
    | .ok settings => .ok (some settings)
    | .error (.numeralTooLong digits) => .error (.numeralTooLong (some digits))
    | .error (.malformed defect place) =>
      .error (.reported {
        errorClass := .template
        message := "Invalid JSON in " ++ path.text ++ ": " ++ defect.describe place
        details := [("path", .text path.text)] })

/-- The template that settings choose. -/
def ofSettings : Option Host → Except Problem (Option String)
  | some (.map entries) => select ((Host.entry? "chat_template" entries).getD .null)
  | _ => .ok none

/-- The template of the model in a folder. -/
def source (tree : FileTree) (given : String) : Except Problem String := do
  let folder := Path.ofText given
  let settings ← readSettings? tree (folder.child settingsName)
  match ← ofSettings settings with
  | some template => .ok template
  | none =>
    match ← readText? tree (folder.child templateName) with
    | some template => .ok template
    | none => .error (.reported {
        errorClass := .notFound
        message := "No chat template found for model '" ++ given ++ "'. " ++
          "Ensure the model has a chat_template in tokenizer_config.json " ++
          "or a chat_template.jinja file."
        details := [("path", .text given)] })

/-- The path of the folder of a model, which has to exist. -/
def resolve (tree : FileTree) (given : String) : Except Problem String :=
  let folder := Path.ofText given
  if !tree.canFollow folder then .error .beyondSystem
  else if tree.isFolder folder then .ok folder.text
  else .error (.noFile ("Model '" ++ given ++ "' not found. Provide a local model directory " ++
    "containing tokenizer_config.json or chat_template.jinja."))

end TextTemplate.ModelFolder
