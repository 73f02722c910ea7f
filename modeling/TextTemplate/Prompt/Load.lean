import TextTemplate.ModelFolder
import TextTemplate.Prompt.Workspace

/-!
Prompts from templates in files.
-/

namespace TextTemplate.Session

/-- The text of a template file. -/
def templateText (tree : FileTree) (given : String) : Except Problem String := do
  match ← ModelFolder.readText? tree (.ofText given) with
  | some text => .ok text
  | none => .error (.reported {
      errorClass := .notFound
      message := "Template file not found: " ++ given
      details := [("path", .text given)] })

/-- A new prompt from a template file. -/
def loadFile (tree : FileTree) (given : String) (strict : Bool) : Session Nat := do
  let source ← templateText tree given
  newPrompt .full strict (.text source)

/-- A new prompt in a group from a template file. -/
def loadFileIn (tree : FileTree) (given : String) (group : Nat) (strict : Option Bool) :
    Session Nat := do
  let source ← templateText tree (Path.ofText given).text
  newPromptIn group strict (.text source)

/-- A new prompt with the template of the model in a folder. -/
def loadModel (tree : FileTree) (given : String) (strict : Bool) : Session Nat := do
  let folder ← ModelFolder.resolve tree given
  let source ← ModelFolder.source tree folder
  newPrompt .full strict (.text source)

end TextTemplate.Session
