import TextTemplate.Fields
import TextTemplate.Host
import TextTemplate.Log.Level
import TextTemplate.Report
import TextTemplate.Text.Case

/-!
Setting up the log, by what the caller says or by environment variables.
-/

namespace TextTemplate.Log

/-- The form in which a log writes its records. -/
inductive Formatter
  | json
  | human
  deriving DecidableEq, Repr

/-- A log with its writers, which may be without a form of their own, and the least level that it
keeps. -/
structure Logger where
  formatters : List (Option Formatter)
  level : Level

/-- The environment variables with their values. -/
abbrev Variables := Fields String

/-- The variable that tells the level, and the one that tells it when the first is empty or not
there. -/
def levelVariable : String := "CHATPLATE_LOG_LEVEL"

def spareLevelVariable : String := "CHATPLATE_LOG"

def formatVariable : String := "CHATPLATE_LOG_FORMAT"

/-- The level of a name in capital or small letters, that of information for an unknown one. -/
def Level.ofName (name : String) : Level := (Level.names.lookup (Text.lower name)).getD Level.info

namespace Variables

/-- The value of a variable, none when it is empty. -/
def filled? (vars : Variables) (name : String) : Option String :=
  (vars.get? name).filter (!·.isEmpty)

def level (vars : Variables) : Level :=
  match vars.filled? levelVariable with
  | some name => .ofName name
  | none => .ofName ((vars.get? spareLevelVariable).getD "info")

/-- The name of the form of records, none when nothing is said about it. -/
def format? (vars : Variables) : Option String :=
  (vars.filled? formatVariable).map Text.lower

/-- The form of records where nobody looks at a terminal. -/
def formatter (vars : Variables) : Formatter :=
  if vars.format?.getD "json" == "json" then .json else .human

/-- Sets a variable, which has to be a text without the character that ends one for the system. -/
def assign (vars : Variables) (name : String) : Host → Except Problem Variables
  | .text value =>
    if value.toList.contains '\x00' then .error (.badValue "embedded null byte")
    else .ok (vars.put name value)
  | _ => .error .wrongType

/-- Remembers the name of a form, unless there is none. -/
def withFormat (vars : Variables) (format : Host) : Except Problem Variables :=
  if format.truthy then vars.assign formatVariable format else .ok vars

end Variables

/-- The level that the caller asks for, by its name or by its number. -/
def Level.ofRequest : Host → Except Problem Level
  | .text name => .ok (.ofName name)
  | .number (.int level) => .ok level
  | .bool b => .ok (if b then 1 else 0)
  | _ => .error .wrongType

namespace Logger

/-- A log with one writer, set up by the variables in everything but the level. -/
def ofVariables (vars : Variables) (level : Level) : Logger := ⟨[some vars.formatter], level⟩

/-- Sets a log up by the variables, unless it has writers already. -/
def setUpDefault (logger : Logger) (vars : Variables) : Logger :=
  if logger.formatters.isEmpty then .ofVariables vars vars.level else logger

/-- A log as the caller asks for it, with the variables that remember the form of records. -/
def ofRequest (vars : Variables) (level format : Host) : Except Problem (Logger × Variables) := do
  let vars ← vars.withFormat format
  let level ← Level.ofRequest level
  .ok (ofVariables vars level, vars)

end Logger

end TextTemplate.Log
