import TextTemplate.Host
import TextTemplate.Log.Level

/-!
The record of what is done with templates.
-/

namespace TextTemplate

/-- What was done, with its measures. The mode of a rendering is recorded as it was asked for. -/
inductive Activity
  | compiled (tokens statements chars : Nat)
  | rendered (chars : Nat) (strict : Host)

/-- An activity and the level at which it was recorded. -/
structure Activity.Entry where
  level : Log.Level
  activity : Activity

namespace Activity

def message : Activity → String
  | compiled .. => "Compiled template"
  | rendered .. => "Rendered template"

/-- The part of the library in which all activities take place. -/
def scope : String := "template"

/-- The level of activities: they are of interest to everybody while someone looks for a fault. -/
def level (debug : Bool) : Log.Level := if debug then .info else .debug

/-- The settings of the record on one line. -/
def describeSettings (debug : Bool) : String :=
  "TemplateConfig(debug=" ++ (if debug then "True" else "False") ++ ")"

end Activity

end TextTemplate
