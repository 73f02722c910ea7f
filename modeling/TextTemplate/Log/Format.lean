import TextTemplate.Json.Writer
import TextTemplate.Log.Record
import TextTemplate.Log.Substitution

/-!
The two forms of log records: JSON documents for machines and lines for people.
-/

namespace TextTemplate.Log

/-- A value as text. -/
def shown (value : Host) : Except Problem String :=
  match value.display? with
  | some s => .ok s
  | none => .error (.numeralTooLong none)

/-- The message of a record with its arguments. -/
def Record.body (record : Record) : Except Problem String := do
  let message ← shown (record.get "msg")
  substitute message (record.get "args")

/-- A record as a JSON document, with the version of the library. -/
def Record.document (version : String) (record : Record) : Except Problem String := do
  let moment ← record.moment
  let severity ← record.severity
  let attributes ← record.shownAttributes
  let body ← record.body
  let document := Host.ofFields [
    ("timestamp", .text moment.timestamp),
    ("severityText", .text severity),
    ("body", .text body),
    ("attributes", .ofFields attributes),
    ("resource", .ofFields [("service.name", .text rootName), ("service.version", .text version)])]
  match Json.compact.document document with
  | .ok s => .ok s
  | .error .numeralTooLong => .error (.numeralTooLong none)
  | .error _ => .error .wrongType

/-! ## Lines -/

/-- The sequences that change how a terminal shows what follows. -/
inductive Paint
  | reset
  | dim
  | red
  | yellow
  | cyan

def Paint.sequence : Paint → String
  | reset => "\x1b[0m"
  | dim => "\x1b[2m"
  | red => "\x1b[31m"
  | yellow => "\x1b[33m"
  | cyan => "\x1b[36m"

/-- The colour of a level, for those that are less or more than information. -/
def Level.paint? (level : Number) : Option Paint :=
  let order (other : Level) : Option Ordering := level.compare? (.int other)
  if (order Level.debug).any (· != .gt) then some .dim
  else if (order Level.error).any (· != .lt) then some .red
  else if (order Level.warning).any (· != .lt) then some .yellow
  else none

/-- The colour of a record, whose level has to be a number. -/
def Record.paint? (record : Record) : Except Problem (Option Paint) :=
  match (record.get "levelno").keyNumber? with
  | some level => .ok (Level.paint? level)
  | none => .error .wrongType

/-- A text in a colour, as it is without one. -/
def painted (paint : Option Paint) (s : String) : String :=
  match paint with
  | some paint => paint.sequence ++ s ++ Paint.reset.sequence
  | none => s

/-- A text with blanks behind it, up to five characters. -/
def column (s : String) : String := s.pushn ' ' (5 - s.length)

/-- The name of the template that a record is about, in brackets. -/
def Record.templateMark (record : Record) : Except Problem String := do
  let name := record.get "template"
  if name.truthy then .ok (" (" ++ (← shown name) ++ ")") else .ok ""

/-- The place in the code that a record comes from, in brackets. -/
def Record.placeMark (record : Record) : Except Problem String := do
  let path ← record.place
  let path ← shown path
  let line ← shown (record.get "lineno")
  .ok (" [" ++ path ++ ":" ++ line ++ "]")

/-- A record as a line, in colours or plain. -/
def Record.line (colors : Bool) (record : Record) : Except Problem String := do
  let coloured (p : Paint) : Option Paint := if colors then some p else none
  let moment ← record.moment
  let severity ← record.severity
  let paint ← if colors then record.paint? else .ok none
  let scope ← record.scope
  let scope ← shown scope
  let body ← record.body
  let mark ← record.templateMark
  let place ← if record.locatesCode then do
      let place ← record.placeMark
      .ok (painted (coloured .dim) place)
    else .ok ""
  .ok (moment.timeOfDay ++ " " ++ painted paint (column severity ++ " ") ++
    painted (coloured .cyan) ("[" ++ scope ++ "] ") ++ body ++ mark ++ place)

end TextTemplate.Log
