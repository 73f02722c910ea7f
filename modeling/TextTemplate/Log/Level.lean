/-!
Levels of log records. A level is a number, and a record is kept when its level reaches that of the
log. Five numbers have names of their own.
-/

namespace TextTemplate.Log

abbrev Level := Int

namespace Level

def debug : Level := 10

def info : Level := 20

def warning : Level := 30

def error : Level := 40

def fatal : Level := 50

/-- Above every level that has a name, so that nothing is kept. -/
def off : Level := 60

/-- The levels that have names of their own in records. -/
def named : List Level := [debug, info, warning, error, fatal]

/-- The word for a level in a record. Levels between the named ones count as information. -/
def severity (level : Level) : String :=
  if level = debug then "DEBUG"
  else if level = warning then "WARN"
  else if level = error then "ERROR"
  else if level = fatal then "FATAL"
  else "INFO"

/-- The names of levels in settings, small letters. -/
def names : List (String × Level) :=
  [("trace", debug), ("debug", debug), ("info", info), ("warn", warning), ("warning", warning),
    ("error", error), ("err", error), ("fatal", fatal), ("critical", fatal), ("off", off),
    ("none", off)]

/-- Whether records of a level tell the place in the code they come from. -/
def locatesCode (level : Level) : Bool := level = debug || level = error || level = fatal

end Level

end TextTemplate.Log
