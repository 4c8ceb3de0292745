import ApiReference.Text.Lowercase

/-!
# Levels of log records

A level is a number; the named ones are ten apart. A level that has no name is written like `info`.

Levels are whole numbers and may be any of them, so a threshold can be set between two named ones.
Names are for setting a threshold (`Level.ofName`), where several mean the same level, and words are
for log lines (`Level.severity`).
-/

set_option autoImplicit false

namespace ApiReference
namespace Log

/-- How severe a record is. -/
abbrev Level := Int

namespace Level

/-- Details for someone who looks for a fault. -/
def debug : Level := 10

/-- What was done. -/
def info : Level := 20

/-- Something may be wrong. -/
def warning : Level := 30

/-- Something is wrong. -/
def error : Level := 40

/-- The program cannot go on. -/
def fatal : Level := 50

/-- The threshold that no record reaches. -/
def off : Level := 60

/-- The names that a threshold can be set by. -/
def names : List (String × Level) :=
  [("trace", debug), ("debug", debug), ("info", info), ("warn", warning), ("warning", warning),
   ("error", error), ("fatal", fatal), ("critical", fatal), ("off", off)]

/-- The level of a name, in upper or lower case; an unknown name means `info`. -/
def ofName (name : String) : Level :=
  ((names.find? fun n => n.1 == Text.lower name).map (·.2)).getD info

/-- The word for the level in log lines. -/
def severity (level : Level) : String :=
  if level = debug then "DEBUG"
  else if level = warning then "WARN"
  else if level = error then "ERROR"
  else if level = fatal then "FATAL"
  else "INFO"

end Level
end Log
end ApiReference
