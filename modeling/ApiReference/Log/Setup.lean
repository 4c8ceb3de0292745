import ApiReference.Fault
import ApiReference.Log.Level

/-!
# Setting logging up

The threshold and the format of log lines are stated by the caller or by the environment. The format
is `json` or, by any other word, the one for people; without a word it is the one for people at a
terminal and `json` elsewhere.

What is stated by the caller goes before what the environment states, and each of the two things is
decided on its own. A level that is no name is taken as the number that it is; an unknown name of a
level is no fault and means the usual level.
-/

set_option autoImplicit false

namespace ApiReference
namespace Log

/-- What the library is told by its surroundings. -/
structure Environment where
  level : Option String := none
  format : Option String := none
  /-- Whether log lines go to a terminal. -/
  terminal : Bool := false

namespace Environment

/-- The threshold that the environment states. -/
def threshold (env : Environment) : Level :=
  Level.ofName (env.level.getD "info")

/-- The word for the format that the environment states. -/
def formatName (env : Environment) : String :=
  match env.format.filter (!·.isEmpty) with
  | some format => Text.lower format
  | none => if env.terminal then "human" else "json"

end Environment

/-- How log lines are written. -/
inductive Format where
  | json
  | terminal (colors : Bool)
  deriving DecidableEq

namespace Format

/-- The format that a word names. -/
def ofName (env : Environment) (name : String) : Format :=
  if name = "json" then .json else .terminal env.terminal

/-- The title of the format. -/
def title : Format → String
  | .json => "JsonFormatter"
  | .terminal _ => "HumanFormatter"

/-- Whether the format uses colours, where that is a question. -/
def colors? : Format → Option Bool
  | .json => none
  | .terminal colors => some colors

end Format

/-- Logging as it is set up. The threshold is a number, or a boolean that counts as one. -/
structure Setup where
  threshold : Json
  format : Format

/-- The threshold that a JSON value states: a name or a number. -/
def thresholdOf : Json → Except Fault Json
  | .str name => .ok (.int (Level.ofName name))
  | .int n => .ok (.int n)
  | .bool b => .ok (.bool b)
  | _ => .error .notALevel

/-- The word for the format: the one that a JSON value states, else the one that the environment
states. -/
def formatWord (env : Environment) (format : Json) : Except Fault String :=
  if format.isTruthy then
    match format with
    | .str word => .ok (Text.lower word)
    | _ => .error .lacksPart
  else .ok env.formatName

/-- Logging with the given level, `info` without one, and with the format of the given word, or, if
that counts as absent, with the format that the environment states. -/
def Setup.make (env : Environment) (level : Option Json) (format : Json) : Except Fault Setup := do
  let word ← formatWord env format
  let threshold ← thresholdOf (level.getD (.str "INFO"))
  return { threshold, format := Format.ofName env word }

end Log
end ApiReference
