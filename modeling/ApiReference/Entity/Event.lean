import ApiReference.Entity.Parameter

/-!
# Events

The events of the runtime with the fields of their payload, and the mention of an event that a
method or an attribute may raise.

A payload field is a parameter like any other. The time at which a raised event fires is one of
three words; anything else, or nothing, is an unknown time and no fault. The mention of an event is
not a member: it has a name and a description but neither images nor examples.
-/

set_option autoImplicit false

namespace ApiReference

/-- When a raised event fires. -/
inductive Timeframe where
  | instantly
  | currentTick
  | futureTick
  /-- A time that the document does not state or states in an unknown word. -/
  | unknown
  deriving DecidableEq

namespace Timeframe

/-- The word for the time in documents. -/
def name : Timeframe → String
  | .instantly => "instantly"
  | .currentTick => "current_tick"
  | .futureTick => "future_tick"
  | .unknown => "unknown"

/-- The word for the time in capitals, by which lists of constants name it. -/
def constantName : Timeframe → String
  | .instantly => "INSTANTLY"
  | .currentTick => "CURRENT_TICK"
  | .futureTick => "FUTURE_TICK"
  | .unknown => "UNKNOWN"

/-- All times. -/
def all : List Timeframe :=
  [.instantly, .currentTick, .futureTick, .unknown]

/-- The time that a JSON value states. -/
def ofJson : Json → Timeframe
  | .str s => (all.find? fun t => t.name == s).getD .unknown
  | _ => .unknown

theorem ofJson_name (t : Timeframe) : ofJson (.str t.name) = t := by
  cases t <;> decide

end Timeframe

/-- An event that may be raised. -/
structure EventRaised where
  name : Name
  order : Option Int
  description : String
  timeframe : Timeframe
  optional : Bool

/-- The mention of an event that an object describes. -/
def EventRaised.read (debug : Bool) (fields : Fields) (path : Path) : Reading EventRaised := do
  let name ← fields.require "name" path
  let description ← fields.description debug "description" path
  return { name, description
           order := fields.int? "order"
           timeframe := .ofJson (fields.value "timeframe")
           optional := fields.flag "optional" }

/-- An event of the runtime. -/
structure Event where
  info : Member
  /-- The fields of the payload. -/
  data : List Parameter
  filter : Option String

/-- The event that an object describes. -/
def Event.read (debug : Bool) (fields : Fields) (path : Path) : Reading Event := do
  let info ← Member.read debug fields path
  let data ← fields.list debug "data" (Parameter.read debug) (info.path path)
  return { info, data, filter := fields.text? "filter" }

end ApiReference
