import ApiReference.Json.Equality
import ApiReference.Log.Clock
import ApiReference.Log.Level
import ApiReference.Log.Message

/-!
# Log records

A record has a level, a message with arguments, the name of its logger, the place in the program
that it comes from, a time, and attributes of any name. The attribute `scope` says which part of
the library speaks; where it is missing, the last part of the logger's name does.

Attributes may replace what a record has of itself, by any value. A value that is not what it
stands for is found out only when a log line needs it.

The fields of a record are JSON values, as any of them may have been replaced. `Record.put` says
which attribute replaces which field. Any other key sets an attribute, and those under keys that
every record has (`Record.ownKeys`) are not written as further ones.

The version of the program is not known here. It is what the installed package says of itself, and a
line is written for a given one, or for none.
-/

set_option autoImplicit false

namespace ApiReference
namespace Log

/-- The name of the program in log lines. -/
def serviceName : String := "factorio_luadoc"

/-- The version of the program in log lines: the one that the installed package states, if the
program is installed as a package at all. -/
def serviceVersion (version : Option String) : String :=
  version.getD "0.0.0"

/-- One event to be logged. -/
structure Record where
  level : Json
  message : Json
  arguments : Arguments := .each []
  logger : Json := .str serviceName
  file : Json := .str ""
  line : Json := .int 1
  created : Json := .int 0
  attributes : Fields := []

namespace Record

/-- The attributes that a record has of itself and that do not count as further ones. -/
def ownKeys : List String :=
  ["name", "msg", "args", "levelname", "levelno", "pathname", "filename", "module", "exc_info",
   "exc_text", "stack_info", "lineno", "funcName", "created", "msecs", "relativeCreated", "thread",
   "threadName", "processName", "process", "taskName", "message", "scope"]

/-- The record with an attribute set. One of those that the record has of itself is replaced. -/
def put (record : Record) (key : String) (v : Json) : Record :=
  match key with
  | "name" => { record with logger := v }
  | "msg" => { record with message := v }
  | "args" => { record with arguments := .single v }
  | "levelno" => { record with level := v }
  | "pathname" => { record with file := v }
  | "lineno" => { record with line := v }
  | "created" => { record with created := v }
  | key => { record with attributes := record.attributes.put key v }

/-- The part of a dotted name after its last dot. -/
def lastPart (name : String) : String :=
  String.ofList (name.toList.reverse.takeWhile (· != '.')).reverse

/-- The part of the library that the record comes from. -/
def scope (record : Record) : Except Fault Json :=
  let stated := record.attributes.value "scope"
  if stated.isTruthy then .ok stated
  else
    match record.logger with
    | .str name => .ok (.str (lastPart name))
    | _ => .error .lacksPart

/-- The further attributes: neither the record's own nor private ones, whose names start with a low
line. -/
def extras (record : Record) : Fields :=
  record.attributes.filter fun f => !ownKeys.contains f.1 && f.1.toList.head? != some '_'

/-- The characters after the first occurrence of `marker`, if there is one. -/
def afterFirst? (marker : List Char) : List Char → Option (List Char)
  | [] => none
  | c :: rest =>
    if marker.isPrefixOf (c :: rest) then some ((c :: rest).drop marker.length)
    else afterFirst? marker rest

/-- A file, from the directory of the program on. -/
def relative (file : String) : String :=
  String.ofList ((afterFirst? (serviceName ++ "/").toList file.toList).getD file.toList)

/-- The file of the record, from the directory of the program on. -/
def source (record : Record) : Except Fault String :=
  match record.file with
  | .str file => .ok (relative file)
  | _ => .error .lacksPart

/-- The level that the record has by number, whichever way the number is written. -/
def level? (record : Record) : Option Level :=
  record.level.whole?

/-- The word for the level. A list or an object is no level at all, other values only are none that
has a word of its own. -/
def severity (record : Record) : Except Fault String :=
  match record.level with
  | .arr _ => .error .notALevel
  | .obj _ => .error .notALevel
  | _ => .ok (record.level?.elim (Level.severity Level.info) Level.severity)

/-- Whether the log line says where in the program the record comes from: it does for debugging and
for errors. -/
def showsSource (record : Record) : Except Fault Bool :=
  match record.level.isAtLeast? Level.error.toNat with
  | some isError => .ok (record.level? = some Level.debug || isError)
  | none => .error .notALevel

/-- The text of the record. -/
def text (record : Record) : Except Fault (List Text.CodePoint) :=
  Log.message record.message.inline record.arguments

end Record
end Log
end ApiReference
