import ApiReference.Json.Writer
import ApiReference.Log.Record

/-!
# Log lines

A record becomes one line: an object in JSON for programs, or a short line for people at a terminal,
which may be coloured. Records for debugging and errors say where in the program they come from.

The text of a record may hold halves of surrogate pairs, and so may both lines: the line for people
has them as they are, and the line for programs escapes each of them like any other code point
outside printable ASCII. The line for programs also names the program and the version of the package
that it was installed from; `version` is none if there is no such package.

Both lines show the same things of a record: its time, its level, the scope, the text, and the place
in the program where it is shown. A record may lack one of these, by an attribute that replaced it,
and then it has no line. Both take the place from `Record.source`, so they never name different
ones.
-/

set_option autoImplicit false

namespace ApiReference

open Text

namespace Log
namespace Record

/-- The attributes that are written: the scope, the further attributes, and the place in the program
where it is shown. -/
def writtenAttributes (record : Record) : Except Fault Fields := do
  let scope ← record.scope
  let fields : Fields := ("scope", scope) :: record.extras
  let showsSource ← record.showsSource
  if showsSource then
    let source ← record.source
    return (fields.put "code.filepath" (.str source)).put "code.lineno" record.line
  else return fields

/-- The program that the record comes from. -/
def resource (version : Option String) : Json :=
  .obj
    [("service.name", .str serviceName), ("service.version", .str (serviceVersion version))]

/-- The record as a JSON object. -/
def toCoded (version : Option String) (record : Record) : Except Fault Coded := do
  let moment ← Moment.ofSeconds record.created
  let attributes ← record.writtenAttributes
  let severity ← record.severity
  let text ← record.text
  return .obj <| Members.named
    [("timestamp", .text (codePoints moment.timestamp)),
     ("severityText", .text (codePoints severity)), ("body", .text text),
     ("attributes", (Json.obj attributes).coded), ("resource", (resource version).coded)]

/-- The line for programs. -/
def jsonLine (version : Option String) (record : Record) : Except Fault String := do
  let v ← record.toCoded version
  return v.write

end Record

/-- The colours of a terminal. -/
inductive Color where
  | dim
  | yellow
  | red
  | cyan
  deriving DecidableEq

namespace Color

/-- The sequence that switches the colour on. -/
def code : Color → String
  | .dim => "\x1b[2m"
  | .yellow => "\x1b[33m"
  | .red => "\x1b[31m"
  | .cyan => "\x1b[36m"

/-- The text in a colour, if colours are used and one is given. -/
def paint (colors : Bool) (color : Option Color) (text : String) : String :=
  match colors, color with
  | true, some color => color.code ++ text ++ "\x1b[0m"
  | _, _ => text

/-- The colour of a level. -/
def ofLevel (level : Level) : Option Color :=
  if level = Level.debug then some .dim
  else if level = Level.warning then some .yellow
  else if level = Level.error || level = Level.fatal then some .red
  else none

end Color

namespace Record

/-- A text filled up with spaces to at least five characters. -/
def padRight (s : String) : String :=
  s ++ String.ofList (List.replicate (5 - s.length) ' ')

/-- The place in the program that the record comes from, at the end of the line. -/
def placeText (colors : Bool) (record : Record) : Except Fault String := do
  let showsSource ← record.showsSource
  if showsSource then
    let source ← record.source
    return Color.paint colors (some .dim) (" [" ++ source ++ ":" ++ record.line.inline ++ "]")
  else return ""

/-- The path of the entity that the record is about, if it states one. -/
def pathText (record : Record) : String :=
  let path := record.attributes.value "path"
  if path.isTruthy then " (" ++ path.inline ++ ")" else ""

/-- The line for people: the time of day, the level, the scope, the text, the path of the entity if
there is one, and the place in the program where it is shown. -/
def terminalLine (colors : Bool) (record : Record) : Except Fault (List CodePoint) := do
  let moment ← Moment.ofSeconds record.created
  let severity ← record.severity
  let scope ← record.scope
  let text ← record.text
  let place ← record.placeText colors
  return codePoints (moment.clock ++ " " ++
      Color.paint colors (record.level?.bind Color.ofLevel) (padRight severity) ++ " " ++
      Color.paint colors (some .cyan) ("[" ++ scope.inline ++ "]") ++ " ") ++
    text ++ codePoints (record.pathText ++ place)

end Record
end Log
end ApiReference
