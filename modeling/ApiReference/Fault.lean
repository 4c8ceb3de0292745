import ApiReference.Path
import ApiReference.Report.Basic

/-!
# What can go wrong

`Fault` lists the causes for which reading, annotating, logging or setting an option fails. The
causes that lie in the document or in a setting are reported to the user of the library as a
`Report`. The others are mistakes of the caller and have at most a message.

Faults are a closed list. Every place at which something can fail states its cause as one of them,
and the text that the user sees follows from the cause (`Fault.report?`), with the path, the field
and the value that the cause carries. So a proof about what fails compares causes, and one about
what is reported looks up one case here.

Faults of the caller have a cause each too, although nothing of it is reported, so that it can be
told of an operation which of its conditions was not met.
-/

set_option autoImplicit false

namespace ApiReference

/-- Why an operation failed. -/
inductive Fault where
  /-- An entity was to be read from something other than an object. -/
  | notAnObject
  /-- A required field is absent or null; `form` is the form of the type that requires it. -/
  | missingField (field : String) (path : Path) (form : Option String)
  /-- Neither a string nor an object stands where a type should. -/
  | notAType (value : Json) (path : Path)
  /-- A type that has members does not list any. -/
  | noMembers (form field : String) (path : Path) (value : Json)
  /-- A document is not an object. -/
  | notADocument (value : Json)
  /-- The stage of a document is none of the known ones. -/
  | unknownStage (stage : Json)
  /-- A bare value in a type has no rendering. -/
  | unrenderable (value : Json)
  /-- An entity of this class is not written as a field line. -/
  | noFieldLine (title : String)
  /-- A name or a segment of a line is not a string. -/
  | notText
  /-- The entity does not have the part that was asked for. -/
  | lacksPart
  /-- The stripped prefixes are not a list. -/
  | prefixesNotAList (value : Json)
  /-- A stripped prefix is not a string or is empty. -/
  | notAPrefix (value : Json)
  /-- The debug setting is not a boolean. -/
  | debugNotAFlag (value : Json)
  /-- An argument of a log message is missing, left over, or of the wrong kind for its place. -/
  | unfilledMessage
  /-- A place in a log message is not finished, or of no known kind. -/
  | malformedPlace
  /-- A place in a log message asks for a key that the argument does not have. -/
  | noSuchKey
  /-- A number is too large for its place in a log message. -/
  | numberTooLarge
  /-- A place in a log message is wider than any text. -/
  | noRoom
  /-- The time of a log record is no number. -/
  | notATime
  /-- The time of a log record does not fit the counter of seconds. -/
  | timeOutOfRange
  /-- The year of a log record's time does not fit the clock. -/
  | timeBeyondClock
  /-- The year of a log record's time is not in the calendar. -/
  | yearOutOfRange
  /-- A log level is neither a name nor a number. -/
  | notALevel
  /-- The arguments for a report are not those that it is made from. -/
  | misfitArguments
  /-- The details for the report of an absent field do not consist of keys and values. -/
  | detailsNotPairs
  /-- A part of the details for the report of an absent field has not two parts. -/
  | detailsBrokenPair

namespace Fault

/-- The report of a fault of the document or of a setting. -/
def report? : Fault → Option Report
  | .missingField field path form =>
    some (.missing (.str field) (.str path) (.str Report.Class.missingField.code)
      (match form with
        | some form => [("complex_type", .str form)]
        | none => []))
  | .notAType value path =>
    some
      { kind := .schema
        message := .str <| "Type must be a string or an object, got " ++ value.kind
        details := .obj [("path", .str path), ("value", .str value.display)] }
  | .noMembers form field path value =>
    some
      { kind := .schema
        message := .str <| form ++ " type requires a non-empty " ++ Text.quoted field ++ " list"
        details := .obj
          [("path", .str path), ("field", .str field), ("value", .str value.display)] }
  | .notADocument value =>
    some
      { kind := .schema
        message := .str <| "Document must be an object, got " ++ value.kind
        details := .obj [("value", .str value.kind)] }
  | .unknownStage stage =>
    some
      { kind := .schema
        message := .str <| "Unknown documentation stage: " ++ stage.display
        details := .obj [("field", .str "stage"), ("value", .str stage.display)] }
  | .prefixesNotAList value =>
    some
      { kind := .validation
        message := .str <| "stripped_prefixes must be a tuple of str, got " ++ value.kind
        details := .obj [("param", .str "stripped_prefixes"), ("type", .str value.kind)] }
  | .notAPrefix value =>
    some
      { kind := .validation
        message := .str <| "stripped_prefixes entries must be non-empty str, got " ++ value.display
        details := .obj [("param", .str "stripped_prefixes"), ("value", .str value.display)] }
  | .debugNotAFlag value =>
    some
      { kind := .validation
        message := .str <| "debug must be bool, got " ++ value.kind
        details := .obj [("param", .str "debug"), ("type", .str value.kind)] }
  | _ => none

/-- The text of a fault, if it has one. -/
def message? : Fault → Option String
  | .unrenderable value => some ("Cannot render type of " ++ value.kind)
  | .noFieldLine title => some ("No field declaration for " ++ title)
  | fault => fault.report?.map (·.message.inline)

end Fault
end ApiReference
