import ApiReference.Json.Display

/-!
# Reports

A report is an error as the user of the library meets it: a message, a stable code and structured
details. The library itself reports texts and objects, but a report carries whatever it was made
with, and shows it as values are shown in messages.

There are four classes. A missing field is a special case of a document outside the grammar and
carries the field and the path of the object that lacks it, which are also among its details;
further details may replace them there but not in the report.
-/

set_option autoImplicit false

namespace ApiReference

/-- The class of a report. -/
inductive Report.Class where
  /-- Any other error. -/
  | general
  /-- Input outside the grammar of documents. -/
  | schema
  /-- A required field is absent. -/
  | missingField
  /-- A setting was given a value it cannot take. -/
  | validation
  deriving DecidableEq

namespace Report.Class

/-- The name of the class as users see it. -/
def name : Report.Class → String
  | .general => "LuaDocError"
  | .schema => "SchemaError"
  | .missingField => "MissingFieldError"
  | .validation => "ValidationError"

/-- The code of a report that states none. -/
def code : Report.Class → String
  | .general => "INTERNAL_ERROR"
  | .schema => "SCHEMA_ERROR"
  | .missingField => "MISSING_FIELD"
  | .validation => "INVALID_ARGUMENT"

/-- Whether the report is about a value that was passed in. -/
def isAboutValue : Report.Class → Bool
  | .general => false
  | _ => true

/-- Whether the report is about the grammar of documents. -/
def isSchema : Report.Class → Bool
  | .schema => true
  | .missingField => true
  | _ => false

end Report.Class

/-- An error as the user of the library meets it. -/
structure Report where
  kind : Report.Class
  message : Json
  code : Json := .str kind.code
  details : Json := .obj []
  /-- The absent field and the path of the object that lacks it, if the report is about one. -/
  absent : Option (Json × Json) := none

namespace Report

/-- The message about an absent field. -/
def missingText (field path : Json) : String :=
  "Missing required field " ++ field.display ++ " at " ++
    (if path.isTruthy then path.inline else "<root>")

/-- The details of the report of an absent field: the field, the path, and further details, which
may replace the two. -/
def missingDetails (field path : Json) (further : Fields) : Fields :=
  further.foldl (fun all d => all.put d.1 d.2) [("field", field), ("path", path)]

/-- The report of an absent field. -/
def missing (field path code : Json) (further : Fields) : Report where
  kind := .missingField
  message := .str (missingText field path)
  code := code
  details := .obj (missingDetails field path further)
  absent := some (field, path)

/-- The report on one line, with its class and code. -/
def display (report : Report) : String :=
  report.kind.name ++ "(" ++ report.message.display ++ ", code=" ++ report.code.display ++ ")"

end Report
end ApiReference
