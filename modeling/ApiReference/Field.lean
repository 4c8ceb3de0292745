import ApiReference.Reading
import ApiReference.TypeExpr.Grammar

/-!
# Reading the fields of an object

Only the name of an entity is required. Any other field may be absent, and one that is present
with the wrong shape counts as absent: its default is taken. With `debug` set, reading a text, a
list or a type notes each such default.

The readers of the kinds of entities are put together from the functions here, one for each way in
which a field is asked for. They differ in what counts as the right shape, and in whether taking the
default is noted: a text that must not be empty, a flag and a whole number are looked up without a
note (`text?`, `flag`, `int?`), the others are steps that may leave one.

A list of objects is read item by item. What is no object is skipped without a note, but keeps its
position, so that the path of an item says where it stands in the document. Reading an item may
fail, and so may reading a type: once there is an object in its place, it must be spelled like one.
-/

set_option autoImplicit false

namespace ApiReference

/-- A name as the document gives it: any value but `null`. -/
abbrev Name := Json

namespace Fields

variable {α : Type}

/-- A field that must be there; `path` is the object's. -/
def require (fields : Fields) (key : String) (path : Path) : Reading Json :=
  if (fields.value key).isNull then Reading.fail (.missingField key path none)
  else pure (fields.value key)

/-- A text that is not empty. -/
def text? (fields : Fields) (key : String) : Option String :=
  (fields.value key).text?

/-- A flag; it is off when the field is absent. -/
def flag (fields : Fields) (key : String) : Bool :=
  (fields.value key).isTruthy

/-- A whole number. A boolean is none. -/
def int? (fields : Fields) (key : String) : Option Int :=
  match fields.value key with
  | .int n => some n
  | _ => none

/-- Notes, if `debug` is set and the object has the field, that its default is taken. -/
def noteDefault (debug : Bool) (fields : Fields) (key : String) (path : Path) : Reading Unit :=
  if debug && fields.has key then Reading.note (.defaulted path key) else pure ()

/-- A text that may be empty, and is when the field is absent. -/
def description (debug : Bool) (fields : Fields) (key : String) (path : Path) : Reading String :=
  match fields.value key with
  | .str s => pure s
  | .null => pure ""
  | _ => do
    noteDefault debug fields key path
    return ""

/-- A list of texts. An item that is not a string is taken as it is shown. -/
def strings? (debug : Bool) (fields : Fields) (key : String) (path : Path) :
    Reading (Option (List String)) :=
  match fields.value key with
  | .arr items => pure (some (items.map Json.inline))
  | _ => do
    noteDefault debug fields key path
    return none

/-- The objects among the items from position `i` on, each read with its path; the other items are
skipped, but they count for the positions. -/
def readItems (read : Fields → Path → Reading α) (path : Path) : Nat → List Json → Reading (List α)
  | _, [] => pure []
  | i, .obj fields :: rest => do
    let a ← read fields (path.item i)
    let as ← readItems read path (i + 1) rest
    return a :: as
  | i, _ :: rest => readItems read path (i + 1) rest

/-- A list of objects. -/
def list? (debug : Bool) (fields : Fields) (key : String) (read : Fields → Path → Reading α)
    (path : Path) : Reading (Option (List α)) :=
  match fields.value key with
  | .arr items => do
    let as ← readItems read (path.join key) 0 items
    return some as
  | _ => do
    noteDefault debug fields key path
    return none

/-- A list of objects, empty when the field is absent. -/
def list (debug : Bool) (fields : Fields) (key : String) (read : Fields → Path → Reading α)
    (path : Path) : Reading (List α) := do
  let as ← fields.list? debug key read path
  return as.getD []

/-- A type. -/
def type? (debug : Bool) (fields : Fields) (key : String) (path : Path) :
    Reading (Option TypeExpr) :=
  match fields.value key with
  | .obj spelled => do
    let t ← TypeExpr.read (.obj spelled) (path.join key)
    return some t
  | v =>
    match v.text? with
    | some name => pure (some (.name name))
    | none => do
      noteDefault debug fields key path
      return none

end Fields
end ApiReference
