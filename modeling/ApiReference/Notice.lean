import ApiReference.Json.Basic
import ApiReference.Log.Level
import ApiReference.Path

/-!
# What the library logs

Reading and annotating a document leave notices: what was not understood, what was replaced by a
default, and what was done. A notice is a cause; its level, scope, message and further attributes
follow from it.

Like faults, notices are a closed list of causes, and all that a record says is computed from the
cause. Three of them tell of something in a document that was not taken as it stood; they are for
debugging and carry the path at which it stood. The other three tell of something that was done.
-/

set_option autoImplicit false

namespace ApiReference

/-- An event worth a log record. -/
inductive Notice where
  /-- A type has a form that is not known and is taken for a type name. -/
  | unknownForm (path : Path) (form : String)
  /-- An operator of a class has none of the known names and is dropped. -/
  | droppedOperator (path : Path) (name : Json)
  /-- A field has the wrong shape and is replaced by its default. -/
  | defaulted (path : Path) (field : String)
  /-- A document of the runtime stage was read. -/
  | readRuntime (apiVersion : Option Int) (classes concepts defines events : Nat)
  /-- A document of the prototype stage was read. -/
  | readPrototype (apiVersion : Option Int) (prototypes types : Nat)
  /-- The annotations of a document were written. -/
  | rendered (stage : String) (blocks lines : Nat)

namespace Notice

/-- Whether the notice is about a default. -/
def isDefaulted : Notice → Bool
  | .defaulted _ _ => true
  | _ => false

/-- The level of the record. -/
def level : Notice → Log.Level
  | .readRuntime .. => Log.Level.info
  | .readPrototype .. => Log.Level.info
  | _ => Log.Level.debug

/-- The part of the library that the record comes from. -/
def scope : Notice → String
  | .unknownForm .. => "types"
  | .rendered .. => "render"
  | _ => "parse"

/-- The text of the record. -/
def message : Notice → String
  | .unknownForm .. => "Unrecognised complex_type, treating as a type name"
  | .droppedOperator .. => "Dropping unknown operator"
  | .defaulted .. => "Field has unexpected shape, using default"
  | .readRuntime .. => "Parsed runtime API"
  | .readPrototype .. => "Parsed prototype API"
  | .rendered .. => "Rendered document"

/-- A count as a JSON number. -/
def count (n : Nat) : Json :=
  .int (Int.ofNat n)

/-- A version number, `null` if the document states none. -/
def version (n : Option Int) : Json :=
  n.elim .null .int

/-- The further attributes of the record. -/
def attributes : Notice → Fields
  | .unknownForm path form => [("path", .str path), ("complex_type", .str form)]
  | .droppedOperator path name => [("path", .str path), ("operator", name)]
  | .defaulted path field => [("path", .str path), ("field", .str field)]
  | .readRuntime apiVersion classes concepts defines events =>
    [("api_version", version apiVersion), ("classes", count classes), ("concepts", count concepts),
     ("defines", count defines), ("events", count events)]
  | .readPrototype apiVersion prototypes types =>
    [("api_version", version apiVersion), ("prototypes", count prototypes), ("types", count types)]
  | .rendered stage blocks lines =>
    [("stage", .str stage), ("blocks", count blocks), ("lines", count lines)]

end Notice
end ApiReference
