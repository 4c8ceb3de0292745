import ApiReference.Entity.Member

/-!
# Parameters

What a method takes and returns: parameters, groups of parameters that apply depending on the value
of another one, the trailing variadic parameter, and the way the arguments are passed.

Returned values are parameters as well. They are told apart by how they are read: a parameter must
have a name, and everything in it is found at the path that ends in the name, while a returned value
needs none and keeps its position in the list.

The variadic parameter has neither a name nor a position, and a method has one or none. The format
of a method is read from any value without a fault.
-/

set_option autoImplicit false

namespace ApiReference

/-- A parameter of a method, a field of an event, or a returned value. -/
structure Parameter where
  name : Name
  order : Option Int
  description : String
  type : Option TypeExpr
  optional : Bool

namespace Parameter

/-- The parameter of the given name that an object describes; `path` already ends in its name. -/
def readNamed (debug : Bool) (name : Name) (fields : Fields) (path : Path) : Reading Parameter := do
  let description ← fields.description debug "description" path
  let type ← fields.type? debug "type" path
  return { name, description, type
           order := fields.int? "order"
           optional := fields.flag "optional" }

/-- The parameter that an object describes. -/
def read (debug : Bool) (fields : Fields) (path : Path) : Reading Parameter := do
  let name ← fields.require "name" path
  readNamed debug name fields (path.member name.inline)

/-- The returned value that an object describes. It needs no name and keeps its list position. -/
def readReturned (debug : Bool) (fields : Fields) (path : Path) : Reading Parameter :=
  readNamed debug (.str ((fields.text? "name").getD "")) fields path

end Parameter

/-- Parameters that apply together. -/
structure ParameterGroup where
  name : Name
  order : Option Int
  description : String
  parameters : List Parameter

/-- The group that an object describes. -/
def ParameterGroup.read (debug : Bool) (fields : Fields) (path : Path) :
    Reading ParameterGroup := do
  let name ← fields.require "name" path
  let description ← fields.description debug "description" path
  let parameters ←
    fields.list debug "parameters" (Parameter.read debug) (path.member name.inline)
  return { name, order := fields.int? "order", description, parameters }

/-- The parameter that takes all further arguments. -/
structure VariadicParameter where
  type : Option TypeExpr
  description : String

/-- The variadic parameter that an object describes. -/
def VariadicParameter.read (debug : Bool) (fields : Fields) (path : Path) :
    Reading VariadicParameter := do
  let type ← fields.type? debug "type" path
  let description ← fields.description debug "description" path
  return { type, description }

/-- How a method takes its arguments. -/
structure MethodFormat where
  /-- Whether the arguments are passed as one table. -/
  takesTable : Bool := false
  /-- Whether that table may be left out, if the document says so. -/
  tableOptional : Option Bool := none

/-- The format that a JSON value describes; anything but an object describes the usual one. -/
def MethodFormat.ofJson : Json → MethodFormat
  | .obj fields =>
    { takesTable := Fields.flag fields "takes_table"
      tableOptional :=
        match Fields.value fields "table_optional" with
        | .bool b => some b
        | _ => none }
  | _ => {}

end ApiReference
