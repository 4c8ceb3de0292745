import ApiReference.Entity.Event
import ApiReference.Json.Equality

/-!
# Classes, their attributes and methods

A class of the runtime. Its operators are called, indexed or measured; each is shaped like a method
if it takes or returns something, and like an attribute otherwise. An operator of any other name is
dropped, whatever else it holds.

Methods and attributes are read in the same way wherever they stand, as members of a class, as its
operators, or, for methods, as functions of the document. What an operator is depends on which
fields its object has, not on what they hold, and is decided before any of them is read
(`Operator.isMethod`).

The fields are asked for in a fixed order, and reading stops at the first fault. The order shows in
which fault is reported where there are several.
-/

set_option autoImplicit false

namespace ApiReference

/-- An attribute of a class. -/
structure Attribute where
  info : Member
  visibility : Option (List String)
  raises : Option (List EventRaised)
  subclasses : Option (List String)
  /-- The type when it is read; a write-only attribute has none. -/
  readType : Option TypeExpr
  /-- The type when it is written; a read-only attribute has none. -/
  writeType : Option TypeExpr
  optional : Bool

/-- The attribute that an object describes. -/
def Attribute.read (debug : Bool) (fields : Fields) (path : Path) : Reading Attribute := do
  let info ← Member.read debug fields path
  let here := info.path path
  let visibility ← fields.strings? debug "visibility" here
  let raises ← fields.list? debug "raises" (EventRaised.read debug) here
  let subclasses ← fields.strings? debug "subclasses" here
  let readType ← fields.type? debug "read_type" here
  let writeType ← fields.type? debug "write_type" here
  return { info, visibility, raises, subclasses, readType, writeType
           optional := fields.flag "optional" }

/-- A method of a class, or a global function. -/
structure Method where
  info : Member
  visibility : Option (List String)
  raises : Option (List EventRaised)
  subclasses : Option (List String)
  parameters : Option (List Parameter)
  variantParameterGroups : Option (List ParameterGroup)
  variantParameterDescription : Option String
  variadicParameter : Option VariadicParameter
  format : MethodFormat
  returnValues : Option (List Parameter)

namespace Method

/-- The variadic parameter of a method, if an object describes one. -/
def readVariadic (debug : Bool) (fields : Fields) (path : Path) :
    Reading (Option VariadicParameter) :=
  match fields.value "variadic_parameter" with
  | .obj described => do
    let variadic ← VariadicParameter.read debug described (path.join "variadic_parameter")
    return some variadic
  | _ => pure none

/-- The method that an object describes. -/
def read (debug : Bool) (fields : Fields) (path : Path) : Reading Method := do
  let info ← Member.read debug fields path
  let here := info.path path
  let visibility ← fields.strings? debug "visibility" here
  let raises ← fields.list? debug "raises" (EventRaised.read debug) here
  let subclasses ← fields.strings? debug "subclasses" here
  let parameters ← fields.list? debug "parameters" (Parameter.read debug) here
  let variantParameterGroups ←
    fields.list? debug "variant_parameter_groups" (ParameterGroup.read debug) here
  let variadicParameter ← readVariadic debug fields here
  let returnValues ← fields.list? debug "return_values" (Parameter.readReturned debug) here
  return { info, visibility, raises, subclasses, parameters, variantParameterGroups
           variadicParameter, returnValues
           variantParameterDescription := fields.text? "variant_parameter_description"
           format := .ofJson (fields.value "format") }

end Method

/-- An operator of a class. -/
inductive Operator where
  | method (m : Method)
  | attribute (a : Attribute)

namespace Operator

/-- The names of the operators. -/
def names : List String :=
  ["call", "index", "length"]

/-- The common part of the operator. -/
def info : Operator → Member
  | .method m => m.info
  | .attribute a => a.info

/-- Whether a JSON value names an operator. -/
def isName : Json → Bool
  | .str s => names.contains s
  | _ => false

/-- Whether an object describes an operator shaped like a method. -/
def isMethod (fields : Fields) : Bool :=
  fields.has "parameters" || fields.has "return_values"

/-- The operator that an object describes, or a note if its name is not known. -/
def read? (debug : Bool) (fields : Fields) (path : Path) : Reading (Option Operator) :=
  if isName (fields.value "name") then
    if isMethod fields then do
      let m ← Method.read debug fields path
      return some (.method m)
    else do
      let a ← Attribute.read debug fields path
      return some (.attribute a)
  else do
    Reading.note (.droppedOperator path (fields.value "name"))
    return none

end Operator

/-- A class of the runtime. -/
structure Class where
  info : Member
  visibility : Option (List String)
  parent : Option String
  abstract : Bool
  methods : List Method
  attributes : List Attribute
  operators : List Operator

namespace Class

/-- The class that an object describes. -/
def read (debug : Bool) (fields : Fields) (path : Path) : Reading Class := do
  let info ← Member.read debug fields path
  let here := info.path path
  let operators ← fields.list debug "operators" (Operator.read? debug) here
  let visibility ← fields.strings? debug "visibility" here
  let methods ← fields.list debug "methods" (Method.read debug) here
  let attributes ← fields.list debug "attributes" (Attribute.read debug) here
  return { info, visibility, methods, attributes
           parent := fields.text? "parent"
           abstract := fields.flag "abstract"
           operators := operators.filterMap id }

/-- The first operator of the given name. -/
def operator? (c : Class) (name : Name) : Option Operator :=
  c.operators.find? fun o => o.info.name.same name

end Class

/-- A global variable. -/
structure GlobalObject where
  name : Name
  order : Option Int
  description : String
  type : Option TypeExpr

/-- The global variable that an object describes. -/
def GlobalObject.read (debug : Bool) (fields : Fields) (path : Path) : Reading GlobalObject := do
  let name ← fields.require "name" path
  let description ← fields.description debug "description" path
  let type ← fields.type? debug "type" (path.member name.inline)
  return { name, order := fields.int? "order", description, type }

end ApiReference
