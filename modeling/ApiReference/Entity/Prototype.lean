import ApiReference.Entity.Property

/-!
# Prototypes

The definitions of the prototype stage, with their properties.

A prototype is a struct with a place in the inheritance of prototypes. Its custom properties are
kept as the object that describes them, without a look inside.
-/

set_option autoImplicit false

namespace ApiReference

/-- A prototype. -/
structure Prototype where
  info : Member
  visibility : Option (List String)
  parent : Option String
  abstract : Bool
  /-- The name of the prototype's type; an abstract prototype has none. -/
  typename : Option String
  instanceLimit : Option Int
  deprecated : Bool
  properties : List Property
  /-- The object that describes properties of any name, as it is. -/
  customProperties : Option Fields

namespace Prototype

/-- The fields of an object, as they are. -/
def fieldsOf? : Json → Option Fields
  | .obj fields => some fields
  | _ => none

/-- The prototype that an object describes. -/
def read (debug : Bool) (fields : Fields) (path : Path) : Reading Prototype := do
  let info ← Member.read debug fields path
  let here := info.path path
  let visibility ← fields.strings? debug "visibility" here
  let properties ← fields.list debug "properties" (Property.read debug) here
  return { info, visibility, properties
           parent := fields.text? "parent"
           abstract := fields.flag "abstract"
           typename := fields.text? "typename"
           instanceLimit := fields.int? "instance_limit"
           deprecated := fields.flag "deprecated"
           customProperties := fieldsOf? (fields.value "custom_properties") }

end Prototype
end ApiReference
