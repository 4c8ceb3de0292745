import ApiReference.Declaration.Line
import ApiReference.Declaration.Prefix
import ApiReference.Entity.Class
import ApiReference.Entity.Define
import ApiReference.Entity.Property

/-!
# Field lines of members

How each kind of member is written as a field of its class: properties and event fields by their
type, the values of a define by the string that they are, attributes by what they give and take, and
methods by their signature.

The five kinds differ in the text that stands for the type and in nothing else. Only a signature
depends on the prefixes, which are stripped from the text of each type in it, and not from the
types: at this point a type is a text, in which a name space may stand anywhere.

An attribute that can be both read and written has both types, with a bar between them, also if they
are the same type.
-/

set_option autoImplicit false

namespace ApiReference
namespace Declaration

/-- The field line of a property. -/
def propertyLine (p : Property) : Except Fault String :=
  typedFieldLine p.info.name p.type p.info.description

/-- The field line of a parameter. -/
def parameterLine (p : Parameter) : Except Fault String :=
  typedFieldLine p.name p.type p.description

/-- The field line of a define's value: it is typed as the string of its own name. -/
def defineValueLine (name : Name) (description : String) : Except Fault String :=
  fieldLine name ("\"" ++ name.inline ++ "\"") description

/-- The type of an attribute: what it is read and written as, as far as it is either. -/
def attributeType (a : Attribute) : Except Fault String :=
  match a.readType, a.writeType with
  | some r, some w => do
    let r ← r.render
    let w ← w.render
    return r ++ " | " ++ w
  | some r, none => r.render
  | none, some w => w.render
  | none, none => .ok TypeExpr.anyText

/-- The field line of an attribute. -/
def attributeLine (a : Attribute) : Except Fault String := do
  let type ← attributeType a
  fieldLine a.info.name type a.info.description

/-- One parameter in a signature: its name, and its type without the given prefixes. -/
def signaturePart (prefixes : List String) (p : Parameter) : Except Fault String := do
  let type ← TypeExpr.renderOptional p.type
  return p.name.inline ++ ":" ++ stripPrefixes prefixes type

/-- The signature of a function with the given parameters. -/
def signature (prefixes : List String) (parameters : List Parameter) : Except Fault String := do
  let parts ← parameters.mapM (signaturePart prefixes)
  return "fun(" ++ ", ".intercalate parts ++ ")"

/-- The field line of a method. -/
def methodLine (prefixes : List String) (m : Method) : Except Fault String := do
  let type ← signature prefixes (m.parameters.getD [])
  fieldLine m.info.name type m.info.description

end Declaration
end ApiReference
