import ApiReference.Field
import ApiReference.Text.Line
import ApiReference.TypeExpr.Rendering

/-!
# Annotation lines

Two kinds of lines declare the entities of a document: a class line opens the declaration of
anything that has members, a field line declares one member with its type and the first line of
its description. A name that is not a string cannot be written in such a line.

The two builders are used for every kind of entity. The second is where a description is cut to its
first line. The type of a field is a text by then, so that a member can be written with something
else in its place, such as a signature or the name of a value in quotes.
-/

set_option autoImplicit false

namespace ApiReference
namespace Declaration

/-- The text of a name that is to be written as it is. -/
def nameText : Name → Except Fault String
  | .str s => .ok s
  | _ => .error .notText

/-- The line that declares a class. -/
def classLine (name : Name) : Except Fault String := do
  let name ← nameText name
  return "---@class " ++ name

/-- The line that declares a field. -/
def fieldLine (name : Name) (type description : String) : Except Fault String := do
  let name ← nameText name
  return "---@field " ++ name ++ " " ++ type ++ " " ++ Text.firstLine description

/-- The line that declares a field of a type that may be missing. -/
def typedFieldLine (name : Name) (type : Option TypeExpr) (description : String) :
    Except Fault String := do
  let type ← TypeExpr.renderOptional type
  fieldLine name type description

end Declaration
end ApiReference
