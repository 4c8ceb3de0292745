import ApiReference.Fault
import ApiReference.TypeExpr.Basic

/-!
# Rendering type expressions

The text of a type in an annotation, as in `table<string, LuaEntity[]>`. A union is written without
parentheses wherever it stands, and an alias as what it stands for. A bare value that is `null`, an
array or an object has no rendering.

There are no parentheses because the annotations have none to give: an array of a union is written
like a union whose last option is an array, and this is known to be ambiguous. A literal is written
by the kind of its value, except that a literal of a string shows the string.

A type that may be missing is written as `any` where it is (`renderOptional`).
-/

set_option autoImplicit false

namespace ApiReference
namespace TypeExpr

/-- The text for a member without a type. -/
def anyText : String := "any"

/-- The text of a bare value: a whole number is written without a point, however it was given. -/
def renderLeaf : Json → Except Fault String
  | .str s => .ok s
  | .bool b => .ok (if b then "true" else "false")
  | .int n => .ok (toString n)
  | .float x => .ok (if x.isIntegral then toString x.truncate else x.text)
  | v => .error (.unrenderable v)

/-- A kind of value and its description, if there is one. -/
def describe (kind : String) : Option String → String
  | some description => kind ++ " " ++ description
  | none => kind

/-- The text of a literal type. A string is shown after three quotes and before one, which makes
editors display it as a string; its description, if it has one, is shown in its place. -/
def renderLiteral (value : Json) (description : Option String) : String :=
  match value with
  | .str s => "string \"\"\"" ++ description.getD s ++ "\""
  | .bool _ => describe "boolean" description
  | .int _ => describe "number" description
  | .float _ => describe "number" description
  | _ => anyText

mutual

/-- The text of a type. -/
def render : TypeExpr → Except Fault String
  | .name n => .ok n
  | .array element => do
    let element ← element.render
    return element ++ "[]"
  | .dictionary key value => do
    let key ← key.render
    let value ← value.render
    return "table<" ++ key ++ ", " ++ value ++ ">"
  | .tuple elements => do
    let elements ← renderAll elements
    return "tuple<" ++ ", ".intercalate elements ++ ">"
  | .union options _ => do
    let options ← renderAll options
    return " | ".intercalate options
  | .literal value description => .ok (renderLiteral value description)
  | .alias inner _ => inner.render
  | .leaf value => renderLeaf value
termination_by structural t => t

/-- The texts of several types. -/
def renderAll : List TypeExpr → Except Fault (List String)
  | [] => .ok []
  | t :: rest => do
    let text ← t.render
    let texts ← renderAll rest
    return text :: texts
termination_by structural ts => ts

end

/-- The text of a type that may be missing. -/
def renderOptional : Option TypeExpr → Except Fault String
  | some t => t.render
  | none => .ok anyText

end TypeExpr
end ApiReference
