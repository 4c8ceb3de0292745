import ApiReference.Declaration.Line
import ApiReference.Entity.Class
import ApiReference.Text.Blank

/-!
# Functions

A global function is annotated by a line for each parameter and each returned value, and declared by
an empty body. A function that takes a table has one parameter, the table, whose type lists the
fields. Blanks at the end of a parameter or return line are cut.

A function is annotated for a reader who calls it, so everything in its lines is about what it is
called with and what it gives back. Its own description is not among them.

Two parts of the annotation have to agree, and are written apart from each other: the lines about
the arguments (`paramLines`) and the names in the declaration (`argumentNames`). Each has a case for
a function that takes a table, in which its parameters become the fields of the type of that table,
and one for a function that takes any number of arguments. Whether an argument may be left out is
marked in its line only.
-/

set_option autoImplicit false

namespace ApiReference
namespace Declaration

/-- The mark of what may be left out. -/
def optionalMark (optional : Bool) : String :=
  if optional then "?" else ""

/-- The line of a parameter. -/
def paramLine (name : String) (optional : Bool) (type description : String) : String :=
  Text.trimEnd
    ("---@param " ++ name ++ optionalMark optional ++ " " ++ type ++ " " ++
      Text.firstLine description)

/-- The line of a returned value. -/
def returnLine (type : String) (optional : Bool) (description : String) : String :=
  Text.trimEnd
    ("---@return " ++ type ++ optionalMark optional ++ " " ++ Text.firstLine description)

/-- A parameter as a field of the table that holds the arguments. -/
def tableField (p : Parameter) : Except Fault String := do
  let type ← TypeExpr.renderOptional p.type
  return p.name.inline ++ optionalMark p.optional ++ ": " ++ type

/-- The name of the table that holds the arguments. -/
def tableName : String := "param"

/-- The name that stands for all further arguments. -/
def variadicName : String := "..."

/-- The line of one parameter of a method. -/
def parameterParamLine (p : Parameter) : Except Fault String := do
  let type ← TypeExpr.renderOptional p.type
  return paramLine p.name.inline p.optional type p.description

/-- The line of a variadic parameter, if there is one. -/
def variadicLines : Option VariadicParameter → Except Fault (List String)
  | some p => do
    let type ← TypeExpr.renderOptional p.type
    return [paramLine variadicName false type p.description]
  | none => .ok []

/-- The parameter lines of a method. -/
def paramLines (m : Method) : Except Fault (List String) := do
  let parameters := m.parameters.getD []
  if m.format.takesTable then
    let fields ← parameters.mapM tableField
    let type := "\x7b" ++ ", ".intercalate fields ++ "\x7d"
    return [paramLine tableName (m.format.tableOptional.getD false) type ""]
  else
    let lines ← parameters.mapM parameterParamLine
    let last ← variadicLines m.variadicParameter
    return lines ++ last

/-- The line of one returned value. -/
def returnedLine (p : Parameter) : Except Fault String := do
  let type ← TypeExpr.renderOptional p.type
  return returnLine type p.optional p.description

/-- The return lines of a method. -/
def returnLines (m : Method) : Except Fault (List String) :=
  (m.returnValues.getD []).mapM returnedLine

/-- The names of the arguments in a function's declaration. -/
def argumentNames (m : Method) : Except Fault (List String) :=
  if m.format.takesTable then .ok [tableName]
  else do
    let names ← (m.parameters.getD []).mapM fun p => nameText p.name
    return names ++ (if m.variadicParameter.isSome then [variadicName] else [])

/-- The lines of a global function. -/
def functionLines (m : Method) : Except Fault (List String) := do
  let params ← paramLines m
  let returns ← returnLines m
  let arguments ← argumentNames m
  return params ++ returns ++
    ["function " ++ m.info.name.inline ++ "(" ++ ", ".intercalate arguments ++ ") end"]

end Declaration
end ApiReference
