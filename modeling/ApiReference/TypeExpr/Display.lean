import ApiReference.Json.Display
import ApiReference.TypeExpr.Basic

/-!
# Type expressions inside messages

A type on one line with the names of its form and its parts, as in
`ArrayType(element=NameType(name='uint'))`, and the record of all its parts as a JSON value.

The line is for messages, where a type is one of the details, and the record is for answers and for
comparing. Both show every part, the format of a union and the description of an alias included.
Neither can fail, as a bare value is shown as a value.
-/

set_option autoImplicit false

namespace ApiReference
namespace TypeExpr

/-- The title of a node in messages and records. A bare value has none of its own. -/
def title : TypeExpr → String
  | .name _ => "NameType"
  | .array _ => "ArrayType"
  | .dictionary _ _ => "DictionaryType"
  | .tuple _ => "TupleType"
  | .union _ _ => "UnionType"
  | .literal _ _ => "LiteralType"
  | .alias _ _ => "AliasType"
  | .leaf value => value.kind

/-- A description as a JSON value, `null` if there is none. -/
def optionalText (s : Option String) : Json :=
  s.elim .null .str

/-- Values in parentheses; a single one is followed by a comma. -/
def parenthesized : List String → String
  | [one] => "(" ++ one ++ ",)"
  | texts => "(" ++ ", ".intercalate texts ++ ")"

mutual

/-- The type on one line. -/
def display : TypeExpr → String
  | .name n => "NameType(name=" ++ Text.quoted n ++ ")"
  | .array element => "ArrayType(element=" ++ element.display ++ ")"
  | .dictionary key value =>
    "DictionaryType(key=" ++ key.display ++ ", value=" ++ value.display ++ ")"
  | .tuple elements => "TupleType(elements=" ++ parenthesized (displayAll elements) ++ ")"
  | .union options fullFormat =>
    "UnionType(options=" ++ parenthesized (displayAll options) ++ ", full_format=" ++
      (Json.bool fullFormat).display ++ ")"
  | .literal value description =>
    "LiteralType(value=" ++ value.display ++ ", description=" ++
      (optionalText description).display ++ ")"
  | .alias inner description =>
    "AliasType(inner=" ++ inner.display ++ ", description=" ++
      (optionalText description).display ++ ")"
  | .leaf value => value.display
termination_by structural t => t

/-- Several types, each on one line. -/
def displayAll : List TypeExpr → List String
  | [] => []
  | t :: rest => t.display :: displayAll rest
termination_by structural ts => ts

end

mutual

/-- The record of a type: its title, its form and its parts. -/
def record : TypeExpr → Json
  | .name n =>
    .obj [("class", .str "NameType"), ("kind", .str "name"), ("name", .str n)]
  | .array element =>
    .obj [("class", .str "ArrayType"), ("kind", .str Form.array.name), ("element", element.record)]
  | .dictionary key value =>
    .obj
      [("class", .str "DictionaryType"), ("kind", .str Form.dictionary.name), ("key", key.record),
       ("value", value.record)]
  | .tuple elements =>
    .obj
      [("class", .str "TupleType"), ("kind", .str Form.tuple.name),
       ("elements", .arr (recordAll elements))]
  | .union options fullFormat =>
    .obj
      [("class", .str "UnionType"), ("kind", .str Form.union.name),
       ("options", .arr (recordAll options)), ("full_format", .bool fullFormat)]
  | .literal value description =>
    .obj
      [("class", .str "LiteralType"), ("kind", .str Form.literal.name), ("value", value),
       ("description", optionalText description)]
  | .alias inner description =>
    .obj
      [("class", .str "AliasType"), ("kind", .str Form.alias.name), ("inner", inner.record),
       ("description", optionalText description)]
  | .leaf value => value
termination_by structural t => t

/-- The records of several types. -/
def recordAll : List TypeExpr → List Json
  | [] => []
  | t :: rest => t.record :: recordAll rest
termination_by structural ts => ts

end

end TypeExpr
end ApiReference
