import ApiReference.Entity.Member

/-!
# Properties and concepts

A concept is a documented type; a struct among them has properties. The fundamental types are
marked as built in instead of stating a type.

The default value of a property may be a text that describes it or a literal type that fixes it. If
it is an object it has to be spelled like a type, and a defect in it is a fault of the document,
although only literals are kept (`Property.readDefault`).

The word `builtin` in place of a concept's type is no name of a type; any other text that is not
empty is one. An object in its place is a type, and one that is spelled badly is a fault.
-/

set_option autoImplicit false

namespace ApiReference

/-- The value that a property has when it is left out. -/
inductive Property.Default where
  /-- A description of the value. -/
  | text (s : String)
  /-- The value itself. -/
  | literal (value : Json) (description : Option String)

/-- A property of a concept or a prototype. -/
structure Property where
  info : Member
  visibility : Option (List String)
  altName : Option String
  override : Bool
  type : Option TypeExpr
  optional : Bool
  default : Option Property.Default

namespace Property

/-- The default value that an object states. A type in its place must be well formed, but only a
literal counts as a value. -/
def readDefault (fields : Fields) (path : Path) : Reading (Option Default) :=
  match fields.value "default" with
  | .obj spelled => do
    let t ← TypeExpr.read (.obj spelled) (path ++ ".default")
    return match t with
      | .literal value description => some (.literal value description)
      | _ => none
  | v => pure (v.text?.map .text)

/-- The property that an object describes. -/
def read (debug : Bool) (fields : Fields) (path : Path) : Reading Property := do
  let info ← Member.read debug fields path
  let here := info.path path
  let visibility ← fields.strings? debug "visibility" here
  let type ← fields.type? debug "type" here
  let default ← readDefault fields here
  return { info, visibility, type, default
           altName := fields.text? "alt_name"
           override := fields.flag "override"
           optional := fields.flag "optional" }

end Property

/-- What a concept is. -/
inductive Concept.Body where
  /-- A fundamental type. -/
  | builtin
  /-- Another type. -/
  | type (t : TypeExpr)

/-- A documented type. -/
structure Concept where
  info : Member
  parent : Option String
  abstract : Bool
  inline : Bool
  body : Option Concept.Body
  properties : Option (List Property)

namespace Concept

/-- The type that marks the fundamental types. -/
def builtinWord : String := "builtin"

/-- What the concept is, by its field `type`. -/
def readBody (debug : Bool) (fields : Fields) (path : Path) : Reading (Option Body) :=
  match fields.value "type" with
  | .str s =>
    if s = builtinWord then pure (some .builtin)
    else do
      let t ← fields.type? debug "type" path
      return t.map .type
  | _ => do
    let t ← fields.type? debug "type" path
    return t.map .type

/-- The concept that an object describes. -/
def read (debug : Bool) (fields : Fields) (path : Path) : Reading Concept := do
  let info ← Member.read debug fields path
  let here := info.path path
  let body ← readBody debug fields here
  let properties ← fields.list? debug "properties" (Property.read debug) here
  return { info, body, properties
           parent := fields.text? "parent"
           abstract := fields.flag "abstract"
           inline := fields.flag "inline" }

/-- Whether the concept is a fundamental type. -/
def isBuiltin (concept : Concept) : Bool :=
  match concept.body with
  | some .builtin => true
  | _ => false

end Concept
end ApiReference
