import ApiReference.Reading
import ApiReference.TypeExpr.Basic

/-!
# Reading type expressions

A type is a string, its name, or an object that states its form under `complex_type`. What a form
needs stands in further fields: an array, a dictionary and an alias have required parts, which may
be objects, read as types, or bare values, kept as they are; a tuple and a union have a list of
members that is not empty, in which only numbers and booleans stay bare. A form that is not known
is taken for a name and noted.

The lemmas `readPart_eq` and `readMembers_eq` state what a field of an object is read as, without
the walk over the fields.

The functions are mutual and structural on the JSON value: a type goes down into the fields of its
object, a field into its value or into the items of a list. An object may be read as a type in three
positions, and it is read alike in all of them; the positions differ in what becomes of other
values, such as a string, which is a name on its own and a bare value as a required part.

Reading stops at the first defect, with the path of the object at which it was found. The parts of a
form are asked for in a fixed order, a dictionary's key before its values.
-/

set_option autoImplicit false

namespace ApiReference

namespace Json

/-- Whether the value stays bare where a tuple or a union lists its members. -/
def isBareMember : Json → Bool
  | .bool _ => true
  | .int _ => true
  | .float _ => true
  | _ => false

/-- What a literal type fixes: any value but an object, for which `null` stands. -/
def literalValue : Json → Json
  | .obj _ => .null
  | v => v

end Json

namespace TypeExpr

mutual

/-- The type that a JSON value spells; `path` is where it stands. -/
def read : Json → Path → Reading TypeExpr
  | .str s, _ => pure (.name s)
  | .obj fields, path =>
    match Fields.value fields "complex_type" with
    | .str form =>
      match Form.ofName? form with
      | some .array => do
        let element ← readPart form fields "value" path
        return .array element
      | some .dictionary => do
        let key ← readPart form fields "key" path
        let value ← readPart form fields "value" path
        return .dictionary key value
      | some .tuple => do
        let elements ← readMembers form fields "values" path
        return .tuple elements
      | some .union => do
        let options ← readMembers form fields "options" path
        return .union options (Fields.value fields "full_format").isTruthy
      | some .literal =>
        pure (.literal (Fields.value fields "value").literalValue
          (Fields.value fields "description").text?)
      | some .alias => do
        let inner ← readPart form fields "value" path
        return .alias inner (Fields.value fields "description").text?
      | none => do
        Reading.note (.unknownForm path form)
        return .name form
    | _ => Reading.fail (.missingField "complex_type" path none)
  | v, path => Reading.fail (.notAType v path)
termination_by structural j => j

/-- The required part under `key`: an object is read as a type, any other value stays bare. -/
def readPart (form : String) : List (String × Json) → String → Path → Reading TypeExpr
  | [], key, path => Reading.fail (.missingField key path (some form))
  | (k, v) :: rest, key, path =>
    if k == key then
      if v.isNull then Reading.fail (.missingField key path (some form))
      else if v.isObject then read v (path.join key)
      else pure (.leaf v)
    else readPart form rest key path
termination_by structural fields => fields

/-- The members listed under `key`. -/
def readMembers (form : String) : List (String × Json) → String → Path → Reading (List TypeExpr)
  | [], key, path => Reading.fail (.noMembers form key path .null)
  | (k, v) :: rest, key, path =>
    if k == key then readList form key v path else readMembers form rest key path
termination_by structural fields => fields

/-- The members that a value lists, of which there is at least one; it stands under `key`. -/
def readList (form key : String) : Json → Path → Reading (List TypeExpr)
  | .arr items, path =>
    if items.isEmpty then Reading.fail (.noMembers form key path (.arr items))
    else readItems items (path.join key) 0
  | v, path => Reading.fail (.noMembers form key path v)
termination_by structural v => v

/-- The members from position `i` on. -/
def readItems : List Json → Path → Nat → Reading (List TypeExpr)
  | [], _, _ => pure []
  | v :: rest, path, i => do
    let member ← if v.isBareMember then pure (.leaf v) else read v (path.item i)
    let members ← readItems rest path (i + 1)
    return member :: members
termination_by structural items => items

end

/-- A required part is the value of its field, read as a type if it is an object. -/
theorem readPart_eq (form : String) (fields : Fields) (key : String) (path : Path) :
    readPart form fields key path =
      if (fields.value key).isNull then Reading.fail (.missingField key path (some form))
      else if (fields.value key).isObject then read (fields.value key) (path.join key)
      else pure (.leaf (fields.value key)) := by
  induction fields with
  | nil => rfl
  | cons f rest ih =>
    obtain ⟨k, v⟩ := f
    rw [readPart, Fields.value_cons]
    by_cases h : k = key
    · rw [if_pos (by simpa using h), if_pos h]
    · rw [if_neg (by simpa using h), if_neg h, ih]

/-- The members are those that the value of their field lists. -/
theorem readMembers_eq (form : String) (fields : Fields) (key : String) (path : Path) :
    readMembers form fields key path = readList form key (fields.value key) path := by
  induction fields with
  | nil => rfl
  | cons f rest ih =>
    obtain ⟨k, v⟩ := f
    rw [readMembers, Fields.value_cons]
    by_cases h : k = key
    · rw [if_pos (by simpa using h), if_pos h]
    · rw [if_neg (by simpa using h), if_neg h, ih]

end TypeExpr
end ApiReference
