import ApiReference.Json.Basic

/-!
# Type expressions

The type of a documented member: a name, or a form built from other types. In a position inside a
form a bare JSON value may stand for a type; it is kept as a `leaf`.

The forms have a word each, by which a document selects them (`Form.name`); `Form.ofName?` reads it
(`Form.ofName?_eq_some_iff`).

The tree is what a document says and no more. An alias stays an alias, a union inside a union stays
inside, and nothing is looked up: a name may be that of a type, of an entity of the document, or of
nothing. Two trees may therefore have the same text.

A bare value is kept because the forms allow it as a part. It has no form, and most kinds of it are
written as they are; some have no text, and this is found out only when the type is written.
-/

set_option autoImplicit false

namespace ApiReference

/-- The forms of composite types. -/
inductive Form where
  | array
  | dictionary
  | tuple
  | union
  | literal
  | alias
  deriving DecidableEq

namespace Form

/-- The word for the form in documents. -/
def name : Form → String
  | .array => "array"
  | .dictionary => "dictionary"
  | .tuple => "tuple"
  | .union => "union"
  | .literal => "literal"
  | .alias => "type"

/-- All forms. -/
def all : List Form :=
  [.array, .dictionary, .tuple, .union, .literal, .alias]

/-- The form that a word selects. -/
def ofName? (name : String) : Option Form :=
  all.find? fun f => f.name == name

theorem ofName?_name (f : Form) : ofName? f.name = some f := by
  cases f <;> decide

theorem ofName?_eq_some_iff {name : String} {f : Form} : ofName? name = some f ↔ f.name = name := by
  constructor
  · intro h
    simpa using List.find?_some h
  · rintro rfl
    exact ofName?_name f

end Form

/-- A type expression. -/
inductive TypeExpr where
  /-- A type or a documented entity, by its name. -/
  | name (name : String)
  /-- A sequence of elements of one type. -/
  | array (element : TypeExpr)
  /-- A mapping from keys to values. -/
  | dictionary (key value : TypeExpr)
  /-- A sequence with a type for each place. -/
  | tuple (elements : List TypeExpr)
  /-- One of several types; `fullFormat` says whether the options are described one by one. -/
  | union (options : List TypeExpr) (fullFormat : Bool)
  /-- A fixed value. -/
  | literal (value : Json) (description : Option String)
  /-- A type under a description of its own. -/
  | alias (inner : TypeExpr) (description : Option String)
  /-- A bare value in the position of a type. -/
  | leaf (value : Json)
  deriving Inhabited

end ApiReference
