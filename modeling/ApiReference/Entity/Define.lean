import ApiReference.Entity.Member

/-!
# Defines

A define is an enumeration with named values. It may hold further defines, to any depth.
`Define.read_eq` states how a define is read from the fields of its object, without the recursion
over the JSON value.

Defines are the only entities that hold entities of their own kind, so theirs is the only reader
that calls itself. It does so through the list of subkeys, and a generic reader of lists cannot be
handed a function that is still being defined; so the recursion is written out over the JSON value,
as mutual functions for the value, its fields, a list and its items. `Define.read_eq` puts the
generic reader of lists back, and everything after this module uses that equation.
-/

set_option autoImplicit false

namespace ApiReference

/-- One value of a define. -/
structure DefineValue where
  name : Name
  order : Option Int
  description : String

/-- The value that an object describes. -/
def DefineValue.read (debug : Bool) (fields : Fields) (path : Path) : Reading DefineValue := do
  let name ← fields.require "name" path
  let description ← fields.description debug "description" path
  return { name, order := fields.int? "order", description }

/-- A define with its values and the defines inside it. -/
inductive Define where
  | mk (info : Member) (values : Option (List DefineValue)) (subkeys : Option (List Define))

namespace Define

/-- The common part of the define. -/
def info : Define → Member
  | .mk info _ _ => info

/-- The values of the define. -/
def values : Define → Option (List DefineValue)
  | .mk _ values _ => values

/-- The defines inside the define. -/
def subkeys : Define → Option (List Define)
  | .mk _ _ subkeys => subkeys

mutual

/-- The define that a JSON value describes. -/
def readNode (debug : Bool) : Json → Path → Reading Define
  | .obj fields, path => do
    let info ← Member.read debug fields path
    let here := info.path path
    let values ← Fields.list? debug fields "values" (DefineValue.read debug) here
    let subkeys ← readSubkeys debug (Fields.noteDefault debug fields "subkeys" here) fields here
    return .mk info values subkeys
  | _, _ => Reading.fail .notAnObject
termination_by structural j => j

/-- The defines inside a define, searched among its fields; `absent` is the step to take if they
are not there as a list. -/
def readSubkeys (debug : Bool) (absent : Reading Unit) :
    List (String × Json) → Path → Reading (Option (List Define))
  | [], _ => do
    absent
    return none
  | (k, v) :: rest, path =>
    if k == "subkeys" then readList debug absent v path else readSubkeys debug absent rest path
termination_by structural fields => fields

/-- The defines that a value lists. -/
def readList (debug : Bool) (absent : Reading Unit) : Json → Path → Reading (Option (List Define))
  | .arr items, path => do
    let defines ← readItems debug items (path.join "subkeys") 0
    return some defines
  | _, _ => do
    absent
    return none
termination_by structural v => v

/-- The defines among the items from position `i` on. -/
def readItems (debug : Bool) : List Json → Path → Nat → Reading (List Define)
  | [], _, _ => pure []
  | v :: rest, path, i =>
    if v.isObject then do
      let define ← readNode debug v (path.item i)
      let defines ← readItems debug rest path (i + 1)
      return define :: defines
    else readItems debug rest path (i + 1)
termination_by structural items => items

end

/-- The define that an object describes. -/
def read (debug : Bool) (fields : Fields) (path : Path) : Reading Define :=
  readNode debug (.obj fields) path

theorem readItems_eq (debug : Bool) (items : List Json) (path : Path) (i : Nat) :
    readItems debug items path i = Fields.readItems (read debug) path i items := by
  induction items generalizing i with
  | nil => rfl
  | cons v rest ih =>
    rw [readItems, ih]
    cases v <;> rfl

theorem readSubkeys_eq (debug : Bool) (absent : Reading Unit) (fields : Fields) (path : Path) :
    readSubkeys debug absent fields path = readList debug absent (fields.value "subkeys") path := by
  induction fields with
  | nil => rfl
  | cons f rest ih =>
    obtain ⟨k, v⟩ := f
    rw [readSubkeys, Fields.value_cons]
    by_cases h : k = "subkeys"
    · rw [if_pos (by simpa using h), if_pos h]
    · rw [if_neg (by simpa using h), if_neg h, ih]

theorem readList_noteDefault (debug : Bool) (fields : Fields) (path : Path) :
    readList debug (fields.noteDefault debug "subkeys" path) (fields.value "subkeys") path =
      fields.list? debug "subkeys" (read debug) path := by
  rw [Fields.list?]
  cases fields.value "subkeys" <;> simp only [readList, readItems_eq]

/-- A define is read like every other entity, with its own kind in the list of subkeys. -/
theorem read_eq (debug : Bool) (fields : Fields) (path : Path) :
    read debug fields path = do
      let info ← Member.read debug fields path
      let here := info.path path
      let values ← fields.list? debug "values" (DefineValue.read debug) here
      let subkeys ← fields.list? debug "subkeys" (read debug) here
      return .mk info values subkeys := by
  simp only [read, readNode, readSubkeys_eq, readList_noteDefault]

end Define
end ApiReference
