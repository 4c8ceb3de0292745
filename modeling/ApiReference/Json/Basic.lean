import ApiReference.Number.Binary64

/-!
# JSON values

A document is JSON in which more than the usual is significant: whole numbers and numbers written
with a point or an exponent are told apart, whole numbers have any size, and the members of an
object keep their order. An object has each key once.

A field that is absent and a field that is `null` are mostly the same to a reader of documents:
`Fields.value` gives `null` for both, `Fields.get?` tells them apart.

The members of an object are a list of pairs, and a value is looked up from the front. Setting a key
keeps its place in the list, or puts it at the end, so that an object keeps its order while it is
built. That keys are distinct is not part of the type: objects that are built here have distinct
keys, as do those that are read from a text, and the few statements that need it say so.
-/

set_option autoImplicit false

namespace ApiReference

/-- A JSON value. -/
inductive Json where
  | null
  | bool (b : Bool)
  | int (n : Int)
  | float (x : Binary64)
  | str (s : String)
  | arr (items : List Json)
  | obj (fields : List (String × Json))
  deriving Inhabited

/-- The members of an object, in the order of the document. -/
abbrev Fields := List (String × Json)

namespace Fields

/-- The value of a field, if the object has it. -/
def get? (fields : Fields) (key : String) : Option Json :=
  (fields.find? fun f => f.1 == key).map (·.2)

/-- The value of a field, `null` if the object does not have it. -/
def value (fields : Fields) (key : String) : Json :=
  (fields.get? key).getD .null

/-- Whether the object has the field, be it `null`. -/
def has (fields : Fields) (key : String) : Bool :=
  (fields.get? key).isSome

/-- The object with a field set: in its place if the object has it, else at the end. -/
def put (fields : Fields) (key : String) (v : Json) : Fields :=
  match fields with
  | [] => [(key, v)]
  | f :: rest => if f.1 == key then (key, v) :: rest else f :: put rest key v

/-- The object with fields set one after another. -/
def putAll (before fields : Fields) : Fields :=
  fields.foldl (fun all f => all.put f.1 f.2) before

@[simp] theorem get?_nil (key : String) : get? [] key = none := rfl

theorem get?_cons (f : String × Json) (rest : Fields) (key : String) :
    get? (f :: rest) key = if f.1 = key then some f.2 else get? rest key := by
  by_cases h : f.1 = key <;> simp [get?, h]

@[simp] theorem value_nil (key : String) : value [] key = .null := rfl

theorem value_cons (f : String × Json) (rest : Fields) (key : String) :
    value (f :: rest) key = if f.1 = key then f.2 else value rest key := by
  by_cases h : f.1 = key <;> simp [value, get?_cons, h]

theorem get?_put_self (fields : Fields) (key : String) (v : Json) :
    (fields.put key v).get? key = some v := by
  induction fields with
  | nil => simp [put, get?_cons]
  | cons f rest ih => by_cases h : f.1 = key <;> simp [put, h, get?_cons, ih]

theorem get?_put_of_ne {fields : Fields} {key other : String} {v : Json} (h : key ≠ other) :
    (fields.put key v).get? other = fields.get? other := by
  induction fields with
  | nil => simp [put, get?_cons, h]
  | cons f rest ih =>
    by_cases hf : f.1 = key
    · have : f.1 ≠ other := fun e => h (hf ▸ e)
      simp [put, hf, get?_cons, h]
    · simp [put, hf, get?_cons, ih]

theorem value_put_self (fields : Fields) (key : String) (v : Json) :
    (fields.put key v).value key = v := by
  rw [value, get?_put_self]
  rfl

theorem value_put_of_ne {fields : Fields} {key other : String} {v : Json} (h : other ≠ key) :
    (fields.put key v).value other = fields.value other := by
  rw [value, value, get?_put_of_ne h.symm]

end Fields

namespace Json

/-- Whether the value is `null`. -/
def isNull : Json → Bool
  | .null => true
  | _ => false

/-- Whether the value is an object. -/
def isObject : Json → Bool
  | .obj _ => true
  | _ => false

/-- The text of a string that is not empty. -/
def text? : Json → Option String
  | .str s => if s.isEmpty then none else some s
  | _ => none

theorem text?_eq_some_iff {v : Json} {s : String} : v.text? = some s ↔ v = .str s ∧ s ≠ "" := by
  cases v with
  | str t =>
    rw [text?]
    split
    · next h =>
      rw [String.isEmpty_iff.1 h]
      simp +contextual [eq_comm]
    · next h =>
      rw [String.isEmpty_iff] at h
      simp only [Option.some.injEq, Json.str.injEq]
      exact ⟨fun he => ⟨he, he ▸ h⟩, And.left⟩
  | _ => simp [text?]

/-- Whether the value counts as true when it stands for a flag: all do but `null`, `false`, the
zeros, and the empty string, array and object. -/
def isTruthy : Json → Bool
  | .null => false
  | .bool b => b
  | .int n => n != 0
  | .float x => !x.isZero
  | .str s => !s.isEmpty
  | .arr items => !items.isEmpty
  | .obj fields => !fields.isEmpty

/-- The word for the kind of a value in messages. -/
def kind : Json → String
  | .null => "NoneType"
  | .bool _ => "bool"
  | .int _ => "int"
  | .float _ => "float"
  | .str _ => "str"
  | .arr _ => "list"
  | .obj _ => "dict"

end Json
end ApiReference
