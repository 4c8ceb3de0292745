import ApiReference.Json.Basic
import ApiReference.Text.CodePoint

/-!
# JSON values with texts of code points

A text in JSON may escape half of a surrogate pair, and a program may write one. `Coded` is a JSON
value whose texts and keys are lists of code points; it is what is written and what is read. Every
`Json` is one (`Json.coded`), and a coded value without halves is a `Json` again (`Coded.json?`).

The members of a coded object are those of the text, repeated keys included, and the last value
under a key counts.

The two types are kept apart because they serve different ends. Documents, settings and answers are
`Json`, whose texts are strings that can be compared, cut and put together. Only what leaves or
enters the library as a text of JSON is coded, and only there a half can turn up: the text of a log
record may have one, and a request may.

A coded value is turned into a `Json` in one step, which fails as a whole if there is a half
anywhere in it (`Coded.json?`). Whoever accepts halves works on the coded value.
-/

set_option autoImplicit false

namespace ApiReference

open Text

/-- A JSON value whose texts are lists of code points. -/
inductive Coded where
  | null
  | bool (b : Bool)
  | int (n : Int)
  | float (x : Binary64)
  | text (cs : List CodePoint)
  | arr (items : List Coded)
  | obj (members : List (List CodePoint × Coded))
  deriving Inhabited

/-- The members of a coded object, in the order of the text. -/
abbrev Members := List (List CodePoint × Coded)

namespace Members

/-- The members that have strings as keys. -/
def named (members : List (String × Coded)) : Members :=
  members.map fun m => (codePoints m.1, m.2)

theorem named_cons (m : String × Coded) (rest : List (String × Coded)) :
    named (m :: rest) = (codePoints m.1, m.2) :: named rest :=
  rfl

/-- The value under a key: the last one if the key is repeated. -/
def get? : Members → String → Option Coded
  | [], _ => none
  | m :: rest, key =>
    match get? rest key with
    | some v => some v
    | none => if m.1 = codePoints key then some m.2 else none

end Members

namespace Json

mutual

/-- A JSON value as a coded one. -/
def coded : Json → Coded
  | .null => .null
  | .bool b => .bool b
  | .int n => .int n
  | .float x => .float x
  | .str s => .text (codePoints s)
  | .arr items => .arr (codedItems items)
  | .obj fields => .obj (codedFields fields)
termination_by structural j => j

/-- The items of an array as coded ones. -/
def codedItems : List Json → List Coded
  | [] => []
  | v :: rest => v.coded :: codedItems rest
termination_by structural items => items

/-- The members of an object as coded ones. -/
def codedFields : List (String × Json) → Members
  | [] => []
  | (key, v) :: rest => (codePoints key, v.coded) :: codedFields rest
termination_by structural fields => fields

end

end Json

namespace Coded

mutual

/-- The JSON value that a coded one is, unless half of a surrogate pair stands in it. Of repeated
keys the place of the first and the value of the last counts. -/
def json? : Coded → Option Json
  | .null => some .null
  | .bool b => some (.bool b)
  | .int n => some (.int n)
  | .float x => some (.float x)
  | .text cs => (ofCodePoints? cs).map .str
  | .arr items => (itemsJson? items).map .arr
  | .obj members => (membersJson? members).map fun fields => .obj (Fields.putAll [] fields)
termination_by structural v => v

/-- The items of an array as JSON values. -/
def itemsJson? : List Coded → Option (List Json)
  | [] => some []
  | v :: rest => do
    let v ← v.json?
    let rest ← itemsJson? rest
    return v :: rest
termination_by structural items => items

/-- The members of an object as fields, repeated keys included. -/
def membersJson? : List (List CodePoint × Coded) → Option Fields
  | [] => some []
  | (key, v) :: rest => do
    let key ← ofCodePoints? key
    let v ← v.json?
    let rest ← membersJson? rest
    return (key, v) :: rest
termination_by structural members => members

end

end Coded
end ApiReference
