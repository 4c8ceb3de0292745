import ApiReference.Json.Basic
import ApiReference.Number.Shortest
import ApiReference.Text.Quoted

/-!
# JSON values inside messages

`Json.display` shows a value on one line with its strings quoted, as in `{'a': [1, None]}`;
`Json.inline` is the form that a name takes inside a path or a line, where a string stands for
itself.

Both forms are used for what a document states, where the reader of a message expects to recognise
it: a name that is no string is shown as the value that it is. They are not JSON and are not read
again. Objects and arrays are shown with their parts on one line, whatever their size.
-/

set_option autoImplicit false

namespace ApiReference
namespace Json

mutual

/-- The value on one line, strings quoted. -/
def display : Json → String
  | .null => "None"
  | .bool b => if b then "True" else "False"
  | .int n => toString n
  | .float x => x.text
  | .str s => Text.quoted s
  | .arr items => "[" ++ ", ".intercalate (displayItems items) ++ "]"
  | .obj fields => "\x7b" ++ ", ".intercalate (displayFields fields) ++ "\x7d"
termination_by structural j => j

/-- The items of an array, each on one line. -/
def displayItems : List Json → List String
  | [] => []
  | v :: rest => display v :: displayItems rest
termination_by structural items => items

/-- The members of an object, each on one line. -/
def displayFields : List (String × Json) → List String
  | [] => []
  | (key, v) :: rest => (Text.quoted key ++ ": " ++ display v) :: displayFields rest
termination_by structural fields => fields

end

/-- The value as a part of a line: a string stands for itself. -/
def inline : Json → String
  | .str s => s
  | v => v.display

@[simp] theorem inline_str (s : String) : inline (.str s) = s := rfl

end Json
end ApiReference
