import ApiReference.Fault

/-!
# Making reports from arguments

A report is made from a few arguments, given in order, by name, or first in order and then by
name. Each must be one that the report has, none may be given twice, and only the first is required
(`bind`). Any value will do for an argument, but the details of an absent field are joined to what
is known of it, so they must be an object, or pairs that could be one (`pairsOf`).

The library makes its own reports from causes and needs none of this. It is what a caller can do
with the classes of reports: make one with whatever arguments, some of which do not fit. So the
rules are those of calling a function, and a call that does not fit has a fault and not a report.
-/

set_option autoImplicit false

namespace ApiReference
namespace Report

/-- The names of the arguments that a report of the class is made from, in their order. -/
def Class.parameters : Class → List String
  | .missingField => ["field", "path", "code", "details"]
  | _ => ["message", "code", "details"]

/-- Arguments by their names: the ones given in order take the first names, the others must be named
by the rest. -/
def bind (parameters : List String) (inOrder : List Json) (named : Fields) :
    Except Fault Fields :=
  if inOrder.length ≤ parameters.length &&
      named.all fun f => (parameters.drop inOrder.length).contains f.1 then
    .ok (parameters.zip inOrder ++ named)
  else .error .misfitArguments

/-- The first argument, which must be given. -/
def required (arguments : Fields) (name : String) : Except Fault Json :=
  match arguments.get? name with
  | some v => .ok v
  | none => .error .misfitArguments

/-- The key that a value is: a string, or a plain value as it is shown. -/
def keyOf : Json → Except Fault String
  | .arr _ => .error .detailsNotPairs
  | .obj _ => .error .detailsNotPairs
  | v => .ok v.inline

/-- The key and the value in something that has two parts: a list, an object, of which the keys
count, or a text, of which the characters count. -/
def pairOf : Json → Except Fault (String × Json)
  | .arr [key, v] => do
    let key ← keyOf key
    return (key, v)
  | .obj [(key, _), (v, _)] => .ok (key, .str v)
  | .str s =>
    match s.toList with
    | [key, v] => .ok (String.singleton key, .str (String.singleton v))
    | _ => .error .detailsBrokenPair
  | .arr _ => .error .detailsBrokenPair
  | .obj _ => .error .detailsBrokenPair
  | _ => .error .detailsNotPairs

/-- The keys and values of the details of an absent field. No text has parts that are pairs, except
the empty one, which has no parts; a value that counts as absent has none either. -/
def pairsOf : Json → Except Fault Fields
  | .obj fields => .ok fields
  | .arr items => items.mapM pairOf
  | .str s => if s.isEmpty then .ok [] else .error .detailsBrokenPair
  | v => if v.isTruthy then .error .detailsNotPairs else .ok []

/-- The report that arguments make. Details that count as absent are empty. -/
def make (kind : Class) (inOrder : List Json) (named : Fields) : Except Fault Report := do
  let arguments ← bind kind.parameters inOrder named
  let code := (arguments.get? "code").getD (.str kind.code)
  let details := arguments.value "details"
  match kind with
  | .missingField =>
    let field ← required arguments "field"
    let pairs ← pairsOf details
    return missing field ((arguments.get? "path").getD (.str "")) code pairs
  | _ =>
    let message ← required arguments "message"
    return { kind, message, code, details := if details.isTruthy then details else .obj [] }

end Report
end ApiReference
