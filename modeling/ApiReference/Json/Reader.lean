import ApiReference.Json.Coded

/-!
# Reading JSON

The whole of JSON, with the readings that the rest of the library depends on: a number with a point
or an exponent is a double, any other is a whole number; an escaped surrogate pair is one character,
and half of one that is escaped alone is kept as it is. `Infinity` and `-Infinity` are read as
numbers, since the writer needs a word for them.

A JSON text is read by descent over its characters. Every step of the descent consumes a character
of the value, so the length of the text bounds the depth; `Coded.parse` starts with that bound. Each
reader gives its value and the rest of the text. Documents and requests are read by `Json.parse`,
which refuses a text with half of a surrogate pair in it. There a repeated key keeps the place of
its first and the value of its last occurrence.
-/

set_option autoImplicit false

namespace ApiReference

open Text

namespace Json
namespace Reader

/-- The characters after the blanks that may stand between tokens. -/
def skipBlanks (cs : List Char) : List Char :=
  cs.dropWhile fun c => c == ' ' || c == '\n' || c == '\r' || c == '\t'

/-- The value of a hexadecimal digit. -/
def hexValue? (c : Char) : Option Nat :=
  if '0' ≤ c && c ≤ '9' then some (c.toNat - 48)
  else if 'a' ≤ c && c ≤ 'f' then some (c.toNat - 87)
  else if 'A' ≤ c && c ≤ 'F' then some (c.toNat - 55)
  else none

/-- The UTF-16 unit that four hexadecimal digits spell. -/
def hexUnit? (a b c d : Char) : Option Nat := do
  let a ← hexValue? a
  let b ← hexValue? b
  let c ← hexValue? c
  let d ← hexValue? d
  return ((a * 16 + b) * 16 + c) * 16 + d

/-- The character that a one-letter escape stands for. -/
def shortEscape? (c : Char) : Option Char :=
  if c == '"' || c == '\\' || c == '/' then some c
  else if c == 'n' then some '\n'
  else if c == 'r' then some '\r'
  else if c == 't' then some '\t'
  else if c == 'f' then some '\x0c'
  else if c == 'b' then some '\x08'
  else none

/-- The codes in a string whose opening quote is read: an escape gives a UTF-16 unit, any other
character its code point. -/
def stringCodes : List Char → Option (List Nat × List Char)
  | [] => none
  | c :: rest =>
    if c == '"' then some ([], rest)
    else if c == '\\' then
      match rest with
      | [] => none
      | e :: rest =>
        if e == 'u' then
          match rest with
          | h₁ :: h₂ :: h₃ :: h₄ :: rest => do
            let n ← hexUnit? h₁ h₂ h₃ h₄
            let (ns, rest) ← stringCodes rest
            return (n :: ns, rest)
          | _ => none
        else do
          let c ← shortEscape? e
          let (ns, rest) ← stringCodes rest
          return (c.toNat :: ns, rest)
    else if c.toNat < 0x20 then none
    else do
      let (ns, rest) ← stringCodes rest
      return (c.toNat :: ns, rest)

/-- A string whose opening quote is read. -/
def string (cs : List Char) : Option (List CodePoint × List Char) :=
  (stringCodes cs).map fun (codes, rest) => (joinHalves codes, rest)

/-- The number that decimal digits spell. -/
def digitsValue (cs : List Char) : Nat :=
  cs.foldl (fun n c => 10 * n + (c.toNat - 48)) 0

/-- At least one decimal digit. -/
def digits (cs : List Char) : Option (List Char × List Char) :=
  match cs.takeWhile Char.isDigit with
  | [] => none
  | ds => some (ds, cs.dropWhile Char.isDigit)

/-- The digits after a decimal point, if there is one. -/
def fraction (cs : List Char) : Option (Option (List Char) × List Char) :=
  match cs with
  | '.' :: rest => (digits rest).map fun (ds, rest) => (some ds, rest)
  | _ => some (none, cs)

/-- The power of ten after an `e`, if there is one. -/
def exponent (cs : List Char) : Option (Option Int × List Char) :=
  match cs with
  | c :: rest =>
    if c == 'e' || c == 'E' then
      match rest with
      | '-' :: rest => (digits rest).map fun (ds, rest) => (some (-(digitsValue ds : Int)), rest)
      | '+' :: rest => (digits rest).map fun (ds, rest) => (some (digitsValue ds : Int), rest)
      | _ => (digits rest).map fun (ds, rest) => (some (digitsValue ds : Int), rest)
    else some (none, cs)
  | [] => some (none, [])

/-- A number whose sign is read. -/
def unsigned (negative : Bool) (cs : List Char) : Option (Coded × List Char) :=
  if "Infinity".toList.isPrefixOf cs then some (.float (.infinite negative), cs.drop 8)
  else do
    let (whole, rest) ← digits cs
    if 1 < whole.length && whole.head? == some '0' then none
    let (frac, rest) ← fraction rest
    let (exp, rest) ← exponent rest
    if frac.isNone && exp.isNone then
      let n : Int := digitsValue whole
      return (.int (if negative then -n else n), rest)
    let frac := frac.getD []
    return (.float (.ofDecimal negative (digitsValue (whole ++ frac)) (exp.getD 0 - frac.length)),
      rest)

/-- A number. -/
def number (cs : List Char) : Option (Coded × List Char) :=
  match cs with
  | '-' :: rest => unsigned true rest
  | _ => unsigned false cs

/-- A word with a value of its own, or a number. -/
def scalar (cs : List Char) : Option (Coded × List Char) :=
  if "null".toList.isPrefixOf cs then some (.null, cs.drop 4)
  else if "true".toList.isPrefixOf cs then some (.bool true, cs.drop 4)
  else if "false".toList.isPrefixOf cs then some (.bool false, cs.drop 5)
  else number cs

mutual

/-- A value, after blanks. -/
def value : Nat → List Char → Option (Coded × List Char)
  | 0, _ => none
  | depth + 1, cs =>
    match skipBlanks cs with
    | [] => none
    | c :: rest =>
      if c == '"' then (string rest).map fun (s, rest) => (.text s, rest)
      else if c == '[' then
        match skipBlanks rest with
        | ']' :: rest => some (.arr [], rest)
        | _ => (items depth rest).map fun (vs, rest) => (.arr vs, rest)
      else if c == '\x7b' then
        match skipBlanks rest with
        | '\x7d' :: rest => some (.obj [], rest)
        | _ => (members depth rest).map fun (ms, rest) => (.obj ms, rest)
      else scalar (c :: rest)

/-- The items of an array that has some, with the bracket that closes it. -/
def items : Nat → List Char → Option (List Coded × List Char)
  | 0, _ => none
  | depth + 1, cs => do
    let (v, rest) ← value depth cs
    match skipBlanks rest with
    | ',' :: rest =>
      let (vs, rest) ← items depth rest
      return (v :: vs, rest)
    | ']' :: rest => return ([v], rest)
    | _ => none

/-- The members of an object that has some, with the brace that closes it. -/
def members : Nat → List Char → Option (Members × List Char)
  | 0, _ => none
  | depth + 1, cs =>
    match skipBlanks cs with
    | '"' :: rest => do
      let (key, rest) ← string rest
      match skipBlanks rest with
      | ':' :: rest => do
        let (v, rest) ← value depth rest
        match skipBlanks rest with
        | ',' :: rest =>
          let (ms, rest) ← members depth rest
          return ((key, v) :: ms, rest)
        | '\x7d' :: rest => return ([(key, v)], rest)
        | _ => none
      | _ => none
    | _ => none

end

end Reader
end Json

/-- The value that a JSON text spells, if it is one. -/
def Coded.parse (s : String) : Option Coded := do
  let cs := s.toList
  let (v, rest) ← Json.Reader.value (cs.length + 1) cs
  if Json.Reader.skipBlanks rest = [] then some v else none

/-- The JSON value that a text spells, if it is one without halves of surrogate pairs. -/
def Json.parse (s : String) : Option Json :=
  (Coded.parse s).bind Coded.json?

end ApiReference
