import ApiReference.Json.Coded
import ApiReference.Number.Shortest
import ApiReference.Text.Quoted

/-!
# Writing JSON

The compact text of a JSON value in printable ASCII: no blanks between the tokens, and every
character outside U+0020 to U+007E written as one `\u` escape, or as two when its code takes a
surrogate pair. Half of a surrogate pair is written as the escape of its own code, whatever stands
next to it. Members are written in their order.

The writer is one for values whose texts are code points (`Coded.write`); a JSON value is written as
the coded value that it is.

A character above U+007E could stand as it is, and is escaped so that a line can be carried by
anything that carries ASCII. The infinite doubles have words that are not in JSON; the reader knows
them.
-/

set_option autoImplicit false

namespace ApiReference

open Text

namespace Json

/-- The escape of one UTF-16 unit. -/
def unitEscape (n : Nat) : List Char :=
  '\\' :: 'u' :: Text.hexDigits 4 n

/-- One character inside a JSON string. -/
def escapeChar (c : Char) : List Char :=
  if c == '"' then ['\\', '"']
  else if c == '\\' then ['\\', '\\']
  else if c == '\n' then ['\\', 'n']
  else if c == '\r' then ['\\', 'r']
  else if c == '\t' then ['\\', 't']
  else if c == '\x0c' then ['\\', 'f']
  else if c == '\x08' then ['\\', 'b']
  else if 0x20 ≤ c.toNat && c.toNat ≤ 0x7e then [c]
  else if c.toNat < 0x10000 then unitEscape c.toNat
  else unitEscape (surrogates c.toNat).1 ++ unitEscape (surrogates c.toNat).2

/-- One code point inside a JSON string. -/
def escape : CodePoint → List Char
  | .char c => escapeChar c
  | .half n => unitEscape (0xD800 + n)

end Json

namespace Coded

/-- A JSON string. -/
def writeText (cs : List CodePoint) : List Char :=
  '"' :: cs.flatMap Json.escape ++ ['"']

mutual

/-- The characters of the compact text. -/
def writeChars : Coded → List Char
  | .null => "null".toList
  | .bool b => (if b then "true" else "false").toList
  | .int n => (toString n).toList
  | .float x => (x.textWith "Infinity").toList
  | .text cs => writeText cs
  | .arr items => '[' :: writeItems items ++ [']']
  | .obj members => '\x7b' :: writeMembers members ++ ['\x7d']
termination_by structural v => v

/-- The items of an array with commas between them. -/
def writeItems : List Coded → List Char
  | [] => []
  | v :: rest => writeChars v ++ (if rest.isEmpty then [] else ',' :: writeItems rest)
termination_by structural items => items

/-- The members of an object with commas between them. -/
def writeMembers : List (List CodePoint × Coded) → List Char
  | [] => []
  | (key, v) :: rest =>
    writeText key ++ ':' :: writeChars v ++ (if rest.isEmpty then [] else ',' :: writeMembers rest)
termination_by structural members => members

end

/-- The compact text of a coded value. -/
def write (v : Coded) : String :=
  String.ofList v.writeChars

end Coded

/-- The compact text of a JSON value. -/
def Json.write (j : Json) : String :=
  j.coded.write

end ApiReference
