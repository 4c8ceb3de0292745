import ApiReference.Json.Equality
import ApiReference.Log.Template
import ApiReference.Number.Fixed
import ApiReference.Text.CodePoint

/-!
# Arguments in their places

How one argument of a log message is shown in its place. The letter of the place says as what: `s`
as it stands in a line, `r` with quotes, `a` with quotes and in ASCII, `c` as one character, `d`,
`i` and `u` as a whole number, `o`, `x` and `X` in base eight or sixteen, `e`, `f` and `g` as a
decimal, and their capitals as a decimal with capitals. A number is filled up to the width with
spaces, or with zeros after its sign; a text is cut to the precision.

Everything is shown in characters (`shown`), with one exception: the one character of the letter `c`
may be named by its code, and the code may be that of half of a surrogate pair. So an argument in
its place is a list of code points (`convert`).

The functions of `Layout` put digits, signs and texts in their places and know nothing of values.
What kind of value a letter takes is said by the functions from `wholeOf` to `codePointOf`: `d`
takes a decimal and cuts it, `x` does not take one, and `c` takes a number or a text of one
character. A value of another kind leaves its place unfilled, which is a fault of the message and
not of the value.
-/

set_option autoImplicit false

namespace ApiReference

open Text

namespace Log

/-- How an argument is set in its place. -/
structure Layout where
  /-- Whether what fills the width follows the argument. -/
  left : Bool := false
  plus : Bool := false
  space : Bool := false
  alternate : Bool := false
  zeros : Bool := false
  width : Nat := 0
  precision : Option Nat := none
  deriving DecidableEq

namespace Layout

/-- The layout that the flags of a place ask for. -/
def ofFlags (flags : List Char) : Layout where
  left := flags.contains '-'
  plus := flags.contains '+'
  space := flags.contains ' '
  alternate := flags.contains '#'
  zeros := flags.contains '0'

/-- What is shown, filled up to the width with `blank`. -/
def fillUp {α : Type} (layout : Layout) (blank : α) (cs : List α) : List α :=
  let gap := List.replicate (layout.width - cs.length) blank
  if layout.left then cs ++ gap else gap ++ cs

/-- A text in its place. -/
def text (layout : Layout) (s : String) : List Char :=
  layout.fillUp ' '
    (match layout.precision with
      | some n => s.toList.take n
      | none => s.toList)

/-- The sign of a number. -/
def sign (layout : Layout) (negative : Bool) : List Char :=
  if negative then ['-']
  else if layout.plus then ['+']
  else if layout.space then [' ']
  else []

/-- A number in its place: the sign, the mark of its base, and the digits. -/
def number (layout : Layout) (negative : Bool) (mark digits : List Char) : List Char :=
  let front := layout.sign negative ++ mark
  let gap := layout.width - (front.length + digits.length)
  if layout.zeros && !layout.left then front ++ List.replicate gap '0' ++ digits
  else layout.fillUp ' ' (front ++ digits)

/-- A whole number in its place; the precision is the least number of digits. -/
def whole (layout : Layout) (base : Nat) (mark : List Char) (n : Int) : List Char :=
  let digits := Nat.toDigits base n.natAbs
  layout.number (n < 0) (if layout.alternate then mark else [])
    (List.replicate (layout.precision.getD 0 - digits.length) '0' ++ digits)

/-- A decimal in its place, written by `digits` from the precision and the magnitude as a quotient.
Six is the precision if none is stated. -/
def decimal (layout : Layout) (digits : Bool → Nat → Nat → Nat → List Char) : Binary64 → List Char
  | .finite negative m e =>
    layout.number negative []
      (digits layout.alternate (layout.precision.getD 6) (m * twoPow e.toNat) (twoPow (-e).toNat))
  | .infinite negative => layout.number negative [] "inf".toList

end Layout

/-- The text with every character outside ASCII written by its code. -/
def asciiOnly (s : String) : String :=
  String.ofList (s.toList.flatMap fun c => if c.toNat < 0x80 then [c] else Text.codeEscape c)

/-- The whole number that an argument is cut to. -/
def wholeOf : Json → Except Fault Int
  | .int n => .ok n
  | .bool b => .ok (if b then 1 else 0)
  | .float (.infinite _) => .error .numberTooLarge
  | .float x => .ok x.truncate
  | _ => .error .unfilledMessage

/-- The whole number that an argument is. -/
def exactWholeOf (v : Json) : Except Fault Int :=
  match v.asInt? with
  | some n => .ok n
  | none => .error .unfilledMessage

/-- The double that an argument is nearest to. -/
def decimalOf : Json → Except Fault Binary64
  | .float x => .ok x
  | v => do
    let n ← exactWholeOf v
    match Binary64.ofRatio (n < 0) n.natAbs 1 with
    | .infinite _ => .error .numberTooLarge
    | x => .ok x

/-- The character that an argument is, or the code point that has the argument as its code. -/
def codePointOf : Json → Except Fault CodePoint
  | .str s =>
    match s.toList with
    | [c] => .ok (.char c)
    | _ => .error .unfilledMessage
  | v => do
    let n ← exactWholeOf v
    if 0 ≤ n && n < 0x110000 then .ok (.ofCode n.toNat) else .error .numberTooLarge

/-- A letter of the alphabet as a capital. -/
def capital (cs : List Char) : List Char :=
  cs.map Char.toUpper

/-- An argument in the place of a letter that shows it in characters. -/
def shown (layout : Layout) (letter : Char) (v : Json) : Except Fault (List Char) :=
  match letter with
  | 's' => .ok (layout.text v.inline)
  | 'r' => .ok (layout.text v.display)
  | 'a' => .ok (layout.text (asciiOnly v.display))
  | 'd' => layout.whole 10 [] <$> wholeOf v
  | 'i' => layout.whole 10 [] <$> wholeOf v
  | 'u' => layout.whole 10 [] <$> wholeOf v
  | 'o' => layout.whole 8 ['0', 'o'] <$> exactWholeOf v
  | 'x' => layout.whole 16 ['0', 'x'] <$> exactWholeOf v
  | 'X' => (capital <| layout.whole 16 ['0', 'x'] ·) <$> exactWholeOf v
  | 'e' => layout.decimal Binary64.exponential <$> decimalOf v
  | 'E' => (capital <| layout.decimal Binary64.exponential ·) <$> decimalOf v
  | 'f' => layout.decimal Binary64.fixed <$> decimalOf v
  | 'F' => (capital <| layout.decimal Binary64.fixed ·) <$> decimalOf v
  | 'g' => layout.decimal Binary64.general <$> decimalOf v
  | 'G' => (capital <| layout.decimal Binary64.general ·) <$> decimalOf v
  | _ => .error .malformedPlace

/-- An argument in the place of a letter. -/
def convert (layout : Layout) (letter : Char) (v : Json) : Except Fault (List CodePoint) :=
  if letter = 'c' then (layout.fillUp (.char ' ') [·]) <$> codePointOf v
  else List.map .char <$> shown layout letter v

end Log
end ApiReference
