/-!
# Code points

A `String` consists of characters. A text that is put together from numbers can hold more than
that: the codes from U+D800 to U+DFFF are no characters but halves of surrogate pairs, and a number
may well name one of them. Such a text is a list of code points, and it is a string as long as
there is no half in it (`ofCodePoints?`).

Halves are what characters above U+FFFF become where a text is carried in UTF-16 units, as it is by
the escapes of JSON. A reader of units cannot tell the pair of such a character from two halves that
happened to stand next to each other, and takes both for the character (`joinHalves`). So a text is
not always what comes back when it is carried that way; `joined` is what does.
-/

set_option autoImplicit false

namespace ApiReference
namespace Text

/-- A code point. -/
inductive CodePoint where
  | char (c : Char)
  /-- Half of a surrogate pair, counted from U+D800. -/
  | half (n : Fin 0x800)
  deriving DecidableEq

namespace CodePoint

/-- The code point that has the code, which is to be below U+110000. -/
def ofCode (n : Nat) : CodePoint :=
  if h : 0xD800 ≤ n ∧ n < 0xE000 then .half ⟨n - 0xD800, by omega⟩ else .char (Char.ofNat n)

/-- The character that a code point is, unless it is half of a surrogate pair. -/
def char? : CodePoint → Option Char
  | .char c => some c
  | .half _ => none

end CodePoint

/-- The code points of a string. -/
def codePoints (s : String) : List CodePoint :=
  s.toList.map .char

/-- The string that code points make, unless one of them is half of a surrogate pair. -/
def ofCodePoints? (cs : List CodePoint) : Option String :=
  (cs.mapM CodePoint.char?).map String.ofList

/-! ## UTF-16 units -/

/-- The two UTF-16 units of a code above U+FFFF. -/
def surrogates (n : Nat) : Nat × Nat :=
  (0xD800 + (n - 0x10000) / 0x400, 0xDC00 + (n - 0x10000) % 0x400)

/-- Whether the unit is the first half of a surrogate pair. -/
def isHigh (n : Nat) : Bool :=
  0xD800 ≤ n && n < 0xDC00

/-- Whether the unit is the second half of a surrogate pair. -/
def isLow (n : Nat) : Bool :=
  0xDC00 ≤ n && n < 0xE000

/-- The UTF-16 units of a code point. -/
def CodePoint.units : CodePoint → List Nat
  | .char c =>
    if c.toNat < 0x10000 then [c.toNat] else [(surrogates c.toNat).1, (surrogates c.toNat).2]
  | .half n => [0xD800 + n]

/-- The code of the character whose units are the two halves. -/
def pairCode (high low : Nat) : Nat :=
  0x10000 + (high - 0xD800) * 0x400 + (low - 0xDC00)

/-- The code points that units stand for: two halves that make a surrogate pair are the character
of the pair, and any other half is left as it is. -/
def joinHalves : List Nat → List CodePoint
  | [] => []
  | [n] => [.ofCode n]
  | n :: m :: rest =>
    if isHigh n && isLow m then .char (Char.ofNat (pairCode n m)) :: joinHalves rest
    else .ofCode n :: joinHalves (m :: rest)

/-- The text that comes back when its units are carried. -/
def joined (cs : List CodePoint) : List CodePoint :=
  joinHalves (cs.flatMap CodePoint.units)

end Text
end ApiReference
