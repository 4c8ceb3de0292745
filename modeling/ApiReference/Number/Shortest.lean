import ApiReference.Number.Binary64

/-!
# The shortest decimal text of a double

A finite double is written with the fewest significant digits that read back as the same number,
and of those decimals the one nearest to it. `shortest` finds them on the decimal grids of one, two,
three, … digits: on each grid only the two neighbours of the number need to be tested, against the
interval of the reals that round to it.

`Binary64.text` lays the digits out: with a decimal point and at least one digit on each side of it
while the point falls at most sixteen digits after the first digit and at most three zeros in front
of it, else with an exponent of a sign and at least two digits.
-/

set_option autoImplicit false

namespace ApiReference
namespace Binary64

/-- The digits `d₁ d₂ …` and the place of the point: the number is `0.d₁d₂… * 10 ^ point`. -/
structure Digits where
  digits : List Char
  point : Int
  deriving DecidableEq

/-- The reals that round to `m * 2 ^ e`, in units of `2 ^ (e - 2)`: the least, the greatest, and
whether these two belong to them. Below a power of two the numbers lie twice as close. -/
def interval (m : Nat) (e : Int) : Nat × Nat × Bool :=
  let below := if m = twoPow 52 && leastExponent < e then 1 else 2
  (4 * m - below, 4 * m + 2, m % 2 == 0)

/-- The exponent of the power of ten just above `num / den`, for positive numbers. -/
def pointOf (num den : Nat) : Int :=
  let k : Int := (Nat.toDigits 10 num).length - (Nat.toDigits 10 den).length
  if den * tenPow k.toNat ≤ num * tenPow (-k).toNat then k + 1 else k

/-- The positive point of the grid with step `10 ^ place` that reads back as the number and is
nearest to it, if there is one. The number is `v * u`, its interval reaches from `lo * u` to `hi *
u`, where `u = unitNum / unitDen`. Of two points at the same distance the even one is taken. -/
def onGrid (v lo hi : Nat) (closed : Bool) (unitNum unitDen : Nat) (place : Int) : Option Nat :=
  -- both sides of each comparison are multiplied by the denominators
  let scale := tenPow place.toNat * unitDen
  let unit := unitNum * tenPow (-place).toNat
  let reads (c : Nat) : Bool :=
    0 < c &&
      if closed then lo * unit ≤ c * scale && c * scale ≤ hi * unit
      else lo * unit < c * scale && c * scale < hi * unit
  let down := v * unit / scale
  let nearest := roundRatio (v * unit) scale
  if reads nearest then some nearest
  else if reads down then some down
  else if reads (down + 1) then some (down + 1)
  else none

/-- The digits without the zeros at the end; the first digit stays. -/
def dropTrailingZeros (ds : List Char) : List Char :=
  ds.take 1 ++ ((ds.drop 1).reverse.dropWhile (· == '0')).reverse

/-- The shortest digits of the positive number `m * 2 ^ e`. Seventeen always suffice. -/
def shortest (m : Nat) (e : Int) : Digits :=
  let (lo, hi, closed) := interval m e
  let unitNum := twoPow (e - 2).toNat
  let unitDen := twoPow (2 - e).toNat
  let point := pointOf (4 * m * unitNum) unitDen
  let found := (List.range 17).findSome? fun n =>
    let place := point - (n + 1 : Nat)
    (onGrid (4 * m) lo hi closed unitNum unitDen place).map fun c => (c, place)
  let (c, place) := found.getD (1, point)
  let ds := Nat.toDigits 10 c
  ⟨dropTrailingZeros ds, ds.length + place⟩

/-- A row of zeros. -/
def zeros (n : Nat) : List Char :=
  List.replicate n '0'

/-- Digits with a decimal point in its place. -/
def positional (d : Digits) : List Char :=
  if d.point ≤ 0 then
    '0' :: '.' :: zeros (-d.point).toNat ++ d.digits
  else
    let whole := d.digits.take d.point.toNat
    let fraction := d.digits.drop d.point.toNat
    whole ++ zeros (d.point.toNat - whole.length) ++
      '.' :: (if fraction = [] then ['0'] else fraction)

/-- The exponent that goes with a point: a sign and at least two digits. -/
def exponentPart (point : Int) : List Char :=
  let exponent := point - 1
  let size := Nat.toDigits 10 exponent.natAbs
  'e' :: (if exponent < 0 then '-' else '+') :: zeros (2 - size.length) ++ size

/-- Digits with an exponent: one digit in front of the point, which is left out when no digit
follows it. -/
def scientific (d : Digits) : List Char :=
  d.digits.take 1 ++ (if d.digits.length ≤ 1 then [] else '.' :: d.digits.drop 1) ++
    exponentPart d.point

/-- The text of the digits: positional from four places right of the point to sixteen left of it. -/
def layout (d : Digits) : List Char :=
  if -4 < d.point ∧ d.point ≤ 16 then positional d else scientific d

/-- The shortest text that reads back as the number; an infinite one is written as the given
word. -/
def textWith (infinity : String) : Binary64 → String
  | .finite negative m e =>
    let body := if m = 0 then ['0', '.', '0'] else layout (shortest m e)
    String.ofList (if negative then '-' :: body else body)
  | .infinite negative => if negative then "-" ++ infinity else infinity

/-- The shortest text that reads back as the number. -/
def text (x : Binary64) : String :=
  x.textWith "inf"

end Binary64
end ApiReference
