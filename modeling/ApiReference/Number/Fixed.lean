import ApiReference.Number.Shortest

/-!
# Decimal texts of a set length

A finite double is written with a set number of places after the point (`fixed`), with a set number
of significant digits and an exponent (`exponential`), or in whichever of the two forms suits its
size (`general`). The exact value is rounded, and a tie goes to the even neighbour. These functions
write the magnitude; the sign is up to the caller. With `point` set a decimal point is written even
where no digit follows it.

The magnitude is given as a quotient of natural numbers, which every finite double is, so the digits
are found by one division and there is nothing to be rounded twice.
-/

set_option autoImplicit false

namespace ApiReference
namespace Binary64

/-- The point and the digits after it; without digits only if `point` is set. -/
def fraction (point : Bool) (digits : List Char) : List Char :=
  if digits.isEmpty && !point then [] else '.' :: digits

/-- The number `num / den` with `places` digits after the point. -/
def fixed (point : Bool) (places num den : Nat) : List Char :=
  let ds := Nat.toDigits 10 (roundRatio (num * tenPow places) den)
  let ds := zeros (places + 1 - ds.length) ++ ds
  ds.take (ds.length - places) ++ fraction point (ds.drop (ds.length - places))

/-- The first `count` significant digits of `num / den`, rounded. Rounding up a row of nines moves
the point. -/
def significant (count num den : Nat) : Digits :=
  if num = 0 then ⟨zeros count, 1⟩
  else
    let p := pointOf num den
    let place := p - Int.ofNat count
    let ds := Nat.toDigits 10
      (roundRatio (num * tenPow (-place).toNat) (den * tenPow place.toNat))
    ⟨ds.take count, p + Int.ofNat (ds.length - count)⟩

/-- The digits with one of them in front of the point, and the exponent. -/
def withExponent (point : Bool) (d : Digits) : List Char :=
  d.digits.take 1 ++ fraction point (d.digits.drop 1) ++ exponentPart d.point

/-- The number `num / den` with `places` digits after the point, and an exponent. -/
def exponential (point : Bool) (places num den : Nat) : List Char :=
  withExponent point (significant (places + 1) num den)

/-- The number `num / den` with `count` significant digits: with an exponent if that is less than -4
or at least `count`. The zeros at the end are left out unless `point` is set. -/
def general (point : Bool) (count num den : Nat) : List Char :=
  let count := max count 1
  let d := significant count num den
  let ds := if point then d.digits else dropTrailingZeros d.digits
  if -4 < d.point ∧ d.point ≤ Int.ofNat count then
    if d.point ≤ 0 then '0' :: fraction point (zeros (-d.point).toNat ++ ds)
    else
      ds.take d.point.toNat ++ zeros (d.point.toNat - ds.length) ++
        fraction point (ds.drop d.point.toNat)
  else withExponent point ⟨ds, d.point⟩

end Binary64
end ApiReference
