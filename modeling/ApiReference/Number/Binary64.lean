/-!
# Double-precision numbers, exactly

A finite double is a sign, a natural mantissa and a power of two, so all arithmetic on it is
arithmetic on natural numbers and can be reasoned about. A number read from decimal text or from a
quotient is rounded to the nearest double, a tie going to the even mantissa (`ofRatio`); beyond the
largest one it is infinite. Mantissas are normalised: they lie below `2 ^ 53`, and below `2 ^ 52`
only at the least exponent, so two doubles other than the zeros are equal exactly when their parts
are.
-/

set_option autoImplicit false

namespace ApiReference

/-- The quotient of two natural numbers, rounded to the nearest one; a tie goes to the even
neighbour. -/
def roundRatio (num den : Nat) : Nat :=
  let q := num / den
  let r := num % den
  if 2 * r < den then q
  else if den < 2 * r then q + 1
  else q + q % 2

/-- A power of two. -/
def twoPow (n : Nat) : Nat :=
  Nat.pow 2 n

/-- A power of ten. -/
def tenPow (n : Nat) : Nat :=
  Nat.pow 10 n

/-- A double-precision number other than the undefined ones. -/
inductive Binary64 where
  /-- The number `mantissa * 2 ^ exponent`, or its negative. -/
  | finite (negative : Bool) (mantissa : Nat) (exponent : Int)
  | infinite (negative : Bool)
  deriving DecidableEq, Inhabited

namespace Binary64

/-- The exponent of the smallest numbers. -/
def leastExponent : Int := -1074

/-- The exponent of the largest numbers. -/
def greatestExponent : Int := 971

/-- The zero of the given sign. -/
def zero (negative : Bool) : Binary64 :=
  .finite negative 0 leastExponent

/-- The number of a rounded mantissa, with the carry to `2 ^ 53` passed to the exponent. -/
def ofRounded (negative : Bool) (mantissa : Nat) (exponent : Int) : Binary64 :=
  let (m, e) := if mantissa = twoPow 53 then (twoPow 52, exponent + 1) else (mantissa, exponent)
  if greatestExponent < e then .infinite negative else .finite negative m e

/-- The double nearest to `num / den`; `den` is positive. -/
def ofRatio (negative : Bool) (num den : Nat) : Binary64 :=
  if num = 0 then zero negative
  else
    -- the power of two at or below the quotient is `2 ^ l` or `2 ^ (l - 1)`
    let l : Int := Int.ofNat num.log2 - Int.ofNat den.log2
    let l := if num * twoPow (-l).toNat < den * twoPow l.toNat then l - 1 else l
    let e := max leastExponent (l - 52)
    ofRounded negative (roundRatio (num * twoPow (-e).toNat) (den * twoPow e.toNat)) e

/-- The double nearest to `digits * 10 ^ exponent`. Far outside the range of the format nothing
needs to be computed. -/
def ofDecimal (negative : Bool) (digits : Nat) (exponent : Int) : Binary64 :=
  let size : Int := (Nat.toDigits 10 digits).length + exponent
  if digits = 0 || size < -400 then zero negative
  else if 400 < size then .infinite negative
  else ofRatio negative (digits * tenPow exponent.toNat) (tenPow (-exponent).toNat)

/-- Whether the number is a whole one. -/
def isIntegral : Binary64 → Bool
  | .finite _ m e => m % twoPow (-e).toNat == 0
  | .infinite _ => false

/-- The whole part, toward zero; zero for the infinite numbers. -/
def truncate : Binary64 → Int
  | .finite negative m e =>
    let n : Int := Int.ofNat (m * twoPow e.toNat / twoPow (-e).toNat)
    if negative then -n else n
  | .infinite _ => 0

/-- Whether the number is one of the two zeros. -/
def isZero : Binary64 → Bool
  | .finite _ m _ => m == 0
  | .infinite _ => false

/-- Whether the number is `n` or more. -/
def isAtLeast (n : Nat) : Binary64 → Bool
  | .finite negative m e =>
    if negative then m == 0 && n == 0 else n * twoPow (-e).toNat ≤ m * twoPow e.toNat
  | .infinite negative => !negative

/-- Whether two doubles are the same number. The two zeros are. -/
def same (x y : Binary64) : Bool :=
  x == y || (x.isZero && y.isZero)

/-- Whether the double is exactly the whole number `n`. -/
def sameInt (x : Binary64) (n : Int) : Bool :=
  x.isIntegral && x.truncate == n

end Binary64
end ApiReference
