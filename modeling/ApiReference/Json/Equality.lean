import ApiReference.Json.Basic

/-!
# When two JSON values are the same

Numbers are compared by their exact value, whichever way they are written, and a boolean counts as
the number one or zero. Objects are the same when they have the same keys with the same values, in
whatever order.

The comparison is by recursion on the first value. Objects are compared by looking each key of the
first up in the second, after their sizes have been found equal, which is enough as long as no key
occurs twice.

A boolean is a number here since it is one to the users of the library. A reader of a whole number,
in contrast, takes no boolean.
-/

set_option autoImplicit false

namespace ApiReference
namespace Json

/-- The whole number that an integer or a boolean stands for. -/
def asInt? : Json → Option Int
  | .int n => some n
  | .bool b => some (if b then 1 else 0)
  | _ => none

/-- The whole number that a value is, however it is written. -/
def whole? : Json → Option Int
  | .float x => if x.isIntegral then some x.truncate else none
  | v => v.asInt?

/-- Whether a value is a number that is `n` or more, if it is a number at all. -/
def isAtLeast? (n : Nat) : Json → Option Bool
  | .float x => some (x.isAtLeast n)
  | v => v.asInt?.map fun m => Int.ofNat n ≤ m

/-- Whether two values are the same number. -/
def sameNumber (a b : Json) : Bool :=
  match a, b with
  | .float x, .float y => x.same y
  | .float x, b => b.asInt?.any x.sameInt
  | a, .float y => a.asInt?.any y.sameInt
  | a, b => a.asInt?.isSome && a.asInt? == b.asInt?

mutual

/-- Whether two values are the same. -/
def same : Json → Json → Bool
  | .null, .null => true
  | .str s, .str t => s == t
  | .arr xs, .arr ys => sameItems xs ys
  | .obj fs, .obj gs => fs.length == gs.length && sameFields fs gs
  | a, b => a.sameNumber b
termination_by structural a => a

/-- Whether two arrays have the same items. -/
def sameItems : List Json → List Json → Bool
  | [], [] => true
  | x :: xs, y :: ys => x.same y && sameItems xs ys
  | _, _ => false
termination_by structural xs => xs

/-- Whether every member of the first object is in the second. -/
def sameFields : List (String × Json) → List (String × Json) → Bool
  | [], _ => true
  | (key, v) :: rest, others =>
    (match Fields.get? others key with
      | some w => v.same w
      | none => false) && sameFields rest others
termination_by structural fs => fs

end

end Json
end ApiReference
