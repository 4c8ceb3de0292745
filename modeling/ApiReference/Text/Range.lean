/-!
# Sets of characters given by ranges of code points

A class of characters that a standard defines is data: a list of closed ranges. `inRanges` asks
whether a character lies in one of them, and `inRanges_eq_true_iff` says so without the list walk.

The tables of the classes are long. What is proved about a class is either about a few characters,
by evaluation, or holds of any class.
-/

set_option autoImplicit false

namespace ApiReference
namespace Text

/-- Closed ranges of code points. -/
abbrev Ranges := List (Nat × Nat)

/-- Whether the character lies in one of the ranges. -/
def inRanges (ranges : Ranges) (c : Char) : Bool :=
  ranges.any fun r => r.1 ≤ c.toNat && c.toNat ≤ r.2

theorem inRanges_eq_true_iff {ranges : Ranges} {c : Char} :
    inRanges ranges c = true ↔ ∃ r ∈ ranges, r.1 ≤ c.toNat ∧ c.toNat ≤ r.2 := by
  simp [inRanges]

end Text
end ApiReference
