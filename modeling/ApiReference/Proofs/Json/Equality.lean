import ApiReference.Json.Equality
import Mathlib.Data.List.Forall2

/-!
# How JSON values can be the same

Two values are the same if both are `null`, the same string or the same number, or if they are
arrays or objects of which the items are the same (`same_iff_alike`). A boolean counts as a number,
so a boolean and a number may be the same. Which whole number a value is, if it is one, does not
depend on how it is written (`whole?_eq_of_sameNumber`).

`Json.same` decides the question by recursion on both values at once. `Alike` says the answer as
rules, one for each kind of value and one for all numbers, which is the form in which types are
compared: a proof goes by cases on the rule and has the two values in shape.

Numbers are compared exactly. A double is a sign, a mantissa and an exponent, so it is the same as a
whole number only if it is that number, however large; nothing is rounded. The two zeros are the
same number. Objects of the same length are compared by the fields of the first one, and the order
of fields does not count.
-/

set_option autoImplicit false

namespace ApiReference
namespace Json

/-- Whether the value counts as a number. -/
def isNumber : Json → Bool
  | .bool _ => true
  | .int _ => true
  | .float _ => true
  | _ => false

/-- Whether the value is a boolean. -/
def isBoolean : Json → Bool
  | .bool _ => true
  | _ => false

theorem isBoolean_eq_true_iff {v : Json} : v.isBoolean = true ↔ ∃ b, v = .bool b := by
  cases v <;> simp [isBoolean]

/-- **The ways in which two values can be the same.** -/
inductive Alike : Json → Json → Prop where
  | null : Alike .null .null
  | str (s : String) : Alike (.str s) (.str s)
  | arr {xs ys : List Json} (h : List.Forall₂ (fun x y => x.same y = true) xs ys) :
      Alike (.arr xs) (.arr ys)
  | obj {fs gs : Fields} (hlen : fs.length = gs.length)
      (h : ∀ f ∈ fs, ∃ w, gs.get? f.1 = some w ∧ f.2.same w = true) : Alike (.obj fs) (.obj gs)
  | number {v w : Json} (hv : v.isNumber = true) (hw : w.isNumber = true)
      (h : v.sameNumber w = true) : Alike v w

theorem sameItems_iff {xs ys : List Json} :
    sameItems xs ys = true ↔ List.Forall₂ (fun x y => x.same y = true) xs ys := by
  induction xs generalizing ys with
  | nil => cases ys <;> simp [sameItems]
  | cons x xs ih => cases ys <;> simp [sameItems, ih]

theorem sameFields_iff {fs gs : Fields} :
    sameFields fs gs = true ↔ ∀ f ∈ fs, ∃ w, gs.get? f.1 = some w ∧ f.2.same w = true := by
  induction fs with
  | nil => simp [sameFields]
  | cons f rest ih =>
    obtain ⟨key, v⟩ := f
    rw [sameFields, Bool.and_eq_true, ih, List.forall_mem_cons]
    refine and_congr_left fun _ => ?_
    cases gs.get? key <;> simp

theorem isNumber_of_sameNumber {v w : Json} (h : v.sameNumber w = true) :
    v.isNumber = true ∧ w.isNumber = true := by
  cases v <;> cases w <;> first | exact ⟨rfl, rfl⟩ | simp [sameNumber, asInt?] at h

/-- Whether a number is the same as another value is a matter of numbers. -/
theorem same_eq_sameNumber {v : Json} (hv : v.isNumber = true) (w : Json) :
    v.same w = v.sameNumber w := by
  cases v <;> first | rfl | cases hv

/-- **Two values are the same exactly in these ways.** -/
theorem same_iff_alike {v w : Json} : v.same w = true ↔ Alike v w := by
  constructor
  · intro h
    -- values of two kinds are the same only as numbers
    have hnumber (h : v.sameNumber w = true) : Alike v w :=
      .number (isNumber_of_sameNumber h).1 (isNumber_of_sameNumber h).2 h
    cases v with
    | null =>
      cases w with
      | null => exact .null
      | _ => exact hnumber h
    | str s =>
      cases w with
      | str t =>
        obtain rfl := eq_of_beq (show (s == t) = true from h)
        exact .str s
      | _ => exact hnumber h
    | arr xs =>
      cases w with
      | arr ys => exact .arr (sameItems_iff.1 h)
      | _ => exact hnumber h
    | obj fs =>
      cases w with
      | obj gs =>
        rw [same, Bool.and_eq_true, beq_iff_eq] at h
        exact .obj h.1 (sameFields_iff.1 h.2)
      | _ => exact hnumber h
    | _ => exact hnumber h
  · intro h
    cases h with
    | null => rfl
    | str s => exact beq_self_eq_true s
    | arr h => exact sameItems_iff.2 h
    | obj hlen h => rw [same, hlen, beq_self_eq_true, Bool.true_and, sameFields_iff.2 h]
    | number hv hw h => rw [same_eq_sameNumber hv, h]

theorem bool_eq_of_sameNumber {b c : Bool} (h : (bool b).sameNumber (bool c) = true) : b = c := by
  cases b <;> cases c <;> first | rfl | cases h

/-- An object is the same as objects only. -/
theorem isObject_eq_of_same {v w : Json} (h : v.same w = true) : v.isObject = w.isObject := by
  cases same_iff_alike.1 h with
  | number hv hw h =>
    have hnot {v : Json} (hv : v.isNumber = true) : v.isObject = false := by
      cases v <;> first | rfl | cases hv
    rw [hnot hv, hnot hw]
  | _ => rfl

/-! ## Whole numbers -/

theorem whole?_of_isZero {x : Binary64} (h : x.isZero = true) : (float x).whole? = some 0 := by
  cases x with
  | infinite negative => cases h
  | finite negative m e =>
    obtain rfl := eq_of_beq (show (m == 0) = true from h)
    cases negative <;> simp [whole?, Binary64.isIntegral, Binary64.truncate]

theorem whole?_eq_of_sameInt {x : Binary64} {n : Int} (h : x.sameInt n = true) :
    (float x).whole? = some n := by
  rw [Binary64.sameInt, Bool.and_eq_true, beq_iff_eq] at h
  rw [whole?, if_pos h.1, h.2]

/-- **The same number is the same whole number**, however it is written. -/
theorem whole?_eq_of_sameNumber {v w : Json} (h : v.sameNumber w = true) :
    v.whole? = w.whole? := by
  obtain ⟨hv, hw⟩ := isNumber_of_sameNumber h
  cases v with
  | float x =>
    cases w with
    | float y =>
      rw [sameNumber, Binary64.same, Bool.or_eq_true, Bool.and_eq_true, beq_iff_eq] at h
      -- the doubles are one, or both are zeros and perhaps of different sign
      rcases h with rfl | ⟨hx, hy⟩
      · rfl
      · rw [whole?_of_isZero hx, whole?_of_isZero hy]
    | bool b => exact whole?_eq_of_sameInt h
    | int n => exact whole?_eq_of_sameInt h
    | _ => cases hw
  | bool b =>
    cases w with
    | float y => exact (whole?_eq_of_sameInt h).symm
    | bool c => simpa [sameNumber, whole?, asInt?] using h
    | int n => simpa [sameNumber, whole?, asInt?] using h
    | _ => cases hw
  | int n =>
    cases w with
    | float y => exact (whole?_eq_of_sameInt h).symm
    | bool c => simpa [sameNumber, whole?, asInt?] using h
    | int n => simpa [sameNumber, whole?, asInt?] using h
    | _ => cases hw
  | _ => cases hv

/-- A number that is not whole is the same as itself only. -/
theorem eq_of_sameNumber_of_not_whole {v w : Json} (h : v.sameNumber w = true)
    (hv : v.whole? = none) : v = w := by
  have hw : w.whole? = none := whole?_eq_of_sameNumber h ▸ hv
  cases v with
  | float x =>
    cases w with
    | float y =>
      rw [sameNumber, Binary64.same, Bool.or_eq_true, Bool.and_eq_true, beq_iff_eq] at h
      rcases h with rfl | ⟨hx, hy⟩
      · rfl
      · rw [whole?_of_isZero hx] at hv
        cases hv
    | bool b => cases hw
    | int n => cases hw
    | _ => cases h
  | bool b => cases hv
  | int n => cases hv
  | _ => cases (isNumber_of_sameNumber h).1

end Json
end ApiReference
