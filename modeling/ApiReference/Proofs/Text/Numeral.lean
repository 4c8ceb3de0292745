import ApiReference.Number.Shortest
import Mathlib.Data.List.Basic

/-!
# The texts of numbers

The text of a double is a mantissa of digits, signs and a point, followed by letters, signs and
digits without a point: the exponent, the word for infinity, or nothing (`isNumeral_text`). The text
of a whole number has digits and a sign only.

Two things that are asked of the text of a number follow from this. It holds only the characters of
numbers (`IsNumeral.forall_mem`), and no point in it stands behind a letter (`IsNumeral.pairwise`).

The grammar is wider than the texts of numbers, and on purpose. It says nothing of how many digits
there are, where a sign may stand or what the exponent is, so that it is kept by every step of the
layout and can be shown without knowing which digits were chosen. Three uses need no more: a number
has no line break, it holds no name space that could be stripped, and it is printable ASCII.
-/

set_option autoImplicit false

namespace ApiReference
namespace Binary64

/-- A character of a mantissa. -/
def isMantissaChar (c : Char) : Bool :=
  c.isDigit || ['-', '.'].contains c

/-- A character of what follows a mantissa. -/
def isExponentChar (c : Char) : Bool :=
  c.isDigit || ['+', '-', 'e', 'i', 'n', 'f'].contains c

/-- A mantissa and what follows it. -/
def IsNumeral (cs : List Char) : Prop :=
  ∃ mantissa exponent, cs = mantissa ++ exponent ∧ (∀ c ∈ mantissa, isMantissaChar c = true) ∧
    ∀ c ∈ exponent, isExponentChar c = true

theorem isMantissaChar_of_isDigit {c : Char} (h : c.isDigit = true) : isMantissaChar c = true := by
  rw [isMantissaChar, h, Bool.true_or]

theorem isExponentChar_of_isDigit {c : Char} (h : c.isDigit = true) : isExponentChar c = true := by
  rw [isExponentChar, h, Bool.true_or]

theorem isNumeral_of_mantissa {cs : List Char} (h : ∀ c ∈ cs, isMantissaChar c = true) :
    IsNumeral cs :=
  ⟨cs, [], (List.append_nil cs).symm, h, nofun⟩

theorem IsNumeral.cons {c : Char} {cs : List Char} (hc : isMantissaChar c = true)
    (h : IsNumeral cs) : IsNumeral (c :: cs) := by
  obtain ⟨mantissa, exponent, rfl, hmantissa, hexponent⟩ := h
  exact ⟨c :: mantissa, exponent, rfl, List.forall_mem_cons.2 ⟨hc, hmantissa⟩, hexponent⟩

/-! ## Digits -/

theorem isDigit_of_mem_toDigits {c : Char} {n : Nat} (h : c ∈ Nat.toDigits 10 n) :
    c.isDigit = true :=
  Nat.isDigit_of_mem_toDigits (by decide) (by decide) h

theorem isDigit_of_mem_zeros {c : Char} {n : Nat} (h : c ∈ zeros n) : c.isDigit = true := by
  rw [List.eq_of_mem_replicate h]
  decide

theorem dropTrailingZeros_subset (ds : List Char) : dropTrailingZeros ds ⊆ ds := by
  rw [dropTrailingZeros]
  refine List.append_subset.2 ⟨List.take_subset 1 ds, fun c hc => ?_⟩
  have hc := List.dropWhile_subset _ (List.mem_reverse.1 hc)
  exact List.drop_subset 1 ds (List.mem_reverse.1 hc)

/-- The shortest digits of a number are digits. -/
theorem isDigit_of_mem_shortest {m : Nat} {e : Int} {c : Char} (h : c ∈ (shortest m e).digits) :
    c.isDigit = true :=
  isDigit_of_mem_toDigits (dropTrailingZeros_subset _ h)

theorem isNumeral_toDigits (n : Nat) : IsNumeral (Nat.toDigits 10 n) :=
  isNumeral_of_mantissa fun _ hc => isMantissaChar_of_isDigit (isDigit_of_mem_toDigits hc)

/-! ## Layouts -/

section Layout

variable {d : Digits} (h : ∀ c ∈ d.digits, c.isDigit = true)

include h

theorem isNumeral_positional : IsNumeral (positional d) := by
  refine isNumeral_of_mantissa fun c hc => ?_
  have hpoint : isMantissaChar '.' = true := by decide
  rw [positional] at hc
  split at hc
  · rw [List.mem_append, List.mem_cons, List.mem_cons] at hc
    rcases hc with (rfl | rfl | hc) | hc
    · decide
    · exact hpoint
    · exact isMantissaChar_of_isDigit (isDigit_of_mem_zeros hc)
    · exact isMantissaChar_of_isDigit (h c hc)
  · simp only [List.mem_append, List.mem_cons] at hc
    rcases hc with (hc | hc) | rfl | hc
    · exact isMantissaChar_of_isDigit (h c (List.mem_of_mem_take hc))
    · exact isMantissaChar_of_isDigit (isDigit_of_mem_zeros hc)
    · exact hpoint
    · split at hc
      · rw [List.mem_singleton.1 hc]
        decide
      · exact isMantissaChar_of_isDigit (h c (List.mem_of_mem_drop hc))

omit h in
theorem isExponentChar_of_mem_exponentPart {point : Int} {c : Char} (hc : c ∈ exponentPart point) :
    isExponentChar c = true := by
  rw [exponentPart, List.mem_append, List.mem_cons, List.mem_cons] at hc
  rcases hc with (rfl | rfl | hc) | hc
  · decide
  · split <;> decide
  · exact isExponentChar_of_isDigit (isDigit_of_mem_zeros hc)
  · exact isExponentChar_of_isDigit (isDigit_of_mem_toDigits hc)

theorem isNumeral_scientific : IsNumeral (scientific d) := by
  refine ⟨_, exponentPart d.point, rfl, fun c hc => ?_,
    fun c hc => isExponentChar_of_mem_exponentPart hc⟩
  rw [List.mem_append] at hc
  rcases hc with hc | hc
  · exact isMantissaChar_of_isDigit (h c (List.mem_of_mem_take hc))
  · split at hc
    · cases hc
    · rw [List.mem_cons] at hc
      rcases hc with rfl | hc
      · decide
      · exact isMantissaChar_of_isDigit (h c (List.mem_of_mem_drop hc))

/-- Digits in either layout are a numeral. -/
theorem isNumeral_layout : IsNumeral (layout d) := by
  rw [layout]
  split
  · exact isNumeral_positional h
  · exact isNumeral_scientific h

end Layout

/-- **The text of a double is a mantissa and what follows it.** -/
theorem isNumeral_text (x : Binary64) : IsNumeral x.text.toList := by
  cases x with
  | finite negative m e =>
    have hbody : IsNumeral (if m = 0 then ['0', '.', '0'] else layout (shortest m e)) := by
      split
      · exact isNumeral_of_mantissa (List.all_eq_true.1 (by decide))
      · exact isNumeral_layout fun c hc => isDigit_of_mem_shortest hc
    rw [text, textWith, String.toList_ofList]
    split
    · exact hbody.cons (by decide)
    · exact hbody
  | infinite negative =>
    cases negative
    · exact ⟨[], "inf".toList, rfl, nofun, List.all_eq_true.1 (by decide)⟩
    · exact ⟨['-'], "inf".toList, rfl, List.all_eq_true.1 (by decide),
        List.all_eq_true.1 (by decide)⟩

/-- The text of a whole number is a numeral. -/
theorem isNumeral_toString_int (n : Int) : IsNumeral (toString n).toList := by
  have hrepr (k : Nat) : IsNumeral k.repr.toList := by
    rw [Nat.repr_eq_ofList_toDigits, String.toList_ofList]
    exact isNumeral_toDigits k
  rw [Int.toString_eq_repr, Int.repr_eq_if]
  split
  · exact hrepr _
  · rw [String.toList_append]
    exact (hrepr _).cons (by decide)

/-! ## What holds of all numerals

The digits and seven more characters are all that a numeral has. -/

/-- What holds of digits, signs, the point and the letters of numbers holds throughout a numeral. -/
theorem IsNumeral.forall_mem {P : Char → Prop} (hdigit : ∀ c : Char, c.isDigit = true → P c)
    (hother : ∀ c ∈ ['+', '-', '.', 'e', 'i', 'n', 'f'], P c) {cs : List Char}
    (h : IsNumeral cs) : ∀ c ∈ cs, P c := by
  obtain ⟨mantissa, exponent, rfl, hmantissa, hexponent⟩ := h
  intro c hc
  rw [List.mem_append] at hc
  rcases hc with hc | hc
  · have hm := hmantissa c hc
    rw [isMantissaChar, Bool.or_eq_true] at hm
    rcases hm with hm | hm
    · exact hdigit c hm
    · exact hother c (by simp at hm ⊢; tauto)
  · have he := hexponent c hc
    rw [isExponentChar, Bool.or_eq_true] at he
    rcases he with he | he
    · exact hdigit c he
    · exact hother c (by simp at he ⊢; tauto)

theorem isAlpha_of_isMantissaChar {c : Char} (h : isMantissaChar c = true) : c.isAlpha = false := by
  rw [isMantissaChar, Bool.or_eq_true] at h
  rcases h with h | h
  · delta Char.isAlpha Char.isUpper Char.isLower
    simp only [Char.isDigit, Bool.and_eq_true, decide_eq_true_eq, Bool.or_eq_false_iff,
      Bool.and_eq_false_iff, decide_eq_false_iff_not] at h ⊢
    grind
  · simp only [List.contains_iff_mem, List.mem_cons, List.not_mem_nil, or_false] at h
    rcases h with rfl | rfl <;> decide

/-- **No point in a numeral stands behind a letter.** -/
theorem IsNumeral.pairwise {cs : List Char} (h : IsNumeral cs) :
    cs.Pairwise fun c d => c.isAlpha = true → d ≠ '.' := by
  obtain ⟨mantissa, exponent, rfl, hmantissa, hexponent⟩ := h
  have hletter : ∀ c ∈ mantissa, c.isAlpha ≠ true := fun c hc => by
    rw [isAlpha_of_isMantissaChar (hmantissa c hc)]
    exact Bool.false_ne_true
  have hpoint : ∀ d ∈ exponent, d ≠ '.' := by
    rintro d hd rfl
    exact Bool.false_ne_true (hexponent '.' hd)
  refine List.pairwise_append.2 ⟨?_, ?_, fun c hc d _ halpha => absurd halpha (hletter c hc)⟩
  · exact List.pairwise_of_forall_mem_list fun c hc d _ halpha => absurd halpha (hletter c hc)
  · exact List.pairwise_of_forall_mem_list fun c _ d hd _ => hpoint d hd

end Binary64
end ApiReference
