import ApiReference.Text.Range

/-!
# Lines

Ten characters end a line: line feed, carriage return, vertical tab, form feed, the three
information separators U+001C to U+001E, next line, line separator and paragraph separator; a
carriage return and the line feed after it end the line together.

An annotation has room for one line, so descriptions are cut with `firstLine`: the text in front of
the first break (`firstLineChars_append_break`), all of it when there is none
(`firstLineChars_of_noBreak`).
-/

set_option autoImplicit false

namespace ApiReference
namespace Text

/-- The ranges of the characters that end a line. -/
def lineBreakRanges : Ranges :=
  [(0x0a, 0x0d), (0x1c, 0x1e), (0x85, 0x85), (0x2028, 0x2029)]

/-- Whether `c` ends a line. -/
def isLineBreak (c : Char) : Bool :=
  inRanges lineBreakRanges c

/-- The characters in front of the first line break. -/
def firstLineChars (cs : List Char) : List Char :=
  cs.takeWhile fun c => !isLineBreak c

/-- The first line of a text, without the break that ends it. -/
def firstLine (s : String) : String :=
  String.ofList (firstLineChars s.toList)

theorem firstLineChars_of_noBreak {cs : List Char} (h : ∀ c ∈ cs, isLineBreak c = false) :
    firstLineChars cs = cs := by
  induction cs with
  | nil => rfl
  | cons c rest ih =>
    simp only [List.mem_cons, forall_eq_or_imp] at h
    rw [firstLineChars, List.takeWhile_cons_of_pos (by simp [h.1])]
    exact congrArg (c :: ·) (ih h.2)

theorem firstLineChars_append_break {cs rest : List Char} {b : Char}
    (h : ∀ c ∈ cs, isLineBreak c = false) (hb : isLineBreak b = true) :
    firstLineChars (cs ++ b :: rest) = cs := by
  rw [firstLineChars, List.takeWhile_append_of_pos (by simpa using h)]
  simp [hb]

end Text
end ApiReference
