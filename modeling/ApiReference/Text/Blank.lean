import ApiReference.Text.Range

/-!
# Blanks

The white space that may be cut from the end of a line: the ASCII blanks U+0009 to U+000D, the
information separators U+001C to U+001F, the space, next line, no-break space and the separators of
the Unicode categories for spaces, lines and paragraphs. Zero-width characters are no blanks.

`trimEnd` removes them from the end; what is left ends in none (`getLast?_trimEndChars`), and is
what the text starts with (`isPrefix_trimEndChars`), up to its last character that is no blank
(`trimEndChars_append`).

The same class of characters is used in no other place: a name may begin or end with a blank, and
the first line of a description keeps those at its end unless the whole line is cut.
-/

set_option autoImplicit false

namespace ApiReference
namespace Text

/-- The ranges of the white-space characters. -/
def blankRanges : Ranges :=
  [(0x09, 0x0d), (0x1c, 0x20), (0x85, 0x85), (0xa0, 0xa0), (0x1680, 0x1680), (0x2000, 0x200a),
   (0x2028, 0x2029), (0x202f, 0x202f), (0x205f, 0x205f), (0x3000, 0x3000)]

/-- Whether `c` is white space. -/
def isBlank (c : Char) : Bool :=
  inRanges blankRanges c

/-- The characters up to the last one that is not blank. -/
def trimEndChars (cs : List Char) : List Char :=
  (cs.reverse.dropWhile isBlank).reverse

/-- The text without the blanks at its end. -/
def trimEnd (s : String) : String :=
  String.ofList (trimEndChars s.toList)

theorem getLast?_trimEndChars (cs : List Char) :
    ∀ c ∈ (trimEndChars cs).getLast?, isBlank c = false := by
  intro c hc
  rw [trimEndChars, List.getLast?_reverse] at hc
  have h := List.head?_dropWhile_not isBlank cs.reverse
  rw [Option.mem_def.1 hc] at h
  simpa using h

theorem isPrefix_trimEndChars (cs : List Char) : trimEndChars cs <+: cs := by
  rw [← List.reverse_suffix, trimEndChars, List.reverse_reverse]
  exact List.dropWhile_suffix isBlank

/-- Nothing is cut in front of a character that is no blank. -/
theorem trimEndChars_append {cs : List Char} (h : ∀ c ∈ cs.getLast?, isBlank c = false)
    (rest : List Char) : trimEndChars (cs ++ rest) = cs ++ trimEndChars rest := by
  have hcs : cs.reverse.dropWhile isBlank = cs.reverse := by
    rw [← List.head?_reverse] at h
    cases hr : cs.reverse with
    | nil => rfl
    | cons c before =>
      rw [hr] at h
      exact List.dropWhile_cons_of_neg (by simp [h c rfl])
  rw [trimEndChars, trimEndChars, List.reverse_append, List.dropWhile_append, hcs]
  split
  · next hrest => simp [List.isEmpty_iff.1 hrest]
  · simp

end Text
end ApiReference
