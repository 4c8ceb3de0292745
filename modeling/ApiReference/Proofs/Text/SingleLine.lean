import ApiReference.Proofs.Text.Numeral
import ApiReference.Text.Blank
import ApiReference.Text.Line
import Mathlib.Data.Bool.AllAny
import Mathlib.Data.List.TakeWhile

/-!
# Texts of a single line

A text is a single line if it has no line break. A text put together from others is one exactly if
all of them are (`isLine_append_iff`, `isLine_intercalate_iff`), and the text of a number always is
one (`isLine_of_isNumeral`, `isLine_toString_int`). Of any other text, the first line is the longest
single line that the text starts with (`isFirstLine_firstLine`).

Ten characters break a line, as `Text.isLineBreak` lists them. That a text has none of them is a
property of its characters one by one, which is why it goes through appending and through taking
parts of a text, and why no order of the parts matters.

`IsFirstLine` says what the first line is without saying how it is found. It is asked to be long as
well as single: the empty text is a single line that every text starts with.
-/

set_option autoImplicit false

namespace ApiReference
namespace Text

/-- No character of the text ends a line. -/
def IsLine (s : String) : Prop :=
  ∀ c ∈ s.toList, isLineBreak c = false

instance (s : String) : Decidable (IsLine s) :=
  List.decidableBAll (fun c => isLineBreak c = false) s.toList

theorem isLine_ofList_iff {cs : List Char} :
    IsLine (String.ofList cs) ↔ ∀ c ∈ cs, isLineBreak c = false := by
  rw [IsLine, String.toList_ofList]

/-- Two texts put together are a single line exactly if both are. -/
theorem isLine_append_iff {s t : String} : IsLine (s ++ t) ↔ IsLine s ∧ IsLine t := by
  simp only [IsLine, String.toList_append, List.forall_mem_append]

/-- Texts joined by a single line are a single line exactly if each of them is one. -/
theorem isLine_intercalate_iff {separator : String} (h : IsLine separator) {texts : List String} :
    IsLine (separator.intercalate texts) ↔ ∀ s ∈ texts, IsLine s := by
  induction texts with
  | nil => simp [IsLine]
  | cons s rest ih =>
    cases rest with
    | nil => simp
    | cons next rest =>
      rw [List.forall_mem_cons, ← ih, String.intercalate_cons_cons, isLine_append_iff,
        isLine_append_iff]
      exact ⟨fun hs => ⟨hs.1.1, hs.2⟩, fun hs => ⟨⟨hs.1, h⟩, hs.2⟩⟩

/-! ## Parts of a text -/

/-- A text without some of its characters. -/
theorem IsLine.of_subset {s t : String} (h : IsLine s) (hsub : t.toList ⊆ s.toList) : IsLine t :=
  fun c hc => h c (hsub hc)

theorem IsLine.trimEnd {s : String} (h : IsLine s) : IsLine (trimEnd s) := by
  refine h.of_subset ?_
  rw [Text.trimEnd, String.toList_ofList]
  exact (isPrefix_trimEndChars s.toList).subset

/-- Of the texts that `s` starts with and that are a single line, `line` is the longest. -/
structure IsFirstLine (line s : String) : Prop where
  start : line.toList <+: s.toList
  isLine : IsLine line
  longest : ∀ other : String, other.toList <+: s.toList → IsLine other →
    other.length ≤ line.length

theorem isLine_firstLine (s : String) : IsLine (firstLine s) := by
  rw [firstLine, isLine_ofList_iff, firstLineChars]
  intro c hc
  simpa using List.mem_takeWhile_imp hc

/-- **`firstLine` cuts a text in front of its first line break**, no earlier and no later. -/
theorem isFirstLine_firstLine (s : String) : IsFirstLine (firstLine s) s where
  start := by
    rw [firstLine, String.toList_ofList]
    exact List.takeWhile_prefix _
  isLine := isLine_firstLine s
  longest other hother hline := by
    obtain ⟨rest, hrest⟩ := hother
    have hall : ∀ c ∈ other.toList, (!isLineBreak c) = true := by simpa [IsLine] using hline
    rw [firstLine, firstLineChars, ← hrest, List.takeWhile_append_of_pos hall]
    simp

/-! ## Numbers -/

theorem isLineBreak_of_isDigit {c : Char} (h : c.isDigit = true) : isLineBreak c = false := by
  obtain ⟨hlow, hhigh⟩ := Char.isDigit_iff_toNat.1 h
  have hlow : 48 ≤ c.toNat := hlow
  have hhigh : c.toNat ≤ 57 := hhigh
  simp only [isLineBreak, inRanges, lineBreakRanges, List.any_cons, List.any_nil,
    Bool.or_eq_false_iff, Bool.and_eq_false_iff, decide_eq_false_iff_not, and_true]
  omega

/-- The text of a number is a single line. -/
theorem isLine_of_isNumeral {s : String} (h : Binary64.IsNumeral s.toList) : IsLine s :=
  h.forall_mem (fun _ => isLineBreak_of_isDigit) (List.all_iff_forall_prop.1 (by decide))

theorem isLine_toString_int (n : Int) : IsLine (toString n) :=
  isLine_of_isNumeral (Binary64.isNumeral_toString_int n)

end Text
end ApiReference
