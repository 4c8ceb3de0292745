import ApiReference.Json.Reader
import ApiReference.Json.Writer
import ApiReference.Proofs.Text.CodePoint

/-!
# Strings are read back as they were written

A string is written code point by code point, so that everything here is shown of one code point
first: what is written for it is printable ASCII (`isPlain_of_mem_escape`), and what is written for
it is read as its UTF-16 units (`stringCodes_escape`). The units of the whole string are then put
together again, so that a string is read as what comes back of its code points (`string_writeText`):
as itself, unless two halves next to each other make a pair.

A character can be written in four ways, and reading does not care which of them the writer chose.
So the choice is split once, in `escape_escapeChar`, and both facts about characters are read off
the ways.

Reading is in two passes, and so is the proof. The first pass undoes the escapes and gives units,
where each code point can be taken on its own, whatever stands next to it. Only the second pass
joins units of different escapes, and it is about lists of numbers and no longer about a text; what
it does is the subject of `ApiReference.Proofs.Text.CodePoint`.
-/

set_option autoImplicit false

namespace ApiReference

open Text

namespace Json

open Reader

/-- A printable ASCII character. -/
def IsPlain (c : Char) : Prop :=
  0x20 ≤ c.toNat ∧ c.toNat ≤ 0x7e

instance (c : Char) : Decidable (IsPlain c) :=
  inferInstanceAs (Decidable (_ ∧ _))

theorem isPlain_of_all {cs : List Char} (h : cs.all (fun c => decide (IsPlain c)) = true) :
    ∀ c ∈ cs, IsPlain c :=
  fun c hc => of_decide_eq_true (List.all_eq_true.1 h c hc)

theorem isPlain_of_isDigit {c : Char} (h : c.isDigit = true) : IsPlain c := by
  have h0 : '0'.toNat = 48 := rfl
  have h9 : '9'.toNat = 57 := rfl
  rw [Char.isDigit_iff_toNat, h0, h9] at h
  exact ⟨by omega, by omega⟩

/-! ## Escapes

What is written for a code point has no plain quote in it and leaves no backslash open at its end,
so the reader is back between two code points when it has passed it. The lemmas say so by what is
read of the rest. -/

theorem hexValue?_hexDigit {n : Nat} (h : n < 16) : hexValue? (Text.hexDigit n) = some n := by
  revert n
  decide

theorem isPlain_hexDigit {n : Nat} (h : n < 16) : IsPlain (Text.hexDigit n) := by
  revert n
  decide

theorem isPlain_of_mem_hexDigits {width n : Nat} {c : Char} (h : c ∈ Text.hexDigits width n) :
    IsPlain c := by
  induction width generalizing n with
  | zero => cases h
  | succ width ih =>
    rw [Text.hexDigits, List.mem_append, List.mem_singleton] at h
    rcases h with h | rfl
    · exact ih h
    · exact isPlain_hexDigit (Nat.mod_lt n (by decide))

/-- Four hexadecimal digits spell the unit that they were written for. -/
theorem hexUnit?_hexDigits {n : Nat} (h : n < 0x10000) :
    ∃ a b c d, Text.hexDigits 4 n = [a, b, c, d] ∧ hexUnit? a b c d = some n := by
  refine ⟨_, _, _, _, rfl, ?_⟩
  have hdigit : ∀ m, hexValue? (Text.hexDigit (m % 16)) = some (m % 16) := fun m =>
    hexValue?_hexDigit (Nat.mod_lt m (by decide))
  rw [hexUnit?, hdigit, hdigit, hdigit, hdigit]
  refine congrArg some ?_
  omega

/-- The units in front of those that are read of the rest. -/
abbrev prepend (ns : List Nat) (read : Option (List Nat × List Char)) :
    Option (List Nat × List Char) :=
  read.map fun r => (ns ++ r.1, r.2)

/-- An escape with four digits is read as the unit that they spell. -/
theorem stringCodes_unitEscape {n : Nat} (h : n < 0x10000) (rest : List Char) :
    stringCodes (unitEscape n ++ rest) = prepend [n] (stringCodes rest) := by
  obtain ⟨a, b, c, d, hdigits, hunit⟩ := hexUnit?_hexDigits h
  rw [unitEscape, hdigits]
  show stringCodes ('\\' :: 'u' :: a :: b :: c :: d :: rest) = _
  rw [stringCodes]
  simp only [hunit]
  cases stringCodes rest <;> rfl

/-- An escape of one letter is read as the character that it stands for. -/
theorem stringCodes_shortEscape {e c : Char} (he : shortEscape? e = some c) (hu : e ≠ 'u')
    (rest : List Char) :
    stringCodes ('\\' :: e :: rest) = prepend [c.toNat] (stringCodes rest) := by
  rw [stringCodes.eq_def]
  dsimp only
  rw [if_neg (by decide), if_pos (beq_self_eq_true _), if_neg (by simpa using hu), he]
  cases stringCodes rest <;> rfl

/-- A character that needs no escape is read as itself. -/
theorem stringCodes_plain {c : Char} (hplain : IsPlain c) (hquote : c ≠ '"')
    (hbackslash : c ≠ '\\') (rest : List Char) :
    stringCodes (c :: rest) = prepend [c.toNat] (stringCodes rest) := by
  rw [stringCodes.eq_def]
  dsimp only
  rw [if_neg (by simpa using hquote), if_neg (by simpa using hbackslash),
    if_neg (Nat.not_lt.2 hplain.1)]
  cases stringCodes rest <;> rfl

/-- The ways in which a character is written. -/
inductive Escape (c : Char) : List Char → Prop where
  | short {e : Char} (h : shortEscape? e = some c) (hu : e ≠ 'u') (he : IsPlain e)
      (hc : c.toNat < 0x10000) : Escape c ['\\', e]
  | plain (h : IsPlain c) (hquote : c ≠ '"') (hbackslash : c ≠ '\\') : Escape c [c]
  | unit (h : c.toNat < 0x10000) : Escape c (unitEscape c.toNat)
  | pair (h : ¬ c.toNat < 0x10000) :
      Escape c (unitEscape (surrogates c.toNat).1 ++ unitEscape (surrogates c.toNat).2)

/-- A character is written in one of the ways. -/
theorem escape_escapeChar (c : Char) : Escape c (escapeChar c) := by
  have hshort (e d : Char) (h : shortEscape? e = some d) (hu : e ≠ 'u') (he : IsPlain e)
      (hd : d.toNat < 0x10000) (hc : (c == d) = true) : Escape c ['\\', e] :=
    beq_iff_eq.1 hc ▸ .short h hu he hd
  rw [escapeChar]
  split
  · next hc => exact hshort '"' '"' rfl (by decide) (by decide) (by decide) hc
  split
  · next hc => exact hshort '\\' '\\' rfl (by decide) (by decide) (by decide) hc
  split
  · next hc => exact hshort 'n' '\n' rfl (by decide) (by decide) (by decide) hc
  split
  · next hc => exact hshort 'r' '\r' rfl (by decide) (by decide) (by decide) hc
  split
  · next hc => exact hshort 't' '\t' rfl (by decide) (by decide) (by decide) hc
  split
  · next hc => exact hshort 'f' '\x0c' rfl (by decide) (by decide) (by decide) hc
  split
  · next hc => exact hshort 'b' '\x08' rfl (by decide) (by decide) (by decide) hc
  -- past the short escapes, the character is neither a quote nor a backslash
  next hquote hbackslash _ _ _ _ _ =>
  split
  · next h =>
    rw [Bool.and_eq_true, decide_eq_true_eq, decide_eq_true_eq] at h
    exact .plain h (by simpa using hquote) (by simpa using hbackslash)
  split
  · next h => exact .unit h
  · next h => exact .pair h

theorem isPlain_of_mem_unitEscape {n : Nat} {d : Char} (h : d ∈ unitEscape n) : IsPlain d := by
  rw [unitEscape, List.mem_cons, List.mem_cons] at h
  rcases h with rfl | rfl | h
  · decide
  · decide
  · exact isPlain_of_mem_hexDigits h

theorem isPlain_of_mem_escapeChar {c d : Char} (h : d ∈ escapeChar c) : IsPlain d := by
  have hc := escape_escapeChar c
  generalize escapeChar c = text at h hc
  cases hc with
  | short _ _ he _ =>
    rw [List.mem_cons, List.mem_singleton] at h
    rcases h with rfl | rfl
    · decide
    · exact he
  | plain hplain _ _ => exact List.mem_singleton.1 h ▸ hplain
  | unit _ => exact isPlain_of_mem_unitEscape h
  | pair _ =>
    exact (List.mem_append.1 h).elim isPlain_of_mem_unitEscape isPlain_of_mem_unitEscape

/-- **What is written for a code point is printable ASCII.** -/
theorem isPlain_of_mem_escape {a : CodePoint} {d : Char} (h : d ∈ escape a) : IsPlain d := by
  cases a with
  | char c => exact isPlain_of_mem_escapeChar h
  | half n => exact isPlain_of_mem_unitEscape h

/-- What is written for a character is read as its units. -/
theorem stringCodes_escapeChar (c : Char) (rest : List Char) :
    stringCodes (escapeChar c ++ rest) = prepend (CodePoint.char c).units (stringCodes rest) := by
  have hvalid := toNat_valid c
  have hc := escape_escapeChar c
  generalize escapeChar c = text at hc ⊢
  rw [CodePoint.units]
  cases hc with
  | short h hu _ hc =>
    rw [if_pos hc]
    exact stringCodes_shortEscape h hu rest
  | plain h hquote hbackslash =>
    rw [if_pos (Nat.lt_of_le_of_lt h.2 (by decide))]
    exact stringCodes_plain h hquote hbackslash rest
  | unit h =>
    rw [if_pos h]
    exact stringCodes_unitEscape h rest
  | pair h =>
    have hlt := surrogates_lt (n := c.toNat) (by omega)
    rw [if_neg h, List.append_assoc, stringCodes_unitEscape hlt.1, stringCodes_unitEscape hlt.2]
    cases stringCodes rest <;> rfl

/-- **What is written for a code point is read as its units.** -/
theorem stringCodes_escape (a : CodePoint) (rest : List Char) :
    stringCodes (escape a ++ rest) = prepend a.units (stringCodes rest) := by
  cases a with
  | char c => exact stringCodes_escapeChar c rest
  | half n => exact stringCodes_unitEscape (by omega) rest

/-! ## Strings -/

theorem isPlain_of_mem_writeText {cs : List CodePoint} {d : Char} (h : d ∈ Coded.writeText cs) :
    IsPlain d := by
  rw [Coded.writeText, List.mem_append, List.mem_cons, List.mem_singleton] at h
  rcases h with (rfl | h) | rfl
  · decide
  · obtain ⟨a, -, hd⟩ := List.mem_flatMap.1 h
    exact isPlain_of_mem_escape hd
  · decide

/-- A string is read up to its closing quote, as the units of its code points. -/
theorem stringCodes_flatMap (cs : List CodePoint) (rest : List Char) :
    stringCodes (cs.flatMap escape ++ '"' :: rest) = some (cs.flatMap CodePoint.units, rest) := by
  induction cs with
  | nil =>
    rw [List.flatMap_nil, List.nil_append, stringCodes.eq_def]
    rfl
  | cons a cs ih =>
    rw [List.flatMap_cons, List.append_assoc, stringCodes_escape, ih]
    rfl

/-- **A string is read as what comes back of its code points**, whatever follows it. -/
theorem string_writeText (cs : List CodePoint) (rest : List Char) :
    ∃ body, Coded.writeText cs ++ rest = '"' :: body ∧ string body = some (joined cs, rest) := by
  refine ⟨cs.flatMap escape ++ '"' :: rest, ?_, ?_⟩
  · rw [Coded.writeText, List.append_assoc]
    rfl
  · rw [string, stringCodes_flatMap]
    rfl

end Json
end ApiReference
