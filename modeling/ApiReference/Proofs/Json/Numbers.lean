import ApiReference.Json.Reader
import ApiReference.Proofs.Text.Numeral

/-!
# Numbers are read to their end

A number has no mark at its end: the reader takes as many characters as it can. So a number is read
as it was written only if what follows it cannot go on with it, which is so at the end of a text and
in front of a comma or a closing bracket (`IsEnd`). A whole number is read back as itself
(`number_toString`). A double is read as a double again (`number_textWith`); which one is left to
the reader (`Binary64.reread`).

A whole part must not begin with a zero unless it is one. The digits of a double do not, because
none of the grids on which they are looked for gives zero (`head_shortest`).

That a double is read as the same double is not shown. It is what the digits were chosen for, but a
proof of it is a proof about rounding in both directions, and nothing in a line of the log depends
on it: of the values there only those without doubles are said to come back. What is needed is that
a double does not spoil what stands around it. It has to be read to its end, as some number, and as
the same one wherever it stands; the last of these makes `Binary64.reread` a function of the double
alone.
-/

set_option autoImplicit false

namespace ApiReference

/-! ## Digits -/

/-- The digits of a positive number do not begin with a zero. -/
theorem head?_toDigits_ne_zero {n : Nat} (h : 0 < n) : (Nat.toDigits 10 n).head? ≠ some '0' := by
  induction n using Nat.strongRecOn with
  | _ n ih =>
    rw [Nat.toDigits_eq_if (by decide)]
    split
    · rw [List.head?_cons, Ne, Option.some.injEq, Nat.digitChar_eq_zero]
      omega
    · rw [List.head?_append_of_ne_nil _ Nat.toDigits_ne_nil]
      exact ih (n / 10) (by omega) (by omega)

namespace Binary64

theorem pos_of_onGrid {v lo hi unitNum unitDen c : Nat} {closed : Bool} {place : Int}
    (h : onGrid v lo hi closed unitNum unitDen place = some c) : 0 < c := by
  delta onGrid at h
  extract_lets scale unit reads down nearest at h
  have hpos : ∀ a, reads a = true → 0 < a := fun a ha =>
    of_decide_eq_true (Bool.and_eq_true_iff.1 ha).1
  split at h
  · next ha => exact Option.some.inj h ▸ hpos _ ha
  split at h
  · next ha => exact Option.some.inj h ▸ hpos _ ha
  split at h
  · next ha => exact Option.some.inj h ▸ hpos _ ha
  · cases h

/-- The digits that are found for a number are those of a positive one. -/
theorem exists_digits_shortest (m : Nat) (e : Int) :
    ∃ c, 0 < c ∧ (shortest m e).digits = dropTrailingZeros (Nat.toDigits 10 c) := by
  rw [shortest]
  dsimp only
  generalize hfound : List.findSome? _ _ = found
  refine ⟨_, ?_, rfl⟩
  cases found with
  | none => exact Nat.one_pos
  | some cp =>
    obtain ⟨n, -, hn⟩ := List.exists_of_findSome?_eq_some hfound
    obtain ⟨c, hc, rfl⟩ := Option.map_eq_some_iff.1 hn
    exact pos_of_onGrid hc

/-- The shortest digits of a number do not begin with a zero. -/
theorem head_shortest (m : Nat) (e : Int) : ∃ c ds, (shortest m e).digits = c :: ds ∧ c ≠ '0' := by
  obtain ⟨n, hpos, hdigits⟩ := exists_digits_shortest m e
  obtain ⟨c, ds, hds⟩ := List.exists_cons_of_ne_nil (Nat.toDigits_ne_nil (n := n) (b := 10))
  refine ⟨c, ((ds.reverse.dropWhile (· == '0'))).reverse, ?_, fun hc => ?_⟩
  · rw [hdigits, hds, dropTrailingZeros]
    rfl
  · refine head?_toDigits_ne_zero hpos ?_
    rw [hds, hc]
    rfl

end Binary64

/-! ## The parts of a number -/

namespace Json

open Reader

/-- A value ends here: the text does, or a comma or a closing bracket follows. -/
def IsEnd (rest : List Char) : Prop :=
  ∀ c ∈ rest.head?, c ∈ [',', ']', '\x7d']

/-- The text does not go on with a digit. -/
def NoDigit (rest : List Char) : Prop :=
  ∀ c ∈ rest.head?, c.isDigit = false

theorem noDigit_cons {c : Char} (h : c.isDigit = false) (rest : List Char) :
    NoDigit (c :: rest) := by
  rintro d hd
  obtain rfl : c = d := Option.some.inj hd
  exact h

theorem IsEnd.noDigit {rest : List Char} (h : IsEnd rest) : NoDigit rest := by
  intro c hc
  have hmem := h c hc
  simp only [List.mem_cons, List.not_mem_nil, or_false] at hmem
  rcases hmem with rfl | rfl | rfl <;> rfl

/-- Digits, at least one. -/
def IsDigits (ds : List Char) : Prop :=
  ds ≠ [] ∧ ∀ c ∈ ds, c.isDigit = true

theorem isDigits_zero : IsDigits ['0'] :=
  ⟨List.cons_ne_nil _ _, List.all_eq_true.1 rfl⟩

/-- Digits are taken up to the first character that is none. -/
theorem digits_append {ds rest : List Char} (hds : IsDigits ds) (hrest : NoDigit rest) :
    digits (ds ++ rest) = some (ds, rest) := by
  have htake : rest.takeWhile Char.isDigit = [] := by
    cases rest with
    | nil => rfl
    | cons c cs => rw [List.takeWhile_cons, hrest c rfl]; rfl
  have hdrop : rest.dropWhile Char.isDigit = rest := by
    cases rest with
    | nil => rfl
    | cons c cs => rw [List.dropWhile_cons, hrest c rfl]; rfl
  rw [digits, List.takeWhile_append_of_pos hds.2, List.dropWhile_append_of_pos hds.2, htake, hdrop,
    List.append_nil]
  cases ds with
  | nil => exact absurd rfl hds.1
  | cons d ds => rfl

theorem fraction_of_isEnd {rest : List Char} (h : IsEnd rest) :
    fraction rest = some (none, rest) := by
  rw [fraction.eq_def]
  split
  · next h' => exact absurd (h '.' rfl) (by decide)
  · rfl

theorem exponent_of_isEnd {rest : List Char} (h : IsEnd rest) :
    exponent rest = some (none, rest) := by
  rw [exponent.eq_def]
  cases rest with
  | nil => rfl
  | cons c rest =>
    have hc := h c rfl
    simp only [List.mem_cons, List.not_mem_nil, or_false] at hc
    rcases hc with rfl | rfl | rfl <;> rfl

theorem fraction_point {ds rest : List Char} (hds : IsDigits ds) (hrest : NoDigit rest) :
    fraction ('.' :: (ds ++ rest)) = some (some ds, rest) := by
  rw [fraction, digits_append hds hrest]
  rfl

/-- The exponent is read to the same number whatever follows it. -/
theorem exponent_sign {sign : Char} (hsign : sign = '+' ∨ sign = '-') {ds : List Char}
    (hds : IsDigits ds) : ∃ n, ∀ rest, NoDigit rest →
      exponent ('e' :: sign :: (ds ++ rest)) = some (some n, rest) := by
  rcases hsign with rfl | rfl
  · refine ⟨digitsValue ds, fun rest hrest => ?_⟩
    show (digits (ds ++ rest)).map _ = _
    rw [digits_append hds hrest]
    rfl
  · refine ⟨-digitsValue ds, fun rest hrest => ?_⟩
    show (digits (ds ++ rest)).map _ = _
    rw [digits_append hds hrest]
    rfl

/-! ## Numbers -/

/-- The digits in front of the point: at least one, and no zero in front of another one. -/
structure IsWhole (ds : List Char) : Prop where
  isDigits : IsDigits ds
  head : 1 < ds.length → ds.head? ≠ some '0'

/-- The double that the parts of a number spell. -/
def decimal (negative : Bool) (whole : List Char) (frac : Option (List Char)) (exp : Option Int) :
    Binary64 :=
  .ofDecimal negative (digitsValue (whole ++ frac.getD [])) (exp.getD 0 - (frac.getD []).length)

section Parts

variable (negative : Bool) {whole tail afterPoint rest : List Char} {frac : Option (List Char)}
  {exp : Option Int} (hwhole : IsWhole whole) (htail : NoDigit tail)
  (hfrac : fraction tail = some (frac, afterPoint)) (hexp : exponent afterPoint = some (exp, rest))

include hwhole htail hfrac hexp

/-- A number is read part by part. -/
theorem unsigned_append : unsigned negative (whole ++ tail) =
    some (if frac.isNone && exp.isNone then
        .int (if negative then -digitsValue whole else digitsValue whole)
      else .float (decimal negative whole frac exp), rest) := by
  have hword : "Infinity".toList = ['I', 'n', 'f', 'i', 'n', 'i', 't', 'y'] := rfl
  have hinfinity : "Infinity".toList.isPrefixOf (whole ++ tail) = false := by
    obtain ⟨c, cs, rfl⟩ := List.exists_cons_of_ne_nil hwhole.isDigits.1
    have hc : ('I' == c) = false := by
      rw [beq_eq_false_iff_ne]
      rintro rfl
      exact absurd (hwhole.isDigits.2 'I' List.mem_cons_self) (by decide)
    rw [hword, List.cons_append, List.isPrefixOf, hc, Bool.false_and]
  have hzero : ¬ (decide (1 < whole.length) && whole.head? == some '0') = true := by
    rw [Bool.and_eq_true, decide_eq_true_eq, beq_iff_eq]
    exact fun h => hwhole.head h.1 h.2
  rw [unsigned, hinfinity, if_neg Bool.false_ne_true, digits_append hwhole.isDigits htail]
  simp only [Option.bind_eq_bind, Option.bind_some, hzero, hfrac, hexp]
  cases frac.isNone && exp.isNone <;> rfl

/-- A number with a point or an exponent is read as a double. -/
theorem unsigned_float (h : (frac.isNone && exp.isNone) = false) :
    unsigned negative (whole ++ tail) = some (.float (decimal negative whole frac exp), rest) := by
  rw [unsigned_append negative hwhole htail hfrac hexp, h, if_neg Bool.false_ne_true]

end Parts

theorem number_of_unsigned (negative : Bool) {cs : List Char} (h : cs.head? ≠ some '-') :
    number (if negative then '-' :: cs else cs) = unsigned negative cs := by
  cases negative with
  | true => rfl
  | false =>
    rw [if_neg Bool.false_ne_true, number.eq_def]
    split
    · exact absurd rfl h
    · rfl

/-- A number whose sign is read does not begin with another one. -/
theorem head?_ne_minus_of_unsigned {negative : Bool} {cs : List Char} {read : Coded × List Char}
    (h : unsigned negative cs = some read) : cs.head? ≠ some '-' := by
  intro hminus
  obtain ⟨tail, rfl⟩ := List.head?_eq_some_iff.1 hminus
  cases h

theorem head?_append_ne_minus {ds : List Char} (hds : IsDigits ds) (rest : List Char) :
    (ds ++ rest).head? ≠ some '-' := by
  obtain ⟨c, cs, rfl⟩ := List.exists_cons_of_ne_nil hds.1
  intro hc
  obtain rfl : c = '-' := Option.some.inj hc
  exact absurd (hds.2 '-' List.mem_cons_self) (by decide)

/-! ### Whole numbers -/

theorem isWhole_toDigits (n : Nat) : IsWhole (Nat.toDigits 10 n) where
  isDigits := ⟨Nat.toDigits_ne_nil, fun _ hc => Binary64.isDigit_of_mem_toDigits hc⟩
  head hlength := by
    rcases Nat.eq_zero_or_pos n with rfl | hpos
    · rw [Nat.toDigits_zero] at hlength
      exact absurd hlength (by decide)
    · exact head?_toDigits_ne_zero hpos

/-- The digits of a number have the value of the number. -/
theorem digitsValue_toDigits (n : Nat) : digitsValue (Nat.toDigits 10 n) = n := by
  rw [digitsValue]
  exact Nat.ofDigitChars_eq_foldl.symm.trans Nat.ofDigitChars_ten_toDigits

/-- A whole number is written as a sign, if it is negative, and its digits. -/
theorem toList_toString_int (n : Int) : (toString n).toList =
    if decide (n < 0) then '-' :: Nat.toDigits 10 n.natAbs else Nat.toDigits 10 n.natAbs := by
  rw [Int.toString_eq_repr, Int.repr_eq_if]
  by_cases hn : 0 ≤ n
  · have habs : n.toNat = n.natAbs := by omega
    rw [if_pos hn, if_neg (by simpa using hn), Nat.repr_eq_ofList_toDigits, String.toList_ofList,
      habs]
  · have habs : (-n).toNat = n.natAbs := by omega
    rw [if_neg hn, if_pos (by simpa using hn), String.toList_append, Nat.repr_eq_ofList_toDigits,
      habs]
    exact congrArg ('-' :: ·) String.toList_ofList

/-- **A whole number is read back as itself.** -/
theorem number_toString (n : Int) {rest : List Char} (hrest : IsEnd rest) :
    number ((toString n).toList ++ rest) = some (.int n, rest) := by
  have hwhole := isWhole_toDigits n.natAbs
  have hsplit : (toString n).toList ++ rest =
      if decide (n < 0) then '-' :: (Nat.toDigits 10 n.natAbs ++ rest)
      else Nat.toDigits 10 n.natAbs ++ rest := by
    rw [toList_toString_int]
    split <;> rfl
  have hvalue : (if decide (n < 0) then -(n.natAbs : Int) else n.natAbs) = n := by
    split
    · next h =>
      have := of_decide_eq_true h
      omega
    · next h =>
      have := of_decide_eq_false (Bool.not_eq_true _ ▸ h)
      omega
  rw [hsplit, number_of_unsigned _ (head?_append_ne_minus hwhole.isDigits rest),
    unsigned_append _ hwhole hrest.noDigit (fraction_of_isEnd hrest) (exponent_of_isEnd hrest),
    digitsValue_toDigits]
  exact congrArg (fun m => some (Coded.int m, rest)) hvalue

/-! ### Doubles -/

theorem isDigits_zeros_append (n : Nat) {ds : List Char} (hds : IsDigits ds) :
    IsDigits (Binary64.zeros n ++ ds) :=
  ⟨List.append_ne_nil_of_right_ne_nil _ hds.1, fun c hc => (List.mem_append.1 hc).elim
    Binary64.isDigit_of_mem_zeros (hds.2 c)⟩

section Layout

variable (negative : Bool) {d : Binary64.Digits} (hd : IsDigits d.digits)
  (hzero : d.digits.head? ≠ some '0')

include hd hzero

/-- Digits with a point in their place are read as a double. -/
theorem unsigned_positional : ∃ y, ∀ rest, IsEnd rest →
    unsigned negative (Binary64.positional d ++ rest) = some (.float y, rest) := by
  have hpoint {whole frac : List Char} (hwhole : IsWhole whole) (hfrac : IsDigits frac) :
      ∃ y, ∀ rest, IsEnd rest →
        unsigned negative (whole ++ '.' :: frac ++ rest) = some (.float y, rest) := by
    refine ⟨decimal negative whole (some frac) none, fun rest hrest => ?_⟩
    rw [List.append_assoc, List.cons_append]
    exact unsigned_float negative hwhole (noDigit_cons (by decide) _)
      (fraction_point hfrac hrest.noDigit) (exponent_of_isEnd hrest) rfl
  rw [Binary64.positional]
  split
  -- the point stands in front of the digits, and a zero is written before it
  · have hwhole : IsWhole ['0'] := ⟨isDigits_zero, by decide⟩
    exact hpoint hwhole (isDigits_zeros_append _ hd)
  -- the point stands among the digits or behind them, so the first digit, no zero, comes first
  · next hpos =>
    obtain ⟨c, ds, hcons⟩ := List.exists_cons_of_ne_nil hd.1
    obtain ⟨n, hn⟩ : ∃ n, d.point.toNat = n + 1 := ⟨d.point.toNat - 1, by omega⟩
    have htake : d.digits.take d.point.toNat = c :: ds.take n := by
      rw [hcons, hn, List.take_succ_cons]
    have hc : c ≠ '0' := by
      rintro rfl
      exact hzero (by rw [hcons]; rfl)
    dsimp only
    refine hpoint ⟨⟨?_, fun c hc => ?_⟩, fun _ => ?_⟩ ?_
    · rw [htake]
      exact List.cons_ne_nil _ _
    · rcases List.mem_append.1 hc with hc | hc
      · exact hd.2 c (List.mem_of_mem_take hc)
      · exact Binary64.isDigit_of_mem_zeros hc
    · rw [htake]
      exact fun h => hc (Option.some.inj h)
    · split
      · exact isDigits_zero
      · next hne => exact ⟨hne, fun c hc => hd.2 c (List.mem_of_mem_drop hc)⟩

omit hzero in
/-- Digits with an exponent are read as a double. -/
theorem unsigned_scientific : ∃ y, ∀ rest, IsEnd rest →
    unsigned negative (Binary64.scientific d ++ rest) = some (.float y, rest) := by
  obtain ⟨c, ds, hcons⟩ := List.exists_cons_of_ne_nil hd.1
  rw [hcons] at hd
  have hwhole : IsWhole [c] :=
    ⟨⟨List.cons_ne_nil _ _, fun b hb => hd.2 b (List.mem_singleton.1 hb ▸ List.mem_cons_self)⟩,
      fun h => absurd h (Nat.lt_irrefl 1)⟩
  obtain ⟨sign, size, hsign, hsize, hexponent⟩ : ∃ sign size, (sign = '+' ∨ sign = '-') ∧
      IsDigits size ∧ Binary64.exponentPart d.point = 'e' :: sign :: size := by
    refine ⟨_, _, ?_, isDigits_zeros_append _ (isWhole_toDigits _).isDigits, rfl⟩
    split
    · exact Or.inr rfl
    · exact Or.inl rfl
  obtain ⟨n, hn⟩ := exponent_sign hsign hsize
  rw [Binary64.scientific, hcons, hexponent]
  -- a single digit is written without a point
  cases ds with
  | nil =>
    refine ⟨decimal negative [c] none (some n), fun rest hrest => ?_⟩
    have htail : NoDigit ('e' :: sign :: (size ++ rest)) := noDigit_cons (by decide) _
    exact unsigned_float negative hwhole htail rfl (hn rest hrest.noDigit) rfl
  | cons b ds =>
    have hfrac : IsDigits (b :: ds) :=
      ⟨List.cons_ne_nil _ _, fun a ha => hd.2 a (List.mem_cons_of_mem c ha)⟩
    refine ⟨decimal negative [c] (some (b :: ds)) (some n), fun rest hrest => ?_⟩
    have hsplit : [c] ++ '.' :: (b :: ds) ++ 'e' :: sign :: size ++ rest =
        [c] ++ '.' :: ((b :: ds) ++ 'e' :: sign :: (size ++ rest)) := by simp
    show unsigned negative ([c] ++ '.' :: (b :: ds) ++ 'e' :: sign :: size ++ rest) = _
    rw [hsplit]
    exact unsigned_float negative hwhole (noDigit_cons (by decide) _)
      (fraction_point hfrac (noDigit_cons (by decide) _)) (hn rest hrest.noDigit) rfl

end Layout

/-- The text of a double other than the infinite ones is read as a double. -/
theorem unsigned_finite (negative : Bool) (m : Nat) (e : Int) : ∃ y, ∀ rest, IsEnd rest →
    unsigned negative ((if m = 0 then ['0', '.', '0'] else Binary64.layout (Binary64.shortest m e))
      ++ rest) = some (.float y, rest) := by
  split
  · refine ⟨decimal negative ['0'] (some ['0']) none, fun rest hrest => ?_⟩
    exact unsigned_float negative ⟨isDigits_zero, by decide⟩ (noDigit_cons (by decide) _)
      (fraction_point isDigits_zero hrest.noDigit) (exponent_of_isEnd hrest) rfl
  · obtain ⟨c, ds, hcons, hc⟩ := Binary64.head_shortest m e
    have hd : IsDigits (Binary64.shortest m e).digits :=
      ⟨hcons ▸ List.cons_ne_nil c ds, fun _ => Binary64.isDigit_of_mem_shortest⟩
    rw [Binary64.layout]
    split
    · refine unsigned_positional negative hd ?_
      rw [hcons]
      exact fun h => hc (Option.some.inj h)
    · exact unsigned_scientific negative hd

end Json

/-- The double that is read of the text of a double. -/
def Binary64.reread (x : Binary64) : Binary64 :=
  match Json.Reader.number (x.textWith "Infinity").toList with
  | some (.float y, _) => y
  | _ => x

/-- **A double is read as a double again**, and as the same one whatever follows it. -/
theorem Json.number_textWith (x : Binary64) {rest : List Char} (hrest : IsEnd rest) :
    Reader.number ((x.textWith "Infinity").toList ++ rest) = some (.float x.reread, rest) := by
  have hread : ∃ y, ∀ rest, IsEnd rest →
      Reader.number ((x.textWith "Infinity").toList ++ rest) = some (.float y, rest) := by
    cases x with
    | finite negative m e =>
      obtain ⟨y, hy⟩ := unsigned_finite negative m e
      refine ⟨y, fun rest hrest => ?_⟩
      have hminus := head?_ne_minus_of_unsigned (hy rest hrest)
      rw [← hy rest hrest, ← number_of_unsigned negative hminus, Binary64.textWith,
        String.toList_ofList]
      split <;> rfl
    | infinite negative =>
      refine ⟨.infinite negative, fun rest _ => ?_⟩
      cases negative <;> rfl
  obtain ⟨y, hy⟩ := hread
  have hy' : x.reread = y := by
    have hnil := hy [] (fun c hc => by cases hc)
    rw [List.append_nil] at hnil
    rw [Binary64.reread, hnil]
  rw [hy', hy rest hrest]

end ApiReference
