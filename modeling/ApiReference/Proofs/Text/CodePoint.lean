import ApiReference.Text.CodePoint
import Mathlib.Data.List.Chain

/-!
# Which texts come back when their units are carried

A text is carried as UTF-16 units and put together again (`joined`). A character comes back whatever
stands next to it, because neither its one unit nor the outer ones of its two are taken for a part
of something else (`joinHalves_units_char`). The first half of a pair is lost exactly if the second
half of one follows it. So a text comes back as it was if and only if it is *unpaired*
(`joined_eq_self_iff`), and a string always does (`joined_codePoints`): it has no halves at all.

The condition looks at neighbours only. Three halves in a row, a first one, a second one and another
second one, come back as a character and a half: the first two make a pair, and the third has
nothing left to pair with. A first half in front of a pair stays as well, since what follows it is a
first half and not a second one.

That a text with a pair in it does not come back is seen at the pair: a character is read where the
text has a half. For this the text is followed from the left up to its first pair, and everything in
front of that comes back as it was.

## What is here

* `surrogates`, `pairCode`, `isHigh`, `isLow`: the arithmetic of pairs, in the lemmas of the first
  section.
* `IsPair`, `IsUnpaired`: the texts that come back.
* `joined_eq_self_iff`: they are all that do.
-/

set_option autoImplicit false

namespace ApiReference
namespace Text

/-! ## Codes and units -/

/-- The code of a character is no half of a surrogate pair. -/
theorem toNat_valid (c : Char) : c.toNat < 0xd800 ∨ 0xdfff < c.toNat ∧ c.toNat < 0x110000 :=
  c.valid

theorem surrogates_lt {n : Nat} (h : n < 0x110000) :
    (surrogates n).1 < 0x10000 ∧ (surrogates n).2 < 0x10000 := by
  simp only [surrogates]
  omega

/-- A character is got back from the two units that carry it. -/
theorem pairCode_surrogates {n : Nat} (h : 0x10000 ≤ n) :
    pairCode (surrogates n).1 (surrogates n).2 = n := by
  unfold pairCode surrogates
  dsimp only
  omega

theorem isHigh_iff {n : Nat} : isHigh n = true ↔ 0xd800 ≤ n ∧ n < 0xdc00 := by
  simp [isHigh]

theorem isLow_iff {n : Nat} : isLow n = true ↔ 0xdc00 ≤ n ∧ n < 0xe000 := by
  simp [isLow]

theorem ofCode_toNat (c : Char) : CodePoint.ofCode c.toNat = .char c := by
  have hvalid := toNat_valid c
  rw [CodePoint.ofCode, dif_neg (by omega), Char.ofNat_toNat]

theorem ofCode_half (n : Fin 0x800) : CodePoint.ofCode (0xd800 + n) = .half n := by
  rw [CodePoint.ofCode, dif_pos ⟨by omega, by omega⟩]
  exact congrArg CodePoint.half (Fin.ext (Nat.add_sub_cancel_left _ _))

/-- A unit that makes no pair with the next one stands for itself. -/
theorem joinHalves_cons {n : Nat} {ns : List Nat}
    (h : isHigh n = true → ∀ m ∈ ns.head?, isLow m = false) :
    joinHalves (n :: ns) = .ofCode n :: joinHalves ns := by
  cases ns with
  | nil => rfl
  | cons m ns =>
    have hpair : ¬ (isHigh n && isLow m) = true := by
      rw [Bool.and_eq_true]
      rintro ⟨hn, hm⟩
      exact Bool.false_ne_true ((h hn m rfl).symm.trans hm)
    rw [joinHalves, if_neg hpair]

/-- **The units of a character are joined to the character again**, whatever units follow. -/
theorem joinHalves_units_char (c : Char) (ns : List Nat) :
    joinHalves ((CodePoint.char c).units ++ ns) = .char c :: joinHalves ns := by
  have hvalid := toNat_valid c
  rw [CodePoint.units]
  split
  · have hhigh : ¬ isHigh c.toNat = true := by
      rw [isHigh_iff]
      omega
    rw [List.singleton_append, joinHalves_cons fun h => absurd h hhigh, ofCode_toNat]
  · have hhigh : isHigh (surrogates c.toNat).1 = true := by
      rw [isHigh_iff, surrogates]
      omega
    have hlow : isLow (surrogates c.toNat).2 = true := by
      rw [isLow_iff, surrogates]
      omega
    have hcode : pairCode (surrogates c.toNat).1 (surrogates c.toNat).2 = c.toNat :=
      pairCode_surrogates (by omega)
    rw [List.cons_append, List.singleton_append, joinHalves, if_pos (by rw [hhigh, hlow]; rfl),
      hcode, Char.ofNat_toNat]

/-! ## Pairs

Only halves can make a pair, and only in one order. Whether a code point comes back depends on the
next one alone: the reader goes through the units from the left, and what is in front of a first
half has never need of it. -/

/-- The code points are the two halves of a surrogate pair. -/
def IsPair : CodePoint → CodePoint → Prop
  | .half n, .half m => n.val < 0x400 ∧ 0x400 ≤ m.val
  | _, _ => False

instance (a b : CodePoint) : Decidable (IsPair a b) :=
  match a, b with
  | .half _, .half _ => inferInstanceAs (Decidable (_ ∧ _))
  | .char _, _ => inferInstanceAs (Decidable False)
  | .half _, .char _ => inferInstanceAs (Decidable False)

/-- No half of a surrogate pair is followed by the half that completes it. -/
def IsUnpaired (cs : List CodePoint) : Prop :=
  cs.IsChain fun a b => ¬ IsPair a b

instance (cs : List CodePoint) : Decidable (IsUnpaired cs) :=
  inferInstanceAs (Decidable (cs.IsChain fun a b => ¬ IsPair a b))

/-- A text whose first unit is the second half of a pair begins with that half. -/
theorem exists_half_of_isLow {cs : List CodePoint} {m : Nat}
    (hm : m ∈ (cs.flatMap CodePoint.units).head?) (hlow : isLow m = true) :
    ∃ k : Fin 0x800, cs.head? = some (.half k) ∧ 0x400 ≤ k.val := by
  rw [isLow_iff] at hlow
  cases cs with
  | nil => cases hm
  | cons b rest =>
    cases b with
    | half k =>
      obtain rfl : 0xd800 + k.val = m := Option.some.inj hm
      exact ⟨k, rfl, by omega⟩
    | char c =>
      -- neither the code of a character nor the first of its two units is the half of a pair
      have hvalid := toNat_valid c
      rw [List.flatMap_cons, CodePoint.units] at hm
      split at hm
      · obtain rfl : c.toNat = m := Option.some.inj hm
        omega
      · obtain rfl : (surrogates c.toNat).1 = m := Option.some.inj hm
        rw [surrogates] at hlow
        omega

/-- A code point that makes no pair with the next one comes back. -/
theorem joined_cons {a : CodePoint} {cs : List CodePoint} (h : ∀ b ∈ cs.head?, ¬ IsPair a b) :
    joined (a :: cs) = a :: joined cs := by
  cases a with
  | char c => exact joinHalves_units_char c _
  | half n =>
    have hnext : isHigh (0xd800 + n.val) = true →
        ∀ m ∈ (cs.flatMap CodePoint.units).head?, isLow m = false := by
      intro hhigh m hm
      rw [isHigh_iff] at hhigh
      by_contra hlow
      obtain ⟨k, hk, hge⟩ := exists_half_of_isLow hm (Bool.not_eq_false _ ▸ hlow)
      exact h _ hk ⟨by omega, hge⟩
    rw [joined, List.flatMap_cons]
    exact (joinHalves_cons hnext).trans (congrArg (· :: joined cs) (ofCode_half n))

/-- The halves of a pair come back as one character. -/
theorem joined_of_isPair {a b : CodePoint} (h : IsPair a b) (cs : List CodePoint) :
    ∃ c, joined (a :: b :: cs) = .char c :: joined cs := by
  cases a with
  | char c => cases h
  | half n =>
    cases b with
    | char c => cases h
    | half m =>
      obtain ⟨hn, hm⟩ : n.val < 0x400 ∧ 0x400 ≤ m.val := h
      have hhigh : isHigh (0xd800 + n.val) = true := isHigh_iff.2 ⟨by omega, by omega⟩
      have hlow : isLow (0xd800 + m.val) = true := isLow_iff.2 ⟨by omega, by omega⟩
      refine ⟨Char.ofNat (pairCode (0xd800 + n.val) (0xd800 + m.val)), ?_⟩
      rw [joined, List.flatMap_cons, List.flatMap_cons]
      exact if_pos (by rw [hhigh, hlow]; rfl)

/-- **A text comes back as it was if and only if no two halves in it make a pair.** -/
theorem joined_eq_self_iff {cs : List CodePoint} : joined cs = cs ↔ IsUnpaired cs := by
  induction cs with
  | nil => exact iff_of_true rfl List.isChain_nil
  | cons a cs ih =>
    rw [IsUnpaired, List.isChain_cons]
    by_cases h : ∀ b ∈ cs.head?, ¬ IsPair a b
    · rw [joined_cons h, List.cons_inj_right, ih, IsUnpaired]
      exact (and_iff_right h).symm
    · refine iff_of_false (fun heq => ?_) fun hchain => h hchain.1
      push Not at h
      obtain ⟨b, hb, hpair⟩ := h
      obtain ⟨rest, rfl⟩ := List.head?_eq_some_iff.1 hb
      obtain ⟨c, hc⟩ := joined_of_isPair hpair rest
      -- what comes back begins with a character, and the text does not
      obtain rfl : .char c = a := (List.cons.inj (hc.symm.trans heq)).1
      exact hpair

/-! ## Strings -/

/-- A string has no halves, so none that make a pair. -/
theorem isUnpaired_codePoints (s : String) : IsUnpaired (codePoints s) := by
  rw [IsUnpaired, codePoints, List.isChain_map]
  exact (List.pairwise_of_forall fun _ _ => not_false).isChain

/-- A string comes back as it was. -/
theorem joined_codePoints (s : String) : joined (codePoints s) = codePoints s :=
  joined_eq_self_iff.2 (isUnpaired_codePoints s)

theorem codePoints_append (s t : String) :
    codePoints (s ++ t) = codePoints s ++ codePoints t := by
  rw [codePoints, String.toList_append, List.map_append]
  rfl

theorem codePoints_injective : Function.Injective codePoints := by
  intro s t h
  have hlist := List.map_injective_iff.2 (fun _ _ => CodePoint.char.inj) h
  exact String.toList_inj.1 hlist

theorem ofCodePoints?_codePoints (s : String) : ofCodePoints? (codePoints s) = some s := by
  have hmap : (s.toList.map CodePoint.char).mapM CodePoint.char? = some s.toList := by
    induction s.toList with
    | nil => rfl
    | cons c cs ih =>
      rw [List.map_cons, List.mapM_cons, ih]
      rfl
  rw [ofCodePoints?, codePoints, hmap, Option.map_some, String.ofList_toList]

end Text
end ApiReference
