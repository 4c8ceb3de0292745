import ApiReference.Declaration.Prefix
import Mathlib.Data.List.Basic

/-!
# Stripping name spaces piece by piece

`Declaration.stripPrefixes` scans a text from left to right and knows nothing of how the text was
put together. A name space, however, is a single token: it starts with a letter, has a dot, and
consists of word characters and dots (`IsNameSpace`). Wherever one of two neighbouring characters is
none of a token, nothing that is stripped reaches across, and the scan goes on behind the seam as it
would at the start of a text (`stripPrefixes_append`).

So a text that is put together from parts with seams between them is stripped part by part. A part
in which no dot follows a letter holds no name space and stays as it is (`stripPrefixes_eq_self`);
all that a type writes of its own is such a part.

Each of the three conditions on a name space is used. If a prefix could hold a comma, it could reach
across a seam. If it could start with a digit, it could be the front of a number such as `1.5`. If
it had no dot, it could be one of the words that a type writes, such as `table`. Prefixes that are
set in practice, like `defines.`, meet all three; that others may be set is why the condition is a
hypothesis and not part of the scan.

## What is here

* `IsNameSpace`: the prefixes that name a name space.
* `Seam`, `stripChars_append`: where a text can be taken apart, and that the scan passes there with
  nothing left to remove.
* `stripPrefixes_append`, `stripPrefixes_intercalate`, `stripPrefixes_eq_self`: what later proofs
  use instead of the scan.
-/

set_option autoImplicit false

namespace ApiReference
namespace Declaration

/-- Whether the character may stand inside a token. -/
def isTokenChar (c : Char) : Bool :=
  Text.isWord c || c == '.'

theorem startsToken_some (c : Char) : startsToken (some c) = !isTokenChar c := by
  simp [startsToken, isTokenChar, bne]

/-- A prefix that names a name space: it starts with an ASCII letter, has a dot, and consists of
word characters and dots. -/
structure IsNameSpace (p : String) : Prop where
  letter : ∃ c ∈ p.toList.head?, c.isAlpha = true
  dot : '.' ∈ p.toList
  token : ∀ c ∈ p.toList, isTokenChar c = true

theorem IsNameSpace.ne_nil {p : String} (h : IsNameSpace p) : p.toList ≠ [] :=
  List.ne_nil_of_mem h.dot

/-- Stripping only takes characters away. -/
theorem stripChars_sublist (prefixes : List (List Char)) :
    ∀ (skip : Nat) (previous : Option Char) (cs : List Char),
      (stripChars prefixes skip previous cs).Sublist cs
  | _, _, [] => by rw [stripChars]
  | skip + 1, _, c :: rest => by
    rw [stripChars]
    exact (stripChars_sublist prefixes skip (some c) rest).cons c
  | 0, previous, c :: rest => by
    rw [stripChars]
    split
    · exact (stripChars_sublist prefixes _ (some c) rest).cons c
    · exact (stripChars_sublist prefixes 0 (some c) rest).cons_cons c

/-- What is left has only characters of the text. -/
theorem stripPrefixes_subset (prefixes : List String) (text : String) :
    (stripPrefixes prefixes text).toList ⊆ text.toList := by
  rw [stripPrefixes, String.toList_ofList]
  exact (stripChars_sublist _ _ _ _).subset

/-! ## Seams

The character in front of the seam may be missing, if nothing stands in front of it; then it is the
character in front of the whole text that counts. This is how a seam looks to the scan in the middle
of its work. -/

/-- No token reaches from `cs` into `rest`, where `previous` is the character in front of `cs`: the
last character before the seam or the first one after it is none of a token. -/
def Seam (previous : Option Char) (cs rest : List Char) : Prop :=
  startsToken (cs.getLast?.or previous) = true ∨ ∀ c ∈ rest.head?, isTokenChar c = false

theorem Seam.tail {previous : Option Char} {c : Char} {cs rest : List Char}
    (h : Seam previous (c :: cs) rest) : Seam (some c) cs rest := by
  have hlast : cs.getLast?.or (some c) = (c :: cs).getLast?.or previous := by
    rw [List.getLast?_cons]
    cases cs.getLast? <;> rfl
  rwa [Seam, hlast]

/-- A token that starts in front of a seam also ends in front of it. -/
theorem Seam.isPrefix_iff {previous : Option Char} {p cs rest : List Char}
    (h : Seam previous cs rest) (hne : cs ≠ []) (hp : ∀ c ∈ p, isTokenChar c = true) :
    p <+: cs ++ rest ↔ p <+: cs := by
  refine ⟨fun hpre => ?_, fun hpre => hpre.trans (List.prefix_append cs rest)⟩
  rcases List.prefix_or_prefix_of_prefix hpre (List.prefix_append cs rest) with hin | ⟨q, rfl⟩
  · exact hin
  · have hq : q <+: rest := (List.prefix_append_right_inj cs).1 hpre
    cases q with
    | nil => simp
    | cons c q =>
      -- the token would hold both neighbours of the seam
      have hlast : isTokenChar (cs.getLast hne) = true :=
        hp _ (List.mem_append_left _ (List.getLast_mem hne))
      have hnext : isTokenChar c = true := hp c (by simp)
      obtain ⟨rest', rfl⟩ := hq
      rcases h with h | h
      · rw [List.getLast?_eq_some_getLast hne, Option.some_or, startsToken_some, hlast] at h
        cases h
      · have := h c (by simp)
        rw [hnext] at this
        cases this

section Scan

variable {prefixes : List String} (hprefixes : ∀ p ∈ prefixes, IsNameSpace p)

include hprefixes

/-- What fits in front of a seam fits without what comes after it. -/
theorem prefixAt?_append {previous : Option Char} {cs rest : List Char}
    (h : Seam previous cs rest) (hne : cs ≠ []) :
    prefixAt? (prefixes.map String.toList) (cs ++ rest) =
      prefixAt? (prefixes.map String.toList) cs := by
  rw [prefixAt?, prefixAt?, ← List.head?_filter, ← List.head?_filter]
  refine congrArg List.head? (List.filter_congr fun p hp => ?_)
  obtain ⟨s, hs, rfl⟩ := List.mem_map.1 hp
  have hin := h.isPrefix_iff hne (hprefixes s hs).token
  rw [Bool.eq_iff_iff]
  simp [hin]

/-- What fits starts with a letter and holds a dot. -/
theorem of_prefixAt?_eq_some {c : Char} {rest p : List Char}
    (h : prefixAt? (prefixes.map String.toList) (c :: rest) = some p) :
    c.isAlpha = true ∧ isTokenChar c = true ∧ '.' ∈ rest ∧ p.length ≤ rest.length + 1 := by
  obtain ⟨s, hs, rfl⟩ := List.mem_map.1 (List.mem_of_find?_eq_some h)
  have hname := hprefixes s hs
  have hfits := List.find?_some h
  rw [Bool.and_eq_true, List.isPrefixOf_iff_prefix] at hfits
  have hpre := hfits.2
  obtain ⟨d, hd, halpha⟩ := hname.letter
  cases hcs : s.toList with
  | nil => exact absurd hcs hname.ne_nil
  | cons e es =>
    rw [hcs] at hd hpre
    obtain rfl : e = d := by simpa using hd
    obtain ⟨rfl, hrest⟩ := List.cons_prefix_cons.1 hpre
    refine ⟨halpha, hname.token e (by simp [hcs]), ?_, ?_⟩
    · have hdot := hname.dot
      rw [hcs, List.mem_cons] at hdot
      rcases hdot with rfl | hdot
      · cases halpha
      · exact hrest.subset hdot
    · simpa using hrest.length_le

/-- At a seam it plays no part what stands in front of it. -/
theorem stripChars_of_seam {previous : Option Char} {rest : List Char}
    (h : Seam previous [] rest) :
    stripChars (prefixes.map String.toList) 0 previous rest =
      stripChars (prefixes.map String.toList) 0 none rest := by
  cases rest with
  | nil => rfl
  | cons c rest =>
    rw [stripChars, stripChars]
    rcases h with h | h
    · have h : startsToken previous = true := h
      have hnone : startsToken none = true := rfl
      rw [if_pos h, if_pos hnone]
    · have hnone : prefixAt? (prefixes.map String.toList) (c :: rest) = none := by
        cases hp : prefixAt? (prefixes.map String.toList) (c :: rest) with
        | none => rfl
        | some p =>
          have htoken := (of_prefixAt?_eq_some hprefixes hp).2.1
          rw [h c (by simp)] at htoken
          cases htoken
      simp [hnone]

/-- The scan passes a seam with nothing left to remove. -/
theorem stripChars_append {rest : List Char} : ∀ {cs : List Char} {skip : Nat}
    {previous : Option Char}, Seam previous cs rest → skip ≤ cs.length →
      stripChars (prefixes.map String.toList) skip previous (cs ++ rest) =
        stripChars (prefixes.map String.toList) skip previous cs ++
          stripChars (prefixes.map String.toList) 0 none rest
  | [], skip, previous, h, hskip => by
    obtain rfl : skip = 0 := by simpa using hskip
    exact stripChars_of_seam hprefixes h
  | c :: cs, skip + 1, previous, h, hskip => by
    rw [List.cons_append, stripChars, stripChars]
    exact stripChars_append h.tail (by simpa using hskip)
  | c :: cs, 0, previous, h, hskip => by
    have hat := prefixAt?_append hprefixes h (List.cons_ne_nil c cs)
    rw [List.cons_append] at hat ⊢
    rw [stripChars, stripChars, hat]
    split
    · next p hp =>
      have hlength : p.length - 1 ≤ cs.length := by
        split at hp
        · have := (of_prefixAt?_eq_some hprefixes hp).2.2.2
          omega
        · cases hp
      exact stripChars_append h.tail hlength
    · rw [stripChars_append h.tail (Nat.zero_le _), List.cons_append]

/-! ## Texts put together

The lemmas that later modules use. They speak of strings, and of the one character that makes a
seam, at the end of the first text or at the start of the second. -/

variable {s t : String}

/-- **A text is stripped on both sides of a character that is none of a token.** -/
theorem stripPrefixes_append (h : Seam none s.toList t.toList) :
    stripPrefixes prefixes (s ++ t) = stripPrefixes prefixes s ++ stripPrefixes prefixes t := by
  rw [stripPrefixes, stripPrefixes, stripPrefixes, String.toList_append,
    stripChars_append hprefixes h (Nat.zero_le _), String.ofList_append]

theorem stripPrefixes_append_of_last (h : ∀ c ∈ s.toList.getLast?, isTokenChar c = false) :
    stripPrefixes prefixes (s ++ t) = stripPrefixes prefixes s ++ stripPrefixes prefixes t := by
  refine stripPrefixes_append hprefixes (.inl ?_)
  cases hlast : s.toList.getLast? with
  | none => rfl
  | some c => rw [Option.some_or, startsToken_some, h c hlast, Bool.not_false]

theorem stripPrefixes_append_of_head (h : ∀ c ∈ t.toList.head?, isTokenChar c = false) :
    stripPrefixes prefixes (s ++ t) = stripPrefixes prefixes s ++ stripPrefixes prefixes t :=
  stripPrefixes_append hprefixes (.inr h)

/-- A text in which no dot follows a letter holds no name space. -/
theorem stripPrefixes_eq_self (h : s.toList.Pairwise fun c d => c.isAlpha = true → d ≠ '.') :
    stripPrefixes prefixes s = s := by
  have hscan {cs : List Char} (h : cs.Pairwise fun c d => c.isAlpha = true → d ≠ '.')
      (previous : Option Char) :
      stripChars (prefixes.map String.toList) 0 previous cs = cs := by
    induction cs generalizing previous with
    | nil => rfl
    | cons c rest ih =>
      rw [List.pairwise_cons] at h
      have hnone : prefixAt? (prefixes.map String.toList) (c :: rest) = none := by
        cases hp : prefixAt? (prefixes.map String.toList) (c :: rest) with
        | none => rfl
        | some p =>
          obtain ⟨halpha, -, hdot, -⟩ := of_prefixAt?_eq_some hprefixes hp
          exact absurd rfl (h.1 '.' hdot halpha)
      rw [stripChars, hnone, ite_self]
      exact congrArg (c :: ·) (ih h.2 (some c))
  rw [stripPrefixes, hscan h, String.ofList_toList]

/-- A text without a dot holds no name space. -/
theorem stripPrefixes_of_no_dot (h : '.' ∉ s.toList) : stripPrefixes prefixes s = s :=
  stripPrefixes_eq_self hprefixes <| List.pairwise_of_forall_mem_list fun _ _ _ hd _ hdot =>
    h (hdot ▸ hd)

/-- Texts with a separator between them are stripped one by one. -/
theorem stripPrefixes_intercalate {separator : String} (hne : separator.toList ≠ [])
    (h : ∀ c ∈ separator.toList, isTokenChar c = false) (texts : List String) :
    stripPrefixes prefixes (separator.intercalate texts) =
      separator.intercalate (texts.map (stripPrefixes prefixes)) := by
  have hself : stripPrefixes prefixes separator = separator :=
    stripPrefixes_of_no_dot hprefixes fun hdot => by
      have := h _ hdot
      simp [isTokenChar] at this
  induction texts with
  | nil => rfl
  | cons s rest ih =>
    cases rest with
    | nil => simp
    | cons next rest =>
      have hhead : ∀ c ∈ (separator ++ separator.intercalate (next :: rest)).toList.head?,
          isTokenChar c = false := by
        rw [String.toList_append, List.head?_append_of_ne_nil _ hne]
        exact fun c hc => h c (List.mem_of_mem_head? hc)
      have hlast : ∀ c ∈ separator.toList.getLast?, isTokenChar c = false :=
        fun c hc => h c (List.mem_of_mem_getLast? hc)
      rw [String.intercalate_cons_cons, String.append_assoc,
        stripPrefixes_append_of_head hprefixes hhead, stripPrefixes_append_of_last hprefixes hlast,
        hself, ih]
      simp only [List.map_cons, String.intercalate_cons_cons, String.append_assoc]

end Scan

end Declaration
end ApiReference
