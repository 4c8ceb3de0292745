import ApiReference.Declaration.Prefix
import Mathlib.Data.List.Basic

/-!
# What stripping cuts out of a text

The scan of `Declaration.stripPrefixes` goes from left to right, looks back at one character, and
jumps over what it removes. Here the same is said without a scan, of positions in the given text.

A token starts at a position if the character in front of it is neither a word character nor a dot
(`IsTokenStart`). A `Cut` is an interval of the text, by its start and the prefix that stands there.
The cuts of a text are intervals that do not overlap. Each lies at the start of a token, where it
spells the first prefix that stands there, and every start of a token at which a prefix stands is
the start of a cut or lies strictly inside one (`Cuts`).

* **The given text decides.** What the scan looks back at is the character of the given text, also
  when that character has just been removed. So a name space right behind a removed one stays: it
  has a dot in front of it, and that dot was there before.
* **The first prefix wins**, by the order of the list and not by length.
* **Nothing is looked at twice.** A prefix that comes to stand at the start of a token only because
  something in front of it went away is not removed.

That the cuts are determined by these conditions, and need not be computed from left to right, is
the uniqueness part of `stripPrefixes_cuts`. The condition that carries it is `Cuts.covered`:
without it the empty list would do.

## What is here

* `cuts_iff_of_not_fits`, `cuts_iff_of_first`: the cuts from a position on are those from the next
  one on, or a cut at the position and those from its end on. These are the steps of the scan.
* `stripPrefixes_cuts`: a text has exactly one list of cuts, and stripping leaves what is in none of
  them; prefixes that are empty have no effect.
-/

set_option autoImplicit false

namespace ApiReference
namespace Declaration

/-! ## Positions in a text -/

/-- Whether a token starts at a position of the text: at its start, or after a character that is
neither a word character nor a dot. -/
def IsTokenStart (text : List Char) (i : Nat) : Prop :=
  i = 0 ∨ ∃ c, text[i - 1]? = some c ∧ Text.isWord c = false ∧ c ≠ '.'

/-- Whether a prefix that is not empty stands at a position of the text. -/
def StandsAt (text : List Char) (p : String) (i : Nat) : Prop :=
  p ≠ "" ∧ p.toList <+: text.drop i

instance (text : List Char) (p : String) (i : Nat) : Decidable (StandsAt text p i) :=
  inferInstanceAs (Decidable (_ ∧ _))

/-- Whether a prefix is the first of those that stand at a position of the text. -/
def IsFirstAt (prefixes : List String) (text : List Char) (p : String) (i : Nat) : Prop :=
  StandsAt text p i ∧
    ∃ before after, prefixes = before ++ p :: after ∧ ∀ q ∈ before, ¬ StandsAt text q i

/-- Whether there is something to cut out at a position: a token starts there, and a prefix
stands there. -/
def Fits (prefixes : List String) (text : List Char) (i : Nat) : Prop :=
  IsTokenStart text i ∧ ∃ p ∈ prefixes, StandsAt text p i

/-- An interval that is cut out of a text: where it starts, and the prefix that stands there. -/
structure Cut where
  start : Nat
  text : String

namespace Cut

/-- The position behind the interval. -/
def stop (cut : Cut) : Nat :=
  cut.start + cut.text.toList.length

/-- Whether a position lies in the interval. -/
def covers (cut : Cut) (i : Nat) : Bool :=
  cut.start ≤ i && i < cut.stop

end Cut

/-- The list has the cuts of the text from position `n` on, from left to right. -/
structure Cuts (prefixes : List String) (text : List Char) (n : Nat) (cuts : List Cut) : Prop where
  /-- A cut ends before the next one starts. -/
  disjoint : cuts.Pairwise fun a b => a.stop ≤ b.start
  /-- A cut spells the first prefix that stands at the start of a token. -/
  fits : ∀ cut ∈ cuts, n ≤ cut.start ∧ IsTokenStart text cut.start ∧
    IsFirstAt prefixes text cut.text cut.start
  /-- Where a prefix stands at the start of a token, a cut starts or one has started before. -/
  covered : ∀ i, n ≤ i → Fits prefixes text i →
    ∃ cut ∈ cuts, cut.start = i ∨ (cut.start < i ∧ i < cut.stop)

/-- The characters from position `n` on that lie in no cut. -/
def uncutFrom (cuts : List Cut) (n : Nat) (cs : List Char) : List Char :=
  ((cs.zipIdx n).filter fun c => !cuts.any (·.covers c.2)).map Prod.fst

/-- The text without the cuts. -/
def uncut (cuts : List Cut) (text : List Char) : List Char :=
  uncutFrom cuts 0 text

/-! ## The first prefix at a position

`IsFirstAt` speaks of the list of prefixes with something before and something after. The scan uses
`List.find?`, and the two say the same, so there is at most one such prefix. -/

section First

variable {prefixes : List String} {text : List Char} {p q : String} {i : Nat}

theorem isFirstAt_iff :
    IsFirstAt prefixes text p i ↔ prefixes.find? (StandsAt text · i) = some p := by
  simp [IsFirstAt, List.find?_eq_some_iff_append]

/-- At most one prefix is the first at a position. -/
theorem IsFirstAt.eq (hp : IsFirstAt prefixes text p i) (hq : IsFirstAt prefixes text q i) :
    p = q := by
  rw [isFirstAt_iff] at hp hq
  exact Option.some.inj (hp.symm.trans hq)

theorem IsFirstAt.mem (h : IsFirstAt prefixes text p i) : p ∈ prefixes :=
  List.mem_of_find?_eq_some (isFirstAt_iff.1 h)

theorem StandsAt.toList_ne_nil (h : StandsAt text p i) : p.toList ≠ [] :=
  fun hnil => h.1 (String.toList_eq_nil_iff.1 hnil)

/-- The scan looks for the first prefix at the position that it has reached. -/
theorem prefixAt?_eq (prefixes : List String) (text : List Char) (i : Nat) :
    prefixAt? (prefixes.map String.toList) (text.drop i) =
      (prefixes.find? (StandsAt text · i)).map String.toList := by
  rw [prefixAt?, List.find?_map]
  congr 2
  funext p
  rw [Bool.eq_iff_iff, decide_eq_true_iff, StandsAt]
  simp [List.isPrefixOf_iff_prefix]

/-- Where a prefix stands, one of those that do is the first. -/
theorem Fits.exists_first (h : Fits prefixes text i) : ∃ p, IsFirstAt prefixes text p i := by
  obtain ⟨-, p, hp, hstands⟩ := h
  have hsome : (prefixes.find? (StandsAt text · i)).isSome :=
    List.find?_isSome.2 ⟨p, hp, decide_eq_true hstands⟩
  obtain ⟨first, hfirst⟩ := Option.isSome_iff_exists.1 hsome
  exact ⟨first, isFirstAt_iff.2 hfirst⟩

theorem IsFirstAt.fits (h : IsFirstAt prefixes text p i) (hstart : IsTokenStart text i) :
    Fits prefixes text i :=
  ⟨hstart, p, h.mem, h.1⟩

end First

/-- The scan sees the character in front of the position that it has reached. -/
theorem startsToken_eq_true_iff {front rest : List Char} :
    startsToken front.getLast? = true ↔ IsTokenStart (front ++ rest) front.length := by
  rcases List.eq_nil_or_concat front with rfl | ⟨front, c, rfl⟩
  · exact iff_of_true rfl (Or.inl rfl)
  · simp [startsToken, IsTokenStart]

/-! ## The steps of the scan

The scan carries two arguments along: how many characters are still to be removed, and the character
behind it. After a prefix has been passed the first is zero again, and the second is the last
character of what has been passed so far. This is the form in which the scan is compared with
positions: `front` has been passed, and `rest` has not. -/

/-- What is to be removed first is passed. -/
theorem stripChars_length_append (prefixes : List (List Char)) (previous : Option Char)
    (cs rest : List Char) :
    stripChars prefixes cs.length previous (cs ++ rest) =
      stripChars prefixes 0 (cs.getLast?.or previous) rest := by
  induction cs generalizing previous with
  | nil => rfl
  | cons c cs ih =>
    rw [List.length_cons, List.cons_append, stripChars, ih, List.getLast?_cons]
    cases cs.getLast? <;> rfl

section Steps

variable {prefixes : List String} {front rest : List Char} {c : Char} {p : String}

/-- Where nothing fits, the next character is kept. -/
theorem stripChars_of_not_fits (h : ¬ Fits prefixes (front ++ c :: rest) front.length) :
    stripChars (prefixes.map String.toList) 0 front.getLast? (c :: rest) =
      c :: stripChars (prefixes.map String.toList) 0 (front ++ [c]).getLast? rest := by
  have hat := prefixAt?_eq prefixes (front ++ c :: rest) front.length
  rw [List.drop_left] at hat
  rw [stripChars, List.getLast?_concat]
  split
  · next q hq =>
    split at hq
    · next hstart =>
      rw [hat, Option.map_eq_some_iff] at hq
      obtain ⟨p, hp, -⟩ := hq
      exact absurd ((isFirstAt_iff.2 hp).fits (startsToken_eq_true_iff.1 hstart)) h
    · cases hq
  · rfl

/-- Where something fits, the first prefix is removed. -/
theorem stripChars_of_first (hstart : IsTokenStart (front ++ (p.toList ++ rest)) front.length)
    (hp : IsFirstAt prefixes (front ++ (p.toList ++ rest)) p front.length) :
    stripChars (prefixes.map String.toList) 0 front.getLast? (p.toList ++ rest) =
      stripChars (prefixes.map String.toList) 0 (front ++ p.toList).getLast? rest := by
  have hat := prefixAt?_eq prefixes (front ++ (p.toList ++ rest)) front.length
  rw [List.drop_left, isFirstAt_iff.1 hp, Option.map_some] at hat
  have hstart := startsToken_eq_true_iff.2 hstart
  cases hcs : p.toList with
  | nil => exact absurd hcs hp.1.toList_ne_nil
  | cons c cs =>
    rw [hcs, List.cons_append] at hat
    rw [List.cons_append, stripChars, hstart, if_pos rfl, hat]
    show stripChars _ cs.length (some c) (cs ++ rest) = _
    rw [stripChars_length_append, List.getLast?_append, List.getLast?_cons]
    cases cs.getLast? <;> rfl

end Steps

/-! ## The cuts, step by step

The same two steps, for the description by positions. In both directions the three conditions are
gone through. Where something fits, a cut has to cover the position, it has to be the first of the
list, and there is one prefix only that it can spell. -/

section Cuts

variable {prefixes : List String} {text : List Char} {n : Nat} {cuts : List Cut} {p : String}

/-- At the end of the text there is nothing left to cut out. -/
theorem cuts_length_iff : Cuts prefixes text text.length cuts ↔ cuts = [] := by
  constructor
  · intro h
    rw [List.eq_nil_iff_forall_not_mem]
    intro cut hcut
    obtain ⟨hstart, -, ⟨hne, hprefix⟩, -⟩ := h.fits cut hcut
    rw [List.drop_eq_nil_of_le hstart, List.prefix_nil, String.toList_eq_nil_iff] at hprefix
    exact hne hprefix
  · rintro rfl
    refine ⟨.nil, fun cut hcut => absurd hcut List.not_mem_nil, fun i hi hfits => ?_⟩
    obtain ⟨-, p, -, hne, hprefix⟩ := hfits
    rw [List.drop_eq_nil_of_le hi, List.prefix_nil, String.toList_eq_nil_iff] at hprefix
    exact absurd hprefix hne

/-- Where nothing fits there is no cut. -/
theorem cuts_iff_of_not_fits (h : ¬ Fits prefixes text n) :
    Cuts prefixes text n cuts ↔ Cuts prefixes text (n + 1) cuts := by
  constructor
  · intro hcuts
    refine ⟨hcuts.disjoint, fun cut hcut => ?_, fun i hi => hcuts.covered i (by omega)⟩
    obtain ⟨hn, hstart, hfirst⟩ := hcuts.fits cut hcut
    have hne : cut.start ≠ n := fun he => h (he ▸ hfirst.fits hstart)
    exact ⟨by omega, hstart, hfirst⟩
  · intro hcuts
    refine ⟨hcuts.disjoint, fun cut hcut => ?_, fun i hi hfits => ?_⟩
    · obtain ⟨hn, hrest⟩ := hcuts.fits cut hcut
      exact ⟨by omega, hrest⟩
    · have hne : i ≠ n := fun he => h (he ▸ hfits)
      exact hcuts.covered i (by omega) hfits

/-- Where something fits the first prefix is cut out, and everything else behind it. -/
theorem cuts_iff_of_first (hstart : IsTokenStart text n) (hp : IsFirstAt prefixes text p n) :
    Cuts prefixes text n cuts ↔
      ∃ more, cuts = ⟨n, p⟩ :: more ∧ Cuts prefixes text (Cut.mk n p).stop more := by
  have hlength : 0 < p.toList.length := List.length_pos_of_ne_nil hp.1.toList_ne_nil
  have hstop : (Cut.mk n p).stop = n + p.toList.length := rfl
  constructor
  · intro h
    obtain ⟨cut, hcut, hat⟩ := h.covered n (Nat.le_refl n) (hp.fits hstart)
    cases cuts with
    | nil => cases hcut
    | cons first more =>
      obtain ⟨hn, -, hfirst⟩ := h.fits first List.mem_cons_self
      have hbehind := (List.pairwise_cons.1 h.disjoint).1
      -- a later cut starts behind the end of the first one, which does not start before `n`
      have hat : first.start = n := by
        rcases List.mem_cons.1 hcut with rfl | hmore
        · omega
        · have := hbehind cut hmore
          have : first.start ≤ first.stop := Nat.le_add_right ..
          omega
      obtain rfl : first = ⟨n, p⟩ := by
        obtain ⟨start, p'⟩ := first
        obtain rfl : start = n := hat
        exact congrArg _ (hfirst.eq hp)
      refine ⟨more, rfl, (List.pairwise_cons.1 h.disjoint).2, fun cut hcut => ?_,
        fun i hi hfits => ?_⟩
      · exact ⟨hbehind cut hcut, (h.fits cut (List.mem_cons_of_mem _ hcut)).2⟩
      · obtain ⟨cut, hcut, hcovers⟩ := h.covered i (by omega) hfits
        rcases List.mem_cons.1 hcut with rfl | hmore
        · dsimp only at hcovers
          omega
        · exact ⟨cut, hmore, hcovers⟩
  · rintro ⟨more, rfl, h⟩
    refine ⟨List.pairwise_cons.2 ⟨fun cut hcut => (h.fits cut hcut).1, h.disjoint⟩,
      List.forall_mem_cons.2 ⟨⟨Nat.le_refl n, hstart, hp⟩, fun cut hcut => ?_⟩,
      fun i hi hfits => ?_⟩
    · obtain ⟨hn, hrest⟩ := h.fits cut hcut
      exact ⟨by omega, hrest⟩
    · by_cases hin : i < (Cut.mk n p).stop
      · refine ⟨⟨n, p⟩, List.mem_cons_self, ?_⟩
        dsimp only
        omega
      · obtain ⟨cut, hcut, hcovers⟩ := h.covered i (by omega) hfits
        exact ⟨cut, List.mem_cons_of_mem _ hcut, hcovers⟩

end Cuts

/-! ## What is left

Deleting the cuts from the text also goes along the scan, since the characters are numbered from the
position that it has reached. -/

theorem Cut.covers_eq_true_iff {cut : Cut} {i : Nat} :
    cut.covers i = true ↔ cut.start ≤ i ∧ i < cut.stop := by
  rw [Cut.covers, Bool.and_eq_true, decide_eq_true_iff, decide_eq_true_iff]

theorem Cut.covers_eq_false_iff {cut : Cut} {i : Nat} :
    cut.covers i = false ↔ i < cut.start ∨ cut.stop ≤ i := by
  rw [← Bool.not_eq_true, Cut.covers_eq_true_iff]
  omega

section Uncut

variable {n : Nat} {cuts : List Cut} {cs : List Char} {c : Char} {p : String}

/-- A character in front of all cuts is kept. -/
theorem uncutFrom_cons (h : ∀ cut ∈ cuts, n < cut.start) :
    uncutFrom cuts n (c :: cs) = c :: uncutFrom cuts (n + 1) cs := by
  have hkept : (cuts.any (·.covers n)) = false :=
    List.any_eq_false.2 fun cut hcut => by
      rw [Bool.not_eq_true, Cut.covers_eq_false_iff]
      exact Or.inl (h cut hcut)
  simp [uncutFrom, List.zipIdx_cons, hkept]

/-- The characters of the first cut are dropped. -/
theorem uncutFrom_cut_append :
    uncutFrom (⟨n, p⟩ :: cuts) n (p.toList ++ cs) = uncutFrom cuts (Cut.mk n p).stop cs := by
  have hcut : ∀ c ∈ p.toList.zipIdx n, (Cut.mk n p).covers c.2 = true := fun c hc =>
    Cut.covers_eq_true_iff.2 ⟨List.le_snd_of_mem_zipIdx hc, List.snd_lt_add_of_mem_zipIdx hc⟩
  have hbehind : ∀ c ∈ cs.zipIdx (Cut.mk n p).stop, (Cut.mk n p).covers c.2 = false := fun c hc =>
    Cut.covers_eq_false_iff.2 (Or.inr (List.le_snd_of_mem_zipIdx hc))
  have hdropped : (p.toList.zipIdx n).filter
      (fun c => !(Cut.mk n p :: cuts).any (·.covers c.2)) = [] :=
    List.filter_eq_nil_iff.2 fun c hc => by simp [hcut c hc]
  have hkept : (cs.zipIdx (Cut.mk n p).stop).filter
      (fun c => !(Cut.mk n p :: cuts).any (·.covers c.2)) =
        (cs.zipIdx (Cut.mk n p).stop).filter fun c => !cuts.any (·.covers c.2) :=
    List.filter_congr fun c hc => by simp [hbehind c hc]
  rw [uncutFrom, uncutFrom, List.zipIdx_append, List.filter_append, hdropped, List.nil_append]
  exact congrArg (List.map Prod.fst) hkept

end Uncut

/-! ## Stripping -/

/-- From every position on there is one list of cuts, and the scan keeps what is in none of them. By
induction on the characters that the scan has not reached. -/
theorem exists_cuts (prefixes : List String) (front rest : List Char) :
    ∃ cuts, Cuts prefixes (front ++ rest) front.length cuts ∧
      (∀ others, Cuts prefixes (front ++ rest) front.length others → others = cuts) ∧
      stripChars (prefixes.map String.toList) 0 front.getLast? rest =
        uncutFrom cuts front.length rest := by
  induction h : rest.length using Nat.strongRecOn generalizing front rest with
  | _ k ih =>
  by_cases hfits : Fits prefixes (front ++ rest) front.length
  -- a prefix fits: the first one is cut, and the search goes on behind it
  · obtain ⟨p, hp⟩ := hfits.exists_first
    obtain ⟨more, rfl⟩ : p.toList <+: rest := by
      have := hp.1.2
      rwa [List.drop_left] at this
    have hlength : 0 < p.toList.length := List.length_pos_of_ne_nil hp.1.toList_ne_nil
    have hsteps : ∀ cuts, Cuts prefixes (front ++ (p.toList ++ more)) front.length cuts ↔ _ :=
      fun cuts => cuts_iff_of_first hfits.1 hp
    rw [List.length_append] at h
    obtain ⟨cuts, hcuts, hunique, hstrip⟩ :=
      ih more.length (by omega) (front ++ p.toList) more rfl
    rw [List.append_assoc, List.length_append] at hcuts hunique
    refine ⟨⟨front.length, p⟩ :: cuts, (hsteps _).2 ⟨cuts, rfl, hcuts⟩,
      fun others hothers => ?_, ?_⟩
    · obtain ⟨rest, rfl, hrest⟩ := (hsteps others).1 hothers
      rw [hunique rest hrest]
    · rw [stripChars_of_first hfits.1 hp, hstrip, uncutFrom_cut_append, List.length_append]
      rfl
  -- no prefix fits: the text is at its end, or one character is kept
  · cases rest with
    | nil =>
      rw [List.append_nil]
      exact ⟨[], cuts_length_iff.2 rfl, fun _ => cuts_length_iff.1, rfl⟩
    | cons c rest =>
      have hsteps : ∀ cuts, Cuts prefixes (front ++ c :: rest) front.length cuts ↔ _ :=
        fun cuts => cuts_iff_of_not_fits hfits
      obtain ⟨cuts, hcuts, hunique, hstrip⟩ :=
        ih rest.length (by rw [← h]; exact Nat.lt_succ_self _) (front ++ [c]) rest rfl
      rw [List.append_assoc, List.singleton_append, List.length_append] at hcuts hunique
      refine ⟨cuts, (hsteps cuts).2 hcuts, fun others hothers =>
        hunique others ((hsteps others).1 hothers), ?_⟩
      rw [stripChars_of_not_fits hfits, hstrip, List.length_append,
        uncutFrom_cons fun cut hcut => (hcuts.fits cut hcut).1]
      rfl

/-- Stripping leaves what is in none of the cuts. -/
theorem stripPrefixes_eq_uncut {prefixes : List String} {text : String} {cuts : List Cut}
    (h : Cuts prefixes text.toList 0 cuts) :
    stripPrefixes prefixes text = String.ofList (uncut cuts text.toList) := by
  obtain ⟨found, -, hunique, hstrip⟩ := exists_cuts prefixes [] text.toList
  rw [hunique cuts h, stripPrefixes]
  exact congrArg String.ofList hstrip

/-- Empty prefixes stand nowhere. -/
theorem isFirstAt_filter_iff {prefixes : List String} {text : List Char} {p : String} {i : Nat} :
    IsFirstAt (prefixes.filter (· ≠ "")) text p i ↔ IsFirstAt prefixes text p i := by
  have hsame : (fun q => decide (decide (q ≠ "") = true ∧ decide (StandsAt text q i) = true)) =
      (StandsAt text · i) := by
    funext q
    rw [decide_eq_decide, decide_eq_true_iff, decide_eq_true_iff]
    exact and_iff_right_of_imp fun hstands => hstands.1
  rw [isFirstAt_iff, isFirstAt_iff, List.find?_filter, hsame]

theorem Cuts.of_filter {prefixes : List String} {text : List Char} {n : Nat} {cuts : List Cut}
    (h : Cuts (prefixes.filter (· ≠ "")) text n cuts) : Cuts prefixes text n cuts := by
  refine ⟨h.disjoint, fun cut hcut => ?_, fun i hi ⟨hstart, p, hp, hstands⟩ => ?_⟩
  · obtain ⟨hn, hstart, hfirst⟩ := h.fits cut hcut
    exact ⟨hn, hstart, isFirstAt_filter_iff.1 hfirst⟩
  · exact h.covered i hi ⟨hstart, p, List.mem_filter.2 ⟨hp, decide_eq_true hstands.1⟩, hstands⟩

theorem cuts_nil (text : List Char) : Cuts [] text 0 [] :=
  ⟨.nil, fun _ h => absurd h List.not_mem_nil,
    fun _ _ ⟨_, _, h, _⟩ => absurd h List.not_mem_nil⟩

theorem uncut_nil (text : List Char) : uncut [] text = text := by
  simp [uncut, uncutFrom]

/-- **What stripping cuts out.** Of every text there is exactly one list of intervals that do not
overlap, lie each at the start of a token and spell the first prefix that stands there, and leave
out no start of a token at which a prefix stands; stripping deletes these. Empty prefixes have no
effect, wherever they are listed, and without prefixes nothing is stripped. -/
theorem stripPrefixes_cuts (prefixes : List String) (text : String) :
    (∃ cuts, Cuts prefixes text.toList 0 cuts ∧
      (∀ others, Cuts prefixes text.toList 0 others → others = cuts) ∧
      (stripPrefixes prefixes text).toList = uncut cuts text.toList) ∧
    stripPrefixes (prefixes.filter (· ≠ "")) text = stripPrefixes prefixes text ∧
    stripPrefixes [] text = text := by
  obtain ⟨cuts, hcuts, hunique, -⟩ := exists_cuts prefixes [] text.toList
  obtain ⟨kept, hkept, -, -⟩ := exists_cuts (prefixes.filter (· ≠ "")) [] text.toList
  refine ⟨⟨cuts, hcuts, hunique, ?_⟩, ?_, ?_⟩
  · rw [stripPrefixes_eq_uncut hcuts, String.toList_ofList]
  · rw [stripPrefixes_eq_uncut hkept, stripPrefixes_eq_uncut hkept.of_filter]
  · rw [stripPrefixes_eq_uncut (cuts_nil text.toList), uncut_nil, String.ofList_toList]

-- A name space right behind a removed one has a dot in front of it, so it stays.
example : stripPrefixes ["", "a.", "a.b"] "a.a.b|a.b" = "a.b|b" := by decide +kernel

end Declaration
end ApiReference
