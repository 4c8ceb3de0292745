import ApiReference.Proofs.TypeExpr.Simplification

/-!
# The texts of types are unambiguous

A text of a type is made of words, the brackets of `table<…>` and `tuple<…>`, the suffix `[]`, and
the bar of a union, which has no brackets of its own. `Written` is the grammar of such texts, with a
`Precedence` that says how far a text reaches: the bar binds weaker than the suffix, so the element
of an array must not be a union.

What follows a text shows where it ends, so a text can be taken off the front of a longer one in one
way only (`Written.unique`). The normal form of a type follows the grammar as long as its words are
words and none of its arrays has a union as the element (`Legible.exists_written`). Hence legible
types have the same text exactly if they have the same normal form (`render_eq_iff_normalize_eq`).

The usual way to such a theorem would be a parser and the proof that it undoes the printer. A parser
of this grammar has to look ahead to decide between the three precedences, and its proof would be
about that bookkeeping. Uniqueness needs no parser: it compares two ways to write the same
characters, by induction on one of them, and `Precedence.follow` is all that is said about looking
ahead.

What is left out of the legible types is left out because the theorem fails there.

* **Unions as elements.** `(a | b)[]` would need the brackets that are not written; the last example
  of this module shows the two types with one text.
* **Literals.** A literal of a string puts an arbitrary text between quotes that are not escaped,
  and a literal of a number without a description is written as the name `number` is.
* **Names with marks.** A name is a text of the document and may spell out a union.
* **Bare numbers and booleans.** They are written as names with the same characters are.
-/

set_option autoImplicit false

namespace ApiReference
namespace TypeExpr

/-! ## Words

A word may be empty, since a name may. What makes a text readable is not that words have characters
but that they end where one of the marks follows. -/

/-- The characters that give a text its structure. -/
def marks : List Char :=
  [' ', ',', '<', '>', '[', ']', '|']

/-- Characters none of which is a mark. There may be no characters at all. -/
def IsWord (w : List Char) : Prop :=
  ∀ c ∈ w, c ∉ marks

instance (w : List Char) : Decidable (IsWord w) :=
  List.decidableBAll (fun c => c ∉ marks) w

/-- The rest of a text starts with one of the given characters, if it is not empty. -/
def StartsIn (cs rest : List Char) : Prop :=
  ∀ c ∈ rest.head?, c ∈ cs

theorem startsIn_nil (cs : List Char) : StartsIn cs [] := nofun

theorem startsIn_cons_iff {cs : List Char} {c : Char} {rest : List Char} :
    StartsIn cs (c :: rest) ↔ c ∈ cs := by
  simp [StartsIn]

theorem StartsIn.mono {cs ds rest : List Char} (h : StartsIn cs rest) (hs : cs ⊆ ds) :
    StartsIn ds rest :=
  fun c hc => hs (h c hc)

/-- A word ends where a mark follows. -/
theorem word_append_inj {a b x y : List Char} (ha : IsWord a) (hb : IsWord b)
    (hx : StartsIn marks x) (hy : StartsIn marks y) (h : a ++ x = b ++ y) : a = b ∧ x = y := by
  have hword {w rest : List Char} (hw : IsWord w) (hrest : StartsIn marks rest) :
      (w ++ rest).takeWhile (fun c => c ∉ marks) = w := by
    rw [List.takeWhile_append_of_pos (by simpa [IsWord] using hw)]
    cases rest with
    | nil => exact List.append_nil w
    | cons c rest => simp [startsIn_cons_iff.1 hrest]
  have hab : a = b := by rw [← hword ha hx, h, hword hb hy]
  exact ⟨hab, List.append_cancel_left (hab ▸ h)⟩

/-! ## The grammar

The type in a rule is always a normal form: `ofAlternatives` takes a single option for itself, so
one rule covers unions and types that are no unions. Arrays of arrays are written in one step, with
all suffixes at once, because a suffix extends a text to the right, where the induction has already
been. -/

/-- How far a text reaches. -/
inductive Precedence where
  /-- A word or a form in brackets. -/
  | atom
  /-- An atom with suffixes. -/
  | suffixed
  /-- Suffixed atoms with bars between them. -/
  | union
  deriving DecidableEq

/-- The characters that may follow a text. -/
def Precedence.follow : Precedence → List Char
  | .atom => [' ', ',', '>', '[']
  | .suffixed => [' ', ',', '>']
  | .union => [',', '>']

/-- An array of arrays of … of the type. -/
def arrays : Nat → TypeExpr → TypeExpr
  | 0, t => t
  | n + 1, t => .array (arrays n t)

/-- The suffixes of an array of arrays. -/
def suffixes : Nat → List Char
  | 0 => []
  | n + 1 => '[' :: ']' :: suffixes n

/-- Types with their texts. -/
abbrev Texts := List (TypeExpr × List Char)

/-- The texts, each after a separator. -/
def Texts.after (separator : List Char) (ms : Texts) : List Char :=
  ms.flatMap fun m => separator ++ m.2

/-- **The grammar of the texts of types.** -/
inductive Written : Precedence → TypeExpr → List Char → Prop where
  | name {n : String} (hn : IsWord n.toList) : Written .atom (.name n) n.toList
  | dictionary {key value : TypeExpr} {k v : List Char} (hkey : Written .union key k)
      (hvalue : Written .union value v) :
      Written .atom (.dictionary key value)
        ("table".toList ++ '<' :: (k ++ ',' :: ' ' :: (v ++ ['>'])))
  | tuple {m : TypeExpr × List Char} {ms : Texts} (h : ∀ r ∈ m :: ms, Written .union r.1 r.2) :
      Written .atom (.tuple ((m :: ms).map Prod.fst))
        ("tuple".toList ++ '<' :: (m.2 ++ ms.after [',', ' '] ++ ['>']))
  | arrays {t : TypeExpr} {w : List Char} (n : Nat) (h : Written .atom t w) :
      Written .suffixed (arrays n t) (w ++ suffixes n)
  | options {m : TypeExpr × List Char} {ms : Texts} (h : ∀ r ∈ m :: ms, Written .suffixed r.1 r.2) :
      Written .union (ofAlternatives ((m :: ms).map Prod.fst)) (m.2 ++ ms.after [' ', '|', ' '])

/-! ## Texts are unambiguous

Two texts that start alike are compared from the left. A word is told from a bracket by what comes
first that is no word, the number of suffixes by counting, and a list by whether its separator
follows once more. Each of these lemmas takes off what it is about and leaves two rests that are
equal again. -/

theorem Precedence.follow_subset_marks (p : Precedence) : p.follow ⊆ marks := by
  cases p <;> decide

theorem Precedence.suffixed_follow_erase :
    Precedence.suffixed.follow.erase ' ' = Precedence.union.follow := by
  decide

/-- What is written at the precedence as `t` and `w` can be taken off the front of a text in one way
only. -/
def IsUnique (p : Precedence) (t : TypeExpr) (w : List Char) : Prop :=
  ∀ ⦃u v x y⦄, Written p u v → StartsIn p.follow x → StartsIn p.follow y → w ++ x = v ++ y →
    t = u ∧ x = y

/-- The word in front of a bracket ends there. -/
theorem bracket_append_inj {a b x y : List Char} (ha : IsWord a) (hb : IsWord b)
    (h : a ++ '<' :: x = b ++ '<' :: y) : a = b ∧ x = y := by
  have hbracket (rest : List Char) : StartsIn marks ('<' :: rest) :=
    startsIn_cons_iff.2 (by decide)
  obtain ⟨hab, hxy⟩ := word_append_inj ha hb (hbracket x) (hbracket y) h
  exact ⟨hab, (List.cons.inj hxy).2⟩

/-- A word on its own is told from a word in front of a bracket. -/
theorem word_append_ne_bracket {a b x y : List Char} (ha : IsWord a) (hb : IsWord b)
    (hx : StartsIn Precedence.atom.follow x) :
    a ++ x ≠ b ++ '<' :: y := by
  intro h
  obtain ⟨-, rfl⟩ := word_append_inj ha hb (hx.mono (Precedence.follow_subset_marks _))
    (startsIn_cons_iff.2 (by decide)) h
  exact absurd (startsIn_cons_iff.1 hx) (by decide)

theorem startsIn_suffixes (n : Nat) {x : List Char} (hx : StartsIn Precedence.suffixed.follow x) :
    StartsIn Precedence.atom.follow (suffixes n ++ x) := by
  cases n with
  | zero => exact hx.mono (by decide)
  | succ n => exact startsIn_cons_iff.2 (by decide)

/-- The number of suffixes shows, as what may follow is none of them. -/
theorem suffixes_append_inj {n m : Nat} {x y : List Char}
    (hx : StartsIn Precedence.suffixed.follow x) (hy : StartsIn Precedence.suffixed.follow y)
    (h : suffixes n ++ x = suffixes m ++ y) : n = m ∧ x = y := by
  induction n generalizing m with
  | zero =>
    cases m with
    | zero => exact ⟨rfl, h⟩
    | succ m =>
      rw [show x = '[' :: ']' :: (suffixes m ++ y) from h, startsIn_cons_iff] at hx
      exact absurd hx (by decide)
  | succ n ih =>
    cases m with
    | zero =>
      rw [show y = '[' :: ']' :: (suffixes n ++ x) from h.symm, startsIn_cons_iff] at hy
      exact absurd hy (by decide)
    | succ m =>
      obtain ⟨rfl, rfl⟩ := ih (List.cons.inj (List.cons.inj h).2).2
      exact ⟨rfl, rfl⟩

section Lists

variable {p : Precedence} {mark : Char} {separator : List Char}

theorem startsIn_after (hmark : mark ∈ p.follow) (ms : Texts) {x : List Char}
    (hx : StartsIn (p.follow.erase mark) x) :
    StartsIn p.follow (ms.after (mark :: separator) ++ x) := by
  cases ms with
  | nil => exact hx.mono List.erase_subset
  | cons m rest => exact startsIn_cons_iff.2 hmark

theorem not_startsIn_after (m : TypeExpr × List Char) (ms : Texts) (x : List Char) :
    ¬ StartsIn (p.follow.erase mark) (Texts.after (mark :: separator) (m :: ms) ++ x) := by
  intro h
  have hnodup : p.follow.Nodup := by cases p <;> decide
  exact hnodup.not_mem_erase (startsIn_cons_iff.1 h)

/-- A list of texts ends where its separator does not follow. -/
theorem after_append_inj (hmark : mark ∈ p.follow) {m n : TypeExpr × List Char} {ms ns : Texts}
    {x y : List Char} (hms : ∀ r ∈ m :: ms, IsUnique p r.1 r.2)
    (hns : ∀ r ∈ n :: ns, Written p r.1 r.2) (hx : StartsIn (p.follow.erase mark) x)
    (hy : StartsIn (p.follow.erase mark) y)
    (h : m.2 ++ (ms.after (mark :: separator) ++ x) = n.2 ++ (ns.after (mark :: separator) ++ y)) :
    (m :: ms).map Prod.fst = (n :: ns).map Prod.fst ∧ x = y := by
  induction ms generalizing m n ns with
  | nil =>
    obtain ⟨hmn, hrest⟩ := hms m List.mem_cons_self (hns n List.mem_cons_self)
      (startsIn_after hmark [] hx) (startsIn_after hmark ns hy) h
    cases ns with
    | nil => exact ⟨congrArg (fun t => [t]) hmn, hrest⟩
    | cons n' ns =>
      rw [show x = _ from hrest] at hx
      exact absurd hx (not_startsIn_after n' ns y)
  | cons m' ms ih =>
    obtain ⟨hmn, hrest⟩ := hms m List.mem_cons_self (hns n List.mem_cons_self)
      (startsIn_after hmark _ hx) (startsIn_after hmark ns hy) h
    cases ns with
    | nil =>
      rw [show y = _ from hrest.symm] at hy
      exact absurd hy (not_startsIn_after m' ms x)
    | cons n' ns =>
      simp only [Texts.after, List.flatMap_cons, List.append_assoc] at hrest
      obtain ⟨hlist, hxy⟩ := ih (List.forall_mem_cons.1 hms).2 (List.forall_mem_cons.1 hns).2
        (List.append_cancel_left hrest)
      exact ⟨congrArg₂ List.cons hmn hlist, hxy⟩

end Lists

/-- **A text can be taken off the front of a longer one in one way only.** -/
theorem Written.unique {p : Precedence} {t : TypeExpr} {w : List Char} (h : Written p t w) :
    IsUnique p t w := by
  have htable : IsWord "table".toList := by decide
  have htuple : IsWord "tuple".toList := by decide
  induction h with
  | @name n hn =>
    intro u v x y hv hx hy h
    cases hv with
    | @name m hm =>
      obtain ⟨hnm, hxy⟩ := word_append_inj hn hm (hx.mono (Precedence.follow_subset_marks _))
        (hy.mono (Precedence.follow_subset_marks _)) h
      exact ⟨congrArg TypeExpr.name (String.toList_inj.1 hnm), hxy⟩
    -- nothing that follows a name starts with a bracket, so a name is no word in front of one
    | dictionary =>
      rw [List.append_assoc] at h
      exact absurd h (word_append_ne_bracket hn htable hx)
    | tuple =>
      rw [List.append_assoc] at h
      exact absurd h (word_append_ne_bracket hn htuple hx)
  | dictionary hkey hvalue ihkey ihvalue =>
    intro u v x y hv hx hy h
    cases hv with
    | name hm =>
      rw [List.append_assoc] at h
      exact absurd h.symm (word_append_ne_bracket hm htable hy)
    | dictionary hkey' hvalue' =>
      simp only [List.append_assoc, List.cons_append, List.nil_append] at h
      obtain ⟨-, h⟩ := bracket_append_inj htable htable h
      -- a comma may follow the key and a bracket the value, so the induction finds both ends
      obtain ⟨rfl, h⟩ := ihkey hkey' (startsIn_cons_iff.2 (by decide))
        (startsIn_cons_iff.2 (by decide)) h
      obtain ⟨rfl, h⟩ := ihvalue hvalue' (startsIn_cons_iff.2 (by decide))
        (startsIn_cons_iff.2 (by decide)) (List.cons.inj (List.cons.inj h).2).2
      exact ⟨rfl, (List.cons.inj h).2⟩
    | tuple hns =>
      rw [List.append_assoc, List.append_assoc] at h
      exact absurd (bracket_append_inj htable htuple h).1 (by decide)
  | tuple hms ih =>
    intro u v x y hv hx hy h
    cases hv with
    | name hm =>
      rw [List.append_assoc] at h
      exact absurd h.symm (word_append_ne_bracket hm htuple hy)
    | dictionary =>
      rw [List.append_assoc, List.append_assoc] at h
      exact absurd (bracket_append_inj htuple htable h).1 (by decide)
    | tuple hns =>
      simp only [List.append_assoc, List.cons_append, List.nil_append] at h
      obtain ⟨-, h⟩ := bracket_append_inj htuple htuple h
      obtain ⟨hlist, h⟩ := after_append_inj (by decide) ih hns (startsIn_cons_iff.2 (by decide))
        (startsIn_cons_iff.2 (by decide)) h
      exact ⟨congrArg TypeExpr.tuple hlist, (List.cons.inj h).2⟩
  | arrays n h ih =>
    intro u v x y hv hx hy h
    cases hv with
    | arrays m hm =>
      rw [List.append_assoc, List.append_assoc] at h
      -- the induction finds what is in front of the suffixes, and then these are counted
      obtain ⟨rfl, hrest⟩ := ih hm (startsIn_suffixes n hx) (startsIn_suffixes m hy) h
      obtain ⟨rfl, hxy⟩ := suffixes_append_inj hx hy hrest
      exact ⟨rfl, hxy⟩
  | options hms ih =>
    intro u v x y hv hx hy h
    cases hv with
    | options hns =>
      rw [List.append_assoc, List.append_assoc] at h
      rw [← Precedence.suffixed_follow_erase] at hx hy
      obtain ⟨hlist, hxy⟩ := after_append_inj (by decide) ih hns hx hy h
      exact ⟨congrArg ofAlternatives hlist, hxy⟩

/-! ## What is written is rendered

The grammar is about lists of characters and the text of a type is a string; here the two meet. -/

theorem intercalate_ofList (separator : String) (m : TypeExpr × List Char) (ms : Texts) :
    separator.intercalate ((m :: ms).map fun r => String.ofList r.2) =
      String.ofList (m.2 ++ ms.after separator.toList) := by
  induction ms generalizing m with
  | nil => simp [Texts.after]
  | cons next ms ih =>
    have hnext := ih next
    rw [List.map_cons] at hnext
    rw [List.map_cons, List.map_cons, String.intercalate_cons_cons, hnext]
    simp [Texts.after, String.ofList_append, String.append_assoc]

theorem mapM_render_fst {ms : Texts} (h : ∀ r ∈ ms, r.1.render = .ok (String.ofList r.2)) :
    (ms.map Prod.fst).mapM render = .ok (ms.map fun r => String.ofList r.2) := by
  rw [mapM_eq_ok_iff, List.forall₂_map_left_iff, List.forall₂_map_right_iff, List.forall₂_same]
  exact h

theorem suffixes_concat (n : Nat) : suffixes n ++ ['[', ']'] = suffixes (n + 1) := by
  induction n with
  | zero => rfl
  | succ n ih => exact congrArg (fun w => '[' :: ']' :: w) ih

theorem render_arrays {t : TypeExpr} {w : List Char} (h : t.render = .ok (String.ofList w))
    (n : Nat) : (arrays n t).render = .ok (String.ofList (w ++ suffixes n)) := by
  induction n with
  | zero => rwa [suffixes, List.append_nil]
  | succ n ih =>
    rw [arrays, render, ih, ← suffixes_concat, ← List.append_assoc]
    exact congrArg Except.ok String.ofList_append.symm

/-- **A type is rendered as it is written.** -/
theorem Written.render_eq {p : Precedence} {t : TypeExpr} {w : List Char} (h : Written p t w) :
    t.render = .ok (String.ofList w) := by
  induction h with
  | name hn => rw [render, String.ofList_toList]
  | dictionary hkey hvalue ihkey ihvalue =>
    rw [render, ihkey, ihvalue]
    refine congrArg Except.ok (String.toList_inj.1 ?_)
    simp
  | @tuple m ms hms ih =>
    rw [render, renderAll_eq_mapM, mapM_render_fst ih, ok_bind, intercalate_ofList]
    refine congrArg Except.ok (String.toList_inj.1 ?_)
    simp
  | arrays n h ih => exact render_arrays ih n
  | options hms ih =>
    rw [render_ofAlternatives, mapM_render_fst ih]
    exact congrArg Except.ok (intercalate_ofList " | " _ _)

/-! ## Legible types

Whether a type is legible is asked of the type that is read as well as of its normal form: the words
are those of the type, while a union that is the element of an array may come to light only after
the alias around it is gone. -/

/-- The node is a word or is built from other types. -/
def IsPlain : TypeExpr → Prop
  | .name n => IsWord n.toList
  | .leaf (.str s) => IsWord s.toList
  | .leaf _ => False
  | .literal _ _ => False
  | _ => True

/-- The element of an array is not a union, which would be written without brackets. -/
def Separable (t : TypeExpr) : Prop :=
  ∀ s ∈ walk.nodes t, ∀ element, s = .array element → element.isUnion = false

/-- A type is separable if its first node is and all its parts are. -/
theorem separable_iff {t : TypeExpr} :
    t.Separable ↔
      (∀ element, t = .array element → element.isUnion = false) ∧ ∀ s ∈ t.parts, s.Separable :=
  walk.forall_mem_nodes_iff

theorem separable_union_iff {options : List TypeExpr} {fullFormat : Bool} :
    (TypeExpr.union options fullFormat).Separable ↔ ∀ s ∈ options, s.Separable := by
  rw [separable_iff]
  exact and_iff_right nofun

theorem separable_ofAlternatives_iff {ts : List TypeExpr} :
    (ofAlternatives ts).Separable ↔ ∀ s ∈ ts, s.Separable := by
  unfold ofAlternatives
  split
  · rw [List.forall_mem_singleton]
  · exact separable_union_iff

theorem separable_alternatives_iff {t : TypeExpr} :
    (∀ s ∈ t.alternatives, s.Separable) ↔ t.Separable := by
  cases t with
  | union options fullFormat => exact separable_union_iff.symm
  | _ => exact List.forall_mem_singleton

/-- A type whose text can be told apart: it is read from a value, it has no literals, numbers,
booleans or lists, its names are words, and in its normal form no array has a union as element. -/
structure Legible (t : TypeExpr) : Prop where
  isRead : ∃ data path, (read data path).outcome = .ok t
  plain : ∀ s ∈ walk.nodes t, s.IsPlain
  separable : t.normalize.Separable

theorem exists_texts {p : Precedence} {ts : List TypeExpr} (h : ∀ t ∈ ts, ∃ w, Written p t w) :
    ∃ ms : Texts, ms.map Prod.fst = ts ∧ ∀ r ∈ ms, Written p r.1 r.2 := by
  induction ts with
  | nil => exact ⟨[], rfl, nofun⟩
  | cons t rest ih =>
    rw [List.forall_mem_cons] at h
    obtain ⟨w, hw⟩ := h.1
    obtain ⟨ms, rfl, hms⟩ := ih h.2
    exact ⟨(t, w) :: ms, rfl, List.forall_mem_cons.2 ⟨hw, hms⟩⟩

/-- A list of types that is not empty, with their texts. -/
theorem exists_texts_cons {p : Precedence} {ts : List TypeExpr} (hne : ts ≠ [])
    (h : ∀ t ∈ ts, ∃ w, Written p t w) :
    ∃ m ms, (m :: ms).map Prod.fst = ts ∧ ∀ r ∈ m :: ms, Written p r.1 r.2 := by
  obtain ⟨ms, rfl, hms⟩ := exists_texts h
  cases ms with
  | nil => exact absurd rfl hne
  | cons m ms => exact ⟨m, ms, rfl, hms⟩

theorem Written.exists_array {t : TypeExpr} {w : List Char} (h : Written .suffixed t w) :
    ∃ v, Written .suffixed (.array t) v := by
  cases h with
  | arrays n hatom => exact ⟨_, .arrays (n + 1) hatom⟩

theorem WellFormed.exists_written_of_alternatives {pos : Position} {t : TypeExpr}
    (hwf : WellFormed pos t)
    (h : ∀ s ∈ t.normalize.alternatives, ∃ w, Written .suffixed s w) :
    ∃ w, Written .union t.normalize w := by
  obtain ⟨m, ms, hts, hms⟩ := exists_texts_cons hwf.alternatives_ne_nil h
  rw [← ofAlternatives_alternatives t, ← hts]
  exact ⟨_, .options hms⟩

/-- The normal form of a well-formed type follows the grammar. -/
theorem WellFormed.exists_written {pos : Position} {t : TypeExpr} (h : WellFormed pos t)
    (hplain : ∀ s ∈ walk.nodes t, s.IsPlain) (hsep : t.normalize.Separable) :
    ∀ s ∈ t.normalize.alternatives, ∃ w, Written .suffixed s w := by
  have hatom {s : TypeExpr} {w : List Char} (h : Written .atom s w) :
      ∃ w, Written .suffixed s w := ⟨_, .arrays 0 h⟩
  induction h with
  | @leaf pos v hv =>
    rw [walk.forall_mem_nodes_iff] at hplain
    cases v with
    | str s => exact List.forall_mem_singleton.2 (hatom (.name hplain.1))
    | _ => exact absurd hplain.1 id
  | name hpos =>
    rw [walk.forall_mem_nodes_iff] at hplain
    exact List.forall_mem_singleton.2 (hatom (.name hplain.1))
  | literal => exact absurd (walk.forall_mem_nodes_iff.1 hplain).1 id
  | array h ih =>
    rw [walk.forall_mem_nodes_iff] at hplain
    rw [normalize, separable_iff] at hsep
    have helement := ih (hplain.2 _ List.mem_cons_self) (hsep.2 _ List.mem_cons_self)
    -- the element is its only alternative
    rw [alternatives_of_not_isUnion (hsep.1 _ rfl), List.forall_mem_singleton] at helement
    obtain ⟨w, hw⟩ := helement
    exact List.forall_mem_singleton.2 hw.exists_array
  | dictionary hkey hvalue ihkey ihvalue =>
    rw [walk.forall_mem_nodes_iff] at hplain
    rw [normalize, separable_iff] at hsep
    obtain ⟨k, hk⟩ := hkey.exists_written_of_alternatives
      (ihkey (hplain.2 _ List.mem_cons_self) (hsep.2 _ List.mem_cons_self))
    obtain ⟨v, hv⟩ := hvalue.exists_written_of_alternatives
      (ihvalue (hplain.2 _ (.tail _ List.mem_cons_self)) (hsep.2 _ (.tail _ List.mem_cons_self)))
    exact List.forall_mem_singleton.2 (hatom (.dictionary hk hv))
  | @tuple pos elements hne h ih =>
    rw [walk.forall_mem_nodes_iff] at hplain
    rw [normalize_tuple, separable_iff] at hsep
    have helements : ∀ s ∈ elements.map normalize, ∃ w, Written .union s w := by
      intro s hs
      have hs' := hsep.2 s hs
      obtain ⟨t, ht, rfl⟩ := List.mem_map.1 hs
      exact (h t ht).exists_written_of_alternatives (ih t ht (hplain.2 t ht) hs')
    obtain ⟨m, ms, hts, hms⟩ := exists_texts_cons (mt List.map_eq_nil_iff.1 hne) helements
    rw [normalize_tuple, ← hts]
    exact List.forall_mem_singleton.2 (hatom (.tuple hms))
  | union hne h ih =>
    rw [walk.forall_mem_nodes_iff] at hplain
    rw [normalize_union, separable_ofAlternatives_iff] at hsep
    rw [alternatives_normalize_union]
    intro s hs
    obtain ⟨t, ht, hs⟩ := List.mem_flatMap.1 hs
    refine ih t ht (hplain.2 t ht) ?_ s hs
    rw [← separable_alternatives_iff]
    exact fun r hr => hsep r (List.mem_flatMap.2 ⟨t, ht, hr⟩)
  | aliased h hdescription ih =>
    exact ih ((walk.forall_mem_nodes_iff.1 hplain).2 _ List.mem_cons_self) hsep

/-- The text of a legible type is that of its normal form in the grammar. -/
theorem Legible.exists_written {t : TypeExpr} (h : t.Legible) :
    ∃ w, Written .union t.normalize w ∧ t.render = .ok (String.ofList w) := by
  obtain ⟨data, path, hread⟩ := h.isRead
  have hwf := wellFormed_of_spells (read_outcome_eq_ok_iff.1 hread)
  obtain ⟨w, hw⟩ := hwf.exists_written_of_alternatives (hwf.exists_written h.plain h.separable)
  exact ⟨w, hw, hwf.render_normalize ▸ hw.render_eq⟩

/-- **Legible types have texts, and they have the same text exactly if they have the same normal
form.** -/
theorem render_eq_iff_normalize_eq {t u : TypeExpr} (ht : t.Legible) (hu : u.Legible) :
    (∃ text, t.render = .ok text) ∧ (t.render = u.render ↔ t.normalize = u.normalize) := by
  obtain ⟨v, hv, htv⟩ := ht.exists_written
  obtain ⟨w, hw, huw⟩ := hu.exists_written
  refine ⟨⟨_, htv⟩, ?_⟩
  rw [htv, huw, Except.ok.injEq, String.ofList_inj]
  constructor
  · intro hvw
    have hsame : v ++ [] = w ++ [] := by rw [hvw]
    exact (hv.unique hw (startsIn_nil _) (startsIn_nil _) hsame).1
  · intro h
    rw [h] at hv
    exact String.ofList_inj.1 (Except.ok.inj (hv.render_eq.symm.trans hw.render_eq))

/-- A union of a name and a union under a description. -/
def unionOnTheRight : TypeExpr :=
  .union [.name "a", .alias (.union [.name "b", .name "c"] false) (some "one of two")] false

/-- A union of a union and a name. -/
def unionOnTheLeft : TypeExpr :=
  .union [.union [.name "a", .name "b"] true, .name "c"] false

theorem separable_normalize_unionOnTheRight : unionOnTheRight.normalize.Separable := by
  have hname (n : String) : (TypeExpr.name n).Separable := separable_iff.2 ⟨nofun, nofun⟩
  show (TypeExpr.union [.name "a", .name "b", .name "c"] false).Separable
  simp [separable_union_iff, hname]

theorem legible_unionOnTheRight : unionOnTheRight.Legible where
  isRead := ⟨unionOnTheRight.encode, "", rfl⟩
  plain := by simp [unionOnTheRight, Walk.nodes_eq, walk, parts, IsPlain, IsWord, marks]
  separable := separable_normalize_unionOnTheRight

theorem legible_unionOnTheLeft : unionOnTheLeft.Legible where
  isRead := ⟨unionOnTheLeft.encode, "", rfl⟩
  plain := by simp [unionOnTheLeft, Walk.nodes_eq, walk, parts, IsPlain, IsWord, marks]
  separable := separable_normalize_unionOnTheRight

theorem render_eq_iff_normalize_eq_union :
    unionOnTheRight.Legible ∧ unionOnTheLeft.Legible ∧
      unionOnTheRight.render = unionOnTheLeft.render ∧
      unionOnTheRight.normalize = unionOnTheLeft.normalize :=
  ⟨legible_unionOnTheRight, legible_unionOnTheLeft, rfl,
    (render_eq_iff_normalize_eq legible_unionOnTheRight legible_unionOnTheLeft).2.1 rfl⟩

/-- A union that is the element of an array is written like one whose last option is an array. -/
example : (TypeExpr.array (.union [.name "a", .name "b"] false)).render =
    (TypeExpr.union [.name "a", .array (.name "b")] false).render := rfl

end TypeExpr
end ApiReference
