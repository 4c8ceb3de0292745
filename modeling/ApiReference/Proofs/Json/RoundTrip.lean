import ApiReference.Proofs.Json.Numbers
import ApiReference.Proofs.Json.Strings
import Mathlib.Data.List.Nodup

/-!
# JSON is read back as it was written

The text of a JSON value is printable ASCII (`isPlain_of_mem_write`), and it is read back
(`parse_write`). What is read is the value that was written, with two provisos: of a text what comes
back of its code points is read, and a double is read as a double, which one is left to the reader
(`Coded.reread`). Neither touches a `Json` value without doubles, since a string has no halves of
surrogate pairs: if every object in it has each key once, it is read back as itself
(`Json.IsExact.parse_write`).

The reader descends with a bound on its depth. The proof follows the value instead, with the
invariant that the bound exceeds the length of what is written for the part of the value that is
still to be read (`Reads`); what may follow it is what makes a number end (`IsEnd`).

The theorem is shown for coded values, whose texts are lists of code points, because the log writes
such values: a message may have halves of surrogate pairs in it, which no string can. Values with
strings are a special case. The function `Coded.reread` is the whole of what a reader changes, so a
statement about what a line gives back is one about this function, and it is easy to see what it
leaves alone: shape, order, numbers of members and whole numbers.

An object with a key twice is read with both members. Looking a key up then finds one of them, and
it need not be the one that a writer of fields would have kept, so `IsExact` asks for keys that are
distinct. That is no restriction in practice, since objects are built by setting one key after
another.

## What is here

* `Coded.nested_induction`: induction over a value and all values inside it.
* `isPlain_of_mem_write`: the text of a value is printable ASCII.
* `Members.get?_reread_named`: what is found under a key once an object is read back.
* `Coded.parse_write`: what is read of the text of a value.
* `Json.IsExact.parse_write`: which values are read back as themselves.
-/

set_option autoImplicit false

namespace ApiReference

/-! ## Objects with each key once

Setting a key that is there replaces its value, and any other key is put at the end; so whatever is
set, keys stay distinct if they were. -/

namespace Fields

/-- Every key occurs once. -/
def IsDistinct (fields : Fields) : Prop :=
  (fields.map Prod.fst).Nodup

theorem mem_of_get?_eq_some {fields : Fields} {key : String} {v : Json}
    (h : fields.get? key = some v) : (key, v) ∈ fields := by
  induction fields with
  | nil => cases h
  | cons f rest ih =>
    rw [get?_cons] at h
    split at h
    · next hkey =>
      obtain rfl := Option.some.inj h
      exact hkey ▸ List.mem_cons_self
    · exact List.mem_cons_of_mem f (ih h)

theorem not_mem_keys_of_get?_eq_none {fields : Fields} {key : String}
    (h : fields.get? key = none) : key ∉ fields.map Prod.fst := by
  induction fields with
  | nil => exact List.not_mem_nil
  | cons f rest ih =>
    rw [get?_cons] at h
    split at h
    · cases h
    · next hkey =>
      rw [List.map_cons, List.mem_cons, not_or]
      exact ⟨Ne.symm hkey, ih h⟩

theorem mem_keys_put {fields : Fields} {key other : String} {v : Json} :
    other ∈ (fields.put key v).map Prod.fst ↔ other ∈ fields.map Prod.fst ∨ other = key := by
  induction fields with
  | nil => simp [put]
  | cons f rest ih =>
    rw [put]
    split
    · next h =>
      obtain rfl : f.1 = key := beq_iff_eq.1 h
      simp only [List.map_cons, List.mem_cons]
      tauto
    · simp only [List.map_cons, List.mem_cons, ih]
      tauto

theorem put_of_not_mem {fields : Fields} {key : String} (h : key ∉ fields.map Prod.fst) (v : Json) :
    fields.put key v = fields ++ [(key, v)] := by
  induction fields with
  | nil => rfl
  | cons f rest ih =>
    rw [List.map_cons, List.mem_cons, not_or] at h
    rw [put, if_neg (by simpa using Ne.symm h.1), ih h.2]
    rfl

theorem IsDistinct.put {fields : Fields} (h : fields.IsDistinct) (key : String) (v : Json) :
    (fields.put key v).IsDistinct := by
  induction fields with
  | nil => exact List.nodup_singleton key
  | cons f rest ih =>
    have h := List.nodup_cons.1 h
    rw [Fields.put]
    split
    · next hkey =>
      obtain rfl : f.1 = key := beq_iff_eq.1 hkey
      exact List.nodup_cons.2 h
    · next hkey =>
      refine List.nodup_cons.2 ⟨fun hmem => ?_, ih h.2⟩
      rcases mem_keys_put.1 hmem with hmem | hmem
      · exact h.1 hmem
      · exact hkey (beq_iff_eq.2 hmem)

theorem IsDistinct.putAll {before : Fields} (h : before.IsDistinct) (fields : Fields) :
    (before.putAll fields).IsDistinct := by
  induction fields generalizing before with
  | nil => exact h
  | cons f rest ih => exact ih (h.put f.1 f.2)

/-- What is under a key was there before or was set. -/
theorem mem_of_get?_putAll {before fields : Fields} {key : String} {v : Json}
    (h : (before.putAll fields).get? key = some v) :
    before.get? key = some v ∨ (key, v) ∈ fields := by
  induction fields generalizing before with
  | nil => exact Or.inl h
  | cons f rest ih =>
    have h : (before.put f.1 f.2).get? key = some v ∨ (key, v) ∈ rest := ih h
    rcases h with h | h
    · by_cases hkey : f.1 = key
      · rw [hkey, get?_put_self, Option.some.injEq] at h
        exact Or.inr (List.mem_cons.2 (Or.inl (Prod.ext hkey.symm h.symm)))
      · rw [get?_put_of_ne hkey] at h
        exact Or.inl h
    · exact Or.inr (List.mem_cons_of_mem f h)

/-- Fields with other keys than those in front, each of them once, are put behind them. -/
theorem putAll_of_isDistinct {before fields : Fields} (h : IsDistinct (before ++ fields)) :
    before.putAll fields = before ++ fields := by
  induction fields generalizing before with
  | nil => exact (List.append_nil before).symm
  | cons f rest ih =>
    have hsplit : before ++ f :: rest = before ++ [f] ++ rest := by simp
    have hf : f.1 ∉ before.map Prod.fst := by
      rw [IsDistinct, List.map_append, List.map_cons] at h
      exact fun hmem => (List.nodup_append.1 h).2.2 f.1 hmem f.1 List.mem_cons_self rfl
    rw [hsplit] at h ⊢
    rw [← ih h, putAll, List.foldl_cons, put_of_not_mem hf]
    rfl

end Fields

namespace Coded

open Json Json.Reader Text

/-- Induction over a value and all values inside it. -/
@[elab_as_elim]
theorem nested_induction {P : Coded → Prop} (null : P .null) (bool : ∀ b, P (.bool b))
    (int : ∀ n, P (.int n)) (float : ∀ x, P (.float x)) (text : ∀ cs, P (.text cs))
    (arr : ∀ items, (∀ v ∈ items, P v) → P (.arr items))
    (obj : ∀ members : Members, (∀ m ∈ members, P m.2) → P (.obj members)) (v : Coded) : P v :=
  @Coded.rec P (fun items => ∀ v ∈ items, P v) (fun members => ∀ m ∈ members, P m.2)
    (fun m => P m.2) null bool int float text arr obj
    nofun (fun _ _ hv hrest => List.forall_mem_cons.2 ⟨hv, hrest⟩)
    nofun (fun _ _ hm hrest => List.forall_mem_cons.2 ⟨hm, hrest⟩) (fun _ _ hv => hv) v

/-! ## What is written -/

theorem isPlain_of_mem_numeral {cs : List Char} (h : Binary64.IsNumeral cs) :
    ∀ c ∈ cs, IsPlain c :=
  h.forall_mem (fun _ => isPlain_of_isDigit) (isPlain_of_all rfl)

/-- The text of a double, infinite or not, is printable ASCII. -/
theorem isPlain_of_mem_textWith (x : Binary64) :
    ∀ c ∈ (x.textWith "Infinity").toList, IsPlain c := by
  cases x with
  | finite negative m e =>
    exact isPlain_of_mem_numeral (Binary64.isNumeral_text (.finite negative m e))
  | infinite negative => cases negative <;> exact isPlain_of_all rfl

theorem isPlain_of_mem_writeItems {items : List Coded}
    (h : ∀ v ∈ items, ∀ c ∈ writeChars v, IsPlain c) : ∀ c ∈ writeItems items, IsPlain c := by
  induction items with
  | nil => exact nofun
  | cons v rest ih =>
    rw [List.forall_mem_cons] at h
    rw [writeItems, List.forall_mem_append]
    refine ⟨h.1, ?_⟩
    split
    · exact nofun
    · exact List.forall_mem_cons.2 ⟨by decide, ih h.2⟩

theorem isPlain_of_mem_writeMembers {members : Members}
    (h : ∀ m ∈ members, ∀ c ∈ writeChars m.2, IsPlain c) :
    ∀ c ∈ writeMembers members, IsPlain c := by
  induction members with
  | nil => exact nofun
  | cons m rest ih =>
    obtain ⟨key, v⟩ := m
    rw [List.forall_mem_cons] at h
    rw [writeMembers, List.forall_mem_append, List.forall_mem_append, List.forall_mem_cons]
    refine ⟨⟨fun _ => isPlain_of_mem_writeText, by decide, h.1⟩, ?_⟩
    split
    · exact nofun
    · exact List.forall_mem_cons.2 ⟨by decide, ih h.2⟩

theorem isPlain_of_mem_writeChars (v : Coded) : ∀ c ∈ writeChars v, IsPlain c := by
  induction v using nested_induction with
  | null => exact isPlain_of_all rfl
  | bool b => cases b <;> exact isPlain_of_all rfl
  | int n => exact isPlain_of_mem_numeral (Binary64.isNumeral_toString_int n)
  | float x => exact isPlain_of_mem_textWith x
  | text cs => exact fun _ => isPlain_of_mem_writeText
  | arr items ih =>
    rw [writeChars, List.forall_mem_append, List.forall_mem_cons]
    exact ⟨⟨by decide, isPlain_of_mem_writeItems ih⟩, isPlain_of_all rfl⟩
  | obj members ih =>
    rw [writeChars, List.forall_mem_append, List.forall_mem_cons]
    exact ⟨⟨by decide, isPlain_of_mem_writeMembers ih⟩, isPlain_of_all rfl⟩

/-- **The text of a value is printable ASCII.** -/
theorem isPlain_of_mem_write (v : Coded) : ∀ c ∈ v.write.toList, IsPlain c := by
  rw [write, String.toList_ofList]
  exact isPlain_of_mem_writeChars v

/-! ## What is read

Reading goes through the value and changes its leaves alone: the shape, the order of items and
members and the number of members under a key stay. -/

mutual

/-- What is read of the text of a value. -/
def reread : Coded → Coded
  | .null => .null
  | .bool b => .bool b
  | .int n => .int n
  | .float x => .float x.reread
  | .text cs => .text (joined cs)
  | .arr vs => .arr (rereadItems vs)
  | .obj ms => .obj (rereadMembers ms)
termination_by structural v => v

/-- What is read of the items of an array. -/
def rereadItems : List Coded → List Coded
  | [] => []
  | v :: rest => v.reread :: rereadItems rest
termination_by structural items => items

/-- What is read of the members of an object, one after another. -/
def rereadMembers : List (List CodePoint × Coded) → Members
  | [] => []
  | (key, v) :: rest => (joined key, v.reread) :: rereadMembers rest
termination_by structural members => members

end

theorem rereadItems_eq_map (items : List Coded) : rereadItems items = items.map reread := by
  induction items with
  | nil => rfl
  | cons v rest ih => rw [rereadItems, ih, List.map_cons]

/-- Keys that are strings stay as they are, and every member is read on its own. -/
theorem rereadMembers_named (members : List (String × Coded)) :
    rereadMembers (Members.named members) =
      Members.named (members.map fun m => (m.1, m.2.reread)) := by
  induction members with
  | nil => rfl
  | cons m rest ih =>
    rw [Members.named_cons, rereadMembers, joined_codePoints, ih, List.map_cons,
      Members.named_cons]

end Coded

namespace Members

open Text

theorem get?_named_eq_none {members : List (String × Coded)} {key : String}
    (h : key ∉ members.map Prod.fst) : (named members).get? key = none := by
  induction members with
  | nil => rfl
  | cons m rest ih =>
    rw [List.map_cons, List.mem_cons, not_or] at h
    have hkey : codePoints m.1 ≠ codePoints key := codePoints_injective.ne (Ne.symm h.1)
    rw [named_cons, get?, ih h.2]
    exact if_neg hkey

/-- A member of an object with each key once is found under its key. -/
theorem get?_named {members : List (String × Coded)} (h : (members.map Prod.fst).Nodup)
    {key : String} {v : Coded} (hmem : (key, v) ∈ members) :
    (named members).get? key = some v := by
  induction members with
  | nil => cases hmem
  | cons m rest ih =>
    rw [List.map_cons, List.nodup_cons] at h
    rw [named_cons, get?]
    rcases List.mem_cons.1 hmem with rfl | hmem
    · rw [get?_named_eq_none h.1]
      exact if_pos rfl
    · rw [ih h.2 hmem]

/-- **What is found under a key once an object is read back**: the value of the member, as it is
read itself. -/
theorem get?_reread_named {members : List (String × Coded)} (h : (members.map Prod.fst).Nodup)
    {key : String} {v : Coded} (hmem : (key, v) ∈ members) :
    get? (Coded.rereadMembers (named members)) key = some v.reread := by
  rw [Coded.rereadMembers_named]
  refine get?_named ?_ (List.mem_map.2 ⟨(key, v), hmem, rfl⟩)
  rw [List.map_map]
  exact h

theorem get?_reread_named_eq_none {members : List (String × Coded)} {key : String}
    (h : key ∉ members.map Prod.fst) :
    get? (Coded.rereadMembers (named members)) key = none := by
  rw [Coded.rereadMembers_named]
  refine get?_named_eq_none ?_
  rw [List.map_map]
  exact h

end Members

namespace Json

open Text

/-! ## Values that are read back as themselves -/

theorem codedItems_eq_map (items : List Json) : codedItems items = items.map coded := by
  induction items with
  | nil => rfl
  | cons v rest ih => rw [codedItems, ih, List.map_cons]

theorem codedFields_eq_named (fields : Fields) :
    codedFields fields = Members.named (fields.map fun f => (f.1, f.2.coded)) := by
  induction fields with
  | nil => rfl
  | cons f rest ih => rw [codedFields, ih, List.map_cons, Members.named_cons]

/-- What is found under a key once the fields of an object are read back. -/
theorem get?_reread_codedFields {fields : Fields} (h : fields.IsDistinct) (key : String) :
    Members.get? (Coded.rereadMembers (codedFields fields)) key =
      (fields.get? key).map fun v => v.coded.reread := by
  have hkeys : (fields.map fun f => (f.1, f.2.coded)).map Prod.fst = fields.map Prod.fst := by
    rw [List.map_map]
    rfl
  rw [codedFields_eq_named]
  cases hget : fields.get? key with
  | some v =>
    have hmem := Fields.mem_of_get?_eq_some hget
    exact Members.get?_reread_named (hkeys ▸ h) (List.mem_map.2 ⟨_, hmem, rfl⟩)
  | none =>
    exact Members.get?_reread_named_eq_none (hkeys ▸ Fields.not_mem_keys_of_get?_eq_none hget)

/-- A value without doubles in which every object has each key once. -/
inductive IsExact : Json → Prop where
  | null : IsExact .null
  | bool (b : Bool) : IsExact (.bool b)
  | int (n : Int) : IsExact (.int n)
  | str (s : String) : IsExact (.str s)
  | arr {items : List Json} (h : ∀ v ∈ items, IsExact v) : IsExact (.arr items)
  | obj {fields : Fields} (hdistinct : fields.IsDistinct) (h : ∀ f ∈ fields, IsExact f.2) :
      IsExact (.obj fields)

/-- Nothing in such a value is changed when it is read back. -/
theorem IsExact.reread_coded {j : Json} (h : j.IsExact) : j.coded.reread = j.coded := by
  induction h with
  | null => rfl
  | bool b => rfl
  | int n => rfl
  | str s => exact congrArg Coded.text (joined_codePoints s)
  | arr _ ih =>
    rw [coded, codedItems_eq_map, Coded.reread, Coded.rereadItems_eq_map, List.map_map]
    exact congrArg Coded.arr (List.map_congr_left ih)
  | obj _ _ ih =>
    rw [coded, codedFields_eq_named, Coded.reread, Coded.rereadMembers_named, List.map_map]
    exact congrArg (fun ms => Coded.obj (Members.named ms))
      (List.map_congr_left fun f hf => congrArg (Prod.mk f.1) (ih f hf))

theorem itemsJson?_codedItems {items : List Json} (h : ∀ v ∈ items, v.coded.json? = some v) :
    Coded.itemsJson? (codedItems items) = some items := by
  induction items with
  | nil => rfl
  | cons v rest ih =>
    rw [List.forall_mem_cons] at h
    rw [codedItems, Coded.itemsJson?, h.1, ih h.2]
    rfl

theorem membersJson?_codedFields {fields : Fields} (h : ∀ f ∈ fields, f.2.coded.json? = some f.2) :
    Coded.membersJson? (codedFields fields) = some fields := by
  induction fields with
  | nil => rfl
  | cons f rest ih =>
    rw [List.forall_mem_cons] at h
    rw [codedFields, Coded.membersJson?, ofCodePoints?_codePoints, h.1, ih h.2]
    rfl

/-- A coded value that was made from such a value is that value. -/
theorem IsExact.json?_coded {j : Json} (h : j.IsExact) : j.coded.json? = some j := by
  induction h with
  | null => rfl
  | bool b => rfl
  | int n => rfl
  | str s => rw [coded, Coded.json?, ofCodePoints?_codePoints, Option.map_some]
  | arr _ ih => rw [coded, Coded.json?, itemsJson?_codedItems ih, Option.map_some]
  | @obj fields hdistinct _ ih =>
    have hfields : Fields.IsDistinct ([] ++ fields) := hdistinct
    rw [coded, Coded.json?, membersJson?_codedFields ih, Option.map_some,
      Fields.putAll_of_isDistinct hfields, List.nil_append]

end Json

namespace Coded

open Json Json.Reader Text

/-! ## Tokens

The reader decides by the first character what it reads. A written value never begins with a blank,
and never with the bracket that would close an array around it. -/

/-- A blank between tokens. -/
def isBlank (c : Char) : Bool :=
  c == ' ' || c == '\n' || c == '\r' || c == '\t'

theorem skipBlanks_cons {c : Char} (h : isBlank c = false) (rest : List Char) :
    skipBlanks (c :: rest) = c :: rest :=
  List.dropWhile_cons_of_neg (Bool.eq_false_iff.1 h)

/-- The first character of a number. -/
def OpensNumber (c : Char) : Prop :=
  c.isDigit = true ∨ c = '-' ∨ c = 'I'

theorem OpensNumber.ne {c d : Char} (h : OpensNumber c) (hdigit : d.isDigit = false)
    (hminus : '-' ≠ d) (hword : 'I' ≠ d) : c ≠ d := by
  rintro rfl
  rcases h with h | h | h
  · exact absurd h (Bool.eq_false_iff.1 hdigit)
  · exact hminus h.symm
  · exact hword h.symm

theorem OpensNumber.isBlank_eq_false {c : Char} (h : OpensNumber c) : isBlank c = false := by
  rw [isBlank, beq_eq_false_iff_ne.2 (h.ne (d := ' ') rfl (by decide) (by decide)),
    beq_eq_false_iff_ne.2 (h.ne (d := '\n') rfl (by decide) (by decide)),
    beq_eq_false_iff_ne.2 (h.ne (d := '\r') rfl (by decide) (by decide)),
    beq_eq_false_iff_ne.2 (h.ne (d := '\t') rfl (by decide) (by decide))]
  rfl

theorem opensNumber_of_number {cs : List Char} {read : Coded × List Char}
    (h : number cs = some read) : ∃ c tail, cs = c :: tail ∧ OpensNumber c := by
  have hword : "Infinity".toList = ['I', 'n', 'f', 'i', 'n', 'i', 't', 'y'] := rfl
  cases cs with
  | nil => cases h
  | cons c tail =>
    refine ⟨c, tail, rfl, ?_⟩
    rw [number.eq_def] at h
    split at h
    · next hminus => exact Or.inr (Or.inl (List.cons.inj hminus).1)
    rw [unsigned, hword] at h
    split at h
    · next hinfinity =>
      rw [List.isPrefixOf, Bool.and_eq_true, beq_iff_eq] at hinfinity
      exact Or.inr (Or.inr hinfinity.1.symm)
    · left
      by_contra hdigit
      have hnone : digits (c :: tail) = none := by
        rw [digits, List.takeWhile_cons_of_neg hdigit]
      rw [hnone] at h
      cases h

/-- A text that is read as a number is read as a value. -/
theorem value_of_number (depth : Nat) {cs : List Char} {read : Coded × List Char}
    (h : number cs = some read) : value (depth + 1) cs = some read := by
  obtain ⟨c, tail, rfl, hc⟩ := opensNumber_of_number h
  have hne (d : Char) (hdigit : d.isDigit = false) (hminus : '-' ≠ d) (hword : 'I' ≠ d) :
      (c == d) = false := beq_eq_false_iff_ne.2 (hc.ne hdigit hminus hword)
  have hprefix (w : Char) (ws : List Char) (hw : (c == w) = false) :
      (w :: ws).isPrefixOf (c :: tail) = false := by
    rw [List.isPrefixOf, Bool.beq_comm, hw, Bool.false_and]
  rw [value, skipBlanks_cons hc.isBlank_eq_false]
  dsimp only
  rw [hne '"' rfl (by decide) (by decide), hne '[' rfl (by decide) (by decide),
    hne '\x7b' rfl (by decide) (by decide)]
  show scalar (c :: tail) = some read
  have hnull := hprefix 'n' "ull".toList (hne 'n' rfl (by decide) (by decide))
  have htrue := hprefix 't' "rue".toList (hne 't' rfl (by decide) (by decide))
  have hfalse := hprefix 'f' "alse".toList (hne 'f' rfl (by decide) (by decide))
  have hnull' : "null".toList = 'n' :: "ull".toList := rfl
  have htrue' : "true".toList = 't' :: "rue".toList := rfl
  have hfalse' : "false".toList = 'f' :: "alse".toList := rfl
  rw [scalar, hnull', htrue', hfalse', hnull, htrue, hfalse]
  exact h

theorem isEnd_nil : IsEnd [] := fun _ h => nomatch h

theorem isEnd_cons {c : Char} (h : c ∈ [',', ']', '\x7d']) (rest : List Char) :
    IsEnd (c :: rest) := by
  intro d hd
  obtain rfl : c = d := Option.some.inj hd
  exact h

/-- A written value begins with a character that is no blank and closes no array. -/
theorem exists_head_writeChars (v : Coded) :
    ∃ c tail, writeChars v = c :: tail ∧ isBlank c = false ∧ c ≠ ']' := by
  have hnumber {cs : List Char} {read : Coded × List Char} (h : number (cs ++ []) = some read) :
      ∃ c tail, cs = c :: tail ∧ isBlank c = false ∧ c ≠ ']' := by
    rw [List.append_nil] at h
    obtain ⟨c, tail, rfl, hc⟩ := opensNumber_of_number h
    exact ⟨c, tail, rfl, hc.isBlank_eq_false, hc.ne rfl (by decide) (by decide)⟩
  cases v with
  | null => exact ⟨_, _, rfl, by decide, by decide⟩
  | bool b => cases b <;> exact ⟨_, _, rfl, by decide, by decide⟩
  | int n => exact hnumber (number_toString n isEnd_nil)
  | float x => exact hnumber (number_textWith x isEnd_nil)
  | text cs => exact ⟨_, _, rfl, by decide, by decide⟩
  | arr items => exact ⟨_, _, rfl, by decide, by decide⟩
  | obj members => exact ⟨_, _, rfl, by decide, by decide⟩

theorem exists_head_writeItems {vs : List Coded} (hne : vs ≠ []) :
    ∃ c tail, writeItems vs = c :: tail ∧ isBlank c = false ∧ c ≠ ']' := by
  obtain ⟨v, vs, rfl⟩ := List.exists_cons_of_ne_nil hne
  obtain ⟨c, tail, hhead, hblank, hclose⟩ := exists_head_writeChars v
  rw [writeItems, hhead, List.cons_append]
  exact ⟨c, _, rfl, hblank, hclose⟩

theorem exists_head_writeMembers {ms : Members} (hne : ms ≠ []) :
    ∃ tail, writeMembers ms = '"' :: tail := by
  obtain ⟨m, ms, rfl⟩ := List.exists_cons_of_ne_nil hne
  exact ⟨_, rfl⟩

/-! ## Values

One step of the reader for each way in which a list may go on, and then a lemma for each kind of
value that has others in it. The bound goes down by one at each step, and the text by at least as
much. -/

section Steps

variable {depth : Nat} {cs tail : List Char} {v : Coded}

theorem items_of_comma (hv : value depth cs = some (v, ',' :: tail)) :
    Reader.items (depth + 1) cs = (Reader.items depth tail).map fun r => (v :: r.1, r.2) := by
  rw [Reader.items, hv]
  show (Reader.items depth tail).bind _ = _
  cases Reader.items depth tail <;> rfl

theorem items_of_bracket (hv : value depth cs = some (v, ']' :: tail)) :
    Reader.items (depth + 1) cs = some ([v], tail) := by
  rw [Reader.items, hv]
  rfl

variable {key : List CodePoint} {body : List Char} (hkey : string body = some (key, ':' :: cs))

include hkey

theorem members_of_comma (hv : value depth cs = some (v, ',' :: tail)) :
    members (depth + 1) ('"' :: body) =
      (members depth tail).map fun r => ((key, v) :: r.1, r.2) := by
  rw [members]
  show (string body).bind _ = _
  rw [hkey]
  show (value depth cs).bind _ = _
  rw [hv]
  show (members depth tail).bind _ = _
  cases members depth tail <;> rfl

theorem members_of_brace (hv : value depth cs = some (v, '\x7d' :: tail)) :
    members (depth + 1) ('"' :: body) = some ([(key, v)], tail) := by
  rw [members]
  show (string body).bind _ = _
  rw [hkey]
  show (value depth cs).bind _ = _
  rw [hv]
  rfl

end Steps

/-- The value is read back wherever it may end, if the bound on the depth exceeds the length of its
text. -/
def Reads (v : Coded) : Prop :=
  ∀ depth rest, (writeChars v).length ≤ depth → IsEnd rest →
    value (depth + 1) (writeChars v ++ rest) = some (v.reread, rest)

/-- The items of an array are read back one after another. -/
theorem items_writeItems {vs : List Coded} (hne : vs ≠ []) (h : ∀ v ∈ vs, Reads v) {depth : Nat}
    (hdepth : (writeItems vs).length ≤ depth) (rest : List Char) :
    Reader.items (depth + 2) (writeItems vs ++ ']' :: rest) = some (rereadItems vs, rest) := by
  induction vs generalizing depth with
  | nil => exact absurd rfl hne
  | cons v vs ih =>
    rw [List.forall_mem_cons] at h
    rw [writeItems, List.length_append] at hdepth
    rw [writeItems, List.append_assoc]
    cases vs with
    | nil => exact items_of_bracket (h.1 depth _ (by omega) (isEnd_cons (by decide) rest))
    | cons w ws =>
      rw [if_neg (by simp), List.length_cons] at hdepth
      obtain ⟨d, rfl⟩ : ∃ d, depth = d + 1 := ⟨depth - 1, by omega⟩
      rw [if_neg (by simp), List.cons_append,
        items_of_comma (h.1 (d + 1) _ (by omega) (isEnd_cons (by decide) _)),
        ih (List.cons_ne_nil w ws) h.2 (by omega)]
      rfl

/-- The members of an object are read back one after another. -/
theorem members_writeMembers {ms : Members} (hne : ms ≠ []) (h : ∀ m ∈ ms, Reads m.2)
    {depth : Nat} (hdepth : (writeMembers ms).length ≤ depth) (rest : List Char) :
    members (depth + 2) (writeMembers ms ++ '\x7d' :: rest) = some (rereadMembers ms, rest) := by
  induction ms generalizing depth with
  | nil => exact absurd rfl hne
  | cons m ms ih =>
    obtain ⟨key, v⟩ := m
    rw [List.forall_mem_cons] at h
    rw [writeMembers, List.length_append, List.length_append, List.length_cons] at hdepth
    rw [writeMembers, List.append_assoc, List.append_assoc, List.cons_append]
    generalize htail : _ ++ '\x7d' :: rest = tail
    obtain ⟨body, hbody, hkey⟩ := string_writeText key (':' :: (writeChars v ++ tail))
    have hv : (writeChars v).length ≤ depth := by omega
    rw [hbody]
    cases ms with
    | nil =>
      subst htail
      exact members_of_brace hkey (h.1 depth _ hv (isEnd_cons (by decide) rest))
    | cons n ns =>
      rw [if_neg (by simp), List.length_cons] at hdepth
      obtain ⟨d, rfl⟩ : ∃ d, depth = d + 1 := ⟨depth - 1, by omega⟩
      rw [if_neg (by simp), List.cons_append] at htail
      subst htail
      rw [members_of_comma hkey (h.1 (d + 1) _ hv (isEnd_cons (by decide) _)),
        ih (List.cons_ne_nil n ns) h.2 (by omega)]
      rfl

/-- An array with items is read item by item. -/
theorem value_of_items {depth : Nat} {c : Char} {cs rest : List Char} {vs : List Coded}
    (hblank : isBlank c = false) (hclose : c ≠ ']')
    (h : Reader.items depth (c :: cs) = some (vs, rest)) :
    value (depth + 1) ('[' :: c :: cs) = some (.arr vs, rest) := by
  rw [value, skipBlanks_cons (by decide)]
  dsimp only
  rw [if_neg (by decide), if_pos (by decide), skipBlanks_cons hblank]
  split
  · next heq => exact absurd (List.cons.inj heq).1 hclose
  · rw [h]
    rfl

/-- An object with members is read member by member. -/
theorem value_of_members {depth : Nat} {cs rest : List Char} {ms : Members}
    (h : members depth ('"' :: cs) = some (ms, rest)) :
    value (depth + 1) ('\x7b' :: '"' :: cs) = some (.obj ms, rest) := by
  rw [value, skipBlanks_cons (by decide)]
  show (members depth ('"' :: cs)).map _ = _
  rw [h]
  rfl

theorem Reads.of_number {v : Coded}
    (h : ∀ rest, IsEnd rest → number (writeChars v ++ rest) = some (v.reread, rest)) : Reads v :=
  fun depth rest _ hrest => value_of_number depth (h rest hrest)

/-- A text is read back as what comes back of its code points. -/
theorem reads_text (cs : List CodePoint) : Reads (.text cs) := by
  intro depth rest _ _
  obtain ⟨body, hbody, hcs⟩ := string_writeText cs rest
  rw [writeChars, hbody, value, skipBlanks_cons (by decide)]
  show (string body).map _ = _
  rw [hcs]
  rfl

/-- An array is read back if its items are. -/
theorem reads_arr {items : List Coded} (h : ∀ v ∈ items, Reads v) : Reads (.arr items) := by
  intro depth rest hdepth _
  rw [writeChars, List.length_append, List.length_cons, List.length_singleton] at hdepth
  obtain ⟨d, rfl⟩ : ∃ d, depth = d + 2 := ⟨depth - 2, by omega⟩
  cases items with
  | nil => rfl
  | cons v vs =>
    have hlength : (writeItems (v :: vs)).length ≤ d := by omega
    have hitems := items_writeItems (List.cons_ne_nil v vs) h hlength rest
    obtain ⟨c, tail, hhead, hblank, hclose⟩ := exists_head_writeItems (List.cons_ne_nil v vs)
    rw [hhead] at hitems
    rw [writeChars, hhead, List.append_assoc]
    exact value_of_items hblank hclose hitems

/-- An object is read back if the values of its members are. -/
theorem reads_obj {ms : Members} (h : ∀ m ∈ ms, Reads m.2) : Reads (.obj ms) := by
  intro depth rest hdepth _
  rw [writeChars, List.length_append, List.length_cons, List.length_singleton] at hdepth
  obtain ⟨d, rfl⟩ : ∃ d, depth = d + 2 := ⟨depth - 2, by omega⟩
  cases ms with
  | nil => rfl
  | cons n ns =>
    have hlength : (writeMembers (n :: ns)).length ≤ d := by omega
    have hmembers := members_writeMembers (List.cons_ne_nil n ns) h hlength rest
    obtain ⟨tail, hhead⟩ := exists_head_writeMembers (List.cons_ne_nil n ns)
    rw [hhead] at hmembers
    rw [writeChars, hhead, List.append_assoc]
    exact value_of_members hmembers

/-- **A value is read back wherever it may end.** -/
theorem reads (v : Coded) : Reads v := by
  induction v using nested_induction with
  | null => exact fun _ _ _ _ => rfl
  | bool b => cases b <;> exact fun _ _ _ _ => rfl
  | int n => exact .of_number fun _ => number_toString n
  | float x => exact .of_number fun _ => number_textWith x
  | text cs => exact reads_text cs
  | arr items ih => exact reads_arr ih
  | obj members ih => exact reads_obj ih

/-- **A value is read back as it was written**, up to pairs of halves in its texts and up to its
doubles. -/
theorem parse_write (v : Coded) : parse v.write = some v.reread := by
  have h := reads v (writeChars v).length [] (Nat.le_refl _) isEnd_nil
  rw [List.append_nil] at h
  rw [parse, write, String.toList_ofList, h]
  rfl

end Coded

/-- **A JSON value without doubles in which every object has each key once is read back as
itself.** -/
theorem Json.IsExact.parse_write {j : Json} (h : j.IsExact) : Json.parse j.write = some j := by
  rw [Json.parse, Json.write, Coded.parse_write, h.reread_coded]
  exact h.json?_coded

end ApiReference
