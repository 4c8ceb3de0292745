import ApiReference.Proofs.Reading
import ApiReference.Proofs.TypeExpr.Places

/-!
# How types are spelled

`Spells pos v t` says that the JSON value `v`, in the given position, spells the type `t`. It is the
grammar of types as rules, without an order of reading, without paths and without errors.

A string is a name where a type stands on its own or is listed as a member, but a bare value where
it is a required part. An object means the same everywhere (`Spells.of_object`). These two facts are
why the position is an argument of the relation: it matters for the outermost value and for nothing
further inside, since the rules state the position of every value that they go down to.

Members are paired with their values by `zip`, with equal lengths as a condition of its own, and not
by a relation of lists. A relation of lists would make the grammar a nested one, and the induction
over it would have to carry a second statement along for the lists.

The reader follows the rules: what a value spells is read at every path (`read_of_spells`). The
converse needs the defects of values that spell nothing; it is `read_outcome_eq_ok_iff` in
`ApiReference.Proofs.TypeExpr.Defects`. From both together it follows that a value spells at most
one type, which is not shown here because it is never needed on its own.

## What is here

* `Spells`: the grammar.
* `readAt` and one equation for each form, such as `read_array`: the reader, in the shape in which it
  is compared with the grammar.
* `readAt_of_spells`: what a value spells is what is read.
-/

set_option autoImplicit false

namespace ApiReference

namespace Json

/-- Whether the value stays bare as the required part of a form: anything but an object, as long as
it is there. -/
def isBarePart (v : Json) : Bool :=
  !v.isNull && !v.isObject

end Json

namespace TypeExpr

/-- The ways in which a type may stand somewhere. -/
inductive Position where
  /-- On its own. -/
  | whole
  /-- As a required part of a form. -/
  | part
  /-- As a member of a tuple or a union. -/
  | member
  deriving DecidableEq

/-- The values that stay bare in a position. -/
def Position.keeps : Position → Json → Bool
  | .whole, _ => false
  | .part, v => v.isBarePart
  | .member, v => v.isBareMember

/-- What stays bare in some position is no object. -/
theorem Position.isObject_of_keeps {pos : Position} {v : Json} (h : pos.keeps v = true) :
    v.isObject = false := by
  cases v with
  | obj fields => cases pos <;> cases h
  | _ => rfl

/-- A value in a position spells a type. -/
inductive Spells : Position → Json → TypeExpr → Prop where
  | leaf {pos : Position} {v : Json} (hv : pos.keeps v = true) : Spells pos v (.leaf v)
  | name {pos : Position} (hpos : pos ≠ .part) (s : String) : Spells pos (.str s) (.name s)
  | array {pos : Position} {fields : Fields} {element : TypeExpr}
      (hform : fields.form? = some .array) (h : Spells .part (fields.value "value") element) :
      Spells pos (.obj fields) (.array element)
  | dictionary {pos : Position} {fields : Fields} {key value : TypeExpr}
      (hform : fields.form? = some .dictionary) (hkey : Spells .part (fields.value "key") key)
      (hvalue : Spells .part (fields.value "value") value) :
      Spells pos (.obj fields) (.dictionary key value)
  | tuple {pos : Position} {fields : Fields} {elements : List TypeExpr}
      (hform : fields.form? = some .tuple) (hne : (fields.value "values").items ≠ [])
      (hlen : (fields.value "values").items.length = elements.length)
      (h : ∀ m ∈ (fields.value "values").items.zip elements, Spells .member m.1 m.2) :
      Spells pos (.obj fields) (.tuple elements)
  | union {pos : Position} {fields : Fields} {options : List TypeExpr}
      (hform : fields.form? = some .union) (hne : (fields.value "options").items ≠ [])
      (hlen : (fields.value "options").items.length = options.length)
      (h : ∀ m ∈ (fields.value "options").items.zip options, Spells .member m.1 m.2) :
      Spells pos (.obj fields) (.union options (fields.value "full_format").isTruthy)
  | literal {pos : Position} {fields : Fields} (hform : fields.form? = some .literal) :
      Spells pos (.obj fields)
        (.literal (fields.value "value").literalValue (fields.value "description").text?)
  | aliased {pos : Position} {fields : Fields} {inner : TypeExpr}
      (hform : fields.form? = some .alias) (h : Spells .part (fields.value "value") inner) :
      Spells pos (.obj fields) (.alias inner (fields.value "description").text?)
  | unknown {pos : Position} {fields : Fields} {form : String}
      (hstated : fields.value "complex_type" = .str form) (hform : fields.form? = none) :
      Spells pos (.obj fields) (.name form)

/-- **An object spells the same type in every position.** -/
theorem Spells.of_object {pos other : Position} {fields : Fields} {t : TypeExpr}
    (h : Spells pos (.obj fields) t) : Spells other (.obj fields) t := by
  cases h with
  | leaf hv => cases Position.isObject_of_keeps hv
  | array hform h => exact .array hform h
  | dictionary hform hkey hvalue => exact .dictionary hform hkey hvalue
  | tuple hform hne hlen h => exact .tuple hform hne hlen h
  | union hform hne hlen h => exact .union hform hne hlen h
  | literal hform => exact .literal hform
  | aliased hform h => exact .aliased hform h
  | unknown hstated hform => exact .unknown hstated hform

/-- What holds of the types paired with the members of a list holds of all types. -/
theorem forall_mem_of_zip {items : List Json} {ts : List TypeExpr} {P : TypeExpr → Prop}
    (hlen : items.length = ts.length) (h : ∀ m ∈ items.zip ts, P m.2) : ∀ t ∈ ts, P t := by
  intro t ht
  have hts : (items.zip ts).map Prod.snd = ts := List.map_snd_zip (Nat.le_of_eq hlen.symm)
  obtain ⟨m, hm, rfl⟩ := List.mem_map.1 (show t ∈ (items.zip ts).map Prod.snd by rwa [hts])
  exact h m hm

/-! ## The reader, one position and one form at a time

The reader is a group of functions, one for a type, one for the part under a key and some for the
members under a key. Here they are brought into the shape of the rules: one reader that takes the
position as an argument, and one equation for each form. The proofs that follow, here and in other
files, use these equations and do not open the reader again. -/

/-- The type that a value spells in a position; `path` is where it stands. -/
def readAt (pos : Position) (v : Json) (path : Path) : Reading TypeExpr :=
  if pos.keeps v then pure (.leaf v) else read v path

theorem readAt_object (pos : Position) (fields : Fields) :
    readAt pos (.obj fields) = read (.obj fields) := by
  cases pos <;> rfl

theorem readPart_eq_readAt (form : String) {fields : Fields} {key : String} (path : Path)
    (h : (fields.value key).isNull = false) :
    readPart form fields key path = readAt .part (fields.value key) (path.join key) := by
  rw [readPart_eq, readAt, Position.keeps, Json.isBarePart, h]
  cases (fields.value key).isObject <;> rfl

theorem readItems_cons (v : Json) (rest : List Json) (path : Path) (i : Nat) :
    readItems (v :: rest) path i =
      readAt .member v (path.item i) >>= fun t =>
        readItems rest path (i + 1) >>= fun ts => pure (t :: ts) := by
  rw [readItems, readAt, Position.keeps]
  split <;> rfl

theorem readMembers_eq_readItems (form : String) {fields : Fields} {key : String} (path : Path)
    (h : (fields.value key).items ≠ []) :
    readMembers form fields key path = readItems (fields.value key).items (path.join key) 0 := by
  rw [readMembers_eq]
  cases hv : fields.value key with
  | arr items =>
    rw [hv] at h
    rw [readList, if_neg (by simpa [Json.items] using h)]
    rfl
  | _ => rw [hv] at h; exact absurd rfl h

section Forms

variable {fields : Fields} (path : Path)

/-- An array is read from the part that it requires. -/
theorem read_array (h : fields.form? = some .array) :
    read (.obj fields) path =
      readPart Form.array.name fields "value" path >>= fun t => pure (.array t) := by
  rw [read, Fields.form?_eq_some_iff.1 h]
  rfl

theorem read_dictionary (h : fields.form? = some .dictionary) :
    read (.obj fields) path =
      readPart Form.dictionary.name fields "key" path >>= fun k =>
        readPart Form.dictionary.name fields "value" path >>= fun v => pure (.dictionary k v) := by
  rw [read, Fields.form?_eq_some_iff.1 h]
  rfl

theorem read_tuple (h : fields.form? = some .tuple) :
    read (.obj fields) path =
      readMembers Form.tuple.name fields "values" path >>= fun ts => pure (.tuple ts) := by
  rw [read, Fields.form?_eq_some_iff.1 h]
  rfl

/-- A union is read from the members that it lists; how it is to be written is a field of its
own. -/
theorem read_union (h : fields.form? = some .union) :
    read (.obj fields) path =
      readMembers Form.union.name fields "options" path >>= fun ts =>
        pure (.union ts (fields.value "full_format").isTruthy) := by
  rw [read, Fields.form?_eq_some_iff.1 h]
  rfl

theorem read_literal (h : fields.form? = some .literal) :
    read (.obj fields) path =
      pure (.literal (fields.value "value").literalValue (fields.value "description").text?) := by
  rw [read, Fields.form?_eq_some_iff.1 h]
  rfl

theorem read_alias (h : fields.form? = some .alias) :
    read (.obj fields) path =
      readPart Form.alias.name fields "value" path >>= fun t =>
        pure (.alias t (fields.value "description").text?) := by
  rw [read, Fields.form?_eq_some_iff.1 h]
  rfl

/-- An object of an unknown form is read as the name of that form, and a note is left. Nothing
inside it is looked at. -/
theorem read_unknown {form : String} (hstated : fields.value "complex_type" = .str form)
    (h : fields.form? = none) :
    read (.obj fields) path = Reading.note (.unknownForm path form) >>= fun _ =>
      pure (.name form) := by
  rw [Fields.form?_eq_of_str hstated] at h
  rw [read, hstated]
  simp only [h]

end Forms

/-! ## What is spelled is read

The induction is on the rule by which the value spells the type. Every rule has one equation of the
reader, and the steps of that equation are settled by the premises of the rule. -/

theorem Spells.not_null {t : TypeExpr} {v : Json} (h : Spells .part v t) : v.isNull = false := by
  cases h with
  | leaf hv =>
    rw [Position.keeps, Json.isBarePart, Bool.and_eq_true, Bool.not_eq_true'] at hv
    exact hv.1
  | _ => rfl

theorem readItems_of_forall {items : List Json} {ts : List TypeExpr} {path : Path}
    (hlen : items.length = ts.length)
    (h : ∀ m ∈ items.zip ts, ∀ path, (readAt .member m.1 path).outcome = .ok m.2) (i : Nat) :
    (readItems items path i).outcome = .ok ts := by
  induction items generalizing ts i with
  | nil =>
    rw [List.eq_nil_of_length_eq_zero hlen.symm]
    rfl
  | cons v rest ih =>
    cases ts with
    | nil => cases hlen
    | cons t ts =>
      rw [List.zip_cons_cons, List.forall_mem_cons] at h
      rw [readItems_cons, Reading.bind_outcome_of_ok (h.1 _),
        Reading.bind_outcome_of_ok (ih (Nat.succ.inj hlen) h.2 (i + 1))]
      rfl

/-- **What a value spells is what is read**, wherever the value stands. -/
theorem readAt_of_spells {pos : Position} {v : Json} {t : TypeExpr} (h : Spells pos v t) :
    ∀ path, (readAt pos v path).outcome = .ok t := by
  induction h with
  | leaf hv =>
    intro path
    rw [readAt, if_pos hv]
    rfl
  | @name pos hpos s =>
    intro path
    cases pos with
    | part => exact absurd rfl hpos
    | _ => rfl
  | array hform h ih =>
    intro path
    rw [readAt_object, read_array path hform, readPart_eq_readAt _ _ h.not_null,
      Reading.bind_outcome_of_ok (ih _)]
    rfl
  | dictionary hform hkey hvalue ihkey ihvalue =>
    intro path
    rw [readAt_object, read_dictionary path hform, readPart_eq_readAt _ _ hkey.not_null,
      readPart_eq_readAt _ _ hvalue.not_null, Reading.bind_outcome_of_ok (ihkey _),
      Reading.bind_outcome_of_ok (ihvalue _)]
    rfl
  | tuple hform hne hlen h ih =>
    intro path
    rw [readAt_object, read_tuple path hform, readMembers_eq_readItems _ _ hne,
      Reading.bind_outcome_of_ok (readItems_of_forall hlen ih 0)]
    rfl
  | union hform hne hlen h ih =>
    intro path
    rw [readAt_object, read_union path hform, readMembers_eq_readItems _ _ hne,
      Reading.bind_outcome_of_ok (readItems_of_forall hlen ih 0)]
    rfl
  | literal hform =>
    intro path
    rw [readAt_object, read_literal path hform]
    rfl
  | aliased hform h ih =>
    intro path
    rw [readAt_object, read_alias path hform, readPart_eq_readAt _ _ h.not_null,
      Reading.bind_outcome_of_ok (ih _)]
    rfl
  | unknown hstated hform =>
    intro path
    rw [readAt_object, read_unknown path hstated hform]
    rfl

/-- What a value spells on its own is read, wherever it stands. -/
theorem read_of_spells {v : Json} {t : TypeExpr} (h : Spells .whole v t) (path : Path) :
    (read v path).outcome = .ok t :=
  readAt_of_spells h path

end TypeExpr
end ApiReference
