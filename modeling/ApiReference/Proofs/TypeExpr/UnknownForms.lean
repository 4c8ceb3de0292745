import ApiReference.Proofs.Notices
import ApiReference.Proofs.TypeExpr.Spelling

/-!
# Forms that are not known

A type of a form that is not known is taken for a name, and this is noted. Here the notices are
listed without the reader: one for each place of the type at which an object states such a form
(`Place.unknownForms`), in the order of the walk through the places. As the walk does not enter such
an object, nor a literal, nothing inside these is noted (`Place.nodes_of_closed`).

The reader of types leaves these notices (`TypeExpr.read_leaves`), by induction over the value.

What is noted depends on the value and on where it stands, and not on the position in which it is
read. So the induction is over values and need not follow the grammar: the statement for a required
part is that of its value at the path of its key, and the statement for a list of members is that of
each value at its index.

A value that is read without an error leaves all of them. One that is refused has left some by then,
those that the reader met in front of the defect; `Leaves` says both.
-/

set_option autoImplicit false

namespace ApiReference
namespace TypeExpr

open Reading

namespace Place

/-- What is noted of a value in the position of a type: an object that states an unknown form. -/
def unknownForm? : Json → Path → Option Notice
  | .obj fields, path =>
    match Fields.value fields "complex_type" with
    | .str form => if (Form.ofName? form).isNone then some (.unknownForm path form) else none
    | _ => none
  | _, _ => none

/-- The unknown forms at a place and below it. -/
def unknownForms (p : Place) : List Notice :=
  (walk.nodes p).filterMap fun q => unknownForm? q.value q.path

theorem unknownForms_eq (p : Place) :
    p.unknownForms = (unknownForm? p.value p.path).toList ++ p.below.flatMap unknownForms :=
  walk.filterMap_nodes_eq _ p

/-- What is noted does not depend on what a type is needed for. -/
theorem unknownForms_eq_whole (p : Place) :
    p.unknownForms = (whole p.value p.path).unknownForms := by
  rw [unknownForms_eq, unknownForms_eq (whole p.value p.path)]
  rfl

/-- Only an object can state a form. -/
theorem unknownForms_of_not_object {v : Json} (h : v.isObject = false) (path : Path) :
    (whole v path).unknownForms = [] := by
  rw [unknownForms_eq]
  cases v with
  | obj fields => cases h
  | _ => rfl

/-- Nothing is looked at inside an object of an unknown form or a literal. -/
theorem nodes_of_closed {p : Place} {fields : Fields} (hp : p.value = .obj fields)
    (h : fields.form? = none ∨ fields.form? = some .literal) : walk.nodes p = [p] := by
  have hbelow : p.below = [] := by
    rw [below, hp]
    show inside fields p.path = []
    rcases h with h | h <;> simp [inside, h, Form.partKeys, Form.memberKeys]
  rw [walk.nodes_eq]
  show p :: p.below.flatMap walk.nodes = [p]
  rw [hbelow, List.flatMap_nil]

/-- An object of a known form has what its parts and members have. -/
theorem unknownForms_of_form {fields : Fields} {f : Form} (h : fields.form? = some f)
    (path : Path) :
    (whole (.obj fields) path).unknownForms =
      (f.partKeys.flatMap fun key =>
        (whole (fields.value key) (path.join key)).unknownForms) ++
      f.memberKeys.flatMap fun key => (fields.value key).items.zipIdx.flatMap fun v =>
        (whole v.1 ((path.join key).item v.2)).unknownForms := by
  have hown : unknownForm? (.obj fields) path = none := by
    rw [unknownForm?, Fields.form?_eq_some_iff.1 h]
    show (if (Form.ofName? f.name).isNone then _ else _) = _
    rw [Form.ofName?_name]
    rfl
  rw [unknownForms_eq]
  show (unknownForm? (.obj fields) path).toList ++ (inside fields path).flatMap unknownForms = _
  rw [hown, inside, h, Option.toList_none, List.nil_append]
  simp only [List.flatMap_append, List.flatMap_map, List.flatMap_assoc, unknownForms_eq_whole,
    value, Place.path]

end Place

/-! ## The reader

A step for each kind of field, in the order in which the reader goes through them, and then the two
kinds of objects: those of a known form, and all others. -/

/-- Reading the value as a type leaves the notices about its unknown forms. -/
abbrev Noted (v : Json) : Prop :=
  ∀ path, (read v path).Leaves (Place.whole v path).unknownForms

section Parts

variable {fields : Fields} {key : String} (form : String) (path : Path)

/-- A required part leaves what its value leaves at the path of its key. -/
theorem readPart_leaves (h : Noted (fields.value key)) :
    (readPart form fields key path).Leaves
      (Place.whole (fields.value key) (path.join key)).unknownForms := by
  rw [readPart_eq]
  split
  · exact .fail _ _
  · split
    · exact h _
    · next hobject =>
      rw [Place.unknownForms_of_not_object (Bool.eq_false_iff.2 hobject)]
      exact .pure _

/-- The members leave what each of them leaves at its index. -/
theorem readItems_leaves {items : List Json} (h : ∀ v ∈ items, Noted v) (i : Nat) :
    (readItems items path i).Leaves
      ((items.zipIdx i).flatMap fun v => (Place.whole v.1 (path.item v.2)).unknownForms) := by
  induction items generalizing i with
  | nil => exact .pure []
  | cons v rest ih =>
    rw [List.forall_mem_cons] at h
    rw [readItems, List.zipIdx_cons, List.flatMap_cons]
    split
    · next hbare =>
      have hobject : v.isObject = false := by
        cases v with
        | obj fields => cases hbare
        | _ => rfl
      rw [Place.unknownForms_of_not_object hobject]
      exact (Leaves.pure _).bind fun member => (ih h.2 (i + 1)).map (member :: ·)
    · exact (h.1 _).bind fun member => (ih h.2 (i + 1)).map (member :: ·)

theorem readMembers_leaves (h : ∀ v ∈ (fields.value key).items, Noted v) :
    (readMembers form fields key path).Leaves
      ((fields.value key).items.zipIdx.flatMap fun v =>
        (Place.whole v.1 ((path.join key).item v.2)).unknownForms) := by
  rw [readMembers_eq]
  cases hv : fields.value key with
  | arr items =>
    rw [hv] at h
    rw [readList]
    split
    · exact .fail _ _
    · exact readItems_leaves _ h 0
  | _ => exact .fail _ _

end Parts

theorem read_leaves_of_form {fields : Fields} {f : Form} (h : fields.form? = some f)
    (ih : ∀ key, Noted (fields.value key))
    (ihm : ∀ key, ∀ v ∈ (fields.value key).items, Noted v) : Noted (.obj fields) := by
  intro path
  have hparts := Place.unknownForms_of_form h path
  cases f with
  | array =>
    rw [read_array path h]
    refine ((readPart_leaves _ path (ih "value")).map _).of_eq ?_
    simp [hparts, Form.partKeys, Form.memberKeys]
  | dictionary =>
    rw [read_dictionary path h]
    refine ((readPart_leaves _ path (ih "key")).bind fun k =>
      (readPart_leaves _ path (ih "value")).map _).of_eq ?_
    simp [hparts, Form.partKeys, Form.memberKeys]
  | tuple =>
    rw [read_tuple path h]
    refine ((readMembers_leaves _ path (ihm "values")).map _).of_eq ?_
    simp [hparts, Form.partKeys, Form.memberKeys]
  | union =>
    rw [read_union path h]
    refine ((readMembers_leaves _ path (ihm "options")).map _).of_eq ?_
    simp [hparts, Form.partKeys, Form.memberKeys]
  | literal =>
    rw [read_literal path h]
    refine (Leaves.pure _).of_eq ?_
    simp [hparts, Form.partKeys, Form.memberKeys]
  | «alias» =>
    rw [read_alias path h]
    refine ((readPart_leaves _ path (ih "value")).map _).of_eq ?_
    simp [hparts, Form.partKeys, Form.memberKeys]

theorem read_leaves_of_unformed {fields : Fields} (h : fields.form? = none) :
    Noted (.obj fields) := by
  intro path
  cases hs : fields.value "complex_type" with
  | str form =>
    have hform : Form.ofName? form = none := by rwa [Fields.form?_eq_of_str hs] at h
    rw [read_unknown path hs h]
    refine ((Leaves.note _).map fun _ => TypeExpr.name form).of_eq ?_
    rw [Place.unknownForms, Place.nodes_of_closed rfl (.inl h)]
    simp [Place.unknownForm?, Place.value, Place.path, hs, hform]
  | _ =>
    rw [read, hs]
    exact .fail _ _

/-- **Reading a type leaves a notice for each unknown form in it.** -/
theorem read_leaves (v : Json) : Noted v := by
  induction v using (measure (sizeOf : Json → Nat)).wf.induction with
  | _ v ih =>
  cases v with
  | str s =>
    exact fun path => (Leaves.pure _).of_eq (Place.unknownForms_of_not_object rfl path).symm
  | obj fields =>
    cases h : Fields.form? fields with
    | none => exact read_leaves_of_unformed h
    | some f =>
      refine read_leaves_of_form h (fun key => ih _ (Json.sizeOf_value_lt fields key))
        fun key v hv => ?_
      exact ih _ (Nat.lt_trans (Json.sizeOf_lt_of_mem_items hv) (Json.sizeOf_value_lt fields key))
  | _ => exact fun path => .fail _ _

/-- A notice about a type is about an unknown form. -/
theorem exists_of_mem_unknownForms {p : Place} {n : Notice} (h : n ∈ p.unknownForms) :
    ∃ path form, n = .unknownForm path form := by
  obtain ⟨q, -, hq⟩ := List.mem_filterMap.1 h
  rw [Place.unknownForm?.eq_def] at hq
  split at hq
  · split at hq
    · split at hq
      · exact ⟨_, _, (Option.some.inj hq).symm⟩
      · cases hq
    · cases hq
  · cases hq

end TypeExpr
end ApiReference
