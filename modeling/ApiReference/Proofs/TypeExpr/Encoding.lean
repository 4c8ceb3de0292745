import ApiReference.Proofs.TypeExpr.Defects
import ApiReference.TypeExpr.Display

/-!
# Which types are read, and how to write them

Not every type is the type of some JSON value: members are listed, bare values stand in few
positions only, and a required part is never a name that is the word for a form, since an object
that states such a word is read as that form. `WellFormed` says which types are left.

`encode` writes a type as a JSON value. The same type has more than one spelling, and the position
decides which of them reads back: a name is a string where it stands on its own or is listed, but an
object with the name for its form where it is a required part, in which a string would stay bare.
That object is a use of the reader's leniency. A form that is not known is taken for a name, so any
name can be stated as a form, unless it happens to be the word for one.

Descriptions need a proviso too. A description that is empty is read as none, so a type with an
empty description is read from nothing, and `WellFormed` leaves it out. The value of a literal is no
object, because an object in that place is not kept.

The encoding is a plain recursion over the type with the position as an argument. That it reads back
is shown against the grammar and not against the reader, so nothing about paths or the order of
reading comes up.

## What is here

* `wellFormed_of_spells`: what is spelled is well formed.
* `spells_encode`: a well-formed type is spelled by its encoding.
* `read_image`: the types that are read are the well-formed ones, and each is read from its
  encoding.
-/

set_option autoImplicit false

namespace ApiReference

namespace Json

/-- A text that is read from a field is never empty: an empty one counts as none. -/
theorem text?_ne_some_empty (v : Json) : v.text? ≠ some "" :=
  fun h => (text?_eq_some_iff.1 h).2 rfl

/-- The value that is kept of a literal is no object. -/
theorem isObject_literalValue (v : Json) : v.literalValue.isObject = false := by
  cases v <;> rfl

theorem literalValue_of_not_object {v : Json} (h : v.isObject = false) : v.literalValue = v := by
  cases v <;> first | rfl | cases h

end Json

namespace TypeExpr

/-- A type that may stand in a position. -/
inductive WellFormed : Position → TypeExpr → Prop where
  | leaf {pos : Position} {v : Json} (hv : pos.keeps v = true) : WellFormed pos (.leaf v)
  | name {pos : Position} {n : String} (hn : pos = .part → Form.ofName? n = none) :
      WellFormed pos (.name n)
  | array {pos : Position} {element : TypeExpr} (h : WellFormed .part element) :
      WellFormed pos (.array element)
  | dictionary {pos : Position} {key value : TypeExpr} (hkey : WellFormed .part key)
      (hvalue : WellFormed .part value) : WellFormed pos (.dictionary key value)
  | tuple {pos : Position} {elements : List TypeExpr} (hne : elements ≠ [])
      (h : ∀ t ∈ elements, WellFormed .member t) : WellFormed pos (.tuple elements)
  | union {pos : Position} {options : List TypeExpr} {fullFormat : Bool} (hne : options ≠ [])
      (h : ∀ t ∈ options, WellFormed .member t) : WellFormed pos (.union options fullFormat)
  | literal {pos : Position} {value : Json} {description : Option String}
      (hvalue : value.isObject = false) (hdescription : description ≠ some "") :
      WellFormed pos (.literal value description)
  | aliased {pos : Position} {inner : TypeExpr} {description : Option String}
      (h : WellFormed .part inner) (hdescription : description ≠ some "") :
      WellFormed pos (.alias inner description)

/-! ## What is spelled is well formed -/

/-- **What is spelled is well formed**, in the position in which it is spelled. -/
theorem wellFormed_of_spells {pos : Position} {v : Json} {t : TypeExpr} (h : Spells pos v t) :
    WellFormed pos t := by
  induction h with
  | leaf hv => exact .leaf hv
  | name hpos s => exact .name fun hp => absurd hp hpos
  | array hform h ih => exact .array ih
  | dictionary hform hkey hvalue ihkey ihvalue => exact .dictionary ihkey ihvalue
  | tuple hform hne hlen h ih =>
    exact .tuple (fun he => hne (List.eq_nil_of_length_eq_zero (by rw [hlen, he]; rfl)))
      (forall_mem_of_zip hlen ih)
  | union hform hne hlen h ih =>
    exact .union (fun he => hne (List.eq_nil_of_length_eq_zero (by rw [hlen, he]; rfl)))
      (forall_mem_of_zip hlen ih)
  | literal hform => exact .literal (Json.isObject_literalValue _) (Json.text?_ne_some_empty _)
  | aliased hform h ih => exact .aliased ih (Json.text?_ne_some_empty _)
  | unknown hstated hform =>
    rw [Fields.form?_eq_of_str hstated] at hform
    exact .name fun _ => hform

/-! ## Writing a type

The recursion goes over lists of members by a function of its own, and `encodeMembers_eq_map` says
that this is the same as encoding each member. Only the definition needs the longer form. -/

mutual

/-- The JSON value that spells a type in a position. -/
def encodeAt : TypeExpr → Position → Json
  | .name n, pos => if pos = .part then .obj [("complex_type", .str n)] else .str n
  | .array element, _ =>
    .obj [("complex_type", .str Form.array.name), ("value", element.encodeAt .part)]
  | .dictionary key value, _ =>
    .obj
      [("complex_type", .str Form.dictionary.name), ("key", key.encodeAt .part),
       ("value", value.encodeAt .part)]
  | .tuple elements, _ =>
    .obj [("complex_type", .str Form.tuple.name), ("values", .arr (encodeMembers elements))]
  | .union options fullFormat, _ =>
    .obj
      [("complex_type", .str Form.union.name), ("options", .arr (encodeMembers options)),
       ("full_format", .bool fullFormat)]
  | .literal value description, _ =>
    .obj
      [("complex_type", .str Form.literal.name), ("value", value),
       ("description", optionalText description)]
  | .alias inner description, _ =>
    .obj
      [("complex_type", .str Form.alias.name), ("value", inner.encodeAt .part),
       ("description", optionalText description)]
  | .leaf value, _ => value
termination_by structural t => t

/-- The JSON values that spell the members of a tuple or a union. -/
def encodeMembers : List TypeExpr → List Json
  | [] => []
  | t :: rest => t.encodeAt .member :: encodeMembers rest
termination_by structural ts => ts

end

/-- The JSON value that spells a type on its own. -/
def encode (t : TypeExpr) : Json :=
  t.encodeAt .whole

theorem encodeMembers_eq_map (ts : List TypeExpr) :
    encodeMembers ts = ts.map (encodeAt · .member) := by
  induction ts with
  | nil => rfl
  | cons t rest ih => rw [encodeMembers, ih, List.map_cons]

theorem length_encodeMembers (ts : List TypeExpr) : (encodeMembers ts).length = ts.length := by
  rw [encodeMembers_eq_map, List.length_map]

theorem forall_mem_zip_encodeMembers {ts : List TypeExpr} {P : Json × TypeExpr → Prop}
    (h : ∀ t ∈ ts, P (t.encodeAt .member, t)) : ∀ m ∈ (encodeMembers ts).zip ts, P m := by
  induction ts with
  | nil => exact fun m hm => by cases hm
  | cons t rest ih =>
    rw [List.forall_mem_cons] at h
    rw [encodeMembers, List.zip_cons_cons, List.forall_mem_cons]
    exact ⟨h.1, ih h.2⟩

/-- A description is read back as it was written, or as none if none was. -/
theorem text?_optionalText {d : Option String} (h : d ≠ some "") : (optionalText d).text? = d := by
  cases d with
  | none => rfl
  | some s => exact Json.text?_eq_some_iff.2 ⟨rfl, fun he => h (congrArg some he)⟩

/-- **A well-formed type is spelled by its encoding.** -/
theorem spells_encode {pos : Position} {t : TypeExpr} (h : WellFormed pos t) :
    Spells pos (t.encodeAt pos) t := by
  induction h with
  | leaf hv => exact .leaf hv
  | @name pos n hn =>
    rw [encodeAt]
    split
    · next hp => exact .unknown rfl (hn hp)
    · next hp => exact .name hp n
  | array h ih => exact .array rfl ih
  | dictionary hkey hvalue ihkey ihvalue => exact .dictionary rfl ihkey ihvalue
  | @tuple pos elements hne h ih =>
    refine .tuple rfl ?_ (length_encodeMembers elements) (forall_mem_zip_encodeMembers ih)
    show encodeMembers elements ≠ []
    rw [encodeMembers_eq_map, ne_eq, List.map_eq_nil_iff]
    exact hne
  | @union pos options fullFormat hne h ih =>
    refine .union rfl ?_ (length_encodeMembers options) (forall_mem_zip_encodeMembers ih)
    show encodeMembers options ≠ []
    rw [encodeMembers_eq_map, ne_eq, List.map_eq_nil_iff]
    exact hne
  | @literal pos value description hvalue hdescription =>
    have hs : Spells pos (encodeAt (.literal value description) pos)
        (.literal value.literalValue (optionalText description).text?) := .literal rfl
    rwa [Json.literalValue_of_not_object hvalue, text?_optionalText hdescription] at hs
  | @aliased pos inner description h hdescription ih =>
    have hs : Spells pos (encodeAt (.alias inner description) pos)
        (.alias inner (optionalText description).text?) := .aliased rfl ih
    rwa [text?_optionalText hdescription] at hs

/-- **The types that are read are the well-formed ones**, and each of them is read from its
encoding. -/
theorem read_image (t : TypeExpr) (path : Path) :
    ((∃ data, (read data path).outcome = .ok t) ↔ WellFormed .whole t) ∧
      (WellFormed .whole t → (read t.encode path).outcome = .ok t) := by
  have hencode : WellFormed .whole t → (read t.encode path).outcome = .ok t :=
    fun h => read_of_spells (spells_encode h) path
  refine ⟨⟨?_, fun h => ⟨t.encode, hencode h⟩⟩, hencode⟩
  rintro ⟨data, h⟩
  exact wellFormed_of_spells (read_outcome_eq_ok_iff.1 h)

/-- The word for a form is a name among members, and a name among parts is an object. -/
example : encode (.tuple [.name "array", .array (.name "uint")]) =
    .obj
      [("complex_type", .str "tuple"),
       ("values", .arr
          [.str "array",
           .obj [("complex_type", .str "array"),
                 ("value", .obj [("complex_type", .str "uint")])]])] := rfl

end TypeExpr
end ApiReference
