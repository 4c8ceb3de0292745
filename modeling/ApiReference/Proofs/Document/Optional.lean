import ApiReference.Proofs.Document.Faults
import Mathlib.Data.List.Nodup

/-!
# Optional fields and their shapes

Each reader of an optional field has its own idea of when the field counts: a text must not be
empty, a flag must count as true, a boolean is no number. A `Shape` names the idea, `Shape.fits`
decides it, and a value that does not fit is read like `null`, which is how an absent field is read
(`Shape.Alike`, and one lemma for each reader).

`Entity.Kind.optional` is the table of all optional fields: what each kind of entity looks for, with
the shape that it must have, or with the kind of the entities that it holds.

The table is used in three ways. It says which fields may be deleted from an entity without a
difference, which fields have a default that is noted, and which fields two objects must agree on to
describe the same entity. For the last of these it has to be complete, and is seen to be: the entity
of each kind is computed from the fields of the table and the required one.

There is a shape for every way in which a field is asked for, not for every type of value. A flag is
read by whether its value counts as true, so the number `1` has the shape of a flag, and `false`
does not: it is read like an absent field.

## What is here

* `Shape.Alike`: two values that are the same to every reader of the shape.
* `Entity.Kind.field_mem_optional`: the parts of an entry, in which faults are looked for, are among
  its optional fields.
* `Entity.Kind.eq_of_mem_optional`: a key stands for one field only.
-/

set_option autoImplicit false

namespace ApiReference

/-! ## Shapes -/

/-- The shape that a value must have to count. -/
inductive Shape where
  /-- Any string. -/
  | string
  /-- A string that is not empty. -/
  | text
  /-- Anything that counts as true. -/
  | flag
  /-- A whole number, and no boolean. -/
  | whole
  | list
  /-- An object, or a string that is not empty. -/
  | type
  | object
  | boolean
  /-- One of the words for the time of an event. -/
  | timeframe
  deriving DecidableEq

namespace Shape

/-- Whether a value has the shape. -/
def fits : Shape → Json → Bool
  | .string, .str _ => true
  | .text, v => v.text?.isSome
  | .flag, v => v.isTruthy
  | .whole, .int _ => true
  | .list, .arr _ => true
  | .type, v => v.isObject || v.text?.isSome
  | .object, v => v.isObject
  | .boolean, .bool _ => true
  | .timeframe, .str s => ["instantly", "current_tick", "future_tick"].contains s
  | _, _ => false

/-- A field that is `null` has no shape, like one that is absent. -/
theorem fits_null (shape : Shape) : shape.fits .null = false := by
  cases shape <;> rfl

/-- The values are the same, or neither has the shape. -/
def Alike (shape : Shape) (v w : Json) : Prop :=
  v = w ∨ (shape.fits v = false ∧ shape.fits w = false)

theorem Alike.refl (shape : Shape) (v : Json) : shape.Alike v v :=
  Or.inl rfl

/-- A reader that takes whatever does not fit for `null` does not tell alike values apart. -/
theorem Alike.congr {α : Type} {shape : Shape} {v w : Json} (h : shape.Alike v w) (read : Json → α)
    (hread : ∀ u, shape.fits u = false → read u = read .null) : read v = read w := by
  rcases h with rfl | ⟨hv, hw⟩
  · rfl
  · rw [hread v hv, hread w hw]

/-! ## The readers, shape by shape -/

section Readers

variable {v w : Json}

theorem Alike.string (h : Shape.string.Alike v w) : v.string = w.string :=
  h.congr Json.string fun u hu => by
    cases u with
    | str s => cases hu
    | _ => rfl

/-- Values that are the same to a reader of texts. -/
theorem Alike.text? (h : Shape.text.Alike v w) : v.text? = w.text? :=
  h.congr Json.text? fun _ hu => Option.isNone_iff_eq_none.1 (Option.isSome_eq_false_iff.1 hu)

theorem Alike.isTruthy (h : Shape.flag.Alike v w) : v.isTruthy = w.isTruthy :=
  h.congr Json.isTruthy fun _ hu => hu

theorem Alike.int? {fields others : Fields} {key : String}
    (h : Shape.whole.Alike (fields.value key) (others.value key)) :
    fields.int? key = others.int? key := by
  have hunfit : ∀ g : Fields, Shape.whole.fits (g.value key) = false → g.int? key = none := by
    intro g hu
    rw [Fields.int?]
    cases hv : g.value key with
    | int n =>
      rw [hv] at hu
      cases hu
    | _ => rfl
  rcases h with h | ⟨hv, hw⟩
  · rw [Fields.int?, Fields.int?, h]
  · rw [hunfit fields hv, hunfit others hw]

theorem Alike.items (h : Shape.list.Alike v w) : v.items = w.items :=
  h.congr Json.items fun u hu => by
    cases u with
    | arr items => cases hu
    | _ => rfl

theorem Alike.strings? (h : Shape.list.Alike v w) : v.strings? = w.strings? :=
  h.congr Json.strings? fun u hu => by
    cases u with
    | arr items => cases hu
    | _ => rfl

/-- What does not have the shape of a type is neither an object nor a string other than the empty
one. -/
theorem eq_null_of_type_unfit {α : Type} {read : Json → α} (hempty : read (.str "") = read .null)
    (hother : ∀ u, u.isObject = false → (∀ s, u ≠ .str s) → read u = read .null) (u : Json)
    (hu : Shape.type.fits u = false) : read u = read .null := by
  cases u with
  | obj g => cases hu
  | str s =>
    have hs : s = "" := by
      by_contra hne
      simp [fits, Json.text?, hne] at hu
    rw [hs, hempty]
  | _ => exact hother _ rfl fun _ => Json.noConfusion

theorem Alike.type? (h : Shape.type.Alike v w) : v.type? = w.type? :=
  h.congr Json.type? <| eq_null_of_type_unfit rfl fun u ho hs => by
    cases u with
    | obj g => cases ho
    | str s => exact absurd rfl (hs s)
    | _ => rfl

theorem Alike.body? (h : Shape.type.Alike v w) :
    Concept.Body.ofJson? v = Concept.Body.ofJson? w :=
  h.congr Concept.Body.ofJson? <| eq_null_of_type_unfit rfl fun u ho hs => by
    cases u with
    | obj g => cases ho
    | str s => exact absurd rfl (hs s)
    | _ => rfl

theorem Alike.default? (h : Shape.type.Alike v w) :
    Property.Default.ofJson? v = Property.Default.ofJson? w :=
  h.congr Property.Default.ofJson? <| eq_null_of_type_unfit rfl fun u ho hs => by
    cases u with
    | obj g => cases ho
    | str s => exact absurd rfl (hs s)
    | _ => rfl

theorem Alike.typeFaults (h : Shape.type.Alike v w) (path : Path) :
    v.typeFaults path = w.typeFaults path :=
  h.congr (Json.typeFaults · path) <| eq_null_of_type_unfit rfl fun u ho _ => by
    cases u with
    | obj g => cases ho
    | _ => rfl

theorem Alike.object? (h : Shape.object.Alike v w) : v.object? = w.object? :=
  h.congr Json.object? fun u hu => by
    cases u with
    | obj g => cases hu
    | _ => rfl

theorem Alike.fieldsOf? (h : Shape.object.Alike v w) :
    Prototype.fieldsOf? v = Prototype.fieldsOf? w :=
  h.congr Prototype.fieldsOf? fun u hu => by
    cases u with
    | obj g => cases hu
    | _ => rfl

theorem Alike.tableOptional {fields others : Fields}
    (h : Shape.boolean.Alike (fields.value "table_optional") (others.value "table_optional")) :
    (MethodFormat.ofJson (.obj fields)).tableOptional =
      (MethodFormat.ofJson (.obj others)).tableOptional := by
  have hunfit : ∀ g : Fields, Shape.boolean.fits (g.value "table_optional") = false →
      (MethodFormat.ofJson (.obj g)).tableOptional = none := by
    intro g hu
    rw [MethodFormat.ofJson]
    cases hv : g.value "table_optional" with
    | bool b =>
      rw [hv] at hu
      cases hu
    | _ => rfl
  rcases h with h | ⟨hv, hw⟩
  · rw [MethodFormat.ofJson, MethodFormat.ofJson, h]
  · rw [hunfit fields hv, hunfit others hw]

theorem Alike.timeframe (h : Shape.timeframe.Alike v w) :
    Timeframe.ofJson v = Timeframe.ofJson w :=
  h.congr Timeframe.ofJson fun u hu => by
    cases u with
    | str s =>
      have hs : s ∉ ["instantly", "current_tick", "future_tick"] := fun hmem => by
        rw [fits, List.contains_iff_mem.2 hmem] at hu
        cases hu
      rw [Timeframe.ofJson]
      cases ht : Timeframe.all.find? fun t => t.name == s with
      | none => rfl
      | some t =>
        have hname : t.name = s := by simpa using List.find?_some ht
        -- only the word for an unknown time is left, and that means the same as no word at all
        cases t with
        | unknown => rfl
        | _ => exact absurd (hname ▸ by decide) hs
    | _ => rfl

end Readers
end Shape

/-! ## Optional fields -/

/-- As what an object is read: as an entity of a kind, or as an operator of a class. -/
inductive Role where
  | entity (kind : Entity.Kind)
  | operator
  deriving DecidableEq

/-- What an optional field holds. -/
inductive Content where
  /-- A value of a shape. -/
  | plain (shape : Shape)
  | type
  /-- A list of objects. -/
  | list (role : Role)
  /-- An entity of a kind. -/
  | object (kind : Entity.Kind)
  deriving DecidableEq

/-- A list of entities of a kind. -/
abbrev Content.entities (kind : Entity.Kind) : Content :=
  .list (.entity kind)

/-- The shape that the field must have to count. -/
def Content.shape : Content → Shape
  | .plain shape => shape
  | .type => .type
  | .list _ => .list
  | .object _ => .object

/-- An optional field: its key, and what it holds. -/
abbrev OptionalField := String × Content

namespace Entity.Kind

/-- The optional fields of everything that is listed in order and described. -/
def listed : List OptionalField :=
  [("order", .plain .whole), ("description", .plain .string)]

/-- The optional fields of every member. -/
def common : List OptionalField :=
  listed ++ [("lists", .plain .list), ("examples", .plain .list), ("images", .entities .image)]

/-- The optional fields of every document. -/
def header : List OptionalField :=
  [("application", .plain .text), ("application_version", .plain .text),
   ("api_version", .plain .whole)]

/-- The sections of a document of the runtime stage. -/
def runtimeSections : List OptionalField :=
  [("classes", .entities .luaClass), ("events", .entities .event),
   ("concepts", .entities .concept), ("defines", .entities .define),
   ("global_objects", .entities .globalObject), ("global_functions", .entities .method)]

/-- The sections of a document of the prototype stage. -/
def prototypeSections : List OptionalField :=
  [("prototypes", .entities .prototype), ("types", .entities .concept)]

/-- The optional fields of each kind of entity. -/
def optional : Kind → List OptionalField
  | .image => [("caption", .plain .text)]
  | .member => common
  | .concept =>
    common ++ [("parent", .plain .text), ("abstract", .plain .flag), ("inline", .plain .flag),
      ("type", .type), ("properties", .entities .property)]
  | .property =>
    common ++ [("visibility", .plain .list), ("alt_name", .plain .text),
      ("override", .plain .flag), ("type", .type), ("optional", .plain .flag), ("default", .type)]
  | .define => common ++ [("values", .entities .defineValue), ("subkeys", .entities .define)]
  | .defineValue => listed
  | .prototype =>
    common ++ [("visibility", .plain .list), ("parent", .plain .text), ("abstract", .plain .flag),
      ("typename", .plain .text), ("instance_limit", .plain .whole), ("deprecated", .plain .flag),
      ("properties", .entities .property), ("custom_properties", .plain .object)]
  | .luaClass =>
    common ++ [("visibility", .plain .list), ("parent", .plain .text), ("abstract", .plain .flag),
      ("methods", .entities .method), ("attributes", .entities .attribute),
      ("operators", .list .operator)]
  | .method =>
    common ++ [("visibility", .plain .list), ("raises", .entities .eventRaised),
      ("subclasses", .plain .list), ("parameters", .entities .parameter),
      ("variant_parameter_groups", .entities .parameterGroup),
      ("variant_parameter_description", .plain .text),
      ("variadic_parameter", .object .variadicParameter), ("format", .object .methodFormat),
      ("return_values", .entities .returnValue)]
  | .attribute =>
    common ++ [("visibility", .plain .list), ("raises", .entities .eventRaised),
      ("subclasses", .plain .list), ("read_type", .type), ("write_type", .type),
      ("optional", .plain .flag)]
  | .parameter => listed ++ [("type", .type), ("optional", .plain .flag)]
  | .returnValue =>
    listed ++ [("name", .plain .text), ("type", .type), ("optional", .plain .flag)]
  | .parameterGroup => listed ++ [("parameters", .entities .parameter)]
  | .variadicParameter => [("type", .type), ("description", .plain .string)]
  | .methodFormat => [("takes_table", .plain .flag), ("table_optional", .plain .boolean)]
  | .timeframe => []
  | .eventRaised => listed ++ [("timeframe", .plain .timeframe), ("optional", .plain .flag)]
  | .event => common ++ [("data", .entities .parameter), ("filter", .plain .text)]
  | .globalObject => listed ++ [("type", .type)]
  | .runtimeApi => header ++ runtimeSections
  | .prototypeApi => header ++ prototypeSections
  | .document => header ++ runtimeSections ++ prototypeSections
  | .type => []

/-- A key stands for one field only. -/
theorem nodup_optional (kind : Kind) : (kind.optional.map Prod.fst).Nodup := by
  cases kind <;> decide

theorem eq_of_mem_optional {kind : Kind} {x y : OptionalField} (hx : x ∈ kind.optional)
    (hy : y ∈ kind.optional) (h : x.1 = y.1) : x = y :=
  List.inj_on_of_nodup_map kind.nodup_optional hx hy h

/-- A required field is not among the optional ones. -/
theorem required_not_mem_optional (kind : Kind) :
    ∀ key ∈ kind.required?, ∀ x ∈ kind.optional, x.1 ≠ key := by
  cases kind <;> decide

end Entity.Kind

/-- The field in which a part is found. -/
def Part.field : Part → OptionalField
  | .images => ("images", .entities .image)
  | .slot (.list key kind) => (key, .entities kind)
  | .slot (.object key kind) => (key, .object kind)
  | .slot .operators => ("operators", .list .operator)
  | .type key => (key, .type)
  | .default => ("default", .type)

/-- The parts in which faults are looked for are found in optional fields. -/
theorem Entity.Kind.field_mem_optional (kind : Kind) :
    ∀ part ∈ kind.parts, part.field ∈ kind.optional := by
  cases kind <;> decide

end ApiReference
