import ApiReference.Entity.Basic
import ApiReference.Proofs.Walk

/-!
# The entries of a document

A document is an object whose fields hold further objects, each of which describes an entity of some
kind. An `Entry` is such an object with its kind. Three tables say what an entry of a kind may hold:
`Entity.Kind.required?` the field that it must have, `Entity.Kind.typeKeys` the fields that hold
types, and `Entity.Kind.slots` the fields that hold further entries. The document itself is an entry
that needs no field of its own.

`Entry.walk` goes through all entries of a document. What holds throughout an entry holds of the
entry itself and throughout the entries in each of its slots (`Entry.throughout_iff`).

An entry is defective if it lacks its required field or if one of its types is an object that is no
type; it is sound if neither it nor any entry inside it is defective (`Entry.sound_iff`). A field
that no table mentions plays no part.

The tables are a second account of the format of documents. The readers have the same knowledge,
spread over twenty functions, each of which asks for its fields one after another. Here it fits on a
page, and a statement about all entries of a document can be made without naming their kinds. Three
things are not as regular as the tables, and show up in them:

* **Operators** are read as methods or as attributes, by what they have, and some objects in their
  list are not read at all. They have a slot of their own.
* **Returned values** are parameters that need no name.
* **A default value** is a type only if it is an object, and so is listed among the types.

The depth of entries is bounded but for defines, which hold defines; the walk needs no more than
that an object inside another one is smaller.
-/

set_option autoImplicit false

namespace ApiReference

/-- A place in an object for further entries. -/
inductive Slot where
  /-- The objects of a list. -/
  | list (key : String) (kind : Entity.Kind)
  /-- A field that is an object. -/
  | object (key : String) (kind : Entity.Kind)
  /-- The operators of a class. -/
  | operators

namespace Entity.Kind

/-- The field that an entity must have. -/
@[simp] def required? : Kind → Option String
  | .image => some "filename"
  | .returnValue | .variadicParameter | .methodFormat | .timeframe => none
  | .runtimeApi | .prototypeApi | .document | .type => none
  | _ => some "name"

/-- The fields of an entity that hold types. -/
@[simp] def typeKeys : Kind → List String
  | .concept => ["type"]
  | .property => ["type", "default"]
  | .attribute => ["read_type", "write_type"]
  | .parameter => ["type"]
  | .returnValue => ["type"]
  | .variadicParameter => ["type"]
  | .globalObject => ["type"]
  | _ => []

/-- The fields of an entity that hold further entities. -/
@[simp] def slots : Kind → List Slot
  | .member => [.list "images" .image]
  | .concept => [.list "images" .image, .list "properties" .property]
  | .property => [.list "images" .image]
  | .define => [.list "images" .image, .list "values" .defineValue, .list "subkeys" .define]
  | .prototype => [.list "images" .image, .list "properties" .property]
  | .luaClass =>
    [.list "images" .image, .operators, .list "methods" .method, .list "attributes" .attribute]
  | .method =>
    [.list "images" .image, .list "raises" .eventRaised, .list "parameters" .parameter,
     .list "variant_parameter_groups" .parameterGroup,
     .object "variadic_parameter" .variadicParameter, .list "return_values" .returnValue]
  | .attribute => [.list "images" .image, .list "raises" .eventRaised]
  | .parameterGroup => [.list "parameters" .parameter]
  | .event => [.list "images" .image, .list "data" .parameter]
  | .runtimeApi =>
    [.list "classes" .luaClass, .list "events" .event, .list "concepts" .concept,
     .list "defines" .define, .list "global_objects" .globalObject,
     .list "global_functions" .method]
  | .prototypeApi => [.list "prototypes" .prototype, .list "types" .concept]
  | _ => []

end Entity.Kind

/-- An object of a document, with the kind of the entity that it describes. -/
structure Entry where
  kind : Entity.Kind
  fields : Fields

namespace Entry

/-- As what an operator is read. -/
def operatorKind (fields : Fields) : Entity.Kind :=
  if Operator.isMethod fields then .method else .attribute

theorem operatorKind_required? (fields : Fields) :
    (operatorKind fields).required? = some "name" := by
  rw [operatorKind]
  split <;> rfl

/-- The entries in one place of an object. An operator of an unknown name is none. -/
def inSlot (fields : Fields) : Slot → List Entry
  | .list key kind => (fields.objects key).map (⟨kind, ·⟩)
  | .object key kind => (fields.value key).object?.toList.map (⟨kind, ·⟩)
  | .operators =>
    ((fields.objects "operators").filter fun g => Operator.isName (Fields.value g "name")).map
      fun g => ⟨operatorKind g, g⟩

/-- The entries directly inside an entry. -/
def below (e : Entry) : List Entry :=
  e.kind.slots.flatMap (inSlot e.fields)

theorem sizeOf_fields_lt_of_mem_inSlot {fields : Fields} {slot : Slot} {q : Entry}
    (h : q ∈ inSlot fields slot) : sizeOf q.fields < sizeOf fields := by
  cases slot with
  | list key kind =>
    obtain ⟨g, hg, rfl⟩ := List.mem_map.1 h
    exact Fields.sizeOf_lt_of_mem_objects hg
  | object key kind =>
    obtain ⟨g, hg, rfl⟩ := List.mem_map.1 h
    have hv := Json.object?_eq_some_iff.1 (Option.mem_toList.1 hg)
    have hlt := Json.sizeOf_value_lt fields key
    rw [hv, Json.obj.sizeOf_spec, Json.obj.sizeOf_spec] at hlt
    exact Nat.lt_of_add_lt_add_left hlt
  | operators =>
    obtain ⟨g, hg, rfl⟩ := List.mem_map.1 h
    exact Fields.sizeOf_lt_of_mem_objects (List.mem_filter.1 hg).1

theorem sizeOf_fields_lt_of_mem_below {e q : Entry} (h : q ∈ e.below) :
    sizeOf q.fields < sizeOf e.fields := by
  obtain ⟨slot, -, hq⟩ := List.mem_flatMap.1 h
  exact sizeOf_fields_lt_of_mem_inSlot hq

/-- The walk through the entries of a document. -/
def walk : Walk Entry where
  below := below
  wf := Walk.wellFounded_of_size (fun e => sizeOf e.fields) sizeOf_fields_lt_of_mem_below

/-- Something holds of the entry and of every entry inside it. -/
def Throughout (P : Entry → Prop) (e : Entry) : Prop :=
  ∀ q ∈ walk.nodes e, P q

/-- Something holds throughout the entries in one place of an object. -/
def ThroughoutIn (P : Entry → Prop) (fields : Fields) (slot : Slot) : Prop :=
  ∀ q ∈ inSlot fields slot, q.Throughout P

section Throughout

variable {P : Entry → Prop} {fields : Fields} {key : String} {kind : Entity.Kind}

/-- What holds throughout an entry holds of itself and throughout each of its slots. -/
theorem throughout_iff : (Entry.mk kind fields).Throughout P ↔
    P ⟨kind, fields⟩ ∧ ∀ slot ∈ kind.slots, ThroughoutIn P fields slot := by
  rw [Throughout, walk.forall_mem_nodes_iff]
  simp only [walk, below, List.mem_flatMap, forall_exists_index, and_imp]
  exact and_congr_right fun _ => ⟨fun h slot hs q hq => h q slot hs hq,
    fun h q slot hs hq => h slot hs q hq⟩

@[simp] theorem throughoutIn_list_iff :
    ThroughoutIn P fields (.list key kind) ↔
      ∀ g ∈ fields.objects key, (Entry.mk kind g).Throughout P := by
  simp [ThroughoutIn, inSlot]

@[simp] theorem throughoutIn_object_iff :
    ThroughoutIn P fields (.object key kind) ↔
      ∀ g, fields.value key = .obj g → (Entry.mk kind g).Throughout P := by
  simp [ThroughoutIn, inSlot, Json.object?_eq_some_iff]

/-- Of the operators only those of a known name are looked at. -/
@[simp] theorem throughoutIn_operators_iff :
    ThroughoutIn P fields .operators ↔ ∀ g ∈ fields.objects "operators",
      Operator.isName (Fields.value g "name") = true →
        (Entry.mk (operatorKind g) g).Throughout P := by
  refine ⟨fun h g hg hn => h _ (List.mem_map.2 ⟨g, List.mem_filter.2 ⟨hg, hn⟩, rfl⟩),
    fun h q hq => ?_⟩
  obtain ⟨g, hg, rfl⟩ := List.mem_map.1 hq
  exact h g (List.mem_filter.1 hg).1 (List.mem_filter.1 hg).2

namespace Throughout

variable {inner : Entity.Kind} {g : Fields}

theorem own (h : (Entry.mk kind fields).Throughout P) : P ⟨kind, fields⟩ :=
  (throughout_iff.1 h).1

theorem of_mem_objects (h : (Entry.mk kind fields).Throughout P)
    (hslot : .list key inner ∈ kind.slots) (hg : g ∈ fields.objects key) :
    (Entry.mk inner g).Throughout P :=
  throughoutIn_list_iff.1 ((throughout_iff.1 h).2 _ hslot) g hg

theorem of_value_eq (h : (Entry.mk kind fields).Throughout P)
    (hslot : .object key inner ∈ kind.slots) (hg : fields.value key = .obj g) :
    (Entry.mk inner g).Throughout P :=
  throughoutIn_object_iff.1 ((throughout_iff.1 h).2 _ hslot) g hg

end Throughout
end Throughout

/-- The entry that a document is, by its stage. -/
def ofDocument? : Json → Option Entry
  | .obj fields =>
    match Fields.value fields "stage" with
    | .str stage =>
      if stage = RuntimeApi.stage then some ⟨.runtimeApi, fields⟩
      else if stage = PrototypeApi.stage then some ⟨.prototypeApi, fields⟩
      else none
    | _ => none
  | _ => none

theorem ofDocument?_eq_some_iff {d : Json} {root : Entry} :
    ofDocument? d = some root ↔ ∃ fields : Fields, d = .obj fields ∧
      (fields.value "stage" = .str RuntimeApi.stage ∧ root = ⟨.runtimeApi, fields⟩ ∨
        fields.value "stage" = .str PrototypeApi.stage ∧ root = ⟨.prototypeApi, fields⟩) := by
  cases d with
  | obj fields =>
    simp only [ofDocument?, Json.obj.injEq, exists_eq_left']
    cases hs : Fields.value fields "stage" with
    | str stage =>
      dsimp only
      split
      · next he =>
        simp [he, RuntimeApi.stage, PrototypeApi.stage, eq_comm]
      · next hr =>
        split
        · next he => simp [he, RuntimeApi.stage, PrototypeApi.stage, eq_comm]
        · next hp => simp [hr, hp]
    | _ => simp
  | _ => simp [ofDocument?]

/-! ## Sound entries

A type is refused if it is an object that no type is spelled by. A string, or any other value, never
is: it is a name, or counts as no type. -/

/-- The value is an object that is refused as a type. -/
def RefusedAsType (v : Json) : Prop :=
  v.isObject = true ∧ ∀ path, ∃ fault, (TypeExpr.read v path).outcome = .error fault

/-- What is wrong with an entry itself: it lacks its required field, or one of its types is an
object that is no type. -/
def Defective (e : Entry) : Prop :=
  (∃ key, e.kind.required? = some key ∧ (e.fields.value key).isNull = true) ∨
    ∃ key ∈ e.kind.typeKeys, RefusedAsType (e.fields.value key)

/-- Neither the entry nor any entry inside it is defective. -/
abbrev Sound (e : Entry) : Prop :=
  e.Throughout fun q => ¬ q.Defective

/-- An entry has its required field, and its types are accepted. -/
@[simp] def Complete (e : Entry) : Prop :=
  (∀ key ∈ e.kind.required?, (e.fields.value key).isNull = false) ∧
    ∀ key ∈ e.kind.typeKeys, ¬ RefusedAsType (e.fields.value key)

theorem not_defective_iff {e : Entry} : ¬ e.Defective ↔ e.Complete := by
  rw [Defective, Complete, not_or, not_exists, not_exists]
  simp only [not_and, Bool.not_eq_true, Option.mem_def]

/-- An entry is sound if it is complete and the entries in its slots are sound. -/
theorem sound_iff (kind : Entity.Kind) (fields : Fields) :
    (Entry.mk kind fields).Sound ↔ (Entry.mk kind fields).Complete ∧
      ∀ slot ∈ kind.slots, ThroughoutIn (fun q => ¬ q.Defective) fields slot := by
  rw [Sound, throughout_iff, not_defective_iff]

end Entry
end ApiReference
