import ApiReference.Proofs.Walk
import ApiReference.TypeExpr.Grammar

/-!
# The places of a type, and their defects

A JSON value that is to be read as a type has places where types stand: the value itself, the
required parts of its forms, and the members that tuples and unions list. `Place.walk` goes through
them depth first and from left to right. It enters objects only, and of an object only what its form
asks for (`Form.partKeys`, `Form.memberKeys`), so the fixed value of a literal, a bare value and
whatever an object of an unknown form holds are not looked into.

A place may have a defect of its own (`Place.defect?`). The defects of a type are those of its
places, in the order of the walk (`TypeExpr.defects`). None of this refers to the reader: the file
is the other side of the comparison in `ApiReference.Proofs.TypeExpr.Defects`, and it would be worth
nothing there if it were the reader in disguise.

Three kinds of places are kept apart because the grammar is not the same in them. A value on its own
must be a string or an object. A part must be there, and may then be any bare value. A member may be
a number or a boolean besides, but it may not be missing: a list has no gaps. What does not depend
on the kind of place is everything below an object, and `Place.defects_whole_eq` says so once for
all three.

* **Order.** A form that requires parts and lists members would have its own defect first, then
  those of its parts, then those of its members. No form has both, but the walk need not know.
* **Paths.** A path is text, and text with dots and brackets in it does not say where it came from.
  So the path of a place is compared with the steps that lead there, not read back
  (`Place.exists_steps_of_mem_nodes`).

## What is here

* `Place.defects_eq`: the defects of a place are its own and then those of the places below it.
* `Place.defects_whole_eq`: an object has the same defects wherever it stands.
* `Place.exists_steps_of_mem_nodes`: the path of a place spells the keys and positions that lead to
  its value.
-/

set_option autoImplicit false

namespace ApiReference

namespace Form

/-- The keys of the required parts of a form, in the order in which they are read. -/
def partKeys : Form → List String
  | .array => ["value"]
  | .dictionary => ["key", "value"]
  | .alias => ["value"]
  | _ => []

/-- The keys under which a form lists its members. -/
def memberKeys : Form → List String
  | .tuple => ["values"]
  | .union => ["options"]
  | _ => []

end Form

namespace Fields

/-- The form that an object states, if it is a known one. -/
def form? (fields : Fields) : Option Form :=
  match fields.value "complex_type" with
  | .str form => Form.ofName? form
  | _ => none

theorem form?_eq_of_str {fields : Fields} {form : String}
    (h : fields.value "complex_type" = .str form) : fields.form? = Form.ofName? form := by
  rw [form?, h]

/-- An object has a known form exactly if it states the name of that form. -/
theorem form?_eq_some_iff {fields : Fields} {f : Form} :
    fields.form? = some f ↔ fields.value "complex_type" = .str f.name := by
  rw [form?]
  cases fields.value "complex_type" with
  | str form => rw [Form.ofName?_eq_some_iff, Json.str.injEq, eq_comm]
  | _ => simp

end Fields

namespace TypeExpr

/-- A position where a type stands, with the value found there. -/
inductive Place where
  /-- The type as a whole; `path` is where it stands. -/
  | whole (value : Json) (path : Path)
  /-- The part that a form requires under a key; `owner` is the path of the object. -/
  | part (form : Form) (key : String) (value : Json) (owner : Path)
  /-- A member that a tuple or a union lists. -/
  | member (value : Json) (path : Path)

namespace Place

/-- What stands at the place. -/
def value : Place → Json
  | .whole v _ => v
  | .part _ _ v _ => v
  | .member v _ => v

/-- Where the place is. -/
def path : Place → Path
  | .whole _ path => path
  | .part _ key _ owner => owner.join key
  | .member _ path => path

/-! ## The walk

A walk has to come to an end on every value, not only on those that are types. What it goes down to
is always a value inside the object that it comes from, hence a smaller one. -/

/-- The places directly inside an object that stands at `path`. -/
def inside (fields : Fields) (path : Path) : List Place :=
  match fields.form? with
  | some f =>
    (f.partKeys.map fun key => .part f key (fields.value key) path) ++
      f.memberKeys.flatMap fun key =>
        (fields.value key).items.zipIdx.map fun v => .member v.1 ((path.join key).item v.2)
  | none => []

/-- The places directly below a place. -/
def below (p : Place) : List Place :=
  match p.value with
  | .obj fields => inside fields p.path
  | _ => []

/-- What stands inside an object is smaller than the object. -/
theorem sizeOf_value_lt_of_mem_inside {fields : Fields} {path : Path} {q : Place}
    (h : q ∈ inside fields path) : sizeOf q.value < sizeOf (Json.obj fields) := by
  rw [inside] at h
  split at h
  · simp only [List.mem_append, List.mem_map, List.mem_flatMap] at h
    obtain ⟨key, -, rfl⟩ | ⟨key, -, v, hv, rfl⟩ := h
    · exact Json.sizeOf_value_lt fields key
    · have h1 := Json.sizeOf_lt_of_mem_items (List.fst_mem_of_mem_zipIdx hv)
      exact Nat.lt_trans h1 (Json.sizeOf_value_lt fields key)
  · cases h

theorem sizeOf_value_lt_of_mem_below {p q : Place} (h : q ∈ p.below) :
    sizeOf q.value < sizeOf p.value := by
  rw [below] at h
  split at h
  · next fields hp => rw [hp]; exact sizeOf_value_lt_of_mem_inside h
  · cases h

/-- The walk through the places of a type. -/
def walk : Walk Place where
  below := below
  wf := Walk.wellFounded_of_size (fun p => sizeOf p.value) sizeOf_value_lt_of_mem_below

/-! ## Defects -/

/-- What is wrong with an object that is to be read as a type: it states no form, or it lists no
members although its form has some. -/
def objectDefect? (fields : Fields) (path : Path) : Option Fault :=
  match fields.value "complex_type" with
  | .str _ =>
    fields.form?.bind fun f =>
      (f.memberKeys.find? fun key => (fields.value key).items.isEmpty).map fun key =>
        .noMembers f.name key path (fields.value key)
  | _ => some (.missingField "complex_type" path none)

/-- What is wrong with a value that is to be read as a type, regardless of what is inside it. -/
def valueDefect? : Json → Path → Option Fault
  | .str _, _ => none
  | .obj fields, path => objectDefect? fields path
  | v, path => some (.notAType v path)

/-- What is wrong at a place, regardless of the places below it. A part must be there, but it may be
any bare value; a member may be a number or a boolean. -/
def defect? : Place → Option Fault
  | .whole v path => valueDefect? v path
  | .part f key v owner =>
    if v.isNull then some (.missingField key owner (some f.name))
    else if v.isObject then valueDefect? v (owner.join key)
    else none
  | .member v path => if v.isBareMember then none else valueDefect? v path

/-- The defects of a place and of everything below it. -/
def defects (p : Place) : List Fault :=
  (walk.nodes p).filterMap defect?

/-- The defects of a place are its own, if it has one, and then those of the places below it. -/
theorem defects_eq (p : Place) : p.defects = p.defect?.toList ++ p.below.flatMap defects :=
  walk.filterMap_nodes_eq defect? p

/-- **An object has the same defects wherever it stands.** -/
theorem defects_whole_eq {p : Place} {fields : Fields} (h : p.value = .obj fields) :
    p.defects = (whole (.obj fields) p.path).defects := by
  rw [defects_eq, defects_eq]
  have hbelow : p.below = (whole (.obj fields) p.path).below := by
    rw [below, below, h]
    rfl
  have hown : p.defect? = (whole (.obj fields) p.path).defect? := by
    cases p <;> cases h <;> rfl
  rw [hbelow, hown]

theorem defects_eq_of_not_object {p : Place} (h : p.value.isObject = false) :
    p.defects = p.defect?.toList := by
  have hbelow : p.below = [] := by
    rw [below]
    split
    · next hp => rw [hp] at h; cases h
    · rfl
  rw [defects_eq, hbelow, List.flatMap_nil, List.append_nil]

end Place

/-- **The defects of a value as a type**, in the order in which a reader meets them. -/
def defects (v : Json) (path : Path) : List Fault :=
  (Place.whole v path).defects

end TypeExpr

/-! ## Where a place is

The steps that lead to a place are known to the walk but not kept in the place, which has a path
only. They are recovered here one level at a time: each level adds the one or two steps that its
form makes, and the path grows by what these steps add to it. -/

namespace Json

/-- One step into a value: under a key of an object, or to a position of an array. -/
inductive Step where
  | key (key : String)
  | index (i : Nat)

/-- What a step leads to, `null` if there is nothing. -/
def step : Json → Step → Json
  | .obj fields, .key key => Fields.value fields key
  | .arr items, .index i => items.getD i .null
  | _, _ => .null

/-- What a sequence of steps leads to. -/
def follow (v : Json) (steps : List Step) : Json :=
  steps.foldl step v

end Json

namespace Path

/-- The path of what a sequence of steps leads to. -/
def along (path : Path) (steps : List Json.Step) : Path :=
  steps.foldl (fun here s => match s with
    | .key key => here.join key
    | .index i => here.item i) path

end Path

namespace TypeExpr.Place

/-- One level down, the steps to a place are those that its form makes. -/
theorem exists_steps_of_mem_below {p q : Place} (h : q ∈ p.below) :
    ∃ steps, q.value = p.value.follow steps ∧ q.path = p.path.along steps := by
  rw [below] at h
  split at h
  · next fields hp =>
    rw [inside] at h
    split at h
    · simp only [List.mem_append, List.mem_map, List.mem_flatMap] at h
      obtain ⟨key, -, rfl⟩ | ⟨key, -, ⟨v, i⟩, hv, rfl⟩ := h
      · exact ⟨[.key key], by rw [hp]; rfl, rfl⟩
      · refine ⟨[.key key, .index i], ?_, rfl⟩
        rw [hp]
        show v = Json.step (Fields.value fields key) (.index i)
        cases hl : Fields.value fields key with
        | arr items =>
          rw [hl] at hv
          have hi : items[i]? = some v := List.mem_zipIdx_iff_getElem?.1 hv
          rw [Json.step, List.getD_eq_getElem?_getD, hi, Option.getD_some]
        | _ => rw [hl] at hv; cases hv
    · cases h
  · cases h

/-- **The path of a place is its true location**: it spells the steps that lead from the value at
the start of the walk to the value at the place. -/
theorem exists_steps_of_mem_nodes (p : Place) :
    ∀ q ∈ walk.nodes p, ∃ steps, q.value = p.value.follow steps ∧ q.path = p.path.along steps := by
  induction p using walk.induction with
  | step p ih =>
    rw [walk.forall_mem_nodes_iff]
    refine ⟨⟨[], rfl, rfl⟩, fun c hc q hq => ?_⟩
    obtain ⟨first, hv, hp⟩ := exists_steps_of_mem_below hc
    obtain ⟨rest, hv', hp'⟩ := ih c hc q hq
    refine ⟨first ++ rest, ?_, ?_⟩
    · rw [hv', hv, Json.follow, Json.follow, Json.follow, List.foldl_append]
    · rw [hp', hp, Path.along, Path.along, Path.along, List.foldl_append]

end TypeExpr.Place
end ApiReference
