import ApiReference.Proofs.Document.Entries
import ApiReference.Proofs.TypeExpr.Places

/-!
# The sites of a document, and their faults

The tables of `Entity.Kind` say what an entry may hold. Here the same is said in the order in which
a reader asks for it, and with the path at which each thing is found: `Entity.Kind.parts` lists the
parts of an entry, `Part.sites` the entries and the types in a part of an object. `Site.walk` goes
through all sites of a document in that order, each before what is inside it.

A site has faults of its own (`Site.ownFaults`): an entry lacks its required field, or a type has
defects. The faults of a document are those of its sites, in the order of the walk (`Site.faults`).
None of this refers to the reader.

A list position in the path of an entry gives way to the entry's name in the paths of everything
inside it (`Entry.here`). The images of a member are the exception: they are looked for before the
name has been put into the path.

There are two walks through a document, and both are needed. The entries know nothing of paths and
order, which is what a statement about acceptance should look like. The sites know both, which is
what a statement about reports and notices has to say. That they go through the same things is the
content of `Part.filterMap_entry_sites` and `Part.filterMap_spelled_sites`, and
`Entity.Kind.slots_eq` says it of the tables.

A site may be gone through for anything that it has, such as its faults or its notes. What is
gathered from the sites of a part is brought into one form for each kind of part, so that later
modules do not go through the kinds of parts again.

## What is here

* `Entry.faults_eq`: the faults of an entry are its own and then those of its parts.
* `Entity.Kind.slots_eq`, `Entity.Kind.typeKeys_eq`: the parts hold what the tables say.
-/

set_option autoImplicit false

namespace ApiReference

/-- A part of an object that may hold faults. -/
inductive Part where
  /-- The images of a member. -/
  | images
  | slot (s : Slot)
  | type (key : String)
  /-- The default value of a property, which may be spelled as a type. -/
  | default

namespace Entity.Kind

/-- The parts of an entry, in the order in which they are read. -/
@[simp] def parts : Kind → List Part
  | .member => [.images]
  | .concept => [.images, .type "type", .slot (.list "properties" .property)]
  | .property => [.images, .type "type", .default]
  | .define =>
    [.images, .slot (.list "values" .defineValue), .slot (.list "subkeys" .define)]
  | .prototype => [.images, .slot (.list "properties" .property)]
  | .luaClass =>
    [.images, .slot .operators, .slot (.list "methods" .method),
     .slot (.list "attributes" .attribute)]
  | .method =>
    [.images, .slot (.list "raises" .eventRaised), .slot (.list "parameters" .parameter),
     .slot (.list "variant_parameter_groups" .parameterGroup),
     .slot (.object "variadic_parameter" .variadicParameter),
     .slot (.list "return_values" .returnValue)]
  | .attribute =>
    [.images, .slot (.list "raises" .eventRaised), .type "read_type", .type "write_type"]
  | .parameter => [.type "type"]
  | .returnValue => [.type "type"]
  | .parameterGroup => [.slot (.list "parameters" .parameter)]
  | .variadicParameter => [.type "type"]
  | .event => [.images, .slot (.list "data" .parameter)]
  | .globalObject => [.type "type"]
  | .runtimeApi =>
    [.slot (.list "classes" .luaClass), .slot (.list "events" .event),
     .slot (.list "concepts" .concept), .slot (.list "defines" .define),
     .slot (.list "global_objects" .globalObject), .slot (.list "global_functions" .method)]
  | .prototypeApi => [.slot (.list "prototypes" .prototype), .slot (.list "types" .concept)]
  | _ => []

end Entity.Kind

/-- The place for entries that a part is. -/
def Part.slot? : Part → Option Slot
  | .images => some (.list "images" .image)
  | .slot s => some s
  | _ => none

/-- The field that holds the type that a part is. -/
def Part.typeKey? : Part → Option String
  | .type key => some key
  | .default => some "default"
  | _ => none

theorem Entity.Kind.slots_eq (kind : Kind) : kind.slots = kind.parts.filterMap Part.slot? := by
  cases kind <;> rfl

theorem Entity.Kind.mem_slots {kind : Kind} {part : Part} {slot : Slot}
    (hpart : part ∈ kind.parts) (hslot : slot ∈ part.slot?) : slot ∈ kind.slots := by
  rw [slots_eq]
  exact List.mem_filterMap.2 ⟨part, hpart, hslot⟩

theorem Entity.Kind.typeKeys_eq (kind : Kind) :
    kind.typeKeys = kind.parts.filterMap Part.typeKey? := by
  cases kind <;> rfl

/-! ## Sites -/

namespace Fields

/-- The objects in a list of entities, each with the path of its position. What is not an object
counts for the positions. -/
def located (fields : Fields) (key : String) (path : Path) : List (Fields × Path) :=
  (fields.value key).items.zipIdx.filterMap fun v =>
    v.1.object?.map fun g => (g, (path.join key).item v.2)

end Fields

/-- Where a reader can meet a fault. -/
inductive Site where
  | entry (e : Entry) (path : Path)
  /-- A type in the form of an object. -/
  | type (spelled : Fields) (path : Path)

/-- The path of an entry inside which everything but its images is found, if the entry itself was
found at `path`. -/
def Entry.here (e : Entry) (path : Path) : Path :=
  if e.kind.required? = some "name" then path.member (e.fields.value "name").inline else path

/-- The sites in a part of an entry that was found at `path`. -/
def Part.sites (e : Entry) (path : Path) : Part → List Site
  | .images => (e.fields.located "images" path).map fun x => .entry ⟨.image, x.1⟩ x.2
  | .slot (.list key kind) =>
    (e.fields.located key (e.here path)).map fun x => .entry ⟨kind, x.1⟩ x.2
  | .slot (.object key kind) =>
    (e.fields.value key).object?.toList.map fun g => .entry ⟨kind, g⟩ ((e.here path).join key)
  | .slot .operators =>
    ((e.fields.located "operators" (e.here path)).filter fun x =>
      Operator.isName (Fields.value x.1 "name")).map fun x =>
        .entry ⟨Entry.operatorKind x.1, x.1⟩ x.2
  | .type key => (e.fields.value key).object?.toList.map fun g => .type g ((e.here path).join key)
  | .default =>
    (e.fields.value "default").object?.toList.map fun g => .type g (e.here path ++ ".default")

namespace Site

/-- The sites directly inside a site. -/
def below : Site → List Site
  | .entry e path => e.kind.parts.flatMap (Part.sites e path)
  | .type _ _ => []

end Site

/-! ## Objects of a list -/

namespace Fields

variable {fields g : Fields} {key : String} {path p : Path}

/-- The path of an object in a list counts all items in front of it. -/
theorem mem_located : (g, p) ∈ fields.located key path ↔
    ∃ i, (fields.value key).items[i]? = some (.obj g) ∧ p = (path.join key).item i := by
  simp only [located, List.mem_filterMap, Option.map_eq_some_iff, Prod.mk.injEq,
    Json.object?_eq_some_iff]
  constructor
  · rintro ⟨⟨v, i⟩, hv, g', rfl, rfl, rfl⟩
    exact ⟨i, List.mem_zipIdx_iff_getElem?.1 hv, rfl⟩
  · rintro ⟨i, hi, rfl⟩
    exact ⟨(.obj g, i), List.mem_zipIdx_iff_getElem?.2 hi, g, rfl, rfl, rfl⟩

theorem map_fst_located (fields : Fields) (key : String) (path : Path) :
    (fields.located key path).map Prod.fst = fields.objects key := by
  have hitems : ∀ (items : List Json) (i : Nat),
      ((items.zipIdx i).filterMap fun v =>
        v.1.object?.map fun g => (g, (path.join key).item v.2)).map Prod.fst =
        items.filterMap Json.object? := by
    intro items
    induction items with
    | nil => exact fun _ => rfl
    | cons v rest ih =>
      intro i
      cases v with
      | obj g => exact congrArg (g :: ·) (ih (i + 1))
      | _ => exact ih (i + 1)
  exact hitems _ 0

end Fields

/-! ## What stands at the sites of a part -/

/-- The entry at a site, if it is no type. -/
def Site.entry? : Site → Option Entry
  | .entry e _ => some e
  | .type _ _ => none

/-- The object that spells the type at a site, if it is one. -/
def Site.spelled? : Site → Option Fields
  | .entry _ _ => none
  | .type spelled _ => some spelled

/-- What holds of all sites, if it depends on their entries and types only. -/
theorem Site.forall_mem_iff {sites : List Site} {P : Site → Prop} {E : Entry → Prop}
    {T : Fields → Prop} (hentry : ∀ e p, .entry e p ∈ sites → (P (.entry e p) ↔ E e))
    (htype : ∀ g p, P (.type g p) ↔ T g) : (∀ s ∈ sites, P s) ↔
      (∀ e ∈ sites.filterMap entry?, E e) ∧ ∀ g ∈ sites.filterMap spelled?, T g := by
  induction sites with
  | nil => simp
  | cons s rest ih =>
    rw [List.forall_mem_cons, ih fun e p h => hentry e p (.tail _ h)]
    cases s with
    | entry e p =>
      simp only [List.filterMap_cons, entry?, spelled?, List.forall_mem_cons]
      rw [hentry e p List.mem_cons_self, and_assoc]
    | type g p =>
      simp only [List.filterMap_cons, entry?, spelled?, List.forall_mem_cons]
      rw [htype, and_left_comm]

namespace Part

variable (e : Entry) (path : Path)

theorem map_located_entry (xs : List (Fields × Path)) (f : Fields → Entry) :
    (xs.map fun x => Site.entry (f x.1) x.2).filterMap Site.entry? = (xs.map Prod.fst).map f := by
  rw [List.filterMap_map, List.map_map, ← List.filterMap_eq_map]
  rfl

/-- **The entries in a part of an object** are those in the slot that it is. -/
theorem filterMap_entry_sites (part : Part) : (part.sites e path).filterMap Site.entry? =
    part.slot?.elim [] (Entry.inSlot e.fields) := by
  cases part with
  | images =>
    rw [sites, map_located_entry, Fields.map_fst_located]
    rfl
  | slot s =>
    cases s with
    | list key kind =>
      rw [sites, map_located_entry _ fun g => ⟨kind, g⟩, Fields.map_fst_located]
      rfl
    | object key kind =>
      show List.filterMap _ (List.map _ _) = _
      rw [List.filterMap_map, slot?, Option.elim_some, Entry.inSlot, ← List.filterMap_eq_map]
      rfl
    | operators =>
      rw [sites, map_located_entry _ fun g => ⟨Entry.operatorKind g, g⟩, slot?, Option.elim_some,
        Entry.inSlot, ← Fields.map_fst_located e.fields "operators" (e.here path), List.filter_map]
      rfl
  | type key =>
    rw [sites, List.filterMap_map]
    exact List.filterMap_eq_nil_iff.2 fun _ _ => rfl
  | default =>
    rw [sites, List.filterMap_map]
    exact List.filterMap_eq_nil_iff.2 fun _ _ => rfl

/-- **The types in a part of an object** are the objects under the key that holds them. -/
theorem filterMap_spelled_sites (part : Part) : (part.sites e path).filterMap Site.spelled? =
    part.typeKey?.elim [] fun key => (e.fields.value key).object?.toList := by
  have hentries : ∀ {α : Type} (xs : List α) (f : α → Entry) (g : α → Path),
      (xs.map fun x => Site.entry (f x) (g x)).filterMap Site.spelled? = [] := by
    intro α xs f g
    rw [List.filterMap_map]
    exact List.filterMap_eq_nil_iff.2 fun _ _ => rfl
  cases part with
  | images => exact hentries _ _ _
  | slot s => cases s <;> exact hentries _ _ _
  | type key =>
    rw [sites, List.filterMap_map]
    exact List.filterMap_some
  | default =>
    rw [sites, List.filterMap_map]
    exact List.filterMap_some

end Part

/-! ## What is gathered from the sites of a part

For any function from sites to lists. These are tagged for `simp`, as the sums that they rewrite
have a term for each part. -/

namespace Part

variable {β : Type} (f : Site → List β) (e : Entry) (path : Path) (key : String)
  (kind : Entity.Kind)

@[simp] theorem flatMap_images : (images.sites e path).flatMap f =
    (e.fields.located "images" path).flatMap fun x => f (.entry ⟨.image, x.1⟩ x.2) :=
  List.flatMap_map ..

@[simp] theorem flatMap_list : ((slot (.list key kind)).sites e path).flatMap f =
    (e.fields.located key (e.here path)).flatMap fun x => f (.entry ⟨kind, x.1⟩ x.2) :=
  List.flatMap_map ..

@[simp] theorem flatMap_object : ((slot (.object key kind)).sites e path).flatMap f =
    (e.fields.value key).object?.toList.flatMap fun g =>
      f (.entry ⟨kind, g⟩ ((e.here path).join key)) :=
  List.flatMap_map ..

@[simp] theorem flatMap_type : ((type key).sites e path).flatMap f =
    (e.fields.value key).object?.toList.flatMap fun g => f (.type g ((e.here path).join key)) :=
  List.flatMap_map ..

@[simp] theorem flatMap_default : (default.sites e path).flatMap f =
    (e.fields.value "default").object?.toList.flatMap fun g =>
      f (.type g (e.here path ++ ".default")) :=
  List.flatMap_map ..

/-- Of the operators, those of an unknown name have nothing. -/
@[simp] theorem flatMap_operators : ((slot .operators).sites e path).flatMap f =
    (e.fields.located "operators" (e.here path)).flatMap fun x =>
      if Operator.isName (Fields.value x.1 "name") then
        f (.entry ⟨Entry.operatorKind x.1, x.1⟩ x.2)
      else [] := by
  rw [sites, List.flatMap_map]
  induction e.fields.located "operators" (e.here path) with
  | nil => rfl
  | cons x rest ih =>
    rw [List.filter_cons, List.flatMap_cons]
    split
    · rw [List.flatMap_cons, ih]
    · rw [List.nil_append, ih]

end Part

/-! ## The walk -/

namespace Site

variable {e q : Entry} {path p : Path} {part : Part}

theorem mem_inSlot_of_mem_sites (h : .entry q p ∈ part.sites e path) :
    ∃ s, part.slot? = some s ∧ q ∈ Entry.inSlot e.fields s := by
  have hq : q ∈ part.slot?.elim [] (Entry.inSlot e.fields) := by
    rw [← Part.filterMap_entry_sites e path part]
    exact List.mem_filterMap.2 ⟨_, h, rfl⟩
  cases hs : part.slot? with
  | none =>
    rw [hs] at hq
    cases hq
  | some s =>
    rw [hs] at hq
    exact ⟨s, rfl, hq⟩

/-- The walk through the sites of a document. -/
def walk : Walk Site where
  below := below
  wf := by
    refine Walk.wellFounded_of_size (fun | .entry e _ => sizeOf e.fields + 1 | .type _ _ => 0) ?_
    intro s q h
    cases s with
    | type spelled path => cases h
    | entry e path =>
      obtain ⟨part, -, hq⟩ := List.mem_flatMap.1 h
      cases q with
      | entry q p =>
        obtain ⟨s, -, hq⟩ := mem_inSlot_of_mem_sites hq
        exact Nat.succ_lt_succ (Entry.sizeOf_fields_lt_of_mem_inSlot hq)
      | type spelled p => exact Nat.succ_pos _

/-- What is wrong at a site itself. -/
def ownFaults : Site → List Fault
  | .entry e path =>
    match e.kind.required? with
    | some key => if (e.fields.value key).isNull then [.missingField key path none] else []
    | none => []
  | .type spelled path => TypeExpr.defects (.obj spelled) path

/-- **The faults of a site and of everything inside it**, in the order in which a reader meets
them. -/
def faults (s : Site) : List Fault :=
  (walk.nodes s).flatMap ownFaults

/-- The faults of a site are its own, and then those of the sites directly inside it. -/
theorem faults_eq (s : Site) : s.faults = s.ownFaults ++ s.below.flatMap faults := by
  rw [faults, walk.nodes_eq, List.flatMap_cons, List.flatMap_assoc]
  rfl

theorem faults_type (spelled : Fields) (path : Path) :
    (Site.type spelled path).faults = TypeExpr.defects (.obj spelled) path := by
  rw [faults_eq, below, List.flatMap_nil, List.append_nil, ownFaults]

end Site

namespace Part

/-- The faults of a part of an entry. -/
def faults (e : Entry) (path : Path) (part : Part) : List Fault :=
  (part.sites e path).flatMap Site.faults

end Part

namespace Entry

/-- The faults of an entry that was found at `path`. -/
def faults (e : Entry) (path : Path) : List Fault :=
  (Site.entry e path).faults

theorem faults_eq (e : Entry) (path : Path) :
    e.faults path =
      (Site.entry e path).ownFaults ++ e.kind.parts.flatMap (Part.faults e path) := by
  rw [faults, Site.faults_eq, Site.below, List.flatMap_assoc]
  rfl

end Entry

end ApiReference
