import ApiReference.Proofs.Document.Optional
import ApiReference.Proofs.TypeExpr.UnknownForms
import Mathlib.Algebra.Order.Group.Multiset
import Mathlib.Tactic.Abel

/-!
# What a reader notes

With the debug setting on, a reader notes three things on its way: a type of an unknown form, an
operator of an unknown name, and a default that it takes. This file lists them without the reader,
by what each site of a document has (`Site.ownNotices`, `Site.ownDefaults`), and shows that the list
is exact: nothing is noted twice, nothing is left out, and what the walk through the sites does not
reach is not noted. The notes about defaults, and what is left with the setting off, are parts of
this list (`Site.filter_noted`, `Site.filter_not_noted`).

Not all defaults are noted. Texts that may be empty, lists and types are (`Fields.ownDefault`); a
text that must not be empty, a number, an object and the default value of a property are replaced
without a word. The path of a note is not the same for all fields of an object either: the fields
that every member has are read before the name of the member is known (`Entry.fieldPath`).

For each kind of entity this is a lemma `read_leaves`, put together from the lemmas about the fields
that the reader asks for. The specification has the notes of an object ahead of those of everything
inside it, the reader takes the fields one after another; so the two agree up to their order, and
the lemmas end in a comparison of two sums.

The sums are of multisets. A permutation of appended lists is proved by hand one swap at a time, and
the order of the fields of a method would be written into the proof. As multisets both sides are
sums of the same terms, which `abel` compares, and a field that moves to another place in the reader
leaves the proof as it is.

The setting is on throughout. What is left with the setting off is a part of it by
`ApiReference.Proofs.Document.Debug`, so that nothing has to be shown twice.

## What is here

* `Site.noted`: the notes at a site and inside it.
* `Fields.list?_leaves`: reading a list leaves its own default, or what its objects leave.
* `Define.read_leaves`: the one reader that calls itself, by induction on the size of the object.
-/

set_option autoImplicit false

namespace ApiReference

namespace Reading

/-- The order of the notices may be forgotten. -/
theorem Leaves.of_coe_eq {α : Type} {x : Reading α} {notices others : List Notice}
    (hx : x.Leaves notices) (h : (notices : Multiset Notice) = others) : x.Leaves others :=
  hx.of_perm (Multiset.coe_eq_coe.1 h)

end Reading

open Reading
open TypeExpr (Place)

/-! ## The notes of a site

A site has notes of two kinds: those that are left under either setting, and those about defaults. A
class is the only entry with notes of the first kind, about operators that it drops. -/

namespace Site

/-- The unknown forms of the type at a site. -/
def unknownForms : Site → List Notice
  | .entry _ _ => []
  | .type spelled path => (Place.whole (.obj spelled) path).unknownForms

/-- The objects in a list of operators whose name is that of no operator. -/
def droppedOperators : Site → List Notice
  | .entry ⟨.luaClass, fields⟩ path =>
    ((fields.located "operators" (Entry.here ⟨.luaClass, fields⟩ path)).filter fun x =>
      !Operator.isName (Fields.value x.1 "name")).map fun x =>
        .droppedOperator x.2 (Fields.value x.1 "name")
  | _ => []

@[simp] theorem droppedOperators_entry {kind : Entity.Kind} (h : kind ≠ .luaClass)
    (fields : Fields) (path : Path) : (entry ⟨kind, fields⟩ path).droppedOperators = [] := by
  cases kind <;> first | rfl | exact absurd rfl h

/-- What is noted at a site itself. -/
def ownNotices (s : Site) : List Notice :=
  s.unknownForms ++ s.droppedOperators

end Site

namespace Fields

/-- The note about a field that the object has, but not in the shape. -/
def misfit (fields : Fields) (shape : Shape) (key : String) (path : Path) : List Notice :=
  if fields.has key && !shape.fits (fields.value key) then [.defaulted path key] else []

/-- The note about an optional field of an object, if there is one. A text that may be empty may
also be `null`. -/
@[simp] def ownDefault (fields : Fields) (path : Path) : OptionalField → List Notice
  | (key, .plain .string) =>
    if (fields.value key).isNull then [] else fields.misfit .string key path
  | (key, .plain .list) => fields.misfit .list key path
  | (key, .list _) => fields.misfit .list key path
  | (key, .type) => if key = "default" then [] else fields.misfit .type key path
  | _ => []

variable {fields : Fields} {path : Path} {field : OptionalField} {n : Notice}

theorem eq_of_mem_misfit {shape : Shape} {key : String} (h : n ∈ fields.misfit shape key path) :
    n = .defaulted path key := by
  rw [misfit] at h
  split at h
  · exact List.mem_singleton.1 h
  · cases h

/-- A note about a field names the field. -/
theorem eq_of_mem_ownDefault (h : n ∈ fields.ownDefault path field) :
    n = .defaulted path field.1 := by
  rw [ownDefault.eq_def] at h
  split at h
  · split at h
    · cases h
    · exact eq_of_mem_misfit h
  · exact eq_of_mem_misfit h
  · exact eq_of_mem_misfit h
  · split at h
    · cases h
    · exact eq_of_mem_misfit h
  · cases h

end Fields

/-- The path in the note about a field. The fields that every member has are read at the path at
which the object was found, and so are those of the same keys in other kinds; a parameter is an
exception, its name is known by then. -/
def Entry.fieldPath (e : Entry) (path : Path) (key : String) : Path :=
  if e.kind ≠ .parameter ∧ key ∈ Entity.Kind.common.map Prod.fst then path else e.here path

namespace Site

/-- The notes about the optional fields of a site itself. -/
def ownDefaults : Site → List Notice
  | .entry e path =>
    e.kind.optional.flatMap fun field => e.fields.ownDefault (e.fieldPath path field.1) field
  | .type _ _ => []

/-- What is noted at a site and inside it, whether the setting is on or not. -/
def notices (s : Site) : List Notice :=
  (walk.nodes s).flatMap ownNotices

/-- The notes about the optional fields of a site and of everything inside it. -/
def defaults (s : Site) : List Notice :=
  (walk.nodes s).flatMap ownDefaults

/-- **All that is noted at a site and inside it**, with the setting on. -/
def noted (s : Site) : List Notice :=
  (walk.nodes s).flatMap fun q => q.ownNotices ++ q.ownDefaults

/-- The notes of a site are its own and those of the sites directly inside it. -/
theorem noted_eq (s : Site) :
    s.noted = s.ownNotices ++ s.ownDefaults ++ s.below.flatMap noted := by
  rw [noted, walk.nodes_eq, List.flatMap_cons, List.flatMap_assoc]
  rfl

/-- Inside a type nothing is noted but unknown forms. -/
theorem noted_type (spelled : Fields) (path : Path) :
    (Site.type spelled path).noted = (Place.whole (.obj spelled) path).unknownForms := by
  rw [noted_eq, below, List.flatMap_nil, List.append_nil]
  exact (List.append_nil _).trans (List.append_nil _)

theorem noted_entry (e : Entry) (path : Path) :
    (Site.entry e path).noted = (Site.entry e path).droppedOperators ++
      ((Site.entry e path).ownDefaults ++
        e.kind.parts.flatMap fun part => (part.sites e path).flatMap noted) := by
  rw [noted_eq, below, List.flatMap_assoc, List.append_assoc]
  rfl

variable {s : Site} {n : Notice}

theorem exists_of_mem_ownNotices (h : n ∈ s.ownNotices) :
    (∃ path form, n = .unknownForm path form) ∨ ∃ path name, n = .droppedOperator path name := by
  rcases List.mem_append.1 h with h | h
  · rw [unknownForms.eq_def] at h
    split at h
    · cases h
    · exact Or.inl (TypeExpr.exists_of_mem_unknownForms h)
  · rw [droppedOperators.eq_def] at h
    split at h
    · obtain ⟨x, -, rfl⟩ := List.mem_map.1 h
      exact Or.inr ⟨_, _, rfl⟩
    · cases h

/-- What is noted under either setting is not about defaults. -/
theorem isDefaulted_of_mem_ownNotices (h : n ∈ s.ownNotices) : n.isDefaulted = false := by
  rcases exists_of_mem_ownNotices h with ⟨_, _, rfl⟩ | ⟨_, _, rfl⟩ <;> rfl

theorem isDefaulted_of_mem_ownDefaults (h : n ∈ s.ownDefaults) : n.isDefaulted = true := by
  cases s with
  | type spelled path => cases h
  | entry e path =>
    obtain ⟨field, -, hfield⟩ := List.mem_flatMap.1 h
    rw [Fields.eq_of_mem_ownDefault hfield]
    rfl

/-- Of all that is noted, the notes about defaults are those of the optional fields. -/
theorem filter_noted (s : Site) : s.noted.filter Notice.isDefaulted = s.defaults := by
  rw [noted, defaults, List.filter_flatMap]
  refine List.flatMap_congr fun q _ => ?_
  have hnotices : q.ownNotices.filter Notice.isDefaulted = [] :=
    List.filter_eq_nil_iff.2 fun n hn => ne_true_of_eq_false (isDefaulted_of_mem_ownNotices hn)
  have hdefaults : q.ownDefaults.filter Notice.isDefaulted = q.ownDefaults :=
    List.filter_eq_self.2 fun n hn => isDefaulted_of_mem_ownDefaults hn
  rw [List.filter_append, hnotices, hdefaults, List.nil_append]

/-- The other notes are those that do not depend on the setting. -/
theorem filter_not_noted (s : Site) : (s.noted.filter fun n => !n.isDefaulted) = s.notices := by
  rw [noted, notices, List.filter_flatMap]
  refine List.flatMap_congr fun q _ => ?_
  have hnotices : (q.ownNotices.filter fun n => !n.isDefaulted) = q.ownNotices :=
    List.filter_eq_self.2 fun n hn => by rw [isDefaulted_of_mem_ownNotices hn]; rfl
  have hdefaults : (q.ownDefaults.filter fun n => !n.isDefaulted) = [] :=
    List.filter_eq_nil_iff.2 fun n hn => by rw [isDefaulted_of_mem_ownDefaults hn]; decide
  rw [List.filter_append, hnotices, hdefaults, List.append_nil]

variable {kind : Entity.Kind} {fields : Fields} {path : Path}

/-- Without a name of its own, an object has one path for all of its fields. -/
theorem ownDefaults_of_nameless (hkind : kind.required? ≠ some "name") :
    (Site.entry ⟨kind, fields⟩ path).ownDefaults =
      kind.optional.flatMap (fields.ownDefault path) := by
  refine List.flatMap_congr fun field _ => ?_
  rw [Entry.fieldPath, Entry.here, if_neg hkind, ite_self]

/-- In a kind other than the parameter, the fields of every member have the path of the object. -/
theorem flatMap_ownDefault_common (hkind : kind ≠ .parameter) :
    (Entity.Kind.common.flatMap fun field =>
      fields.ownDefault (Entry.fieldPath ⟨kind, fields⟩ path field.1) field) =
      Entity.Kind.common.flatMap (fields.ownDefault path) := by
  refine List.flatMap_congr fun field hfield => ?_
  rw [Entry.fieldPath, if_pos ⟨hkind, List.mem_map_of_mem hfield⟩]

/-- The further fields of a member have the path that ends in the member's name. -/
theorem flatMap_ownDefault_further {further : List OptionalField}
    (hoptional : kind.optional = Entity.Kind.common ++ further) :
    (further.flatMap fun field =>
      fields.ownDefault (Entry.fieldPath ⟨kind, fields⟩ path field.1) field) =
      further.flatMap (fields.ownDefault (Entry.here ⟨kind, fields⟩ path)) := by
  have hnodup := kind.nodup_optional
  rw [hoptional, List.map_append, List.nodup_append] at hnodup
  refine List.flatMap_congr fun field hfield => ?_
  rw [Entry.fieldPath, if_neg]
  rintro ⟨-, hcommon⟩
  exact hnodup.2.2 _ hcommon _ (List.mem_map_of_mem hfield) rfl

/-- **The notes of a member are those of its common part**, and then those of its further fields
and parts. Those of a class itself come before both. -/
theorem coe_noted_of_member (hkind : kind ≠ .parameter) {further : List OptionalField}
    {parts : List Part} (hparts : kind.parts = .images :: parts)
    (hoptional : kind.optional = Entity.Kind.common ++ further) :
    ((Site.entry ⟨kind, fields⟩ path).noted : Multiset Notice) =
      (Site.entry ⟨.member, fields⟩ path).noted +
        (((Site.entry ⟨kind, fields⟩ path).droppedOperators : Multiset Notice) +
          (further.flatMap (fields.ownDefault (Entry.here ⟨kind, fields⟩ path)) +
            parts.flatMap fun part => (part.sites ⟨kind, fields⟩ path).flatMap noted)) := by
  have hmember : Entity.Kind.member.optional = Entity.Kind.common := rfl
  have hdropped : (Site.entry ⟨.member, fields⟩ path).droppedOperators = [] := rfl
  rw [noted_entry, noted_entry, ownDefaults, ownDefaults, hoptional, hparts, hmember,
    List.flatMap_append, flatMap_ownDefault_common hkind, flatMap_ownDefault_further hoptional,
    flatMap_ownDefault_common (by decide), hdropped]
  simp only [Entity.Kind.parts, List.flatMap_cons, List.flatMap_nil, List.append_nil,
    List.nil_append, Part.flatMap_images]
  simp only [← Multiset.coe_add]
  abel

end Site

/-- The notes of a part that holds a type. -/
@[simp] theorem flatMap_noted_type (v : Json) (path : Path) :
    (v.object?.toList.flatMap fun g => (Site.type g path).noted) =
      (Place.whole v path).unknownForms := by
  cases v with
  | obj g => exact (List.flatMap_singleton ..).trans (Site.noted_type g path)
  | _ => exact (Place.unknownForms_of_not_object rfl path).symm

/-! ## Fields -/

namespace Fields

variable {α : Type} (fields : Fields) (key : String) (path : Path)

theorem require_leaves : (fields.require key path).Leaves [] := by
  rw [require]
  split
  · exact .fail _ _
  · exact .pure _

variable {fields key}

/-- Taking a default leaves the note about it, if the object has the field. -/
theorem takeDefault_notices {shape : Shape} (h : shape.fits (fields.value key) = false) (a : α) :
    (fields.noteDefault true key path >>= fun _ => (pure a : Reading α)).notices =
      fields.misfit shape key path := by
  rw [noteDefault, misfit, h, Bool.true_and, Bool.not_false, Bool.and_true]
  split <;> rfl

theorem misfit_of_fits {shape : Shape} (h : shape.fits (fields.value key) = true) :
    fields.misfit shape key path = [] := by
  rw [misfit, h, Bool.not_true, Bool.and_false, if_neg Bool.false_ne_true]

variable (fields key)

theorem description_notices :
    (fields.description true key path).notices = fields.ownDefault path (key, .plain .string) := by
  rw [description, ownDefault]
  cases hv : fields.value key with
  | str s => exact (misfit_of_fits path (hv ▸ rfl)).symm
  | null => rfl
  | _ => exact takeDefault_notices path (hv ▸ rfl) ""

theorem strings?_notices :
    (fields.strings? true key path).notices = fields.misfit .list key path := by
  rw [strings?]
  cases hv : fields.value key with
  | arr items => exact (misfit_of_fits path (hv ▸ rfl)).symm
  | _ => exact takeDefault_notices path (hv ▸ rfl) none

theorem description_leaves : (fields.description true key path).Leaves
    (fields.ownDefault path (key, .plain .string)) :=
  .of_notices (fields.description_notices key path)

theorem strings?_leaves : (fields.strings? true key path).Leaves (fields.misfit .list key path) :=
  .of_notices (fields.strings?_notices key path)

variable {fields key} in
theorem takeDefault_leaves {shape : Shape} (h : shape.fits (fields.value key) = false) (a : α) :
    (fields.noteDefault true key path >>= fun _ => (pure a : Reading α)).Leaves
      (fields.misfit shape key path) :=
  .of_notices (takeDefault_notices path h a)

/-- A field for a type leaves the note about its default, or what the type leaves. -/
theorem type?_leaves : (fields.type? true key path).Leaves (fields.misfit .type key path ++
    (Place.whole (fields.value key) (path.join key)).unknownForms) := by
  rw [type?]
  cases hv : fields.value key with
  | obj g =>
    rw [misfit_of_fits path (hv ▸ rfl), List.nil_append]
    exact (TypeExpr.read_leaves _ _).map _
  | str s =>
    rw [Place.unknownForms_of_not_object rfl, List.append_nil]
    dsimp only
    cases hs : (Json.str s).text? with
    | some name =>
      refine (Leaves.pure _).of_eq (misfit_of_fits path ?_).symm
      rw [hv, Shape.fits, hs]
      rfl
    | none =>
      refine takeDefault_leaves path ?_ none
      rw [hv, Shape.fits, hs]
      rfl
  | _ =>
    rw [Place.unknownForms_of_not_object rfl, List.append_nil]
    exact takeDefault_leaves path (hv ▸ rfl) none

section Lists

variable {fields key path} {read : Fields → Path → Reading α}
  {notices : Fields → Path → List Notice}

theorem readItems_leaves {items : List Json}
    (h : ∀ g, Json.obj g ∈ items → ∀ path, (read g path).Leaves (notices g path)) (i : Nat) :
    (readItems read path i items).Leaves
      (((items.zipIdx i).filterMap fun v => v.1.object?.map fun g => (g, path.item v.2)).flatMap
        fun x => notices x.1 x.2) := by
  induction items generalizing i with
  | nil => exact .pure []
  | cons v rest ih =>
    have hrest := ih (fun g hg => h g (List.mem_cons_of_mem v hg)) (i + 1)
    cases v with
    | obj g => exact (h g List.mem_cons_self (path.item i)).bind fun a => hrest.map (a :: ·)
    | _ => exact hrest

/-- **Reading a list leaves the note about its own default, or what its objects leave**, each at the
path of its position. -/
theorem list?_leaves
    (h : ∀ g ∈ fields.objects key, ∀ path, (read g path).Leaves (notices g path)) :
    (fields.list? true key read path).Leaves (fields.misfit .list key path ++
      (fields.located key path).flatMap fun x => notices x.1 x.2) := by
  rw [list?, located]
  rw [objects] at h
  cases hv : fields.value key with
  | arr items =>
    rw [hv] at h
    rw [misfit_of_fits path (hv ▸ rfl)]
    exact (readItems_leaves (fun g hg => h g (List.mem_filterMap.2 ⟨_, hg, rfl⟩)) 0).map some
  | _ => exact (takeDefault_leaves path (hv ▸ rfl) none).of_eq (List.append_nil _).symm

theorem list_leaves
    (h : ∀ g ∈ fields.objects key, ∀ path, (read g path).Leaves (notices g path)) :
    (fields.list true key read path).Leaves (fields.misfit .list key path ++
      (fields.located key path).flatMap fun x => notices x.1 x.2) :=
  (list?_leaves h).map _

end Lists
end Fields

/-! ## Entities -/

section Kinds

variable (fields : Fields) (path : Path)

theorem Image.read_leaves :
    (Image.read fields path).Leaves (Site.entry ⟨.image, fields⟩ path).noted := by
  refine ((fields.require_leaves "filename" path).map _).of_eq ?_
  rw [Site.noted_entry, Site.ownDefaults_of_nameless (by decide)]
  rfl

/-- What every member has is read at the path of the object. -/
theorem Site.noted_member : (Site.entry ⟨.member, fields⟩ path).noted =
    fields.ownDefault path ("description", .plain .string) ++ (fields.misfit .list "lists" path ++
      (fields.misfit .list "examples" path ++ (fields.misfit .list "images" path ++
        (fields.located "images" path).flatMap fun x =>
          (Site.entry ⟨.image, x.1⟩ x.2).noted))) := by
  rw [noted_entry, ownDefaults]
  show _ ++ ((Entity.Kind.common.flatMap fun field => _) ++ _) = _
  rw [flatMap_ownDefault_common (by decide)]
  simp [Entity.Kind.common, Entity.Kind.listed]

theorem Member.read_leaves :
    (Member.read true fields path).Leaves (Site.entry ⟨.member, fields⟩ path).noted := by
  rw [Site.noted_member]
  exact (fields.require_leaves "name" path).silent fun _ =>
    (fields.description_leaves "description" path).bind fun _ =>
    (fields.strings?_leaves "lists" path).bind fun _ =>
    (fields.strings?_leaves "examples" path).bind fun _ =>
    (Fields.list?_leaves fun g _ path => Image.read_leaves g path).map _

theorem Property.readDefault_leaves :
    (readDefault fields path).Leaves
      (Place.whole (fields.value "default") (path ++ ".default")).unknownForms := by
  rw [readDefault]
  cases fields.value "default" with
  | obj g => exact (TypeExpr.read_leaves _ _).map _
  | _ => exact (Leaves.pure _).of_eq (Place.unknownForms_of_not_object rfl _).symm

variable {fields path} in
/-- A reader of members first reads the common part, and then its own fields and parts. -/
theorem Reading.Leaves.ofMember {α : Type} {f : Member → Reading α} {kind : Entity.Kind}
    {further : List OptionalField} {parts : List Part} {rest : List Notice}
    (hf : (f (.ofFields fields)).Leaves rest) (hkind : kind ≠ .parameter)
    (hparts : kind.parts = .images :: parts)
    (hoptional : kind.optional = Entity.Kind.common ++ further)
    (hrest : (rest : Multiset Notice) =
      ((Site.entry ⟨kind, fields⟩ path).droppedOperators : Multiset Notice) +
        (further.flatMap (fields.ownDefault (Entry.here ⟨kind, fields⟩ path)) +
          parts.flatMap fun part => (part.sites ⟨kind, fields⟩ path).flatMap Site.noted)) :
    (Member.read true fields path >>= f).Leaves (Site.entry ⟨kind, fields⟩ path).noted := by
  have hmember := Member.read_leaves fields path
  refine (hmember.bindTo (Member.read_reports true fields path) hf).of_coe_eq ?_
  rw [Site.coe_noted_of_member hkind hparts hoptional, ← hrest, Multiset.coe_add]

theorem Property.read_leaves :
    (Property.read true fields path).Leaves (Site.entry ⟨.property, fields⟩ path).noted := by
  refine .ofMember ((fields.strings?_leaves "visibility" _).bind fun _ =>
    (fields.type?_leaves "type" _).bind fun _ =>
    (readDefault_leaves fields _).map _) (by decide) rfl rfl ?_
  simp [Entry.here, Member.path, Member.ofFields]

theorem Concept.readBody_leaves :
    (readBody true fields path).Leaves (fields.misfit .type "type" path ++
      (Place.whole (fields.value "type") (path.join "type")).unknownForms) := by
  have htype := (fields.type?_leaves "type" path).map (Option.map Body.type)
  rw [readBody]
  split
  · split
    · next hs hword =>
      rw [hs, Place.unknownForms_of_not_object rfl, List.append_nil]
      refine (Leaves.pure _).of_eq (Fields.misfit_of_fits path ?_).symm
      rw [hs, hword]
      rfl
    · exact htype
  · exact htype

theorem Concept.read_leaves :
    (Concept.read true fields path).Leaves (Site.entry ⟨.concept, fields⟩ path).noted := by
  refine .ofMember ((readBody_leaves fields _).bind fun _ =>
    (Fields.list?_leaves fun g _ path => Property.read_leaves g path).map _) (by decide) rfl rfl ?_
  simp [Entry.here, Member.path, Member.ofFields, -Multiset.coe_add, ← Multiset.coe_add]
  abel

theorem Prototype.read_leaves :
    (Prototype.read true fields path).Leaves (Site.entry ⟨.prototype, fields⟩ path).noted := by
  refine .ofMember ((fields.strings?_leaves "visibility" _).bind fun _ =>
    (Fields.list_leaves fun g _ path => Property.read_leaves g path).map _) (by decide) rfl rfl ?_
  simp [Entry.here, Member.path, Member.ofFields]

theorem DefineValue.read_leaves :
    (DefineValue.read true fields path).Leaves (Site.entry ⟨.defineValue, fields⟩ path).noted := by
  refine ((fields.require_leaves "name" path).silent fun _ =>
    (fields.description_leaves "description" path).map _).of_eq ?_
  simp [Site.noted_entry, Site.ownDefaults, Entity.Kind.optional, Entity.Kind.listed,
    Entry.fieldPath, Entity.Kind.common]

/-- The reader of defines calls itself on the subkeys, which are smaller objects. -/
theorem Define.read_leaves :
    (Define.read true fields path).Leaves (Site.entry ⟨.define, fields⟩ path).noted := by
  induction fields using (measure (sizeOf : Fields → Nat)).wf.induction generalizing path with
  | _ fields ih =>
  have hsubkeys : ∀ g ∈ fields.objects "subkeys", ∀ path,
      (Define.read true g path).Leaves (Site.entry ⟨.define, g⟩ path).noted :=
    fun g hg path => ih g (Fields.sizeOf_lt_of_mem_objects hg) path
  rw [read_eq]
  refine .ofMember (
    (Fields.list?_leaves fun g _ path => DefineValue.read_leaves g path).bind fun _ =>
    (Fields.list?_leaves hsubkeys).map _) (by decide) rfl rfl ?_
  simp [Entry.here, Member.path, Member.ofFields, -Multiset.coe_add, ← Multiset.coe_add]
  abel

theorem Parameter.readNamed_leaves (name : Name) :
    (readNamed true name fields path).Leaves
      (fields.ownDefault path ("description", .plain .string) ++ (fields.misfit .type "type" path ++
        (Place.whole (fields.value "type") (path.join "type")).unknownForms)) :=
  (fields.description_leaves "description" path).bind fun _ =>
    (fields.type?_leaves "type" path).map _

theorem Parameter.read_leaves :
    (Parameter.read true fields path).Leaves (Site.entry ⟨.parameter, fields⟩ path).noted := by
  refine ((fields.require_leaves "name" path).bindTo (fields.require_reports "name" path) <|
    readNamed_leaves fields _ _).of_eq ?_
  simp [Site.noted_entry, Site.ownDefaults, Entity.Kind.optional, Entity.Kind.listed,
    Entry.fieldPath, Entry.here]

theorem Parameter.readReturned_leaves :
    (readReturned true fields path).Leaves (Site.entry ⟨.returnValue, fields⟩ path).noted := by
  refine (readNamed_leaves fields path _).of_eq ?_
  rw [Site.noted_entry, Site.ownDefaults_of_nameless (by decide)]
  simp [Entity.Kind.optional, Entity.Kind.listed, Entry.here]

theorem ParameterGroup.read_leaves :
    (ParameterGroup.read true fields path).Leaves
      (Site.entry ⟨.parameterGroup, fields⟩ path).noted := by
  refine ((fields.require_leaves "name" path).bindTo (fields.require_reports "name" path) <|
    (fields.description_leaves "description" path).bind fun _ =>
    (Fields.list_leaves fun g _ path => Parameter.read_leaves g path).map _).of_eq ?_
  simp [Site.noted_entry, Site.ownDefaults, Entity.Kind.optional, Entity.Kind.listed,
    Entry.fieldPath, Entry.here, Entity.Kind.common]

theorem VariadicParameter.read_leaves :
    (VariadicParameter.read true fields path).Leaves
      (Site.entry ⟨.variadicParameter, fields⟩ path).noted := by
  refine ((fields.type?_leaves "type" path).bind fun _ =>
    (fields.description_leaves "description" path).map _).of_coe_eq ?_
  rw [Site.noted_entry, Site.ownDefaults_of_nameless (by decide)]
  simp [Entity.Kind.optional, Entry.here, -Multiset.coe_add, ← Multiset.coe_add]
  abel

theorem EventRaised.read_leaves :
    (EventRaised.read true fields path).Leaves
      (Site.entry ⟨.eventRaised, fields⟩ path).noted := by
  refine ((fields.require_leaves "name" path).silent fun _ =>
    (fields.description_leaves "description" path).map _).of_eq ?_
  simp [Site.noted_entry, Site.ownDefaults, Entity.Kind.optional, Entity.Kind.listed,
    Entry.fieldPath, Entity.Kind.common]

theorem Event.read_leaves :
    (Event.read true fields path).Leaves (Site.entry ⟨.event, fields⟩ path).noted := by
  refine .ofMember ((Fields.list_leaves fun g _ path => Parameter.read_leaves g path).map _)
    (by decide) rfl rfl ?_
  simp [Entry.here, Member.path, Member.ofFields]

theorem Attribute.read_leaves :
    (Attribute.read true fields path).Leaves (Site.entry ⟨.attribute, fields⟩ path).noted := by
  refine .ofMember ((fields.strings?_leaves "visibility" _).bind fun _ =>
    (Fields.list?_leaves fun g _ path => EventRaised.read_leaves g path).bind fun _ =>
    (fields.strings?_leaves "subclasses" _).bind fun _ =>
    (fields.type?_leaves "read_type" _).bind fun _ =>
    (fields.type?_leaves "write_type" _).map _) (by decide) rfl rfl ?_
  simp [Entry.here, Member.path, Member.ofFields, -Multiset.coe_add, ← Multiset.coe_add]
  abel

theorem Method.readVariadic_leaves :
    (readVariadic true fields path).Leaves
      ((fields.value "variadic_parameter").object?.toList.flatMap fun g =>
        (Site.entry ⟨.variadicParameter, g⟩ (path.join "variadic_parameter")).noted) := by
  rw [readVariadic]
  cases fields.value "variadic_parameter" with
  | obj g =>
    exact ((VariadicParameter.read_leaves g _).map some).of_eq (List.flatMap_singleton ..).symm
  | _ => exact .pure none

theorem Method.read_leaves :
    (Method.read true fields path).Leaves (Site.entry ⟨.method, fields⟩ path).noted := by
  refine .ofMember ((fields.strings?_leaves "visibility" _).bind fun _ =>
    (Fields.list?_leaves fun g _ path => EventRaised.read_leaves g path).bind fun _ =>
    (fields.strings?_leaves "subclasses" _).bind fun _ =>
    (Fields.list?_leaves fun g _ path => Parameter.read_leaves g path).bind fun _ =>
    (Fields.list?_leaves fun g _ path => ParameterGroup.read_leaves g path).bind fun _ =>
    (readVariadic_leaves fields _).bind fun _ =>
    (Fields.list?_leaves fun g _ path => Parameter.readReturned_leaves g path).map _)
    (by decide) rfl rfl ?_
  simp [Entry.here, Member.path, Member.ofFields, -Multiset.coe_add, ← Multiset.coe_add]
  abel

/-- The notes of an object in the list of operators. -/
def Operator.noted (fields : Fields) (path : Path) : List Notice :=
  if isName (fields.value "name") then
    (Site.entry ⟨Entry.operatorKind fields, fields⟩ path).noted
  else [.droppedOperator path (fields.value "name")]

theorem Operator.read?_leaves : (read? true fields path).Leaves (noted fields path) := by
  rw [read?, noted, Entry.operatorKind]
  split
  · split
    · exact (Method.read_leaves fields path).map _
    · exact (Attribute.read_leaves fields path).map _
  · exact (Leaves.note _).map _

/-- The notes of a list of operators are those of the dropped ones and those of the others. -/
theorem Operator.coe_flatMap_noted (xs : List (Fields × Path)) :
    (xs.flatMap fun x => noted x.1 x.2 : Multiset Notice) =
      ((xs.filter fun x => !isName (Fields.value x.1 "name")).map fun x =>
        Notice.droppedOperator x.2 (Fields.value x.1 "name") : List Notice) +
      (xs.flatMap fun x => if isName (Fields.value x.1 "name") then
        (Site.entry ⟨Entry.operatorKind x.1, x.1⟩ x.2).noted else [] : List Notice) := by
  induction xs with
  | nil => rfl
  | cons x rest ih =>
    rw [List.flatMap_cons, List.flatMap_cons, ← Multiset.coe_add, ← Multiset.coe_add, ih,
      List.filter_cons, noted]
    cases isName (Fields.value x.1 "name") with
    | true => exact add_left_comm _ _ _
    | false => exact (add_assoc _ _ _).symm

/-- A class notes the operators that it drops among those that it reads. -/
theorem Class.read_leaves :
    (Class.read true fields path).Leaves (Site.entry ⟨.luaClass, fields⟩ path).noted := by
  refine .ofMember ((Fields.list_leaves fun g _ path => Operator.read?_leaves g path).bind fun _ =>
    (fields.strings?_leaves "visibility" _).bind fun _ =>
    (Fields.list_leaves fun g _ path => Method.read_leaves g path).bind fun _ =>
    (Fields.list_leaves fun g _ path => Attribute.read_leaves g path).map _) (by decide) rfl rfl ?_
  simp [Entry.here, Member.path, Member.ofFields, Operator.coe_flatMap_noted,
    Site.droppedOperators, -Multiset.coe_add, ← Multiset.coe_add]
  abel

theorem GlobalObject.read_leaves :
    (GlobalObject.read true fields path).Leaves
      (Site.entry ⟨.globalObject, fields⟩ path).noted := by
  refine ((fields.require_leaves "name" path).bindTo (fields.require_reports "name" path) <|
    (fields.description_leaves "description" path).bind fun _ =>
    (fields.type?_leaves "type" _).map _).of_eq ?_
  simp [Site.noted_entry, Site.ownDefaults, Entity.Kind.optional, Entity.Kind.listed,
    Entry.fieldPath, Entry.here, Entity.Kind.common]

/-! ## Documents -/

theorem RuntimeApi.read_leaves :
    (RuntimeApi.read true fields).Leaves (Site.entry ⟨.runtimeApi, fields⟩ "").noted := by
  refine ((Fields.list_leaves fun g _ path => Class.read_leaves g path).bind fun _ =>
    (Fields.list_leaves fun g _ path => Event.read_leaves g path).bind fun _ =>
    (Fields.list_leaves fun g _ path => Concept.read_leaves g path).bind fun _ =>
    (Fields.list_leaves fun g _ path => Define.read_leaves g path).bind fun _ =>
    (Fields.list_leaves fun g _ path => GlobalObject.read_leaves g path).bind fun _ =>
    (Fields.list_leaves fun g _ path => Method.read_leaves g path).map _).of_coe_eq ?_
  rw [Site.noted_entry, Site.ownDefaults_of_nameless (by decide)]
  simp [Entity.Kind.optional, Entity.Kind.header, Entity.Kind.runtimeSections, Entry.here,
    -Multiset.coe_add, ← Multiset.coe_add]
  abel

theorem PrototypeApi.read_leaves :
    (PrototypeApi.read true fields).Leaves (Site.entry ⟨.prototypeApi, fields⟩ "").noted := by
  refine ((Fields.list_leaves fun g _ path => Prototype.read_leaves g path).bind fun _ =>
    (Fields.list_leaves fun g _ path => Concept.read_leaves g path).map _).of_coe_eq ?_
  rw [Site.noted_entry, Site.ownDefaults_of_nameless (by decide)]
  simp [Entity.Kind.optional, Entity.Kind.header, Entity.Kind.prototypeSections, Entry.here,
    -Multiset.coe_add, ← Multiset.coe_add]
  abel

end Kinds

end ApiReference
