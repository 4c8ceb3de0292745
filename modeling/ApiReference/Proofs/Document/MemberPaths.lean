import ApiReference.Proofs.Document.Defaults

/-!
# The paths in the notes and faults of a member

A member is read in two stages. What every member has is read first, at the path at which the object
was found, because the name is not known by then; only the further fields are read at the path that
ends in the name. So the notes about the fields of one object carry two paths. They carry the same
one if the two paths agree or if none of the common fields is replaced by its default.

The first stage leaves its notes whatever comes after it (`Member.notices_read`). It can only be
stopped by an image without a file name, and that fault has the path of the first stage too.

In a document the two paths differ as a rule, since a member is found at a position of a list and
the name takes the place of that position. They agree if the object is found at a path that ends in
its name already. A parameter is read with its name known from the start and has one path for all
its fields, and this is what members could do as well.

The theorem is about all eight kinds of members at once. They share the table of common fields, and
what they have in addition is `Entity.Kind.further`; no kind is looked at on its own but to see that
its table begins with the common one (`Entity.Kind.optional_eq`).

## What is here

* `Member.notices_read`, `Member.faults_eq`: what the first stage notes, and what can stop it.
* `Entity.ownDefaults_of_member`: the notes about the fields of a member, with their paths.
* `Entity.read_member_paths`: when they carry one path, and where an image without a file name is
  reported.
-/

set_option autoImplicit false

namespace ApiReference

open Entity (Kind)

/-! ## The first stage

Images leave no notes of their own, so the notes of the first stage are those about the defaults of
its fields, and it has left them all even if an image stops it: the list of images comes last. -/

namespace Reading

variable {α β : Type}

/-- What comes after a step leaves the notices of the step in front. -/
theorem prefix_bind (x : Reading α) (f : α → Reading β) : x.notices <+: (x >>= f).notices := by
  cases h : x.outcome with
  | ok a =>
    rw [bind_notices_of_ok h]
    exact List.prefix_append _ _
  | error fault => exact ⟨[], by rw [List.append_nil, bind_notices_of_error h]⟩

/-- A step after which no more notices are left. -/
theorem bind_notices_of_silent (x : Reading α) {f : α → Reading β}
    (hf : ∀ a, (f a).notices = []) : (x >>= f).notices = x.notices := by
  cases h : x.outcome with
  | ok a => rw [bind_notices_of_ok h, hf, List.append_nil]
  | error fault => exact bind_notices_of_error h f

end Reading

open Reading

namespace Fields

variable {α : Type} {fields : Fields} {key : String} {path : Path}
  {read : Fields → Path → Reading α}

theorem readItems_notices_eq_nil (h : ∀ g path, (read g path).notices = []) (i : Nat)
    (items : List Json) : (readItems read path i items).notices = [] := by
  induction items generalizing i with
  | nil => rfl
  | cons v rest ih =>
    cases v with
    | obj g =>
      rw [readItems, bind_notices_of_silent _ fun a => ?_, h]
      rw [bind_notices_of_silent _ fun _ => rfl, ih]
    | _ => exact ih (i + 1)

/-- A list whose objects leave no notices has only the note about its own default. -/
theorem list?_notices (h : ∀ g path, (read g path).notices = []) :
    (fields.list? true key read path).notices = fields.misfit .list key path := by
  rw [list?]
  cases hv : fields.value key with
  | arr items =>
    rw [misfit_of_fits path (hv ▸ rfl)]
    rw [bind_notices_of_silent _ fun _ => rfl, readItems_notices_eq_nil h]
  | _ => exact takeDefault_notices path (hv ▸ rfl) none

end Fields

theorem Image.notices_read (fields : Fields) (path : Path) :
    (Image.read fields path).notices = [] := by
  rw [read, Fields.require]
  split <;> rfl

/-- **The first stage leaves the notes about the common fields**, at the path of the object. -/
theorem Member.notices_read {fields : Fields} (hname : (fields.value "name").isNull = false)
    (path : Path) : (Member.read true fields path).notices =
      Kind.common.flatMap (fields.ownDefault path) := by
  have hrequire : fields.require "name" path = pure (fields.value "name") := by
    rw [Fields.require, hname]
    rfl
  rw [read, hrequire, pure_bind, bind_notices_of_ok (fields.description_reports true _ path),
    bind_notices_of_ok (fields.strings?_reports true _ path),
    bind_notices_of_ok (fields.strings?_reports true _ path),
    bind_notices_of_silent _ fun _ => rfl, Fields.description_notices, Fields.strings?_notices,
    Fields.strings?_notices, Fields.list?_notices Image.notices_read]
  simp [Kind.common, Kind.listed]

/-- With a name, the first stage can only be stopped by an image without a file name. -/
theorem Member.faults_eq {fields : Fields} (hname : (fields.value "name").isNull = false)
    (path : Path) : Entry.faults ⟨.member, fields⟩ path =
      (fields.located "images" path).flatMap fun image =>
        if (Fields.value image.1 "filename").isNull then [.missingField "filename" image.2 none]
        else [] := by
  have hown : (Site.entry ⟨.member, fields⟩ path).ownFaults = [] := by
    rw [Site.ownFaults_entry]
    exact if_neg (ne_true_of_eq_false hname)
  rw [Entry.faults_eq, hown, List.nil_append, Kind.parts, List.flatMap_singleton,
    Part.faults_images]
  refine List.flatMap_congr fun image _ => ?_
  simp [Entry.faults_eq]

/-- The first image without a file name is where the first stage stops. -/
theorem Member.head?_faults {fields g : Fields} {before after : List Json}
    (hname : (fields.value "name").isNull = false)
    (himages : fields.value "images" = .arr (before ++ .obj g :: after))
    (hg : (g.value "filename").isNull = true)
    (hbefore : ∀ other : Fields, .obj other ∈ before → (other.value "filename").isNull = false)
    (path : Path) : (Entry.faults ⟨.member, fields⟩ path).head? =
      some (.missingField "filename" ((path.join "images").item before.length) none) := by
  have hnone : ((before.zipIdx.filterMap fun v =>
      v.1.object?.map fun g => (g, (path.join "images").item v.2)).flatMap fun image =>
        if (Fields.value image.1 "filename").isNull then
          [Fault.missingField "filename" image.2 none] else []) = [] := by
    refine List.flatMap_eq_nil_iff.2 fun image himage => ?_
    obtain ⟨v, hv, himage⟩ := List.mem_filterMap.1 himage
    obtain ⟨other, hother, rfl⟩ := Option.map_eq_some_iff.1 himage
    rw [hbefore other (Json.object?_eq_some_iff.1 hother ▸ List.fst_mem_of_mem_zipIdx hv)]
    rfl
  rw [faults_eq hname, Fields.located, himages, Json.items, List.zipIdx_append,
    List.filterMap_append, List.flatMap_append, hnone, List.nil_append, List.zipIdx_cons,
    List.filterMap_cons]
  dsimp only [Json.object?, Option.map_some]
  rw [List.flatMap_cons, if_pos hg, Nat.zero_add]
  rfl

/-! ## Both stages -/

namespace Entity

namespace Kind

/-- The kinds of entities that have what every member has, and more. -/
def members : List Kind :=
  [.concept, .property, .define, .prototype, .luaClass, .method, .attribute, .event]

/-- The optional fields that only some members have. -/
def further (kind : Kind) : List OptionalField :=
  kind.optional.filter (· ∉ common)

/-- The optional fields of a member are the common ones and then the further ones. -/
theorem optional_eq {kind : Kind} (h : kind ∈ members) :
    kind.optional = common ++ kind.further := by
  revert kind
  decide

theorem of_mem_members {kind : Kind} (h : kind ∈ members) :
    kind.required? = some "name" ∧ kind ≠ .parameter ∧ kind.staged = (fun _ => kind) ∧
      kind.place = id ∧ ∃ parts, kind.parts = .images :: parts := by
  cases kind <;> first | exact ⟨rfl, by decide, rfl, rfl, _, rfl⟩ | exact absurd h (by decide)

theorem exists_ofFields?_eq {kind : Kind} (h : kind ∈ members) (fields : Fields) :
    ∃ e, ofFields? kind fields = some e := by
  cases kind <;> first | exact ⟨_, rfl⟩ | exact absurd h (by decide)

end Kind

variable {kind : Kind} {fields : Fields} {path : Path}

/-- Every member is read in two stages. -/
theorem prefix_notices_of_member (h : kind ∈ Kind.members) (fields : Fields) (path : Path) :
    (Member.read true fields path).notices <+: (read true kind (.obj fields) path).notices := by
  cases kind with
  | concept => exact (prefix_bind _ _).trans (prefix_bind _ _)
  | property => exact (prefix_bind _ _).trans (prefix_bind _ _)
  | define =>
    refine .trans ?_ (prefix_bind (Define.read true fields path) _)
    rw [Define.read_eq]
    exact prefix_bind _ _
  | prototype => exact (prefix_bind _ _).trans (prefix_bind _ _)
  | luaClass => exact (prefix_bind _ _).trans (prefix_bind _ _)
  | method => exact (prefix_bind _ _).trans (prefix_bind _ _)
  | «attribute» => exact (prefix_bind _ _).trans (prefix_bind _ _)
  | event => exact (prefix_bind _ _).trans (prefix_bind _ _)
  | _ => exact absurd h (by decide)

/-- What the notes about the fields of a member itself are: those about the common fields, at the
path of the object, and those about the further ones, at the path that ends in the name. -/
theorem ownDefaults_of_member (hkind : kind ∈ Kind.members) (fields : Fields) (path : Path) :
    (Site.entry ⟨kind, fields⟩ path).ownDefaults =
      Kind.common.flatMap (fields.ownDefault path) ++
        kind.further.flatMap (fields.ownDefault (path.member (fields.value "name").inline)) := by
  obtain ⟨hrequired, hparameter, -⟩ := Kind.of_mem_members hkind
  have hhere : Entry.here ⟨kind, fields⟩ path = path.member (fields.value "name").inline := by
    rw [Entry.here, if_pos hrequired]
  rw [Site.ownDefaults, Kind.optional_eq hkind, List.flatMap_append,
    Site.flatMap_ownDefault_common hparameter,
    Site.flatMap_ownDefault_further (Kind.optional_eq hkind), hhere]

theorem exists_of_mem_flatMap_ownDefault {fields : Fields} {optional : List OptionalField}
    {named : Path} {n : Notice} (h : n ∈ optional.flatMap (fields.ownDefault named)) :
    ∃ key, n = .defaulted named key := by
  obtain ⟨field, -, hfield⟩ := List.mem_flatMap.1 h
  exact ⟨field.1, Fields.eq_of_mem_ownDefault hfield⟩

/-- Notes at two paths carry the second one throughout if there is one path only, or if there are no
notes at the first. -/
theorem forall_named_iff {fields : Fields} {shared further : List OptionalField} {named : Path} :
    (∀ n ∈ shared.flatMap (fields.ownDefault path) ++ further.flatMap (fields.ownDefault named),
      ∃ key, n = .defaulted named key) ↔
      path = named ∨ shared.flatMap (fields.ownDefault path) = [] := by
  constructor
  · rw [or_iff_not_imp_right]
    intro h hshared
    obtain ⟨n, hn⟩ := List.exists_mem_of_ne_nil _ hshared
    obtain ⟨key, hkey⟩ := h n (List.mem_append_left _ hn)
    obtain ⟨other, hother⟩ := exists_of_mem_flatMap_ownDefault hn
    exact (Notice.defaulted.inj (hother.symm.trans hkey)).1
  · intro h n hn
    rcases List.mem_append.1 hn with hshared | hfurther
    · rcases h with rfl | h
      · exact exists_of_mem_flatMap_ownDefault hshared
      · rw [h] at hshared
        cases hshared
    · exact exists_of_mem_flatMap_ownDefault hfurther

/-- **Two paths for one member.** The notes about the optional fields of a member itself are those
of the common fields, at the path at which the object was found, and those of the further fields, at
the path that ends in the name. The former come first, and even if the reader is stopped later on;
so all notes carry the path that ends in the name if and only if the object was found there, or no
common field is replaced by its default. The first image without a file name stops the reader, with
a fault at the path at which the object was found. -/
theorem read_member_paths (hkind : kind ∈ Kind.members)
    (hname : (fields.value "name").isNull = false) (path : Path) :
    let x := read true kind (.obj fields) path
    let named := path.member (fields.value "name").inline
    let shared := Kind.common.flatMap (fields.ownDefault path)
    let own := shared ++ kind.further.flatMap (fields.ownDefault named)
    let inside := kind.parts.flatMap fun part =>
      (part.sites ⟨kind, fields⟩ path).flatMap Site.defaults
    shared <+: x.notices ∧
    (x.notices.filter Notice.isDefaulted).Subperm (own ++ inside) ∧
    (∀ e, x.outcome = .ok e → (x.notices.filter Notice.isDefaulted).Perm (own ++ inside)) ∧
    ((∀ n ∈ own, ∃ key, n = .defaulted named key) ↔ path = named ∨ shared = []) ∧
    ∀ (before : List Json) (g : Fields) (after : List Json),
      fields.value "images" = .arr (before ++ .obj g :: after) →
      (g.value "filename").isNull = true →
      (∀ other : Fields, .obj other ∈ before → (other.value "filename").isNull = false) →
      x.outcome =
        .error (.missingField "filename" ((path.join "images").item before.length) none) := by
  intro x named shared own inside
  obtain ⟨hrequired, -, hstaged, hplace, parts, hparts⟩ := Kind.of_mem_members hkind
  have hsite : site kind fields path = .entry ⟨kind, fields⟩ path := by
    rw [site, hstaged, hplace]
    rfl
  have htakes : x.Takes (own ++ inside) := by
    refine (read_takes kind (.obj fields) path).of_eq ?_
    show (site kind fields path).defaults = _
    rw [hsite, Site.defaults_entry, ownDefaults_of_member hkind]
  refine ⟨?_, htakes.subperm, htakes.perm, forall_named_iff, ?_⟩
  · have hfirst : (Member.read true fields path).notices = shared := Member.notices_read hname path
    exact hfirst ▸ prefix_notices_of_member hkind fields path
  · intro before g after himages hg hbefore
    obtain ⟨e, he⟩ := Kind.exists_ofFields?_eq hkind fields
    rw [(read_reports true he path).outcome_eq_error_iff, hplace, id,
      Entry.faults_of_member kind hrequired hparts, List.head?_append,
      Member.head?_faults hname himages hg hbefore]
    rfl

/-- A concept with a description that is a number, with something else than properties, and with a
second image that has no file name. -/
def splitConcept (images : List Json) : Fields :=
  [("name", .str "Foo"), ("description", .int 5), ("properties", .int 5), ("images", .arr images)]

/-- The notes about one concept carry two paths, and a fault in its images does not carry the one
that ends in its name. -/
theorem splitConcept_paths :
    (read true .concept (.obj (splitConcept [])) "concepts[0]").notices =
      [.defaulted "concepts[0]" "description", .defaulted "Foo" "properties"] ∧
    Path.member "concepts[0]" "Foo" = "Foo" ∧
    (read true .concept (.obj (splitConcept [.null, .obj []])) "concepts[0]").outcome =
      .error (.missingField "filename" "concepts[0].images[1]" none) ∧
    (Path.join "Foo" "images").item 1 = "Foo.images[1]" :=
  ⟨rfl, rfl, rfl, rfl⟩

theorem read_member_paths_splitConcept :
    [Notice.defaulted "concepts[0]" "description"] <+:
      (read true .concept (.obj (splitConcept [.null, .obj []])) "concepts[0]").notices ∧
    ¬ (∀ n ∈ (Site.entry ⟨.concept, splitConcept []⟩ "concepts[0]").ownDefaults,
      ∃ key, n = .defaulted "Foo" key) ∧
    (read true .concept (.obj (splitConcept [.null, .obj []])) "concepts[0]").outcome =
      .error (.missingField "filename" "concepts[0].images[1]" none) := by
  have hkind : Kind.concept ∈ Kind.members := by decide
  obtain ⟨hfirst, -, -, -, himage⟩ :=
    @read_member_paths _ (splitConcept [.null, .obj []]) hkind rfl "concepts[0]"
  obtain ⟨-, -, -, hsame, -⟩ := @read_member_paths _ (splitConcept []) hkind rfl "concepts[0]"
  refine ⟨hfirst, fun hall => ?_, himage [.null] [] [] rfl rfl ?_⟩
  · rcases hsame.1 hall with h | h
    · exact absurd h (by decide)
    · cases h
  · intro other hother
    cases List.mem_singleton.1 hother

end Entity
end ApiReference
