import ApiReference.Proofs.Document.Debug
import ApiReference.Proofs.Document.Deletion
import ApiReference.Proofs.Document.Notes

/-!
# Which defaults are noted

With the debug setting on, a reader notes the defaults that it takes, but not all of them. This file
takes them out of all that is noted (`Reading.Takes`), for an entity of any kind and for everything
inside it (`Entity.read_takes`), and says field by field which of them there are: one note for each
optional field of the wrong shape that is one of those that are noted (`OptionalField.isNoted`), and
none for the others.

That some are not noted is a gap. The readers of a text that may be empty, of a list and of a type
call the step that notes a default. Those of a text that must not be empty and of a whole number
have the same fallback without that step. `parent_not_noted` is such a field: a concept whose parent
is a number loses it without a trace.

The statement is exact in both directions, so it counts. A field of the wrong shape has one note or
none, and which of the two it is depends on the field alone, on neither the value nor the kind of
the entity. A field that is absent has none, since nothing was replaced; one that is `null` is left
out of the statement, as it is noted where a list or a type is asked for and not where a text is.

## What is here

* `Reading.onlyDefaults`, `Reading.Takes`: the notes of a step that are about defaults.
* `OptionalField.isNoted`: the fields whose defaults are noted.
* `Entity.read_notes_defaults`: the notes about defaults, for an entity of any kind.
-/

set_option autoImplicit false

namespace ApiReference

namespace Reading

variable {α β : Type}

/-- The step with its notices about defaults only. -/
def onlyDefaults (x : Reading α) : Reading α :=
  ⟨x.notices.filter Notice.isDefaulted, x.outcome⟩

/-- The notes about defaults of a sequence are those of its steps. -/
theorem onlyDefaults_bind (x : Reading α) (f : α → Reading β) :
    (x >>= f).onlyDefaults = x.onlyDefaults >>= fun a => (f a).onlyDefaults := by
  obtain ⟨notices, outcome⟩ := x
  cases outcome with
  | ok a => exact congrArg (Reading.mk · _) (List.filter_append ..)
  | error fault => rfl

/-- The step notes these defaults, in some order, and some of them if it stops before its end. -/
def Takes (x : Reading α) (defaults : List Notice) : Prop :=
  x.onlyDefaults.Leaves defaults

variable {x : Reading α}

theorem Takes.of_eq {defaults others : List Notice} (hx : x.Takes defaults)
    (h : defaults = others) : x.Takes others :=
  h ▸ hx

/-- A step whose value is taken further. -/
theorem Takes.map {defaults : List Notice} (hx : x.Takes defaults) (g : α → β) :
    (x >>= fun a => pure (g a)).Takes defaults := by
  rw [Takes, onlyDefaults_bind]
  exact Leaves.map hx g

theorem Leaves.takes_filter {notices : List Notice} (hx : x.Leaves notices) :
    x.Takes (notices.filter Notice.isDefaulted) :=
  ⟨hx.subperm.filter _, fun a ha => (hx.perm a ha).filter _⟩

/-- What notes all that a site has takes the defaults of the site. -/
theorem Leaves.takes {s : Site} (hx : x.Leaves s.noted) : x.Takes s.defaults :=
  hx.takes_filter.of_eq s.filter_noted

end Reading

open Reading

namespace Site

theorem defaults_eq (s : Site) : s.defaults = s.ownDefaults ++ s.below.flatMap defaults := by
  rw [defaults, walk.nodes_eq, List.flatMap_cons, List.flatMap_assoc]
  rfl

theorem defaults_entry (e : Entry) (path : Path) :
    (Site.entry e path).defaults = (Site.entry e path).ownDefaults ++
      e.kind.parts.flatMap fun part => (part.sites e path).flatMap defaults := by
  rw [defaults_eq, below, List.flatMap_assoc]

end Site

/-! ## Field by field

A key stands for one field of an entry only, so the notes that name it are those of that field. -/

/-- Whether taking the default of an optional field is noted. -/
def OptionalField.isNoted : OptionalField → Bool
  | (_, .plain .string) => true
  | (_, .plain .list) => true
  | (_, .list _) => true
  | (key, .type) => key != "default"
  | _ => false

namespace Fields

variable {fields : Fields} {path : Path} {field : OptionalField}

/-- A field that does not fit is noted once, if its default is one that is noted. -/
theorem ownDefault_of_unfit (hnull : fields.value field.1 ≠ .null)
    (hunfit : field.2.shape.fits (fields.value field.1) = false) :
    fields.ownDefault path field = if field.isNoted then [.defaulted path field.1] else [] := by
  have hmisfit : fields.misfit field.2.shape field.1 path = [.defaulted path field.1] := by
    rw [misfit, has_of_value_ne_null hnull, hunfit]
    rfl
  obtain ⟨key, content⟩ := field
  cases content with
  | plain shape =>
    cases shape with
    | string =>
      have hv : (fields.value key).isNull = false := by
        cases hv : fields.value key with
        | null => exact absurd hv hnull
        | _ => rfl
      rw [ownDefault, hv]
      exact hmisfit
    | list => exact hmisfit
    | _ => rfl
  | type =>
    by_cases hkey : key = "default"
    · rw [ownDefault, if_pos hkey, OptionalField.isNoted, hkey]
      rfl
    · rw [ownDefault, if_neg hkey, OptionalField.isNoted, bne_iff_ne.2 hkey]
      exact hmisfit
  | list role => exact hmisfit
  | object kind => rfl

end Fields

/-- Whether a notice is about the default of a field of this key. -/
def Notice.names (key : String) : Notice → Bool
  | .defaulted _ field => field == key
  | _ => false

/-- What is gathered from a list in which one item only has anything. -/
theorem flatMap_eq_of_mem {α β : Type} {as : List α} {f : α → List β} {a : α} (hnodup : as.Nodup)
    (ha : a ∈ as) (hother : ∀ b ∈ as, b ≠ a → f b = []) : as.flatMap f = f a := by
  obtain ⟨before, after, rfl⟩ := List.append_of_mem ha
  have hne := List.nodup_middle.1 hnodup
  rw [List.nodup_cons, List.mem_append, not_or] at hne
  have hbefore : before.flatMap f = [] := List.flatMap_eq_nil_iff.2 fun b hb =>
    hother b (List.mem_append_left _ hb) fun he => hne.1.1 (he ▸ hb)
  have hafter : after.flatMap f = [] := List.flatMap_eq_nil_iff.2 fun b hb =>
    hother b (List.mem_append_right _ (List.mem_cons_of_mem a hb)) fun he => hne.1.2 (he ▸ hb)
  rw [List.flatMap_append, List.flatMap_cons, hbefore, hafter, List.nil_append, List.append_nil]

/-- Of the notes about the optional fields of an entry, those that name a field are its own. -/
theorem Site.filter_names_ownDefaults {e : Entry} {field : OptionalField}
    (hfield : field ∈ e.kind.optional) (path : Path) :
    (Site.entry e path).ownDefaults.filter (Notice.names field.1) =
      e.fields.ownDefault (e.fieldPath path field.1) field := by
  rw [ownDefaults, List.filter_flatMap,
    flatMap_eq_of_mem (e.kind.nodup_optional.of_map Prod.fst) hfield]
  · refine List.filter_eq_self.2 fun n hn => ?_
    rw [Fields.eq_of_mem_ownDefault hn]
    exact beq_self_eq_true _
  · intro other hmem hne
    refine List.filter_eq_nil_iff.2 fun n hn => ?_
    rw [Fields.eq_of_mem_ownDefault hn, Notice.names, beq_iff_eq]
    exact fun he => hne (Entity.Kind.eq_of_mem_optional hmem hfield he)

/-! ## Any entity

A value that is read as an entity is one site and what is inside it; for a document that is the
entry of its stage. -/

namespace Entity

/-- The site that an object is, read as an entity of a kind. -/
def site (kind : Kind) (fields : Fields) (path : Path) : Site :=
  .entry ⟨kind.staged fields, fields⟩ ((kind.staged fields).place path)

/-- The sites that are visited when a value is read; there are none in a value that is no object. -/
def visited (kind : Kind) : Json → Path → List Site
  | .obj fields, path => Site.walk.nodes (site kind fields path)
  | _, _ => []

/-- A value that is no object is read without a note, if at all. -/
theorem read_leaves_of_not_object (kind : Kind) {data : Json} (h : data.isObject = false)
    (path : Path) : (read true kind data path).Leaves [] := by
  cases kind with
  | methodFormat => exact .pure _
  | timeframe => exact .pure _
  | type =>
    exact ((TypeExpr.read_leaves data path).map _).of_eq
      (TypeExpr.Place.unknownForms_of_not_object h path)
  | _ =>
    cases data with
    | obj fields => cases h
    | _ => exact .fail _ _

/-- A summary is no note about a default. -/
theorem takes_of_summed {α β : Type} {x : Reading α} {faults : List Fault} {a : α} {s : Site}
    (hx : x.Leaves s.noted) (ha : x.Reports faults a) {last : α → Notice}
    (hlast : (last a).isDefaulted = false) (g : α → β) :
    (x >>= fun b => note (last b) >>= fun _ => pure (g b)).Takes s.defaults := by
  have hsum : (note (last a) >>= fun _ => pure (g a) : Reading β).Leaves [last a] :=
    (Leaves.note _).map _
  refine (hx.bindTo ha hsum).takes_filter.of_eq ?_
  rw [List.filter_append, s.filter_noted, List.filter_singleton, hlast]
  exact List.append_nil _

theorem readDocument_takes (fields : Fields) (path : Path) :
    (Document.read true (.obj fields)).Takes (site .document fields path).defaults := by
  rw [site, Kind.staged]
  cases hroot : Entry.ofDocument? (.obj fields) with
  | none =>
    rcases Document.read_of_ofDocument?_eq_none true hroot with hd | ⟨stage, hd⟩
    · rw [hd]
      exact (Leaves.fail _ _).takes
    · rw [hd]
      exact (Leaves.fail _ _).takes
  | some root =>
    obtain ⟨others, he, ⟨hs, rfl⟩ | ⟨hs, rfl⟩⟩ := Entry.ofDocument?_eq_some_iff.1 hroot
    · obtain rfl := Json.obj.inj he
      rw [Document.read, hs]
      exact takes_of_summed (RuntimeApi.read_leaves fields) (RuntimeApi.read_reports true fields)
        rfl _
    · obtain rfl := Json.obj.inj he
      rw [Document.read, hs]
      exact takes_of_summed (PrototypeApi.read_leaves fields)
        (PrototypeApi.read_reports true fields) rfl _

/-- **The notes about defaults are those of the visited sites.** -/
theorem read_takes (kind : Kind) (data : Json) (path : Path) :
    (read true kind data path).Takes ((visited kind data path).flatMap Site.ownDefaults) := by
  cases data with
  | obj fields =>
    show (read true kind (.obj fields) path).Takes (site kind fields path).defaults
    cases kind with
    | image => exact ((Image.read_leaves fields path).map _).takes
    | member => exact ((Member.read_leaves fields path).map _).takes
    | concept => exact ((Concept.read_leaves fields path).map _).takes
    | property => exact ((Property.read_leaves fields path).map _).takes
    | define => exact ((Define.read_leaves fields path).map _).takes
    | defineValue => exact ((DefineValue.read_leaves fields path).map _).takes
    | prototype => exact ((Prototype.read_leaves fields path).map _).takes
    | luaClass => exact ((Class.read_leaves fields path).map _).takes
    | method => exact ((Method.read_leaves fields path).map _).takes
    | «attribute» => exact ((Attribute.read_leaves fields path).map _).takes
    | parameter => exact ((Parameter.read_leaves fields path).map _).takes
    | returnValue => exact ((Parameter.readReturned_leaves fields path).map _).takes
    | parameterGroup => exact ((ParameterGroup.read_leaves fields path).map _).takes
    | variadicParameter => exact ((VariadicParameter.read_leaves fields path).map _).takes
    | methodFormat =>
      exact ((Leaves.pure _).of_eq (Site.noted_entry ⟨.methodFormat, fields⟩ path).symm).takes
    | timeframe =>
      exact ((Leaves.pure _).of_eq (Site.noted_entry ⟨.timeframe, fields⟩ path).symm).takes
    | eventRaised => exact ((EventRaised.read_leaves fields path).map _).takes
    | event => exact ((Event.read_leaves fields path).map _).takes
    | globalObject => exact ((GlobalObject.read_leaves fields path).map _).takes
    | runtimeApi => exact ((RuntimeApi.read_leaves fields).map _).takes
    | prototypeApi => exact ((PrototypeApi.read_leaves fields).map _).takes
    | document => exact (readDocument_takes fields path).map _
    | type =>
      -- inside a type no default is taken
      have hnone : (Site.type fields path).defaults = (site .type fields path).defaults := by
        rw [Site.defaults_eq, Site.defaults_eq]
        rfl
      have hleaves := (TypeExpr.read_leaves (.obj fields) path).map Entity.type
      exact (hleaves.of_eq (Site.noted_type fields path).symm).takes.of_eq hnone
  | _ => exact (read_leaves_of_not_object kind rfl path).takes_filter

/-- **The notes about defaults are exact.** If a value is accepted, the notes are, in some order,
those of the optional fields of the visited sites, each at its path. An optional field that has a
value of the wrong shape, other than `null`, has one note at its site if it holds a text that may be
empty, a list, or a type other than the default value of a property. Any other field, such as a text
that must not be empty or a number, is replaced by its default without a note. -/
theorem read_notes_defaults {kind : Kind} {data : Json} {path : Path} {e : Entity}
    (h : (read true kind data path).outcome = .ok e) :
    ((read true kind data path).notices.filter fun n =>
        n.message = "Field has unexpected shape, using default").Perm
      ((visited kind data path).flatMap Site.ownDefaults) ∧
    ∀ q p, ∀ field ∈ q.kind.optional, q.fields.value field.1 ≠ .null →
      field.2.shape.fits (q.fields.value field.1) = false →
        (Site.entry q p).ownDefaults.filter (Notice.names field.1) =
          if OptionalField.isNoted field then [.defaulted (q.fieldPath p field.1) field.1]
          else [] := by
  refine ⟨?_, fun q p field hfield hnull hunfit => ?_⟩
  · have hmessage : (fun n : Notice =>
        decide (n.message = "Field has unexpected shape, using default")) =
          Notice.isDefaulted := funext fun n => n.isDefaulted_eq.symm
    rw [hmessage]
    exact (read_takes kind data path).perm e h
  · rw [Site.filter_names_ownDefaults hfield]
    exact Fields.ownDefault_of_unfit hnull hunfit

/-- A concept with a parent that is a number, and a list of them in the place of the description. -/
def looseConcept : Fields :=
  [("name", .str "Foo"), ("parent", .int 5), ("description", .arr [.int 5])]

/-- A number in the place of a concept's parent is replaced, and nothing is noted. -/
theorem parent_not_noted :
    (∃ e, (read true .concept (.obj [("name", .str "Foo"), ("parent", .int 5)]) "").outcome =
      .ok e ∧ ∃ c, e = .concept c ∧ c.parent = none) ∧
    (("parent", .plain .text) : OptionalField) ∈ Kind.concept.optional ∧
    Shape.text.fits (.int 5) = false ∧
    (read true .concept (.obj [("name", .str "Foo"), ("parent", .int 5)]) "").notices = [] :=
  ⟨⟨_, rfl, _, rfl, rfl⟩, by decide, rfl, rfl⟩

theorem read_notes_defaults_looseConcept :
    ((read true .concept (.obj looseConcept) "").notices.filter fun n =>
        n.message = "Field has unexpected shape, using default").Perm
      ((visited .concept (.obj looseConcept) "").flatMap Site.ownDefaults) ∧
    (read true .concept (.obj looseConcept) "").notices = [.defaulted "" "description"] ∧
    (Site.entry ⟨.concept, looseConcept⟩ "").ownDefaults.filter (Notice.names "description") =
      [.defaulted "" "description"] ∧
    (Site.entry ⟨.concept, looseConcept⟩ "").ownDefaults.filter (Notice.names "parent") = [] := by
  obtain ⟨e, he⟩ : ∃ e, (read true .concept (.obj looseConcept) "").outcome = .ok e := ⟨_, rfl⟩
  obtain ⟨hall, hown⟩ := read_notes_defaults he
  exact ⟨hall, rfl,
    hown ⟨.concept, looseConcept⟩ "" ("description", .plain .string) (by decide) Json.noConfusion
      rfl,
    hown ⟨.concept, looseConcept⟩ "" ("parent", .plain .text) (by decide) Json.noConfusion rfl⟩

end Entity
end ApiReference
