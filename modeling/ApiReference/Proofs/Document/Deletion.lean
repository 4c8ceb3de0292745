import ApiReference.Proofs.Document.Acceptance
import ApiReference.Proofs.Document.Agreement

/-!
# What may be deleted from a document

An optional field of the wrong shape is the same as an absent one. If it is deleted, from a document
or from an entity at any depth in it, the same entity is read, or the same fault is reported
(`Entity.read_outcome_of_within`). A list of entities may lose what is no object in it, if nothing
is wrong with the document; otherwise the positions in the paths of faults would change.

A deletion changes one object, and with it every object around that one. `Within` says so for any
change of an object. The proof goes outwards from the object that is changed: before and after, the
objects agree (`Role.Agree`), and their faults are related as far as the change of the innermost
object relates them (`Within.agree`).

An operator is an exception: whether parameters or returned values are there at all, of any shape,
tells a method from an attribute (`Operator.isMethod_without_parameters`). From an operator these
two fields may not be deleted.

* **Which fields are optional**, and which shape they must have, is the table
  `Entity.Kind.optional`. The theorem is only as good as that table; that it has the right fields is
  checked by the lemmas of `ApiReference.Proofs.Document.Agreement`, which rebuild every entity from
  it.
* **The two deletions differ in what they keep.** A field of the wrong shape has no faults in it, so
  all faults stay where they are. An item that is no object has none either, but it counts in the
  positions of the items behind it.
* **An object keeps its role.** As what an operator is read depends on its fields, so `Role.Agree`
  also compares the fields that are asked for by their presence.
-/

set_option autoImplicit false

namespace ApiReference

open Entity (Kind)

/-! ## Changing an object

Deleting a key deletes all fields of that key, and reading an object looks at one of them only.
Neither is of any consequence for the other keys. -/

/-- The object without a field. -/
def Fields.without (fields : Fields) (key : String) : Fields :=
  fields.filter fun f => f.1 != key

namespace Fields

variable {fields : Fields} {key other : String} {v : Json}

theorem get?_without_self (fields : Fields) (key : String) :
    (fields.without key).get? key = none := by
  induction fields with
  | nil => rfl
  | cons f rest ih =>
    rw [without, List.filter_cons]
    split
    · next h => rw [get?_cons, if_neg (bne_iff_ne.1 h), ← without, ih]
    · exact ih

theorem get?_without_of_ne (h : other ≠ key) :
    (fields.without key).get? other = fields.get? other := by
  induction fields with
  | nil => rfl
  | cons f rest ih =>
    rw [without, List.filter_cons]
    split
    · rw [get?_cons, get?_cons, ← without, ih]
    · next hf =>
      have hkey : f.1 = key := by simpa using hf
      rw [get?_cons, if_neg (hkey ▸ h.symm), ← without, ih]

/-- A deleted field is like an absent one. -/
theorem value_without_self (fields : Fields) (key : String) :
    (fields.without key).value key = .null := by
  rw [value, get?_without_self]
  rfl

theorem value_without_of_ne (h : other ≠ key) :
    (fields.without key).value other = fields.value other := by
  rw [value, value, get?_without_of_ne h]

theorem has_without_of_ne (h : other ≠ key) :
    (fields.without key).has other = fields.has other := by
  rw [has, has, get?_without_of_ne h]

theorem has_of_value_ne_null (h : fields.value key ≠ .null) : fields.has key = true := by
  rw [has, Option.isSome_iff_ne_none]
  intro hnone
  rw [value, hnone] at h
  exact h rfl

/-- Setting a field that the object has does not change which fields it has. -/
theorem has_put (h : fields.has key = true) (other : String) :
    (fields.put key v).has other = fields.has other := by
  by_cases ho : other = key
  · rw [ho, h, has, get?_put_self]
    rfl
  · rw [has, has, get?_put_of_ne (Ne.symm ho)]

end Fields

/-! ## Objects that agree, by their role

`Role.Agree` says of two objects what has to be known for the object around them: they are read as
the same, and their faults are related. -/

/-- An operator without returned values is no method once its parameters are deleted, whatever the
field held. -/
theorem Operator.isMethod_without_parameters {fields : Fields}
    (h : fields.has "return_values" = false) :
    isMethod (fields.without "parameters") = false := by
  rw [isMethod, Fields.has, Fields.get?_without_self, Fields.has_without_of_ne (by decide), h]
  rfl

namespace Role

/-- The fields that tell what the object is by being there, whatever they hold. -/
def probed : Role → List String
  | .entity _ => []
  | .operator => ["parameters", "return_values"]

/-- Two objects that are read as the same, and whose faults are related field by field. -/
structure Agree (ρ : List Fault → List Fault → Prop) (role : Role) (fields others : Fields) :
    Prop where
  optional : ∀ x ∈ (role.kind fields).optional, x.2.Same (fields.value x.1) (others.value x.1)
  faults : ∀ x ∈ (role.kind fields).optional, ∀ path,
    ρ (x.2.faults (fields.value x.1) path) (x.2.faults (others.value x.1) path)
  /-- All other fields are the same. -/
  other : ∀ key, (∀ x ∈ (role.kind fields).optional, x.1 ≠ key) →
    fields.value key = others.value key
  has : ∀ key ∈ role.probed, fields.has key = others.has key

variable {ρ : List Fault → List Fault → Prop} {role : Role} {fields others : Fields}

/-- Objects that differ in one optional field only. -/
theorem Agree.of_field (hρ : Stable ρ) {field : OptionalField}
    (hfield : field ∈ (role.kind fields).optional)
    (hrest : ∀ key, key ≠ field.1 → fields.value key = others.value key)
    (hsame : field.2.Same (fields.value field.1) (others.value field.1))
    (hfaults : ∀ path, ρ (field.2.faults (fields.value field.1) path)
      (field.2.faults (others.value field.1) path))
    (hhas : ∀ key ∈ role.probed, fields.has key = others.has key) :
    role.Agree ρ fields others where
  optional x hx := by
    by_cases hkey : x.1 = field.1
    · rw [Kind.eq_of_mem_optional hx hfield hkey]
      exact hsame
    · rw [hrest x.1 hkey]
      exact .refl _ _
  faults x hx path := by
    by_cases hkey : x.1 = field.1
    · rw [Kind.eq_of_mem_optional hx hfield hkey]
      exact hfaults path
    · rw [hrest x.1 hkey]
      exact hρ.refl _
  other key hkey := hrest key fun h => hkey field hfield h.symm
  has := hhas

namespace Agree

variable (h : role.Agree ρ fields others)

include h

theorem kind_agree : (role.kind fields).Agree fields others where
  required := fun key hkey => h.other key ((role.kind fields).required_not_mem_optional key hkey)
  optional := h.optional

theorem kind_eq : role.kind fields = role.kind others := by
  cases role with
  | entity kind => rfl
  | operator =>
    rw [kind, kind, Entry.operatorKind, Entry.operatorKind, Operator.isMethod, Operator.isMethod,
      h.has "parameters" (by decide), h.has "return_values" (by decide)]

end Agree

theorem Agree.name_eq (h : operator.Agree ρ fields others) :
    fields.value "name" = others.value "name" :=
  h.kind_agree.value "name" (Entry.operatorKind_required? fields)

theorem ofFields?_operator (fields : Fields) : operator.ofFields? fields =
    if Operator.isName (fields.value "name") then
      Entity.ofFields? (Entry.operatorKind fields) fields
    else none := by
  rw [ofFields?, Operator.ofFields?, Entry.operatorKind]
  split
  · split <;> rfl
  · rfl

/-- Objects that agree in their role describe the same entity, if any. -/
theorem Agree.ofFields?_eq (h : role.Agree ρ fields others) :
    role.ofFields? fields = role.ofFields? others := by
  have hdescribed := h.kind_agree.ofFields?_eq
  cases role with
  | entity kind => exact hdescribed
  | operator =>
    have hkind : Entry.operatorKind fields = Entry.operatorKind others := h.kind_eq
    rw [ofFields?_operator, ofFields?_operator, h.name_eq, ← hkind]
    split
    · exact hdescribed
    · rfl

/-- The faults of objects that agree in their role are related as those of their fields are. -/
theorem Agree.faults_related (h : role.Agree ρ fields others) (hρ : Stable ρ) (path : Path) :
    ρ (role.faults fields path) (role.faults others path) := by
  have hfaults := h.kind_agree.faults hρ h.faults path
  cases role with
  | entity kind => exact hfaults
  | operator =>
    have hkind : Entry.operatorKind fields = Entry.operatorKind others := h.kind_eq
    rw [Role.faults, Role.faults, Part.operatorFaults, Part.operatorFaults, h.name_eq, ← hkind]
    split
    · exact hfaults
    · exact hρ.refl []

end Role

/-! ## Lists of objects

Replacing an object in a list keeps the positions of all items. -/

namespace Role

variable {ρ : List Fault → List Fault → Prop} {role : Role}

/-- The faults of a list in which one object has been replaced. -/
theorem itemFaults_replace (hρ : Stable ρ) {before after : List Json} {a b : Fields}
    (h : ∀ path, ρ (role.faults a path) (role.faults b path)) (path : Path) :
    ρ (role.itemFaults (before ++ .obj a :: after) path)
      (role.itemFaults (before ++ .obj b :: after) path) := by
  simp only [itemFaults, List.zipIdx_append, List.zipIdx_cons, List.filterMap_append,
    List.filterMap_cons, List.flatMap_append, Json.object?, Option.map_some, List.flatMap_cons]
  exact hρ.append (hρ.refl _) (hρ.append (h _) (hρ.refl _))

/-- Whether an object has faults does not depend on where it is found. -/
theorem faults_eq_nil_iff (role : Role) (fields : Fields) (path other : Path) :
    role.faults fields path = [] ↔ role.faults fields other = [] := by
  have hentry (kind : Kind) :
      Entry.faults ⟨kind, fields⟩ path = [] ↔ Entry.faults ⟨kind, fields⟩ other = [] :=
    (Entry.faults_eq_nil_iff _ path).trans (Entry.faults_eq_nil_iff _ other).symm
  cases role with
  | entity kind => exact hentry kind
  | operator =>
    rw [faults, faults, Part.operatorFaults, Part.operatorFaults]
    split
    · exact hentry _
    · rfl

/-- Nothing is wrong with a list exactly if nothing is wrong with the objects in it. -/
theorem itemFaults_eq_nil_iff (items : List Json) (path : Path) : role.itemFaults items path = [] ↔
    ∀ g ∈ items.filterMap Json.object?, role.faults g path = [] := by
  rw [itemFaults, List.flatMap_eq_nil_iff]
  constructor
  · intro h g hg
    obtain ⟨v, hv, hobject⟩ := List.mem_filterMap.1 hg
    obtain ⟨i, hi⟩ := List.mem_iff_getElem?.1 hv
    have hx : (g, path.item i) ∈ items.zipIdx.filterMap fun v =>
        v.1.object?.map fun g => (g, path.item v.2) :=
      List.mem_filterMap.2 ⟨(v, i), List.mem_zipIdx_iff_getElem?.2 hi, by rw [hobject]; rfl⟩
    exact (role.faults_eq_nil_iff g _ path).1 (h _ hx)
  · intro h x hx
    obtain ⟨⟨v, i⟩, hv, hx⟩ := List.mem_filterMap.1 hx
    obtain ⟨g, hobject, rfl⟩ := Option.map_eq_some_iff.1 hx
    have hmem := List.mem_of_getElem? (List.mem_zipIdx_iff_getElem?.1 hv)
    exact (role.faults_eq_nil_iff g path _).1 (h g (List.mem_filterMap.2 ⟨v, hmem, hobject⟩))

end Role

/-! ## Deletions

A change may be made to the object itself or to one inside it, and `Within` is the path to it. By
induction on that path the outermost object agrees with what it was as soon as the innermost
does. -/

/-- A way to change objects, depending on as what they are read. -/
abbrev Change := Role → Fields → Fields → Prop

/-- The change is made to the object itself, or to an entity at any depth inside it. -/
inductive Within (change : Change) : Change
  | here {role : Role} {fields others : Fields} (h : change role fields others) :
      Within change role fields others
  /-- Inside an object in a list. -/
  | item {role inner : Role} {fields a b : Fields} {key : String} {before after : List Json}
      (hkey : (key, .list inner) ∈ (role.kind fields).optional)
      (hvalue : fields.value key = .arr (before ++ .obj a :: after)) (h : Within change inner a b) :
      Within change role fields (fields.put key (.arr (before ++ .obj b :: after)))
  /-- Inside an entity that is the value of a field. -/
  | object {role : Role} {inner : Kind} {fields a b : Fields} {key : String}
      (hkey : (key, .object inner) ∈ (role.kind fields).optional)
      (hvalue : fields.value key = .obj a) (h : Within change (.entity inner) a b) :
      Within change role fields (fields.put key (.obj b))

/-- An optional field whose value does not have the shape of the field is deleted. -/
def DropsField : Change := fun role fields others =>
  ∃ field ∈ (role.kind fields).optional, field.1 ∉ role.probed ∧
    field.2.shape.fits (fields.value field.1) = false ∧ others = fields.without field.1

/-- Items that are no objects are deleted from a list of objects. -/
def DropsItems : Change := fun role fields others =>
  ∃ key inner items kept, (key, .list inner) ∈ (role.kind fields).optional ∧
    fields.value key = .arr items ∧ List.Sublist kept items ∧
    kept.filterMap Json.object? = items.filterMap Json.object? ∧
    others = fields.put key (.arr kept)

section Deletions

variable {ρ : List Fault → List Fault → Prop} {role : Role} {fields others : Fields}

/-- An object that has lost a field of the wrong shape agrees with what it was. -/
theorem DropsField.agree (hρ : Stable ρ) (h : DropsField role fields others) :
    role.Agree ρ fields others := by
  obtain ⟨field, hfield, hprobed, hunfit, rfl⟩ := h
  have hnull : field.2.shape.fits ((fields.without field.1).value field.1) = false := by
    rw [Fields.value_without_self]
    exact field.2.shape.fits_null
  refine .of_field hρ hfield (fun key hne => (Fields.value_without_of_ne hne).symm) ?_ ?_ ?_
  · exact .of_unfit hunfit hnull
  · intro path
    rw [Content.faults_eq_nil_of_unfit hunfit, Content.faults_eq_nil_of_unfit hnull]
    exact hρ.refl []
  · exact fun key hkey =>
      (Fields.has_without_of_ne (ne_of_mem_of_not_mem hkey hprobed)).symm

/-- An object in which the value of a field has been replaced agrees with what it was if the values
are the same to its reader. -/
theorem Role.Agree.put (hρ : Stable ρ) {key : String} {content : Content} {v w : Json}
    (hkey : (key, content) ∈ (role.kind fields).optional) (hvalue : fields.value key = v)
    (hv : v ≠ .null) (hsame : content.Same v w)
    (hfaults : ∀ path, ρ (content.faults v path) (content.faults w path)) :
    role.Agree ρ fields (fields.put key w) := by
  subst hvalue
  refine .of_field hρ hkey (fun other hne => (Fields.value_put_of_ne hne).symm) ?_ ?_ ?_
  · rw [Fields.value_put_self]
    exact hsame
  · rw [Fields.value_put_self]
    exact hfaults
  · exact fun other _ => (Fields.has_put (Fields.has_of_value_ne_null hv) other).symm

/-- An object without faults that has lost items that are no objects agrees with what it was. -/
theorem DropsItems.agree (h : DropsItems role fields others) :
    role.Agree (fun as bs => as = [] → bs = []) fields others := by
  obtain ⟨key, inner, items, kept, hkey, hvalue, -, hobjects, rfl⟩ := h
  refine .put .none hkey hvalue Json.noConfusion ?_ fun path => ?_
  · exact congrArg (fun objects => some (List.map inner.ofFields? objects)) hobjects.symm
  · show inner.itemFaults items path = [] → inner.itemFaults kept path = []
    rw [Role.itemFaults_eq_nil_iff, Role.itemFaults_eq_nil_iff, hobjects]
    exact id

/-- **A change inside an object relates it as it relates the object that is changed.** -/
theorem Within.agree (hρ : Stable ρ) {change : Change}
    (hchange : ∀ role fields others, change role fields others → role.Agree ρ fields others)
    (h : Within change role fields others) : role.Agree ρ fields others := by
  induction h with
  | here h => exact hchange _ _ _ h
  | @item role inner fields a b key before after hkey hvalue _ ih =>
    refine .put hρ hkey hvalue Json.noConfusion ?_ ?_
    · show inner.items? _ = inner.items? _
      simp only [Role.items?, List.filterMap_append, List.filterMap_cons, Json.object?,
        List.map_append, List.map_cons, ih.ofFields?_eq]
    · exact Role.itemFaults_replace hρ (ih.faults_related hρ)
  | object hkey hvalue _ ih =>
    refine .put hρ hkey hvalue Json.noConfusion (congrArg some ih.ofFields?_eq) fun path => ?_
    show ρ ([_].flatMap _) ([_].flatMap _)
    rw [List.flatMap_singleton, List.flatMap_singleton]
    exact ih.faults_related hρ _

end Deletions

/-! ## Reading changed objects

What is read and which fault is met both follow from agreement: the entity since objects that agree
describe the same one, and the fault since the two lists of faults are related. -/

namespace Reading

variable {α : Type} {ρ : List Fault → List Fault → Prop} {x y : Reading α}

/-- Two steps that give the same value, as far as their faults allow, and whose faults are
related. -/
def Related (ρ : List Fault → List Fault → Prop) (x y : Reading α) : Prop :=
  ∃ a faults others, x.Reports faults a ∧ y.Reports others a ∧ ρ faults others

theorem Related.map {β : Type} (h : Related ρ x y) (f : α → β) :
    Related ρ (x >>= fun a => pure (f a)) (y >>= fun a => pure (f a)) := by
  obtain ⟨a, faults, others, hx, hy, hρ⟩ := h
  exact ⟨f a, faults, others, hx.map f, hy.map f, hρ⟩

/-- Steps with the same faults have the same outcome. -/
theorem Related.outcome_eq (h : Related (fun as bs => as = bs) x y) : y.outcome = x.outcome := by
  obtain ⟨a, faults, others, hx, hy, rfl⟩ := h
  exact hy.trans hx.symm

theorem Related.outcome_eq_ok (h : Related (fun as bs => as = [] → bs = []) x y) {a : α}
    (hx : x.outcome = .ok a) : y.outcome = .ok a := by
  obtain ⟨b, faults, others, hfaults, hothers, himp⟩ := h
  obtain ⟨hnone, rfl⟩ := hfaults.outcome_eq_ok_iff.1 hx
  exact hothers.outcome_eq_ok_iff.2 ⟨himp hnone, rfl⟩

end Reading

namespace Entity

/-- The kind of an object, which for a document depends on the stage that it states. -/
def Kind.staged : Kind → Fields → Kind
  | .document, fields => ((Entry.ofDocument? (.obj fields)).map Entry.kind).getD .document
  | kind, _ => kind

/-- The path at which an object is found that is read at `path`. A document has none. -/
def Kind.place : Kind → Path → Path
  | .runtimeApi, _ => ""
  | .prototypeApi, _ => ""
  | _, path => path

variable {ρ : List Fault → List Fault → Prop} {kind : Kind} {fields others : Fields} {e : Entity}

/-- An entity is read, or refused with the first of its faults. -/
theorem read_reports (debug : Bool) (h : ofFields? kind fields = some e) (path : Path) :
    (read debug kind (.obj fields) path).Reports
      (Entry.faults ⟨kind, fields⟩ (kind.place path)) e := by
  cases kind <;> cases h
  case image => exact (Image.read_reports fields path).map _
  case member => exact (Member.read_reports debug fields path).map _
  case concept => exact (Concept.read_reports debug fields path).map _
  case property => exact (Property.read_reports debug fields path).map _
  case define => exact (Define.read_reports debug fields path).map _
  case defineValue => exact (DefineValue.read_reports debug fields path).map _
  case prototype => exact (Prototype.read_reports debug fields path).map _
  case luaClass => exact (Class.read_reports debug fields path).map _
  case method => exact (Method.read_reports debug fields path).map _
  case «attribute» => exact (Attribute.read_reports debug fields path).map _
  case parameter => exact (Parameter.read_reports debug fields path).map _
  case returnValue => exact (Parameter.readReturned_reports debug fields path).map _
  case parameterGroup => exact (ParameterGroup.read_reports debug fields path).map _
  case variadicParameter => exact (VariadicParameter.read_reports debug fields path).map _
  case methodFormat =>
    exact (Reading.Reports.pure _).of_eq (Entry.faults_eq ⟨.methodFormat, fields⟩ _).symm
  case timeframe =>
    exact (Reading.Reports.pure _).of_eq (Entry.faults_eq ⟨.timeframe, fields⟩ _).symm
  case eventRaised => exact (EventRaised.read_reports debug fields path).map _
  case event => exact (Event.read_reports debug fields path).map _
  case globalObject => exact (GlobalObject.read_reports debug fields path).map _
  case runtimeApi => exact (RuntimeApi.read_reports debug fields).map _
  case prototypeApi => exact (PrototypeApi.read_reports debug fields).map _

/-- Objects that agree are read as the same entity. -/
theorem related_read (debug : Bool) (hρ : Stable ρ) (h : (Role.entity kind).Agree ρ fields others)
    (he : ofFields? kind fields = some e) (path : Path) :
    Reading.Related ρ (read debug kind (.obj fields) path) (read debug kind (.obj others) path) :=
  ⟨e, _, _, read_reports debug he path, read_reports debug (h.ofFields?_eq.symm.trans he) path,
    h.faults_related hρ _⟩

theorem Kind.stage_not_mem_optional (kind : Kind) : ∀ x ∈ kind.optional, x.1 ≠ "stage" := by
  cases kind <;> decide

/-- Documents that agree are read as the same one; a stage that is not known is the same fault for
both. -/
theorem related_readDocument (debug : Bool) (hρ : Stable ρ)
    (h : (Role.entity (Kind.document.staged fields)).Agree ρ fields others) :
    Reading.Related ρ (Document.read debug (.obj fields)) (Document.read debug (.obj others)) := by
  have hstage : fields.value "stage" = others.value "stage" :=
    h.other "stage" (Kind.stage_not_mem_optional _)
  rw [Kind.staged] at h
  -- the stage is not optional, so both objects have the same one
  by_cases hr : fields.value "stage" = .str RuntimeApi.stage
  · have hroot : Entry.ofDocument? (.obj fields) = some ⟨.runtimeApi, fields⟩ :=
      Entry.ofDocument?_eq_some_iff.2 ⟨fields, rfl, Or.inl ⟨hr, rfl⟩⟩
    rw [hroot] at h
    have hothers : (Document.read debug (.obj others)).Reports _ _ :=
      Document.read_runtime_reports (hstage ▸ hr)
    rw [← RuntimeApi.ofFields_congr h.kind_agree] at hothers
    exact ⟨_, _, _, Document.read_runtime_reports hr, hothers, h.faults_related hρ ""⟩
  · by_cases hp : fields.value "stage" = .str PrototypeApi.stage
    · have hroot : Entry.ofDocument? (.obj fields) = some ⟨.prototypeApi, fields⟩ :=
        Entry.ofDocument?_eq_some_iff.2 ⟨fields, rfl, Or.inr ⟨hp, rfl⟩⟩
      rw [hroot] at h
      have hothers : (Document.read debug (.obj others)).Reports _ _ :=
        Document.read_prototype_reports (hstage ▸ hp)
      rw [← PrototypeApi.ofFields_congr h.kind_agree] at hothers
      exact ⟨_, _, _, Document.read_prototype_reports hp, hothers, h.faults_related hρ ""⟩
    · have hfields : (Document.read debug (.obj fields)).outcome = _ :=
        congrArg Reading.outcome (Document.read_unknown_stage hr hp)
      have hothers : (Document.read debug (.obj others)).outcome = _ :=
        congrArg Reading.outcome (Document.read_unknown_stage (hstage ▸ hr) (hstage ▸ hp))
      rw [← hstage] at hothers
      exact ⟨.runtime (.ofFields fields), [_], [_], hfields, hothers, hρ.refl _⟩

/-- An object that is changed has optional fields, if every change is one of them. -/
theorem optional_ne_nil_of_within {role : Role} {change : Change}
    (hchange : ∀ role fields others, change role fields others → (role.kind fields).optional ≠ [])
    (h : Within change role fields others) : (role.kind fields).optional ≠ [] := by
  cases h with
  | here h => exact hchange _ _ _ h
  | item hkey _ _ => exact List.ne_nil_of_mem hkey
  | object hkey _ _ => exact List.ne_nil_of_mem hkey

/-- An object is read as before if the change inside it is one that a reader does not notice. -/
theorem related_of_within (debug : Bool) {change : Change} (hρ : Stable ρ)
    (hchange : ∀ role fields others, change role fields others → role.Agree ρ fields others)
    (hoptional : ∀ role fields others, change role fields others →
      (role.kind fields).optional ≠ [])
    (h : Within change (.entity (kind.staged fields)) fields others) (path : Path) :
    Reading.Related ρ (read debug kind (.obj fields) path)
      (read debug kind (.obj others) path) := by
  have hagree := h.agree hρ hchange
  cases kind with
  | document => exact (related_readDocument debug hρ hagree).map _
  | type => exact absurd rfl (optional_ne_nil_of_within hoptional h)
  | _ => exact related_read debug hρ hagree rfl path

/-- **An optional field of the wrong shape is the same as an absent one.** Whatever is read of an
object, and whichever fault stops the reader, stays the same if such a field is deleted from the
object or from an entity at any depth in it. What is read also stays the same if items that are no
objects are deleted from a list of entities at any depth. -/
theorem read_outcome_of_within (debug : Bool) (kind : Kind) (fields others : Fields) (path : Path) :
    (Within DropsField (.entity (kind.staged fields)) fields others →
      (read debug kind (.obj others) path).outcome = (read debug kind (.obj fields) path).outcome) ∧
    (Within DropsItems (.entity (kind.staged fields)) fields others →
      ∀ e, (read debug kind (.obj fields) path).outcome = .ok e →
        (read debug kind (.obj others) path).outcome = .ok e) := by
  constructor
  · intro h
    have hrelated := related_of_within debug .eq (fun _ _ _ => DropsField.agree .eq)
      (fun _ _ _ ⟨_, hfield, _⟩ => List.ne_nil_of_mem hfield) h path
    exact hrelated.outcome_eq
  · intro h e he
    have hrelated := related_of_within debug .none (fun _ _ _ => DropsItems.agree)
      (fun _ _ _ ⟨_, _, _, _, hkey, _⟩ => List.ne_nil_of_mem hkey) h path
    exact hrelated.outcome_eq_ok he

end Entity

/-- A parameter whose description is a number. -/
def looseParameter : Fields :=
  [("name", .str "area"), ("description", .int 5), ("type", .str "uint")]

/-- A method whose list of parameters holds something that is no parameter. -/
def looseMethod : Fields :=
  [("name", .str "find"), ("parameters", .arr [.null, .obj looseParameter])]

/-- A class with the method. -/
def looseClass : Fields :=
  [("name", .str "LuaSurface"), ("methods", .arr [.obj looseMethod])]

/-- A document with the class. -/
def looseDocument : Fields :=
  [("stage", .str "runtime"), ("classes", .arr [.obj looseClass])]

/-- The document with another method in its place. -/
def looseDocumentWith (method : Fields) : Fields :=
  looseDocument.put "classes" (.arr [.obj (looseClass.put "methods" (.arr [.obj method]))])

theorem within_looseDocument {change : Change} {method : Fields}
    (h : Within change (.entity .method) looseMethod method) :
    Within change (.entity (Kind.document.staged looseDocument)) looseDocument
      (looseDocumentWith method) :=
  @Within.item _ _ (.entity .luaClass) _ _ _ "classes" [] [] (by decide) rfl <|
    @Within.item _ _ (.entity .method) _ _ _ "methods" [] [] (by decide) rfl h

theorem Entity.read_outcome_of_within_looseDocument :
    (read false .document (.obj (looseDocumentWith
          (looseMethod.put "parameters"
            (.arr [.null, .obj (looseParameter.without "description")]))))
        "").outcome = (read false .document (.obj looseDocument) "").outcome ∧
      ∃ e, (read false .document (.obj looseDocument) "").outcome = .ok e ∧
        (read false .document (.obj (looseDocumentWith
          (looseMethod.put "parameters" (.arr [.obj looseParameter])))) "").outcome = .ok e := by
  have hfield : DropsField (.entity .parameter) looseParameter
      (looseParameter.without "description") :=
    ⟨("description", .plain .string), by decide, List.not_mem_nil, rfl, rfl⟩
  have hitems : DropsItems (.entity .method) looseMethod
      (looseMethod.put "parameters" (.arr [.obj looseParameter])) :=
    ⟨"parameters", .entity .parameter, _, [.obj looseParameter], by decide, rfl,
      List.sublist_cons_self _ _, rfl, rfl⟩
  have hmethod : Within DropsField (.entity .method) looseMethod
      (looseMethod.put "parameters" (.arr [.null, .obj (looseParameter.without "description")])) :=
    @Within.item _ _ (.entity .parameter) _ _ _ "parameters" [.null] [] (by decide) rfl
      (.here hfield)
  obtain ⟨e, he⟩ : ∃ e, (read false .document (.obj looseDocument) "").outcome = .ok e := ⟨_, rfl⟩
  exact ⟨(read_outcome_of_within false .document looseDocument _ "").1
      (within_looseDocument hmethod),
    e, he, (read_outcome_of_within false .document looseDocument _ "").2
      (within_looseDocument (.here hitems)) e he⟩

end ApiReference
