import ApiReference.Entity.Basic
import ApiReference.Proofs.TypeExpr.UnknownForms

/-!
# The debug setting

With the debug setting on, readers note every default that they take. Nothing else depends on it: a
reader with the setting off has the same outcome, and leaves the same notices in the same order,
those about defaults apart. This also holds of what was noted before a reader was stopped.

The relation between the two readers is `Reading.Quiets`. It goes through sequences of steps
(`Reading.Quiets.bind`), so that it has to be shown of the readers of fields only; the lemmas
`read_quiets` then follow the readers of the entities step by step.

In these the setting is handed down from reader to reader, through every list and every object, to
the one step that looks at it. What could go wrong is a reader that hands down something else, or
asks for the setting on its own to take another way. `Reading.Quiets` is a relation between two
runs, which differ in the setting from the start, so either would show: the outcomes of a bound step
are compared for every value.

Which defaults are noted is of no interest here, and it is not the same for all fields.
`ApiReference.Proofs.Document.Notes` says which they are, and with the result of this file only has
to say it with the setting on.

## What is here

* `Fields.noteDefault_quiets`: the one step that looks at the setting.
* `Define.read_quiets`: the reader that calls itself, by induction on the size of the object.
* `Entity.read_debug`: what the setting does to the reader of any entity.
-/

set_option autoImplicit false

namespace ApiReference

namespace Reading

variable {α β : Type}

/-- The first step has the outcome of the second one, and its notices but for those about
defaults. -/
structure Quiets (quiet loud : Reading α) : Prop where
  outcome : quiet.outcome = loud.outcome
  notices : quiet.notices = loud.notices.filter fun n => !n.isDefaulted

namespace Quiets

variable {quiet loud x : Reading α} {f g : α → Reading β}

/-- A step that notes no default. -/
theorem refl (h : ∀ n ∈ x.notices, n.isDefaulted = false) : x.Quiets x where
  outcome := rfl
  notices := (List.filter_eq_self.2 fun n hn => by rw [h n hn]; rfl).symm

theorem pure (a : α) : Quiets (Pure.pure a) (Pure.pure a) :=
  refl fun _ hn => absurd hn List.not_mem_nil

theorem fail (fault : Fault) : Quiets (Reading.fail fault : Reading α) (Reading.fail fault) :=
  refl fun _ hn => absurd hn List.not_mem_nil

theorem note {notice : Notice} (h : notice.isDefaulted = false) :
    Quiets (Reading.note notice) (Reading.note notice) :=
  refl fun _ hn => List.mem_singleton.1 hn ▸ h

/-- A sequence of steps, each in its quiet form. -/
theorem bind (hx : quiet.Quiets loud) (hf : ∀ a, (f a).Quiets (g a)) :
    (quiet >>= f).Quiets (loud >>= g) := by
  cases ho : loud.outcome with
  | ok a =>
    have hq : quiet.outcome = .ok a := hx.outcome.trans ho
    constructor
    · rw [bind_outcome_of_ok hq, bind_outcome_of_ok ho, (hf a).outcome]
    · rw [bind_notices_of_ok hq, bind_notices_of_ok ho, List.filter_append, hx.notices,
        (hf a).notices]
  | error fault =>
    have hq : quiet.outcome = .error fault := hx.outcome.trans ho
    constructor
    · rw [bind_outcome_of_error hq, bind_outcome_of_error ho]
    · rw [bind_notices_of_error hq, bind_notices_of_error ho, hx.notices]

/-- A step whose value is taken further. -/
theorem map (hx : quiet.Quiets loud) (h : α → β) :
    (quiet >>= fun a => Pure.pure (h a)).Quiets (loud >>= fun a => Pure.pure (h a)) :=
  hx.bind fun a => pure (h a)

end Quiets
end Reading

open Reading

/-! ## Types and fields

The notices of a type are about its form and never about defaults, so the reader of types is its own
quiet form. -/

/-- The reader of types takes no defaults. -/
theorem TypeExpr.read_quiets (v : Json) (path : Path) : (read v path).Quiets (read v path) := by
  refine .refl fun n hn => ?_
  obtain ⟨_, _, rfl⟩ := exists_of_mem_unknownForms ((read_leaves v path).subperm.subset hn)
  rfl

namespace Fields

variable {α : Type} (fields : Fields) (key : String) (path : Path)

theorem require_quiets : (fields.require key path).Quiets (fields.require key path) := by
  rw [require]
  split
  · exact .fail _
  · exact .pure _

/-- **The one step that looks at the setting.** -/
theorem noteDefault_quiets :
    (fields.noteDefault false key path).Quiets (fields.noteDefault true key path) := by
  rw [noteDefault, noteDefault, Bool.true_and, Bool.false_and, if_neg Bool.false_ne_true]
  split
  · exact ⟨rfl, rfl⟩
  · exact .pure ()

theorem description_quiets :
    (fields.description false key path).Quiets (fields.description true key path) := by
  have hdefault := (fields.noteDefault_quiets key path).map fun _ => ""
  rw [description, description]
  cases fields.value key <;> first | exact hdefault | exact .pure _

theorem strings?_quiets :
    (fields.strings? false key path).Quiets (fields.strings? true key path) := by
  have hdefault := (fields.noteDefault_quiets key path).map fun _ => (none : Option (List String))
  rw [strings?, strings?]
  cases fields.value key <;> first | exact hdefault | exact .pure _

theorem type?_quiets : (fields.type? false key path).Quiets (fields.type? true key path) := by
  have hdefault := (fields.noteDefault_quiets key path).map fun _ => (none : Option TypeExpr)
  rw [type?, type?]
  cases fields.value key with
  | obj g => exact (TypeExpr.read_quiets _ _).map some
  | str s =>
    dsimp only
    cases (Json.str s).text? with
    | some name => exact .pure _
    | none => exact hdefault
  | _ => exact hdefault

section Lists

variable {fields key path} {quiet loud : Fields → Path → Reading α}

theorem readItems_quiets {items : List Json}
    (h : ∀ g, Json.obj g ∈ items → ∀ path, (quiet g path).Quiets (loud g path)) (i : Nat) :
    (readItems quiet path i items).Quiets (readItems loud path i items) := by
  induction items generalizing i with
  | nil => exact .pure []
  | cons v rest ih =>
    have hrest := ih (fun g hg => h g (List.mem_cons_of_mem v hg)) (i + 1)
    cases v with
    | obj g => exact (h g List.mem_cons_self (path.item i)).bind fun a => hrest.map (a :: ·)
    | _ => exact hrest

/-- Reading a list is quiet if reading its objects is. -/
theorem list?_quiets (h : ∀ g ∈ fields.objects key, ∀ path, (quiet g path).Quiets (loud g path)) :
    (fields.list? false key quiet path).Quiets (fields.list? true key loud path) := by
  have hdefault := (fields.noteDefault_quiets key path).map fun _ => (none : Option (List α))
  rw [list?, list?]
  cases hv : fields.value key with
  | arr items =>
    have hitems : ∀ g, Json.obj g ∈ items → ∀ path, (quiet g path).Quiets (loud g path) :=
      fun g hg => h g (mem_objects_iff.2 (hv ▸ hg))
    exact (readItems_quiets hitems 0).map some
  | _ => exact hdefault

theorem list_quiets (h : ∀ g ∈ fields.objects key, ∀ path, (quiet g path).Quiets (loud g path)) :
    (fields.list false key quiet path).Quiets (fields.list true key loud path) :=
  (list?_quiets h).map _

end Lists
end Fields

/-! ## Entities

A lemma for each reader, in the order of the steps that the reader takes. Of lists it has to be
known for the objects in them only, which is what the recursion of defines needs. -/

section Kinds

variable (fields : Fields) (path : Path)

theorem Image.read_quiets : (Image.read fields path).Quiets (Image.read fields path) :=
  (fields.require_quiets "filename" path).map _

theorem Member.read_quiets :
    (Member.read false fields path).Quiets (Member.read true fields path) :=
  (fields.require_quiets "name" path).bind fun _ =>
  (fields.description_quiets "description" path).bind fun _ =>
  (fields.strings?_quiets "lists" path).bind fun _ =>
  (fields.strings?_quiets "examples" path).bind fun _ =>
  (Fields.list?_quiets fun g _ path => Image.read_quiets g path).map _

theorem Property.readDefault_quiets :
    (readDefault fields path).Quiets (readDefault fields path) := by
  rw [readDefault]
  cases fields.value "default" with
  | obj g => exact (TypeExpr.read_quiets _ _).map _
  | _ => exact .pure _

theorem Property.read_quiets :
    (Property.read false fields path).Quiets (Property.read true fields path) :=
  (Member.read_quiets fields path).bind fun info =>
  (fields.strings?_quiets "visibility" (info.path path)).bind fun _ =>
  (fields.type?_quiets "type" (info.path path)).bind fun _ =>
  (readDefault_quiets fields (info.path path)).map _

theorem Concept.readBody_quiets :
    (readBody false fields path).Quiets (readBody true fields path) := by
  have htype := (fields.type?_quiets "type" path).map (Option.map Body.type)
  rw [readBody, readBody]
  split
  · split
    · exact .pure _
    · exact htype
  · exact htype

theorem Concept.read_quiets :
    (Concept.read false fields path).Quiets (Concept.read true fields path) :=
  (Member.read_quiets fields path).bind fun info =>
  (readBody_quiets fields (info.path path)).bind fun _ =>
  (Fields.list?_quiets fun g _ path => Property.read_quiets g path).map _

theorem Prototype.read_quiets :
    (Prototype.read false fields path).Quiets (Prototype.read true fields path) :=
  (Member.read_quiets fields path).bind fun info =>
  (fields.strings?_quiets "visibility" (info.path path)).bind fun _ =>
  (Fields.list_quiets fun g _ path => Property.read_quiets g path).map _

theorem DefineValue.read_quiets :
    (DefineValue.read false fields path).Quiets (DefineValue.read true fields path) :=
  (fields.require_quiets "name" path).bind fun _ =>
  (fields.description_quiets "description" path).map _

/-- The reader of defines calls itself on the subkeys, which are smaller objects. -/
theorem Define.read_quiets :
    (Define.read false fields path).Quiets (Define.read true fields path) := by
  induction fields using (measure (sizeOf : Fields → Nat)).wf.induction generalizing path with
  | _ fields ih =>
  have hsubkeys : ∀ g ∈ fields.objects "subkeys", ∀ path,
      (Define.read false g path).Quiets (Define.read true g path) :=
    fun g hg path => ih g (Fields.sizeOf_lt_of_mem_objects hg) path
  rw [read_eq, read_eq]
  exact (Member.read_quiets fields path).bind fun _ =>
    (Fields.list?_quiets fun g _ path => DefineValue.read_quiets g path).bind fun _ =>
    (Fields.list?_quiets hsubkeys).map _

theorem Parameter.readNamed_quiets (name : Name) :
    (readNamed false name fields path).Quiets (readNamed true name fields path) :=
  (fields.description_quiets "description" path).bind fun _ =>
  (fields.type?_quiets "type" path).map _

theorem Parameter.read_quiets :
    (Parameter.read false fields path).Quiets (Parameter.read true fields path) :=
  (fields.require_quiets "name" path).bind fun name =>
  readNamed_quiets fields (path.member name.inline) name

theorem Parameter.readReturned_quiets :
    (readReturned false fields path).Quiets (readReturned true fields path) :=
  readNamed_quiets fields path _

theorem ParameterGroup.read_quiets :
    (ParameterGroup.read false fields path).Quiets (ParameterGroup.read true fields path) :=
  (fields.require_quiets "name" path).bind fun _ =>
  (fields.description_quiets "description" path).bind fun _ =>
  (Fields.list_quiets fun g _ path => Parameter.read_quiets g path).map _

theorem VariadicParameter.read_quiets :
    (VariadicParameter.read false fields path).Quiets (VariadicParameter.read true fields path) :=
  (fields.type?_quiets "type" path).bind fun _ =>
  (fields.description_quiets "description" path).map _

theorem EventRaised.read_quiets :
    (EventRaised.read false fields path).Quiets (EventRaised.read true fields path) :=
  (fields.require_quiets "name" path).bind fun _ =>
  (fields.description_quiets "description" path).map _

theorem Event.read_quiets :
    (Event.read false fields path).Quiets (Event.read true fields path) :=
  (Member.read_quiets fields path).bind fun _ =>
  (Fields.list_quiets fun g _ path => Parameter.read_quiets g path).map _

theorem Attribute.read_quiets :
    (Attribute.read false fields path).Quiets (Attribute.read true fields path) :=
  (Member.read_quiets fields path).bind fun info =>
  (fields.strings?_quiets "visibility" (info.path path)).bind fun _ =>
  (Fields.list?_quiets fun g _ path => EventRaised.read_quiets g path).bind fun _ =>
  (fields.strings?_quiets "subclasses" (info.path path)).bind fun _ =>
  (fields.type?_quiets "read_type" (info.path path)).bind fun _ =>
  (fields.type?_quiets "write_type" (info.path path)).map _

theorem Method.readVariadic_quiets :
    (readVariadic false fields path).Quiets (readVariadic true fields path) := by
  rw [readVariadic, readVariadic]
  cases fields.value "variadic_parameter" with
  | obj g => exact (VariadicParameter.read_quiets g _).map some
  | _ => exact .pure none

theorem Method.read_quiets :
    (Method.read false fields path).Quiets (Method.read true fields path) :=
  (Member.read_quiets fields path).bind fun info =>
  (fields.strings?_quiets "visibility" (info.path path)).bind fun _ =>
  (Fields.list?_quiets fun g _ path => EventRaised.read_quiets g path).bind fun _ =>
  (fields.strings?_quiets "subclasses" (info.path path)).bind fun _ =>
  (Fields.list?_quiets fun g _ path => Parameter.read_quiets g path).bind fun _ =>
  (Fields.list?_quiets fun g _ path => ParameterGroup.read_quiets g path).bind fun _ =>
  (readVariadic_quiets fields (info.path path)).bind fun _ =>
  (Fields.list?_quiets fun g _ path => Parameter.readReturned_quiets g path).map _

theorem Operator.read?_quiets : (read? false fields path).Quiets (read? true fields path) := by
  rw [read?, read?]
  split
  · split
    · exact (Method.read_quiets fields path).map _
    · exact (Attribute.read_quiets fields path).map _
  · exact (Quiets.note rfl).map _

theorem Class.read_quiets :
    (Class.read false fields path).Quiets (Class.read true fields path) :=
  (Member.read_quiets fields path).bind fun info =>
  (Fields.list_quiets fun g _ path => Operator.read?_quiets g path).bind fun _ =>
  (fields.strings?_quiets "visibility" (info.path path)).bind fun _ =>
  (Fields.list_quiets fun g _ path => Method.read_quiets g path).bind fun _ =>
  (Fields.list_quiets fun g _ path => Attribute.read_quiets g path).map _

theorem GlobalObject.read_quiets :
    (GlobalObject.read false fields path).Quiets (GlobalObject.read true fields path) :=
  (fields.require_quiets "name" path).bind fun name =>
  (fields.description_quiets "description" path).bind fun _ =>
  (fields.type?_quiets "type" (path.member name.inline)).map _

/-! ## Documents -/

theorem RuntimeApi.read_quiets :
    (RuntimeApi.read false fields).Quiets (RuntimeApi.read true fields) :=
  (Fields.list_quiets fun g _ path => Class.read_quiets g path).bind fun _ =>
  (Fields.list_quiets fun g _ path => Event.read_quiets g path).bind fun _ =>
  (Fields.list_quiets fun g _ path => Concept.read_quiets g path).bind fun _ =>
  (Fields.list_quiets fun g _ path => Define.read_quiets g path).bind fun _ =>
  (Fields.list_quiets fun g _ path => GlobalObject.read_quiets g path).bind fun _ =>
  (Fields.list_quiets fun g _ path => Method.read_quiets g path).map _

theorem PrototypeApi.read_quiets :
    (PrototypeApi.read false fields).Quiets (PrototypeApi.read true fields) :=
  (Fields.list_quiets fun g _ path => Prototype.read_quiets g path).bind fun _ =>
  (Fields.list_quiets fun g _ path => Concept.read_quiets g path).map _

end Kinds

theorem Document.read_quiets (d : Json) : (read false d).Quiets (read true d) := by
  cases d with
  | obj fields =>
    rw [read, read]
    split
    · split
      · exact (RuntimeApi.read_quiets fields).bind fun _ => (Quiets.note rfl).map _
      · split
        · exact (PrototypeApi.read_quiets fields).bind fun _ => (Quiets.note rfl).map _
        · exact .fail _
    · exact .fail _
  | _ => exact .fail _

/-! ## Any entity -/

namespace Entity

/-- What is no object is refused alike under both settings. -/
theorem readObject_quiets {α : Type} {quiet loud : Fields → Path → Reading α}
    (h : ∀ fields path, (quiet fields path).Quiets (loud fields path)) (wrap : α → Entity)
    (data : Json) (path : Path) :
    (readObject wrap quiet data path).Quiets (readObject wrap loud data path) := by
  cases data with
  | obj fields => exact (h fields path).map wrap
  | _ => exact .fail _

theorem read_quiets (kind : Kind) (data : Json) (path : Path) :
    (read false kind data path).Quiets (read true kind data path) := by
  cases kind with
  | image => exact readObject_quiets Image.read_quiets _ data path
  | member => exact readObject_quiets Member.read_quiets _ data path
  | concept => exact readObject_quiets Concept.read_quiets _ data path
  | property => exact readObject_quiets Property.read_quiets _ data path
  | define => exact readObject_quiets Define.read_quiets _ data path
  | defineValue => exact readObject_quiets DefineValue.read_quiets _ data path
  | prototype => exact readObject_quiets Prototype.read_quiets _ data path
  | luaClass => exact readObject_quiets Class.read_quiets _ data path
  | method => exact readObject_quiets Method.read_quiets _ data path
  | «attribute» => exact readObject_quiets Attribute.read_quiets _ data path
  | parameter => exact readObject_quiets Parameter.read_quiets _ data path
  | returnValue => exact readObject_quiets Parameter.readReturned_quiets _ data path
  | parameterGroup => exact readObject_quiets ParameterGroup.read_quiets _ data path
  | variadicParameter => exact readObject_quiets VariadicParameter.read_quiets _ data path
  | methodFormat => exact .pure _
  | timeframe => exact .pure _
  | eventRaised => exact readObject_quiets EventRaised.read_quiets _ data path
  | event => exact readObject_quiets Event.read_quiets _ data path
  | globalObject => exact readObject_quiets GlobalObject.read_quiets _ data path
  | runtimeApi =>
    exact readObject_quiets (fun fields _ => RuntimeApi.read_quiets fields) _ data path
  | prototypeApi =>
    exact readObject_quiets (fun fields _ => PrototypeApi.read_quiets fields) _ data path
  | document => exact (Document.read_quiets data).map _
  | type => exact (TypeExpr.read_quiets data path).map _

end Entity

/-- The notices about defaults are those with their message. -/
theorem Notice.isDefaulted_eq (n : Notice) :
    n.isDefaulted = decide (n.message = "Field has unexpected shape, using default") := by
  cases n <;> simp [isDefaulted, message]

/-- **The debug setting changes nothing but the notices**, and of these only whether defaults are
noted: whatever is read, as whatever it is read and wherever it stands, the outcome is the same, and
without the setting one is left with the notices of other messages, in their order. -/
theorem Entity.read_debug (kind : Kind) (data : Json) (path : Path) :
    (read false kind data path).outcome = (read true kind data path).outcome ∧
      (read false kind data path).notices = (read true kind data path).notices.filter fun n =>
        n.message ≠ "Field has unexpected shape, using default" := by
  refine ⟨(read_quiets kind data path).outcome, (read_quiets kind data path).notices.trans ?_⟩
  congr 1
  funext n
  rw [Notice.isDefaulted_eq, decide_not]

/-- A default is noted even if the reader is stopped later on. -/
example : (Entity.read true .parameter
    (.obj [("name", .str "area"), ("description", .int 5), ("type", .obj [])]) "").notices =
      [.defaulted "area" "description"] := rfl

end ApiReference
