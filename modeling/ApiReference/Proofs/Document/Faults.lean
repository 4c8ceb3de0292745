import ApiReference.Proofs.Document.Described
import ApiReference.Proofs.Document.Sites
import ApiReference.Proofs.Reading
import ApiReference.Proofs.TypeExpr.Defects

/-!
# Reading a document stops at its first fault

The readers of entities and the list of the faults of an entry are defined apart from each other.
This file shows that they agree: an entry without faults is read, as the entity that its object
describes, and an entry with faults is refused with the first of them. For each kind of entity this
is a lemma `read_reports`, put together from the lemmas about the fields that the reader asks for,
in the order in which it asks.

That order is the content. A reader which asked for the parameters of a method before its images
would accept the same documents and describe the same entities, and would stop at another fault in a
document that has several. The list of faults follows the order of `Entity.Kind.parts`, so each of
the lemmas checks that the reader keeps to it.

Optional fields of plain values do not occur in the lists, as nothing is wrong with them in any
shape; in the proofs they are steps that always go on (`Reading.Reports.always`). All eight
kinds of members begin with the same common part, and `Entry.faults_of_member` splits its faults off
from the rest.

From here on the readers are known by what they report. Which documents are accepted, what may be
deleted from them, and at which path a missing name is reported is all derived from the lists of
faults, without a further look at a reader.

## What is here

* `Fields.list?_reports`: a list has the faults of the objects in it, in order.
* `Define.read_reports`: the one reader that calls itself, by induction on the size of the object.
* `Document.read_outcome_eq_error_iff`: a document of a known stage is refused with its first fault.
-/

set_option autoImplicit false

namespace ApiReference

open Reading

/-! ## Types -/

/-- The faults of a field that holds a type; only an object can have any. -/
def Json.typeFaults : Json → Path → List Fault
  | .obj g, path => TypeExpr.defects (.obj g) path
  | _, _ => []

/-- A step that goes on from a type in the form of an object. -/
theorem bind_type_reports {α : Type} {g : Fields} {path : Path} {f : TypeExpr → Reading α} {a : α}
    (h : ∀ t, (Json.obj g).type? = some t → (f t).outcome = .ok a) :
    (TypeExpr.read (.obj g) path >>= f).Reports (TypeExpr.defects (.obj g) path) a := by
  rcases TypeExpr.settles_read (.obj g) with ⟨t, -, hread⟩ | hfail
  · have ht : (Json.obj g).type? = some t := by
      rw [Json.type?, (hread "").1]
      rfl
    rw [(hread path).2]
    exact (bind_outcome_of_ok (hread path).1 f).trans (h t ht)
  · obtain ⟨fault, rest, hfault, hdefects⟩ := hfail path
    rw [hdefects]
    exact bind_outcome_of_error hfault f

/-! ## Fields -/

namespace Fields

variable {α : Type} (debug : Bool) (fields : Fields) (key : String) (path : Path)

/-- A required field is missing if it is absent or `null`. -/
theorem require_reports : (fields.require key path).Reports
    (if (fields.value key).isNull then [.missingField key path none] else [])
    (fields.value key) := by
  rw [require]
  split <;> exact rfl

theorem noteDefault_reports : (fields.noteDefault debug key path).Reports [] () := by
  rw [noteDefault]
  split
  · exact .note _
  · exact .pure ()

theorem description_reports :
    (fields.description debug key path).Reports [] (fields.value key).string := by
  rw [description]
  cases fields.value key with
  | str s => exact .pure s
  | null => exact .pure ""
  | _ => exact (noteDefault_reports debug fields key path).map fun _ => ""

theorem strings?_reports :
    (fields.strings? debug key path).Reports [] (fields.value key).strings? := by
  rw [strings?]
  cases fields.value key with
  | arr items => exact .pure (some (items.map Json.inline))
  | _ => exact (noteDefault_reports debug fields key path).map fun _ => none

/-- A field for a type has the faults of the object in it, if it holds one. -/
theorem type?_reports : (fields.type? debug key path).Reports
    ((fields.value key).typeFaults (path.join key)) (fields.value key).type? := by
  rw [type?]
  cases hv : fields.value key with
  | obj g => exact bind_type_reports fun t ht => congrArg Except.ok ht.symm
  | str s =>
    dsimp only [Json.type?]
    cases (Json.str s).text? with
    | some name => exact .pure (some (TypeExpr.name name))
    | none => exact (noteDefault_reports debug fields key path).map fun _ => none
  | _ => exact (noteDefault_reports debug fields key path).map fun _ => none

section Lists

variable {debug fields key path} {read : Fields → Path → Reading α} {f : Fields → α}
  {faults : Fields → Path → List Fault}

theorem readItems_reports {items : List Json}
    (h : ∀ g, Json.obj g ∈ items → ∀ path, (read g path).Reports (faults g path) (f g)) (i : Nat) :
    (readItems read path i items).Reports
      (((items.zipIdx i).filterMap fun v => v.1.object?.map fun g => (g, path.item v.2)).flatMap
        fun x => faults x.1 x.2)
      ((items.filterMap Json.object?).map f) := by
  induction items generalizing i with
  | nil => exact .pure []
  | cons v rest ih =>
    have hrest := ih (fun g hg => h g (List.mem_cons_of_mem v hg)) (i + 1)
    cases v with
    | obj g => exact (h g List.mem_cons_self (path.item i)).bind (hrest.map (f g :: ·))
    | _ => exact hrest

/-- **A list has the faults of the objects in it**, each at the path of its position. -/
theorem list?_reports
    (h : ∀ g ∈ fields.objects key, ∀ path, (read g path).Reports (faults g path) (f g)) :
    (fields.list? debug key read path).Reports
      ((fields.located key path).flatMap fun x => faults x.1 x.2) (fields.each? key f) := by
  rw [list?, each?, located]
  rw [objects] at h ⊢
  cases hv : fields.value key with
  | arr items =>
    rw [hv] at h
    have hitems : (readItems read (path.join key) 0 items).Reports _ _ :=
      readItems_reports (fun g hg => h g (List.mem_filterMap.2 ⟨_, hg, rfl⟩)) 0
    exact hitems.map some
  | _ => exact (noteDefault_reports debug fields key path).map fun _ => none

theorem list_reports
    (h : ∀ g ∈ fields.objects key, ∀ path, (read g path).Reports (faults g path) (f g)) :
    (fields.list debug key read path).Reports
      ((fields.located key path).flatMap fun x => faults x.1 x.2) (fields.each key f) := by
  rw [← each?_getD]
  exact (list?_reports h).map (·.getD [])

end Lists
end Fields

/-! ## The faults of an entry, part by part

The faults of each kind of part, in the form in which the readers meet them. They are tagged for
`simp`, so that the faults of an entry unfold to those of its fields. -/

namespace Part

variable {e : Entry} {path : Path} {key : String} {kind : Entity.Kind}

@[simp] theorem faults_images : images.faults e path =
    (e.fields.located "images" path).flatMap fun x => Entry.faults ⟨.image, x.1⟩ x.2 :=
  flatMap_images ..

@[simp] theorem faults_list : (slot (.list key kind)).faults e path =
    (e.fields.located key (e.here path)).flatMap fun x => Entry.faults ⟨kind, x.1⟩ x.2 :=
  flatMap_list ..

@[simp] theorem faults_object : (slot (.object key kind)).faults e path =
    (e.fields.value key).object?.toList.flatMap fun g =>
      Entry.faults ⟨kind, g⟩ ((e.here path).join key) :=
  flatMap_object ..

/-- The faults of an object in the list of operators; one of an unknown name has none. -/
def operatorFaults (fields : Fields) (path : Path) : List Fault :=
  if Operator.isName (fields.value "name") then
    Entry.faults ⟨Entry.operatorKind fields, fields⟩ path
  else []

@[simp] theorem faults_operators : (slot .operators).faults e path =
    (e.fields.located "operators" (e.here path)).flatMap fun x => operatorFaults x.1 x.2 :=
  flatMap_operators ..

theorem flatMap_faults_type (v : Json) (path : Path) :
    (v.object?.toList.flatMap fun g => (Site.type g path).faults) = v.typeFaults path := by
  cases v with
  | obj g => exact (List.flatMap_singleton ..).trans (Site.faults_type g path)
  | _ => rfl

@[simp] theorem faults_type : (type key).faults e path =
    (e.fields.value key).typeFaults ((e.here path).join key) :=
  (flatMap_type ..).trans (flatMap_faults_type ..)

@[simp] theorem faults_default : default.faults e path =
    (e.fields.value "default").typeFaults (e.here path ++ ".default") :=
  (flatMap_default ..).trans (flatMap_faults_type ..)

end Part

/-- The faults of an entry itself. -/
@[simp] theorem Site.ownFaults_entry (kind : Entity.Kind) (fields : Fields) (path : Path) :
    (Site.entry ⟨kind, fields⟩ path).ownFaults =
      match kind.required? with
      | some key => if (fields.value key).isNull then [.missingField key path none] else []
      | none => [] := rfl

/-- A member has the faults of the common part, and then those of its further parts. -/
theorem Entry.faults_of_member (kind : Entity.Kind) {fields : Fields} {path : Path}
    {parts : List Part} (hrequired : kind.required? = some "name")
    (hparts : kind.parts = .images :: parts) :
    Entry.faults ⟨kind, fields⟩ path =
      Entry.faults ⟨.member, fields⟩ path ++ parts.flatMap (Part.faults ⟨kind, fields⟩ path) := by
  rw [Entry.faults_eq, Entry.faults_eq, hparts, List.flatMap_cons, ← List.append_assoc,
    Site.ownFaults_entry, Site.ownFaults_entry, hrequired, Entity.Kind.parts,
    List.flatMap_singleton]
  simp only [Part.faults_images]
  rfl

/-! ## Entities -/

section Kinds

variable (debug : Bool) (fields : Fields) (path : Path)

theorem Image.read_reports :
    (Image.read fields path).Reports (Entry.faults ⟨.image, fields⟩ path) (ofFields fields) := by
  refine ((fields.require_reports "filename" path).map _).of_eq ?_
  simp [Entry.faults_eq]

theorem Member.read_reports :
    (Member.read debug fields path).Reports (Entry.faults ⟨.member, fields⟩ path)
      (ofFields fields) := by
  refine ((fields.require_reports "name" path).bind <|
    (fields.description_reports debug "description" path).always <|
    (fields.strings?_reports debug "lists" path).always <|
    (fields.strings?_reports debug "examples" path).always <|
    (Fields.list?_reports fun g _ path => Image.read_reports g path).map _).of_eq ?_
  simp [Entry.faults_eq]

theorem Property.readDefault_reports :
    (readDefault fields path).Reports ((fields.value "default").typeFaults (path ++ ".default"))
      (Default.ofJson? (fields.value "default")) := by
  rw [readDefault]
  cases hv : fields.value "default" with
  | obj g =>
    refine bind_type_reports fun t ht => ?_
    rw [Default.ofJson?, ht]
    cases t <;> rfl
  | _ => exact .pure _

theorem Property.read_reports :
    (Property.read debug fields path).Reports (Entry.faults ⟨.property, fields⟩ path)
      (ofFields fields) := by
  refine ((Member.read_reports debug fields path).bind <|
    (fields.strings?_reports debug "visibility" _).always <|
    (fields.type?_reports debug "type" _).bind <|
    (readDefault_reports fields _).map _).of_eq ?_
  rw [Entry.faults_of_member .property rfl rfl]
  simp [Entry.here, Member.path, Member.ofFields]

theorem Concept.readBody_reports :
    (readBody debug fields path).Reports ((fields.value "type").typeFaults (path.join "type"))
      (Body.ofJson? (fields.value "type")) := by
  have htype := (fields.type?_reports debug "type" path).map (Option.map Body.type)
  rw [readBody]
  cases hv : fields.value "type" with
  | str s =>
    rw [hv] at htype
    show (if s = builtinWord then _ else _ : Reading (Option Body)).Reports _
      (if s = builtinWord then _ else _)
    split
    · exact .pure _
    · exact htype
  | _ =>
    rw [hv] at htype
    exact htype

theorem Concept.read_reports :
    (Concept.read debug fields path).Reports (Entry.faults ⟨.concept, fields⟩ path)
      (ofFields fields) := by
  refine ((Member.read_reports debug fields path).bind <|
    (readBody_reports debug fields _).bind <|
    (Fields.list?_reports fun g _ path => Property.read_reports debug g path).map _).of_eq ?_
  rw [Entry.faults_of_member .concept rfl rfl]
  simp [Entry.here, Member.path, Member.ofFields]

theorem Prototype.read_reports :
    (Prototype.read debug fields path).Reports (Entry.faults ⟨.prototype, fields⟩ path)
      (ofFields fields) := by
  refine ((Member.read_reports debug fields path).bind <|
    (fields.strings?_reports debug "visibility" _).always <|
    (Fields.list_reports fun g _ path => Property.read_reports debug g path).map _).of_eq ?_
  rw [Entry.faults_of_member .prototype rfl rfl]
  simp [Entry.here, Member.path, Member.ofFields]

theorem DefineValue.read_reports :
    (DefineValue.read debug fields path).Reports (Entry.faults ⟨.defineValue, fields⟩ path)
      (ofFields fields) := by
  refine ((fields.require_reports "name" path).bind <|
    (fields.description_reports debug "description" path).map _).of_eq ?_
  simp [Entry.faults_eq]

/-- The reader of defines calls itself on the subkeys, which are smaller objects. -/
theorem Define.read_reports :
    (Define.read debug fields path).Reports (Entry.faults ⟨.define, fields⟩ path)
      (ofFields fields) := by
  induction fields using (measure (sizeOf : Fields → Nat)).wf.induction generalizing path with
  | _ fields ih =>
  have hsubkeys : ∀ g ∈ fields.objects "subkeys", ∀ path,
      (Define.read debug g path).Reports (Entry.faults ⟨.define, g⟩ path) (ofFields g) :=
    fun g hg path => ih g (Fields.sizeOf_lt_of_mem_objects hg) path
  rw [read_eq, ofFields_eq]
  refine ((Member.read_reports debug fields path).bind <|
    (Fields.list?_reports fun g _ path => DefineValue.read_reports debug g path).bind <|
    (Fields.list?_reports hsubkeys).map _).of_eq ?_
  rw [Entry.faults_of_member .define rfl rfl]
  simp [Entry.here, Member.path, Member.ofFields]

theorem Parameter.readNamed_reports (name : Name) :
    (readNamed debug name fields path).Reports ((fields.value "type").typeFaults (path.join "type"))
      (ofNamed name fields) :=
  (fields.description_reports debug "description" path).always <|
    (fields.type?_reports debug "type" path).map _

theorem Parameter.read_reports :
    (Parameter.read debug fields path).Reports (Entry.faults ⟨.parameter, fields⟩ path)
      (ofFields fields) := by
  refine ((fields.require_reports "name" path).bind <|
    readNamed_reports debug fields _ _).of_eq ?_
  simp [Entry.faults_eq, Entry.here]

theorem Parameter.readReturned_reports :
    (readReturned debug fields path).Reports (Entry.faults ⟨.returnValue, fields⟩ path)
      (ofReturned fields) := by
  refine (readNamed_reports debug fields path _).of_eq ?_
  simp [Entry.faults_eq, Entry.here]

theorem ParameterGroup.read_reports :
    (ParameterGroup.read debug fields path).Reports (Entry.faults ⟨.parameterGroup, fields⟩ path)
      (ofFields fields) := by
  refine ((fields.require_reports "name" path).bind <|
    (fields.description_reports debug "description" path).always <|
    (Fields.list_reports fun g _ path => Parameter.read_reports debug g path).map _).of_eq ?_
  simp [Entry.faults_eq, Entry.here]

theorem VariadicParameter.read_reports :
    (VariadicParameter.read debug fields path).Reports
      (Entry.faults ⟨.variadicParameter, fields⟩ path) (ofFields fields) := by
  refine ((fields.type?_reports debug "type" path).bind <|
    (fields.description_reports debug "description" path).map _).of_eq ?_
  simp [Entry.faults_eq, Entry.here]

theorem EventRaised.read_reports :
    (EventRaised.read debug fields path).Reports (Entry.faults ⟨.eventRaised, fields⟩ path)
      (ofFields fields) := by
  refine ((fields.require_reports "name" path).bind <|
    (fields.description_reports debug "description" path).map _).of_eq ?_
  simp [Entry.faults_eq]

theorem Event.read_reports :
    (Event.read debug fields path).Reports (Entry.faults ⟨.event, fields⟩ path)
      (ofFields fields) := by
  refine ((Member.read_reports debug fields path).bind <|
    (Fields.list_reports fun g _ path => Parameter.read_reports debug g path).map _).of_eq ?_
  rw [Entry.faults_of_member .event rfl rfl]
  simp [Entry.here, Member.path, Member.ofFields]

theorem Attribute.read_reports :
    (Attribute.read debug fields path).Reports (Entry.faults ⟨.attribute, fields⟩ path)
      (ofFields fields) := by
  refine ((Member.read_reports debug fields path).bind <|
    (fields.strings?_reports debug "visibility" _).always <|
    (Fields.list?_reports fun g _ path => EventRaised.read_reports debug g path).bind <|
    (fields.strings?_reports debug "subclasses" _).always <|
    (fields.type?_reports debug "read_type" _).bind <|
    (fields.type?_reports debug "write_type" _).map _).of_eq ?_
  rw [Entry.faults_of_member .attribute rfl rfl]
  simp [Entry.here, Member.path, Member.ofFields]

theorem Method.readVariadic_reports :
    (readVariadic debug fields path).Reports
      ((fields.value "variadic_parameter").object?.toList.flatMap fun g =>
        Entry.faults ⟨.variadicParameter, g⟩ (path.join "variadic_parameter"))
      ((fields.value "variadic_parameter").object?.map VariadicParameter.ofFields) := by
  rw [readVariadic]
  cases fields.value "variadic_parameter" with
  | obj g =>
    have hg := VariadicParameter.read_reports debug g (path.join "variadic_parameter")
    exact (hg.map some).of_eq (List.flatMap_singleton ..).symm
  | _ => exact .pure none

theorem Method.read_reports :
    (Method.read debug fields path).Reports (Entry.faults ⟨.method, fields⟩ path)
      (ofFields fields) := by
  refine ((Member.read_reports debug fields path).bind <|
    (fields.strings?_reports debug "visibility" _).always <|
    (Fields.list?_reports fun g _ path => EventRaised.read_reports debug g path).bind <|
    (fields.strings?_reports debug "subclasses" _).always <|
    (Fields.list?_reports fun g _ path => Parameter.read_reports debug g path).bind <|
    (Fields.list?_reports fun g _ path => ParameterGroup.read_reports debug g path).bind <|
    (readVariadic_reports debug fields _).bind <|
    (Fields.list?_reports fun g _ path => Parameter.readReturned_reports debug g path).map
      _).of_eq ?_
  rw [Entry.faults_of_member .method rfl rfl]
  simp [Entry.here, Member.path, Member.ofFields]

/-- An operator of an unknown name is passed over without a look at its faults. -/
theorem Operator.read?_reports :
    (read? debug fields path).Reports (Part.operatorFaults fields path) (ofFields? fields) := by
  rw [read?, ofFields?, Part.operatorFaults, Entry.operatorKind]
  by_cases hn : isName (fields.value "name") = true
  · rw [if_pos hn, if_pos hn, if_pos hn]
    by_cases hm : isMethod fields = true
    · rw [if_pos hm, if_pos hm, if_pos hm]
      exact (Method.read_reports debug fields path).map _
    · rw [if_neg hm, if_neg hm, if_neg hm]
      exact (Attribute.read_reports debug fields path).map _
  · rw [if_neg hn, if_neg hn, if_neg hn]
    exact (Reports.note _).map _

/-- After the common part a class is asked for its operators, then for methods and attributes. -/
theorem Class.read_reports :
    (Class.read debug fields path).Reports (Entry.faults ⟨.luaClass, fields⟩ path)
      (ofFields fields) := by
  refine ((Member.read_reports debug fields path).bind <|
    (Fields.list_reports fun g _ path => Operator.read?_reports debug g path).bind <|
    (fields.strings?_reports debug "visibility" _).always <|
    (Fields.list_reports fun g _ path => Method.read_reports debug g path).bind <|
    (Fields.list_reports fun g _ path => Attribute.read_reports debug g path).map _).of_eq ?_
  rw [Entry.faults_of_member .luaClass rfl rfl]
  simp [Entry.here, Member.path, Member.ofFields]

theorem GlobalObject.read_reports :
    (GlobalObject.read debug fields path).Reports (Entry.faults ⟨.globalObject, fields⟩ path)
      (ofFields fields) := by
  refine ((fields.require_reports "name" path).bind <|
    (fields.description_reports debug "description" path).always <|
    (fields.type?_reports debug "type" _).map _).of_eq ?_
  simp [Entry.faults_eq, Entry.here]

/-! ## Documents -/

theorem RuntimeApi.read_reports :
    (RuntimeApi.read debug fields).Reports (Entry.faults ⟨.runtimeApi, fields⟩ "")
      (ofFields fields) := by
  refine ((Fields.list_reports fun g _ path => Class.read_reports debug g path).bind <|
    (Fields.list_reports fun g _ path => Event.read_reports debug g path).bind <|
    (Fields.list_reports fun g _ path => Concept.read_reports debug g path).bind <|
    (Fields.list_reports fun g _ path => Define.read_reports debug g path).bind <|
    (Fields.list_reports fun g _ path => GlobalObject.read_reports debug g path).bind <|
    (Fields.list_reports fun g _ path => Method.read_reports debug g path).map _).of_eq ?_
  rw [Entry.faults_eq ⟨.runtimeApi, fields⟩]
  simp only [Entity.Kind.parts, List.flatMap_cons, List.flatMap_nil, Part.faults_list,
    List.append_nil]
  rfl

theorem PrototypeApi.read_reports :
    (PrototypeApi.read debug fields).Reports (Entry.faults ⟨.prototypeApi, fields⟩ "")
      (ofFields fields) := by
  refine ((Fields.list_reports fun g _ path => Prototype.read_reports debug g path).bind <|
    (Fields.list_reports fun g _ path => Concept.read_reports debug g path).map _).of_eq ?_
  simp [Entry.faults_eq, Entry.here]

end Kinds

namespace Document

variable {debug : Bool} {fields : Fields}

theorem read_runtime_reports (h : fields.value "stage" = .str RuntimeApi.stage) :
    (read debug (.obj fields)).Reports (Entry.faults ⟨.runtimeApi, fields⟩ "")
      (.runtime (.ofFields fields)) := by
  rw [read, h]
  exact ((RuntimeApi.read_reports debug fields).bind <| (Reports.note _).map _).of_eq
    (List.append_nil _)

theorem read_prototype_reports (h : fields.value "stage" = .str PrototypeApi.stage) :
    (read debug (.obj fields)).Reports (Entry.faults ⟨.prototypeApi, fields⟩ "")
      (.prototype (.ofFields fields)) := by
  rw [read, h]
  exact ((PrototypeApi.read_reports debug fields).bind <| (Reports.note _).map _).of_eq
    (List.append_nil _)

/-- A document of an unknown stage is refused for its stage alone. -/
theorem read_unknown_stage (hr : fields.value "stage" ≠ .str RuntimeApi.stage)
    (hp : fields.value "stage" ≠ .str PrototypeApi.stage) :
    read debug (.obj fields) = Reading.fail (.unknownStage (fields.value "stage")) := by
  rw [read]
  cases hs : fields.value "stage" with
  | str stage =>
    rw [hs] at hr hp
    show (if stage = _ then _ else if stage = _ then _ else _ : Reading Document) = _
    rw [if_neg fun h => hr (congrArg Json.str h), if_neg fun h => hp (congrArg Json.str h)]
  | _ => rfl

/-- A document of a known stage is refused with its first fault. -/
theorem read_outcome_eq_error_iff {d : Json} {root : Entry} (h : Entry.ofDocument? d = some root)
    {fault : Fault} :
    (read debug d).outcome = .error fault ↔ (root.faults "").head? = some fault := by
  obtain ⟨fields, rfl, ⟨hs, rfl⟩ | ⟨hs, rfl⟩⟩ := Entry.ofDocument?_eq_some_iff.1 h
  · exact (read_runtime_reports hs).outcome_eq_error_iff
  · exact (read_prototype_reports hs).outcome_eq_error_iff

/-- What is no object of a known stage is refused as such, and nothing is noted. -/
theorem read_of_ofDocument?_eq_none (debug : Bool) {d : Json} (h : Entry.ofDocument? d = none) :
    read debug d = Reading.fail (.notADocument d) ∨
      ∃ stage, read debug d = Reading.fail (.unknownStage stage) := by
  cases d with
  | obj fields =>
    have hunknown : ∀ root, Entry.ofDocument? (.obj fields) ≠ some root := by
      intro root hroot
      rw [h] at hroot
      cases hroot
    refine Or.inr ⟨_, read_unknown_stage (fun hs => ?_) fun hs => ?_⟩
    · exact hunknown _ (Entry.ofDocument?_eq_some_iff.2 ⟨fields, rfl, Or.inl ⟨hs, rfl⟩⟩)
    · exact hunknown _ (Entry.ofDocument?_eq_some_iff.2 ⟨fields, rfl, Or.inr ⟨hs, rfl⟩⟩)
  | _ => exact Or.inl rfl

end Document
end ApiReference
