import ApiReference.Proofs.Document.Optional

/-!
# Objects that a reader does not tell apart

What an object describes depends on nothing but the required field and the optional ones, and on
these only as far as the kind of the entity looks at them. `Entity.Kind.Agree` says of two objects
that they are the same in this respect: equal where a field is required, alike in shape where a
plain value is asked for, and describing the same entities where a field holds entities. Objects
that agree describe the same entity, which is one lemma `ofFields_congr` for each kind.

The relation goes one level down and no further. Where a field holds entities, it asks for these to
be described alike, and does not say how they came to be; so a proof that changes an object deep
inside a document goes outwards one level at a time, and at each level only one field is different.

The same is done for faults. That two objects with the same fields in this sense have the same
faults is too little, since a deletion may move the positions in the paths of faults. `Stable` is
what the two uses have in common: a relation between lists of faults that can be shown part by part.
One use takes equality for it, the other that the second list is empty if the first one is.

## What is here

* `Entity.Kind.Agree.ofFields?_eq`: objects that agree describe the same entity.
* `Stable`: a relation between the faults of two objects that goes through part by part.
* `Entity.Kind.Agree.faults`: such a relation holds of all faults together if it holds field by
  field.
-/

set_option autoImplicit false

namespace ApiReference

open Entity (Kind)

/-! ## What an object describes, by its role

Entities of different kinds come from functions of different types. To say of a list of objects that
it describes the same entities, whatever their kind, they are all brought into one type. -/

/-- The entity of a kind that an object describes. For a document the stage must be settled; a type
is not described by separate fields. -/
def Entity.ofFields? : Kind → Fields → Option Entity
  | .image, fields => some (.image (.ofFields fields))
  | .member, fields => some (.member (.ofFields fields))
  | .concept, fields => some (.concept (.ofFields fields))
  | .property, fields => some (.property (.ofFields fields))
  | .define, fields => some (.define (.ofFields fields))
  | .defineValue, fields => some (.defineValue (.ofFields fields))
  | .prototype, fields => some (.prototype (.ofFields fields))
  | .luaClass, fields => some (.luaClass (.ofFields fields))
  | .method, fields => some (.method (.ofFields fields))
  | .attribute, fields => some (.attribute (.ofFields fields))
  | .parameter, fields => some (.parameter (.ofFields fields))
  | .returnValue, fields => some (.parameter (.ofReturned fields))
  | .parameterGroup, fields => some (.parameterGroup (.ofFields fields))
  | .variadicParameter, fields => some (.variadicParameter (.ofFields fields))
  | .methodFormat, fields => some (.methodFormat (.ofJson (.obj fields)))
  | .timeframe, fields => some (.timeframe (.ofJson (.obj fields)))
  | .eventRaised, fields => some (.eventRaised (.ofFields fields))
  | .event, fields => some (.event (.ofFields fields))
  | .globalObject, fields => some (.globalObject (.ofFields fields))
  | .runtimeApi, fields => some (.document (.runtime (.ofFields fields)))
  | .prototypeApi, fields => some (.document (.prototype (.ofFields fields)))
  | .document, _ => none
  | .type, _ => none

/-- An operator as the entity that it is. -/
def Operator.entity : Operator → Entity
  | .method m => .method m
  | .attribute a => .attribute a

theorem Operator.entity_injective : Function.Injective entity := by
  intro x y h
  cases x <;> cases y <;> cases h <;> rfl

namespace Role

/-- The kind of the entity that an object describes. -/
def kind : Role → Fields → Kind
  | .entity kind, _ => kind
  | .operator, fields => Entry.operatorKind fields

/-- The entity that an object describes. An operator of an unknown name is none. -/
def ofFields? : Role → Fields → Option Entity
  | .entity kind, fields => Entity.ofFields? kind fields
  | .operator, fields => (Operator.ofFields? fields).map Operator.entity

/-- What the objects of a list describe, if there is a list. -/
def items? (role : Role) : Json → Option (List (Option Entity))
  | .arr items => some ((items.filterMap Json.object?).map role.ofFields?)
  | _ => none

end Role

/-- Two values of an optional field that make no difference to what the object describes. -/
def Content.Same : Content → Json → Json → Prop
  | .plain shape, v, w => shape.Alike v w
  | .type, v, w => Shape.type.Alike v w
  | .list role, v, w => role.items? v = role.items? w
  | .object kind, v, w =>
    v.object?.map (Entity.ofFields? kind) = w.object?.map (Entity.ofFields? kind)

/-- A value makes no difference to itself. -/
theorem Content.Same.refl (content : Content) (v : Json) : content.Same v v := by
  cases content with
  | plain shape => exact Shape.Alike.refl shape v
  | type => exact Shape.Alike.refl _ v
  | list role => exact rfl
  | object kind => exact rfl

/-- A value that does not have the shape of the field is like no value at all. -/
theorem Content.Same.of_unfit {content : Content} {v w : Json}
    (hv : content.shape.fits v = false) (hw : content.shape.fits w = false) :
    content.Same v w := by
  cases content with
  | plain shape => exact Or.inr ⟨hv, hw⟩
  | type => exact Or.inr ⟨hv, hw⟩
  | list role =>
    exact Shape.Alike.congr (Or.inr ⟨hv, hw⟩) role.items? fun u hu => by
      cases u with
      | arr items => cases hu
      | _ => rfl
  | object kind =>
    exact congrArg (Option.map (Entity.ofFields? kind)) (Shape.Alike.object? (Or.inr ⟨hv, hw⟩))

/-- Two objects that describe the same entity of a kind, field by field. -/
structure Entity.Kind.Agree (kind : Kind) (fields others : Fields) : Prop where
  required : ∀ key ∈ kind.required?, fields.value key = others.value key
  optional : ∀ x ∈ kind.optional, x.2.Same (fields.value x.1) (others.value x.1)

/-! ## The fields of objects that agree

One lemma for each way in which a field is asked for. With them each of the `ofFields_congr` goes
through the fields of its record. -/

/-- What an object is read as can be told from the entity that it describes. -/
def Role.Tells {α : Type} (role : Role) (of : Fields → α) : Prop :=
  ∀ a b, role.ofFields? a = role.ofFields? b → of a = of b

theorem Role.Tells.map_eq_map {α : Type} {role : Role} {of : Fields → α} (hof : role.Tells of)
    {as bs : List Fields} (h : as.map role.ofFields? = bs.map role.ofFields?) :
    as.map of = bs.map of := by
  rw [← List.forall₂_eq_eq_eq, List.forall₂_map_left_iff, List.forall₂_map_right_iff] at h ⊢
  exact h.imp hof

namespace Entity.Kind.Agree

variable {kind : Kind} {fields others : Fields} (h : kind.Agree fields others) (key : String)

include h

theorem value (hkey : kind.required? = some key) : fields.value key = others.value key :=
  h.required key hkey

theorem plain {shape : Shape} (hkey : (key, .plain shape) ∈ kind.optional) :
    shape.Alike (fields.value key) (others.value key) :=
  h.optional _ hkey

theorem type (hkey : (key, .type) ∈ kind.optional) :
    Shape.type.Alike (fields.value key) (others.value key) :=
  h.optional _ hkey

theorem string (hkey : (key, .plain .string) ∈ kind.optional) :
    (fields.value key).string = (others.value key).string :=
  (h.plain key hkey).string

theorem text? (hkey : (key, .plain .text) ∈ kind.optional) :
    fields.text? key = others.text? key :=
  (h.plain key hkey).text?

theorem flag (hkey : (key, .plain .flag) ∈ kind.optional) : fields.flag key = others.flag key :=
  (h.plain key hkey).isTruthy

theorem int? (hkey : (key, .plain .whole) ∈ kind.optional) : fields.int? key = others.int? key :=
  (h.plain key hkey).int?

theorem strings? (hkey : (key, .plain .list) ∈ kind.optional) :
    (fields.value key).strings? = (others.value key).strings? :=
  (h.plain key hkey).strings?

theorem type? (hkey : (key, .type) ∈ kind.optional) :
    (fields.value key).type? = (others.value key).type? :=
  (h.type key hkey).type?

theorem each? {α : Type} {role : Role} {of : Fields → α} (hof : role.Tells of)
    (hkey : (key, .list role) ∈ kind.optional) : fields.each? key of = others.each? key of := by
  have hsame : role.items? (fields.value key) = role.items? (others.value key) :=
    h.optional _ hkey
  rw [Fields.each?, Fields.each?, Fields.objects, Fields.objects]
  generalize fields.value key = v at hsame ⊢
  generalize others.value key = w at hsame ⊢
  cases v <;> cases w
  case arr.arr items others => exact congrArg some (hof.map_eq_map (Option.some.inj hsame))
  all_goals first | rfl | cases hsame

theorem each {α : Type} {role : Role} {of : Fields → α} (hof : role.Tells of)
    (hkey : (key, .list role) ∈ kind.optional) : fields.each key of = others.each key of := by
  rw [← Fields.each?_getD, ← Fields.each?_getD, h.each? key hof hkey]

/-- A field for an entity holds one that is read as the same. -/
theorem object? {α : Type} {inner : Kind} {of : Fields → α} (hof : (Role.entity inner).Tells of)
    (hkey : (key, .object inner) ∈ kind.optional) :
    (fields.value key).object?.map of = (others.value key).object?.map of := by
  have hsame : (fields.value key).object?.map (Entity.ofFields? inner) =
      (others.value key).object?.map (Entity.ofFields? inner) := h.optional _ hkey
  generalize (fields.value key).object? = v at hsame ⊢
  generalize (others.value key).object? = w at hsame ⊢
  cases v <;> cases w
  case some.some a b => exact congrArg some (hof a b (Option.some.inj hsame))
  all_goals first | rfl | cases hsame

/-- Objects that agree as entities of a kind agree as members, if the kind has what all members
have. -/
theorem member (hrequired : kind.required? = some "name") (hcommon : common ⊆ kind.optional) :
    Kind.member.Agree fields others where
  required := fun key hkey => h.required key (hrequired.trans hkey)
  optional := fun x hx => h.optional x (hcommon hx)

end Entity.Kind.Agree

/-! ## Entities -/

section Kinds

theorem Image.tells : (Role.entity .image).Tells ofFields :=
  fun _ _ h => Entity.image.inj (Option.some.inj h)

theorem Property.tells : (Role.entity .property).Tells ofFields :=
  fun _ _ h => Entity.property.inj (Option.some.inj h)

theorem Concept.tells : (Role.entity .concept).Tells ofFields :=
  fun _ _ h => Entity.concept.inj (Option.some.inj h)

theorem Prototype.tells : (Role.entity .prototype).Tells ofFields :=
  fun _ _ h => Entity.prototype.inj (Option.some.inj h)

theorem DefineValue.tells : (Role.entity .defineValue).Tells ofFields :=
  fun _ _ h => Entity.defineValue.inj (Option.some.inj h)

theorem Define.tells : (Role.entity .define).Tells ofFields :=
  fun _ _ h => Entity.define.inj (Option.some.inj h)

theorem Parameter.tells : (Role.entity .parameter).Tells ofFields :=
  fun _ _ h => Entity.parameter.inj (Option.some.inj h)

theorem Parameter.tells_returned : (Role.entity .returnValue).Tells ofReturned :=
  fun _ _ h => Entity.parameter.inj (Option.some.inj h)

theorem ParameterGroup.tells : (Role.entity .parameterGroup).Tells ofFields :=
  fun _ _ h => Entity.parameterGroup.inj (Option.some.inj h)

theorem VariadicParameter.tells : (Role.entity .variadicParameter).Tells ofFields :=
  fun _ _ h => Entity.variadicParameter.inj (Option.some.inj h)

theorem MethodFormat.tells : (Role.entity .methodFormat).Tells fun g => ofJson (.obj g) :=
  fun _ _ h => Entity.methodFormat.inj (Option.some.inj h)

theorem EventRaised.tells : (Role.entity .eventRaised).Tells ofFields :=
  fun _ _ h => Entity.eventRaised.inj (Option.some.inj h)

theorem Event.tells : (Role.entity .event).Tells ofFields :=
  fun _ _ h => Entity.event.inj (Option.some.inj h)

theorem Attribute.tells : (Role.entity .attribute).Tells ofFields :=
  fun _ _ h => Entity.attribute.inj (Option.some.inj h)

theorem Method.tells : (Role.entity .method).Tells ofFields :=
  fun _ _ h => Entity.method.inj (Option.some.inj h)

theorem Operator.tells : Role.operator.Tells ofFields? :=
  fun _ _ h => Option.map_injective entity_injective h

theorem Class.tells : (Role.entity .luaClass).Tells ofFields :=
  fun _ _ h => Entity.luaClass.inj (Option.some.inj h)

theorem GlobalObject.tells : (Role.entity .globalObject).Tells ofFields :=
  fun _ _ h => Entity.globalObject.inj (Option.some.inj h)

variable {fields others : Fields}

theorem Image.ofFields_congr (h : Kind.image.Agree fields others) :
    ofFields fields = ofFields others := by
  rw [ofFields, ofFields, h.value "filename" rfl, h.text? "caption" (by decide)]

theorem Member.ofFields_congr (h : Kind.member.Agree fields others) :
    ofFields fields = ofFields others := by
  rw [ofFields, ofFields, h.value "name" rfl, h.int? "order" (by decide),
    h.string "description" (by decide), h.strings? "lists" (by decide),
    h.strings? "examples" (by decide),
    h.each? "images" Image.tells (by decide)]

theorem Property.ofFields_congr (h : Kind.property.Agree fields others) :
    ofFields fields = ofFields others := by
  rw [ofFields, ofFields, Member.ofFields_congr (h.member rfl (by decide)),
    h.strings? "visibility" (by decide), h.text? "alt_name" (by decide),
    h.flag "override" (by decide), h.type? "type" (by decide), h.flag "optional" (by decide),
    (h.type "default" (by decide)).default?]

theorem Concept.ofFields_congr (h : Kind.concept.Agree fields others) :
    ofFields fields = ofFields others := by
  rw [ofFields, ofFields, Member.ofFields_congr (h.member rfl (by decide)),
    h.text? "parent" (by decide), h.flag "abstract" (by decide), h.flag "inline" (by decide),
    (h.type "type" (by decide)).body?,
    h.each? "properties" Property.tells (by decide)]

theorem Prototype.ofFields_congr (h : Kind.prototype.Agree fields others) :
    ofFields fields = ofFields others := by
  rw [ofFields, ofFields, Member.ofFields_congr (h.member rfl (by decide)),
    h.strings? "visibility" (by decide), h.text? "parent" (by decide),
    h.flag "abstract" (by decide), h.text? "typename" (by decide),
    h.int? "instance_limit" (by decide), h.flag "deprecated" (by decide),
    h.each "properties" Property.tells (by decide),
    (h.plain "custom_properties" (by decide)).fieldsOf?]

theorem DefineValue.ofFields_congr (h : Kind.defineValue.Agree fields others) :
    ofFields fields = ofFields others := by
  rw [ofFields, ofFields, h.value "name" rfl, h.int? "order" (by decide),
    h.string "description" (by decide)]

theorem Define.ofFields_congr (h : Kind.define.Agree fields others) :
    ofFields fields = ofFields others := by
  rw [ofFields_eq fields, ofFields_eq others, Member.ofFields_congr (h.member rfl (by decide)),
    h.each? "values" DefineValue.tells (by decide),
    h.each? "subkeys" Define.tells (by decide)]

theorem Parameter.ofFields_congr (h : Kind.parameter.Agree fields others) :
    ofFields fields = ofFields others := by
  rw [ofFields, ofFields, ofNamed, ofNamed, h.value "name" rfl, h.int? "order" (by decide),
    h.string "description" (by decide), h.type? "type" (by decide), h.flag "optional" (by decide)]

theorem Parameter.ofReturned_congr (h : Kind.returnValue.Agree fields others) :
    ofReturned fields = ofReturned others := by
  rw [ofReturned, ofReturned, ofNamed, ofNamed, h.text? "name" (by decide),
    h.int? "order" (by decide), h.string "description" (by decide), h.type? "type" (by decide),
    h.flag "optional" (by decide)]

theorem ParameterGroup.ofFields_congr (h : Kind.parameterGroup.Agree fields others) :
    ofFields fields = ofFields others := by
  rw [ofFields, ofFields, h.value "name" rfl, h.int? "order" (by decide),
    h.string "description" (by decide),
    h.each "parameters" Parameter.tells (by decide)]

theorem VariadicParameter.ofFields_congr (h : Kind.variadicParameter.Agree fields others) :
    ofFields fields = ofFields others := by
  rw [ofFields, ofFields, h.type? "type" (by decide), h.string "description" (by decide)]

theorem MethodFormat.ofObject_congr (h : Kind.methodFormat.Agree fields others) :
    ofJson (.obj fields) = ofJson (.obj others) := by
  exact congrArg₂ MethodFormat.mk (h.flag "takes_table" (by decide))
    (h.plain "table_optional" (by decide)).tableOptional

/-- What is no object describes the usual format. -/
theorem MethodFormat.ofJson_eq (v : Json) :
    ofJson v = (v.object?.map fun g => ofJson (.obj g)).getD {} := by
  cases v <;> rfl

theorem EventRaised.ofFields_congr (h : Kind.eventRaised.Agree fields others) :
    ofFields fields = ofFields others := by
  rw [ofFields, ofFields, h.value "name" rfl, h.int? "order" (by decide),
    h.string "description" (by decide), h.flag "optional" (by decide),
    (h.plain "timeframe" (by decide)).timeframe]

theorem Event.ofFields_congr (h : Kind.event.Agree fields others) :
    ofFields fields = ofFields others := by
  rw [ofFields, ofFields, Member.ofFields_congr (h.member rfl (by decide)),
    h.each "data" Parameter.tells (by decide),
    h.text? "filter" (by decide)]

theorem Attribute.ofFields_congr (h : Kind.attribute.Agree fields others) :
    ofFields fields = ofFields others := by
  rw [ofFields, ofFields, Member.ofFields_congr (h.member rfl (by decide)),
    h.strings? "visibility" (by decide), h.strings? "subclasses" (by decide),
    h.each? "raises" EventRaised.tells (by decide),
    h.type? "read_type" (by decide), h.type? "write_type" (by decide),
    h.flag "optional" (by decide)]

theorem Method.ofFields_congr (h : Kind.method.Agree fields others) :
    ofFields fields = ofFields others := by
  rw [ofFields, ofFields, Member.ofFields_congr (h.member rfl (by decide)),
    h.strings? "visibility" (by decide), h.strings? "subclasses" (by decide),
    h.each? "raises" EventRaised.tells (by decide),
    h.each? "parameters" Parameter.tells (by decide),
    h.each? "variant_parameter_groups"
      ParameterGroup.tells (by decide),
    h.text? "variant_parameter_description" (by decide),
    h.object? "variadic_parameter" VariadicParameter.tells (by decide), MethodFormat.ofJson_eq,
    MethodFormat.ofJson_eq, h.object? "format" MethodFormat.tells (by decide),
    h.each? "return_values" Parameter.tells_returned (by decide)]

theorem Class.ofFields_congr (h : Kind.luaClass.Agree fields others) :
    ofFields fields = ofFields others := by
  rw [ofFields, ofFields, Member.ofFields_congr (h.member rfl (by decide)),
    h.strings? "visibility" (by decide), h.text? "parent" (by decide),
    h.flag "abstract" (by decide),
    h.each "methods" Method.tells (by decide),
    h.each "attributes" Attribute.tells (by decide),
    h.each "operators" Operator.tells (by decide)]

theorem GlobalObject.ofFields_congr (h : Kind.globalObject.Agree fields others) :
    ofFields fields = ofFields others := by
  rw [ofFields, ofFields, h.value "name" rfl, h.int? "order" (by decide),
    h.string "description" (by decide), h.type? "type" (by decide)]

theorem Header.ofFields_congr {kind : Kind} (h : kind.Agree fields others)
    (hheader : Kind.header ⊆ kind.optional) : ofFields fields = ofFields others := by
  rw [ofFields, ofFields, h.text? "application" (hheader (by decide)),
    h.text? "application_version" (hheader (by decide)),
    h.int? "api_version" (hheader (by decide))]

theorem RuntimeApi.ofFields_congr (h : Kind.runtimeApi.Agree fields others) :
    ofFields fields = ofFields others := by
  rw [ofFields, ofFields, Header.ofFields_congr h (by decide),
    h.each "classes" Class.tells (by decide),
    h.each "events" Event.tells (by decide),
    h.each "concepts" Concept.tells (by decide),
    h.each "defines" Define.tells (by decide),
    h.each "global_objects" GlobalObject.tells (by decide),
    h.each "global_functions" Method.tells (by decide)]

theorem PrototypeApi.ofFields_congr (h : Kind.prototypeApi.Agree fields others) :
    ofFields fields = ofFields others := by
  rw [ofFields, ofFields, Header.ofFields_congr h (by decide),
    h.each "prototypes" Prototype.tells (by decide),
    h.each "types" Concept.tells (by decide)]

/-- **Objects that agree describe the same entity.** -/
theorem Entity.Kind.Agree.ofFields?_eq {kind : Kind} (h : kind.Agree fields others) :
    Entity.ofFields? kind fields = Entity.ofFields? kind others := by
  cases kind with
  | image => exact congrArg (some <| Entity.image ·) (Image.ofFields_congr h)
  | member => exact congrArg (some <| Entity.member ·) (Member.ofFields_congr h)
  | concept => exact congrArg (some <| Entity.concept ·) (Concept.ofFields_congr h)
  | property => exact congrArg (some <| Entity.property ·) (Property.ofFields_congr h)
  | define => exact congrArg (some <| Entity.define ·) (Define.ofFields_congr h)
  | defineValue => exact congrArg (some <| Entity.defineValue ·) (DefineValue.ofFields_congr h)
  | prototype => exact congrArg (some <| Entity.prototype ·) (Prototype.ofFields_congr h)
  | luaClass => exact congrArg (some <| Entity.luaClass ·) (Class.ofFields_congr h)
  | method => exact congrArg (some <| Entity.method ·) (Method.ofFields_congr h)
  | «attribute» => exact congrArg (some <| Entity.attribute ·) (Attribute.ofFields_congr h)
  | parameter => exact congrArg (some <| Entity.parameter ·) (Parameter.ofFields_congr h)
  | returnValue => exact congrArg (some <| Entity.parameter ·) (Parameter.ofReturned_congr h)
  | parameterGroup =>
    exact congrArg (some <| Entity.parameterGroup ·) (ParameterGroup.ofFields_congr h)
  | variadicParameter =>
    exact congrArg (some <| Entity.variadicParameter ·) (VariadicParameter.ofFields_congr h)
  | methodFormat => exact congrArg (some <| Entity.methodFormat ·) (MethodFormat.ofObject_congr h)
  | timeframe => rfl
  | eventRaised => exact congrArg (some <| Entity.eventRaised ·) (EventRaised.ofFields_congr h)
  | event => exact congrArg (some <| Entity.event ·) (Event.ofFields_congr h)
  | globalObject => exact congrArg (some <| Entity.globalObject ·) (GlobalObject.ofFields_congr h)
  | runtimeApi =>
    exact congrArg (some <| Entity.document <| .runtime ·) (RuntimeApi.ofFields_congr h)
  | prototypeApi =>
    exact congrArg (some <| Entity.document <| .prototype ·) (PrototypeApi.ofFields_congr h)
  | document => rfl
  | type => rfl

end Kinds

/-! ## Faults, field by field

Faults are listed by parts, which a reader asks for in order; agreement is said by fields, which are
in a table. A part is found in a field, and its faults are those of that field. -/

/-- The faults of an object. An operator of an unknown name has none. -/
def Role.faults : Role → Fields → Path → List Fault
  | .entity kind, fields, path => Entry.faults ⟨kind, fields⟩ path
  | .operator, fields, path => Part.operatorFaults fields path

/-- The faults of the objects among the items of a list. -/
def Role.itemFaults (role : Role) (items : List Json) (path : Path) : List Fault :=
  (items.zipIdx.filterMap fun v => v.1.object?.map fun g => (g, path.item v.2)).flatMap
    fun x => role.faults x.1 x.2

/-- The faults that a field has if it holds the value; `path` is the field's. -/
def Content.faults : Content → Json → Path → List Fault
  | .plain _, _, _ => []
  | .type, v, path => v.typeFaults path
  | .list role, v, path => role.itemFaults v.items path
  | .object kind, v, path => v.object?.toList.flatMap fun g => Entry.faults ⟨kind, g⟩ path

/-- A value that does not have the shape of the field has no faults in it. -/
theorem Content.faults_eq_nil_of_unfit {content : Content} {v : Json}
    (h : content.shape.fits v = false) (path : Path) : content.faults v path = [] := by
  cases content with
  | plain shape => rfl
  | type => exact Shape.Alike.typeFaults (Or.inr ⟨h, Shape.fits_null .type⟩) path
  | list role =>
    rw [faults, Shape.Alike.items (Or.inr ⟨h, Shape.fits_null .list⟩)]
    rfl
  | object kind =>
    rw [faults, Shape.Alike.object? (Or.inr ⟨h, Shape.fits_null .object⟩)]
    rfl

/-- The path at which the field of a part is found. -/
def Part.place (e : Entry) (path : Path) : Part → Path
  | .images => path.join "images"
  | .default => e.here path ++ ".default"
  | part => (e.here path).join part.field.1

/-- A part has the faults of the field in which it is found. -/
theorem Part.faults_eq_field (e : Entry) (path : Path) (part : Part) :
    part.faults e path =
      part.field.2.faults (e.fields.value part.field.1) (part.place e path) := by
  cases part with
  | images => exact faults_images
  | slot s =>
    cases s with
    | list key kind => exact faults_list
    | object key kind => exact faults_object
    | operators => exact faults_operators
  | type key => exact faults_type
  | default => exact faults_default

/-- A relation between the faults of two objects that can be shown part by part. -/
structure Stable (ρ : List Fault → List Fault → Prop) : Prop where
  refl : ∀ faults, ρ faults faults
  append : ∀ {as bs cs ds}, ρ as bs → ρ cs ds → ρ (as ++ cs) (bs ++ ds)

namespace Stable

/-- Two objects have the same faults. -/
theorem eq : Stable fun as bs => as = bs where
  refl _ := rfl
  append h₁ h₂ := congrArg₂ (· ++ ·) h₁ h₂

/-- The second object has no faults if the first one has none. -/
theorem none : Stable fun as bs => as = [] → bs = [] where
  refl _ := id
  append h₁ h₂ h :=
    List.append_eq_nil_iff.2 ⟨h₁ (List.append_eq_nil_iff.1 h).1, h₂ (List.append_eq_nil_iff.1 h).2⟩

/-- A relation that can be shown part by part can be shown for all items of a list. -/
theorem flatMap {ρ : List Fault → List Fault → Prop} (hρ : Stable ρ) {α : Type} {as : List α}
    {f g : α → List Fault} (h : ∀ a ∈ as, ρ (f a) (g a)) : ρ (as.flatMap f) (as.flatMap g) := by
  induction as with
  | nil => exact hρ.refl []
  | cons a rest ih =>
    rw [List.forall_mem_cons] at h
    exact hρ.append h.1 (ih h.2)

end Stable

section Faults

variable {ρ : List Fault → List Fault → Prop} {kind : Kind} {fields others : Fields}

theorem Entity.Kind.Agree.here_eq (h : kind.Agree fields others) (path : Path) :
    (Entry.mk kind fields).here path = (Entry.mk kind others).here path := by
  rw [Entry.here, Entry.here]
  split
  · next hname => rw [h.value "name" hname]
  · rfl

theorem Entity.Kind.Agree.ownFaults_eq (h : kind.Agree fields others) (path : Path) :
    (Site.entry ⟨kind, fields⟩ path).ownFaults = (Site.entry ⟨kind, others⟩ path).ownFaults := by
  rw [Site.ownFaults_entry, Site.ownFaults_entry]
  cases hkey : kind.required? with
  | none => rfl
  | some key =>
    dsimp only
    rw [h.value key hkey]

/-- **The faults of objects that agree are related if those of their fields are.** -/
theorem Entity.Kind.Agree.faults (h : kind.Agree fields others) (hρ : Stable ρ)
    (hfields : ∀ x ∈ kind.optional, ∀ path,
      ρ (x.2.faults (fields.value x.1) path) (x.2.faults (others.value x.1) path)) (path : Path) :
    ρ (Entry.faults ⟨kind, fields⟩ path) (Entry.faults ⟨kind, others⟩ path) := by
  rw [Entry.faults_eq, Entry.faults_eq, h.ownFaults_eq]
  refine hρ.append (hρ.refl _) (hρ.flatMap fun part hpart => ?_)
  have hplace : part.place ⟨kind, fields⟩ path = part.place ⟨kind, others⟩ path := by
    cases part <;> simp only [Part.place, h.here_eq]
  rw [Part.faults_eq_field, Part.faults_eq_field, hplace]
  exact hfields part.field (kind.field_mem_optional part hpart) _

end Faults

end ApiReference
