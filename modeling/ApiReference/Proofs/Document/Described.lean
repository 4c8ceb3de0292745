import ApiReference.Document
import ApiReference.Proofs.Walk

/-!
# What an object describes

The readers of entities go along a path, stop at faults and leave notices. What they make of an
object that they accept is a function of the object alone, and is defined here for each kind of
entity: a field of the wrong shape counts as absent, and a list has an element for each object in
it, in order. Of an object that the readers refuse, these functions give some entity or other.

The functions are total and there is nothing monadic about them, so they can be unfolded and
compared. Two objects are shown to be read as the same entity by comparing two records; a field of
an entity is found by looking at one line. That the readers make the same of an accepted object is
shown once, in `ApiReference.Proofs.Document.Faults`, and from then on the readers do not occur in
proofs about entities.

Only defines are recursive here: everything else nests to a fixed depth. Their recursion is on the
size of the object, and `Define.ofFields_eq` is the equation without it.
-/

set_option autoImplicit false

namespace ApiReference

namespace Json

/-- The text of a string; any other value counts as the empty one. -/
def string : Json → String
  | .str s => s
  | _ => ""

/-- The texts of a list. -/
def strings? : Json → Option (List String)
  | .arr items => some (items.map inline)
  | _ => none

/-- The type that a value states: an object spells it, a text names it. -/
def type? : Json → Option TypeExpr
  | .obj fields => (TypeExpr.read (.obj fields) "").outcome.toOption
  | v => v.text?.map .name

end Json

namespace Fields

variable {α : Type}

/-- What the objects of a list describe, if there is a list. -/
def each? (fields : Fields) (key : String) (f : Fields → α) : Option (List α) :=
  match fields.value key with
  | .arr _ => some ((fields.objects key).map f)
  | _ => none

/-- What the objects of a list describe. -/
def each (fields : Fields) (key : String) (f : Fields → α) : List α :=
  (fields.objects key).map f

theorem each?_getD (fields : Fields) (key : String) (f : Fields → α) :
    (fields.each? key f).getD [] = fields.each key f := by
  rw [each?, each, objects]
  cases fields.value key <;> rfl

end Fields

/-! ## Members and their parts

A member has a common part, read from the same object as its other fields. -/

/-- The image that an object describes. -/
def Image.ofFields (fields : Fields) : Image where
  filename := fields.value "filename"
  caption := fields.text? "caption"

/-- The common part of the member that an object describes. -/
def Member.ofFields (fields : Fields) : Member where
  name := fields.value "name"
  order := fields.int? "order"
  description := (fields.value "description").string
  lists := (fields.value "lists").strings?
  examples := (fields.value "examples").strings?
  images := fields.each? "images" Image.ofFields

/-- The default value that a JSON value states. -/
def Property.Default.ofJson? : Json → Option Property.Default
  | .obj spelled =>
    match (Json.obj spelled).type? with
    | some (.literal value description) => some (.literal value description)
    | _ => none
  | v => v.text?.map .text

/-- The property that an object describes. -/
def Property.ofFields (fields : Fields) : Property where
  info := .ofFields fields
  visibility := (fields.value "visibility").strings?
  altName := fields.text? "alt_name"
  override := fields.flag "override"
  type := (fields.value "type").type?
  optional := fields.flag "optional"
  default := Default.ofJson? (fields.value "default")

/-- What a concept is, by the JSON value of its type. -/
def Concept.Body.ofJson? : Json → Option Concept.Body
  | .str s => if s = Concept.builtinWord then some .builtin else (Json.str s).type?.map .type
  | v => v.type?.map .type

/-- The concept that an object describes. -/
def Concept.ofFields (fields : Fields) : Concept where
  info := .ofFields fields
  parent := fields.text? "parent"
  abstract := fields.flag "abstract"
  inline := fields.flag "inline"
  body := Body.ofJson? (fields.value "type")
  properties := fields.each? "properties" Property.ofFields

/-- The prototype that an object describes. -/
def Prototype.ofFields (fields : Fields) : Prototype where
  info := .ofFields fields
  visibility := (fields.value "visibility").strings?
  parent := fields.text? "parent"
  abstract := fields.flag "abstract"
  typename := fields.text? "typename"
  instanceLimit := fields.int? "instance_limit"
  deprecated := fields.flag "deprecated"
  properties := fields.each "properties" Property.ofFields
  customProperties := fieldsOf? (fields.value "custom_properties")

/-- The value of a define that an object describes. -/
def DefineValue.ofFields (fields : Fields) : DefineValue where
  name := fields.value "name"
  order := fields.int? "order"
  description := (fields.value "description").string

/-- The define that an object describes. -/
def Define.ofFields (fields : Fields) : Define :=
  .mk (.ofFields fields) (fields.each? "values" DefineValue.ofFields)
    (match fields.value "subkeys" with
      | .arr _ => some ((fields.objects "subkeys").attach.map fun g => ofFields g.1)
      | _ => none)
termination_by sizeOf fields
decreasing_by exact Fields.sizeOf_lt_of_mem_objects g.2

/-- A define describes what its own fields do, and a define for each subkey. -/
theorem Define.ofFields_eq (fields : Fields) :
    ofFields fields = .mk (.ofFields fields) (fields.each? "values" DefineValue.ofFields)
      (fields.each? "subkeys" ofFields) := by
  rw [ofFields, List.attach_map_val]
  rfl

/-! ## Functions and what they take -/

/-- The parameter of the given name that an object describes. -/
def Parameter.ofNamed (name : Name) (fields : Fields) : Parameter where
  name := name
  order := fields.int? "order"
  description := (fields.value "description").string
  type := (fields.value "type").type?
  optional := fields.flag "optional"

/-- The parameter that an object describes. -/
def Parameter.ofFields (fields : Fields) : Parameter :=
  ofNamed (fields.value "name") fields

/-- The returned value that an object describes. -/
def Parameter.ofReturned (fields : Fields) : Parameter :=
  ofNamed (.str ((fields.text? "name").getD "")) fields

/-- The group of parameters that an object describes. -/
def ParameterGroup.ofFields (fields : Fields) : ParameterGroup where
  name := fields.value "name"
  order := fields.int? "order"
  description := (fields.value "description").string
  parameters := fields.each "parameters" Parameter.ofFields

/-- The variadic parameter that an object describes. -/
def VariadicParameter.ofFields (fields : Fields) : VariadicParameter where
  type := (fields.value "type").type?
  description := (fields.value "description").string

/-- The mention of an event that an object describes. -/
def EventRaised.ofFields (fields : Fields) : EventRaised where
  name := fields.value "name"
  order := fields.int? "order"
  description := (fields.value "description").string
  timeframe := .ofJson (fields.value "timeframe")
  optional := fields.flag "optional"

/-- The event that an object describes. -/
def Event.ofFields (fields : Fields) : Event where
  info := .ofFields fields
  data := fields.each "data" Parameter.ofFields
  filter := fields.text? "filter"

/-! ## Classes -/

/-- The attribute that an object describes. -/
def Attribute.ofFields (fields : Fields) : Attribute where
  info := .ofFields fields
  visibility := (fields.value "visibility").strings?
  raises := fields.each? "raises" EventRaised.ofFields
  subclasses := (fields.value "subclasses").strings?
  readType := (fields.value "read_type").type?
  writeType := (fields.value "write_type").type?
  optional := fields.flag "optional"

/-- The method that an object describes. -/
def Method.ofFields (fields : Fields) : Method where
  info := .ofFields fields
  visibility := (fields.value "visibility").strings?
  raises := fields.each? "raises" EventRaised.ofFields
  subclasses := (fields.value "subclasses").strings?
  parameters := fields.each? "parameters" Parameter.ofFields
  variantParameterGroups := fields.each? "variant_parameter_groups" ParameterGroup.ofFields
  variantParameterDescription := fields.text? "variant_parameter_description"
  variadicParameter := (fields.value "variadic_parameter").object?.map VariadicParameter.ofFields
  format := .ofJson (fields.value "format")
  returnValues := fields.each? "return_values" Parameter.ofReturned

/-- The operator that an object describes; one of an unknown name is none. -/
def Operator.ofFields? (fields : Fields) : Option Operator :=
  if isName (fields.value "name") then
    if isMethod fields then some (.method (.ofFields fields))
    else some (.attribute (.ofFields fields))
  else none

/-- The class that an object describes. -/
def Class.ofFields (fields : Fields) : Class where
  info := .ofFields fields
  visibility := (fields.value "visibility").strings?
  parent := fields.text? "parent"
  abstract := fields.flag "abstract"
  methods := fields.each "methods" Method.ofFields
  attributes := fields.each "attributes" Attribute.ofFields
  operators := (fields.each "operators" Operator.ofFields?).filterMap id

/-- The global variable that an object describes. -/
def GlobalObject.ofFields (fields : Fields) : GlobalObject where
  name := fields.value "name"
  order := fields.int? "order"
  description := (fields.value "description").string
  type := (fields.value "type").type?

/-! ## Documents -/

/-- The document of the runtime stage that an object describes. -/
def RuntimeApi.ofFields (fields : Fields) : RuntimeApi where
  header := .ofFields fields
  classes := fields.each "classes" Class.ofFields
  events := fields.each "events" Event.ofFields
  concepts := fields.each "concepts" Concept.ofFields
  defines := fields.each "defines" Define.ofFields
  globalObjects := fields.each "global_objects" GlobalObject.ofFields
  globalFunctions := fields.each "global_functions" Method.ofFields

/-- The document of the prototype stage that an object describes. -/
def PrototypeApi.ofFields (fields : Fields) : PrototypeApi where
  header := .ofFields fields
  prototypes := fields.each "prototypes" Prototype.ofFields
  types := fields.each "types" Concept.ofFields

end ApiReference
