import ApiReference.Entity.Basic
import ApiReference.Json.Equality
import ApiReference.TypeExpr.Display

/-!
# Entities as records

Every entity as a JSON object of all its parts, with its title under `class`. Parts that the
document does not state are `null`. Two entities are the same when their records are.

Records serve two ends. They are how a session answers a request to read something, so every part of
an entity is in its record, those too that no annotation shows. And they are how entities are
compared: two records are compared as JSON values, with numbers by their value, so that an entity
read from `1` is the same as one read from `1.0`.

The title under `class` is what keeps entities of different kinds apart that have the same parts.
-/

set_option autoImplicit false

namespace ApiReference
namespace Entity

variable {α : Type}

/-- A part that may be missing. -/
def orNull (f : α → Json) (a : Option α) : Json :=
  a.elim .null f

/-- A part that is a list. -/
def each (f : α → Json) (as : List α) : Json :=
  .arr (as.map f)

/-- The record of the list of texts that may be missing. -/
def texts (ss : Option (List String)) : Json :=
  orNull (each .str) ss

end Entity

open Entity

/-- The record of an image. -/
def Image.record (i : Image) : Json :=
  .obj [("class", .str "Image"), ("filename", i.filename), ("caption", orNull .str i.caption)]

/-- The record of the common part of a member. -/
def Member.record (m : Member) : Json :=
  .obj
    [("class", .str "MemberInfo"), ("name", m.name), ("order", orNull .int m.order),
     ("description", .str m.description), ("lists", texts m.lists), ("examples", texts m.examples),
     ("images", orNull (each Image.record) m.images)]

/-- The record of a default value: a text, or the literal type that states it. -/
def Property.Default.record : Property.Default → Json
  | .text s => .str s
  | .literal value description => (TypeExpr.literal value description).record

/-- The record of a property. -/
def Property.record (p : Property) : Json :=
  .obj
    [("class", .str "Property"), ("info", p.info.record), ("visibility", texts p.visibility),
     ("alt_name", orNull .str p.altName), ("override", .bool p.override),
     ("type", orNull TypeExpr.record p.type), ("optional", .bool p.optional),
     ("default", orNull Property.Default.record p.default)]

/-- The record of what a concept is. -/
def Concept.Body.record : Concept.Body → Json
  | .builtin => .str Concept.builtinWord
  | .type t => t.record

/-- The record of a concept. -/
def Concept.record (c : Concept) : Json :=
  .obj
    [("class", .str "Concept"), ("info", c.info.record), ("parent", orNull .str c.parent),
     ("abstract", .bool c.abstract), ("inline", .bool c.inline),
     ("type", orNull Concept.Body.record c.body),
     ("properties", orNull (each Property.record) c.properties)]

/-- The record of a value of a define. -/
def DefineValue.record (v : DefineValue) : Json :=
  .obj
    [("class", .str "DefineValue"), ("name", v.name), ("order", orNull .int v.order),
     ("description", .str v.description)]

mutual

/-- The record of a define. -/
def Define.record : Define → Json
  | .mk info values subkeys =>
    .obj
      [("class", .str "Define"), ("info", info.record),
       ("values", orNull (each DefineValue.record) values),
       ("subkeys", Define.recordList subkeys)]
termination_by structural d => d

/-- The record of the list of defines inside a define. -/
def Define.recordList : Option (List Define) → Json
  | some defines => .arr (Define.recordAll defines)
  | none => .null
termination_by structural defines => defines

/-- The records of several defines. -/
def Define.recordAll : List Define → List Json
  | [] => []
  | d :: rest => d.record :: Define.recordAll rest
termination_by structural ds => ds

end

/-- The record of a prototype. -/
def Prototype.record (p : Prototype) : Json :=
  .obj
    [("class", .str "Prototype"), ("info", p.info.record), ("visibility", texts p.visibility),
     ("parent", orNull .str p.parent), ("abstract", .bool p.abstract),
     ("typename", orNull .str p.typename), ("instance_limit", orNull .int p.instanceLimit),
     ("deprecated", .bool p.deprecated), ("properties", each Property.record p.properties),
     ("custom_properties", orNull .obj p.customProperties)]

/-- The record of a parameter. -/
def Parameter.record (p : Parameter) : Json :=
  .obj
    [("class", .str "Parameter"), ("name", p.name), ("order", orNull .int p.order),
     ("description", .str p.description), ("type", orNull TypeExpr.record p.type),
     ("optional", .bool p.optional)]

/-- The record of a group of parameters. -/
def ParameterGroup.record (g : ParameterGroup) : Json :=
  .obj
    [("class", .str "ParameterGroup"), ("name", g.name), ("order", orNull .int g.order),
     ("description", .str g.description), ("parameters", each Parameter.record g.parameters)]

/-- The record of a variadic parameter. -/
def VariadicParameter.record (p : VariadicParameter) : Json :=
  .obj
    [("class", .str "VariadicParameter"), ("type", orNull TypeExpr.record p.type),
     ("description", .str p.description)]

/-- The record of the way that arguments are passed. -/
def MethodFormat.record (f : MethodFormat) : Json :=
  .obj
    [("class", .str "MethodFormat"), ("takes_table", .bool f.takesTable),
     ("table_optional", orNull .bool f.tableOptional)]

/-- The record of a raised event. -/
def EventRaised.record (e : EventRaised) : Json :=
  .obj
    [("class", .str "EventRaised"), ("name", e.name), ("order", orNull .int e.order),
     ("description", .str e.description), ("timeframe", .str e.timeframe.name),
     ("optional", .bool e.optional)]

/-- The record of an event. -/
def Event.record (e : Event) : Json :=
  .obj
    [("class", .str "Event"), ("info", e.info.record), ("data", each Parameter.record e.data),
     ("filter", orNull .str e.filter)]

/-- The record of an attribute. -/
def Attribute.record (a : Attribute) : Json :=
  .obj
    [("class", .str "Attribute"), ("info", a.info.record), ("visibility", texts a.visibility),
     ("raises", orNull (each EventRaised.record) a.raises), ("subclasses", texts a.subclasses),
     ("read_type", orNull TypeExpr.record a.readType),
     ("write_type", orNull TypeExpr.record a.writeType), ("optional", .bool a.optional)]

/-- The record of a method. -/
def Method.record (m : Method) : Json :=
  .obj
    [("class", .str "Method"), ("info", m.info.record), ("visibility", texts m.visibility),
     ("raises", orNull (each EventRaised.record) m.raises), ("subclasses", texts m.subclasses),
     ("parameters", orNull (each Parameter.record) m.parameters),
     ("variant_parameter_groups",
      orNull (each ParameterGroup.record) m.variantParameterGroups),
     ("variant_parameter_description", orNull .str m.variantParameterDescription),
     ("variadic_parameter", orNull VariadicParameter.record m.variadicParameter),
     ("format", m.format.record),
     ("return_values", orNull (each Parameter.record) m.returnValues)]

/-- The record of an operator. -/
def Operator.record : Operator → Json
  | .method m => m.record
  | .attribute a => a.record

/-- The record of a class. -/
def Class.record (c : Class) : Json :=
  .obj
    [("class", .str "Class"), ("info", c.info.record), ("visibility", texts c.visibility),
     ("parent", orNull .str c.parent), ("abstract", .bool c.abstract),
     ("methods", each Method.record c.methods), ("attributes", each Attribute.record c.attributes),
     ("operators", each Operator.record c.operators)]

/-- The record of a global variable. -/
def GlobalObject.record (o : GlobalObject) : Json :=
  .obj
    [("class", .str "GlobalObject"), ("name", o.name), ("order", orNull .int o.order),
     ("description", .str o.description), ("type", orNull TypeExpr.record o.type)]

/-- The record of a header with the stage of its document. -/
def Header.fields (h : Header) (stage : String) : Fields :=
  [("application", .str h.application), ("application_version", orNull .str h.applicationVersion),
   ("api_version", orNull .int h.apiVersion), ("stage", .str stage)]

/-- The record of a document. -/
def Document.record : Document → Json
  | .runtime api =>
    .obj
      (("class", .str "RuntimeApi") :: api.header.fields RuntimeApi.stage ++
        [("classes", each Class.record api.classes), ("events", each Event.record api.events),
         ("concepts", each Concept.record api.concepts),
         ("defines", each Define.record api.defines),
         ("global_objects", each GlobalObject.record api.globalObjects),
         ("global_functions", each Method.record api.globalFunctions)])
  | .prototype api =>
    .obj
      (("class", .str "PrototypeApi") :: api.header.fields PrototypeApi.stage ++
        [("prototypes", each Prototype.record api.prototypes),
         ("types", each Concept.record api.types)])

namespace Entity

/-- The record of an entity. A time is its word. -/
def record : Entity → Json
  | .image i => i.record
  | .member m => m.record
  | .concept c => c.record
  | .property p => p.record
  | .define d => d.record
  | .defineValue v => v.record
  | .prototype p => p.record
  | .luaClass c => c.record
  | .method m => m.record
  | .attribute a => a.record
  | .parameter p => p.record
  | .parameterGroup g => g.record
  | .variadicParameter p => p.record
  | .methodFormat f => f.record
  | .timeframe t => .str t.name
  | .eventRaised e => e.record
  | .event e => e.record
  | .globalObject o => o.record
  | .document d => d.record
  | .type t => t.record

/-- Whether two entities are the same, part by part. -/
def same (a b : Entity) : Bool :=
  a.record.same b.record

end Entity
end ApiReference
