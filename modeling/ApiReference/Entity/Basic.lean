import ApiReference.Document
import ApiReference.TypeExpr.Display

/-!
# Any entity

`Entity` is a value of any of the documented kinds, `Kind` says as which of them a JSON value is
to be read. The parts that several kinds have in common can be asked of any entity: an entity that
lacks the part has none.

Most of the library deals with one kind of entity at a time and does not need this type. It is for
whoever asks by a word which kind to read: the requests of a session, and statements about all kinds
at once.

An entity and the kind it was read as are not the same thing. A returned value is read as a kind of
its own and is a parameter, a document is read as one of two stages, or as the stage that it states,
and a format or a time is read from any value, without a fault.

The accessors at the end give a part as an option, which is none if entities of that kind have no
such part. A part that the document may leave out is an option inside the option.
-/

set_option autoImplicit false

namespace ApiReference

/-- Something that a document describes. -/
inductive Entity where
  | image (i : Image)
  | member (m : Member)
  | concept (c : Concept)
  | property (p : Property)
  | define (d : Define)
  | defineValue (v : DefineValue)
  | prototype (p : Prototype)
  | luaClass (c : Class)
  | method (m : Method)
  | attribute (a : Attribute)
  | parameter (p : Parameter)
  | parameterGroup (g : ParameterGroup)
  | variadicParameter (p : VariadicParameter)
  | methodFormat (f : MethodFormat)
  | timeframe (t : Timeframe)
  | eventRaised (e : EventRaised)
  | event (e : Event)
  | globalObject (o : GlobalObject)
  | document (d : Document)
  | type (t : TypeExpr)

/-- As what a JSON value is read. -/
inductive Entity.Kind where
  | image
  | member
  | concept
  | property
  | define
  | defineValue
  | prototype
  | luaClass
  | method
  | attribute
  | parameter
  | returnValue
  | parameterGroup
  | variadicParameter
  | methodFormat
  | timeframe
  | eventRaised
  | event
  | globalObject
  /-- A document of the runtime stage, whatever stage it states. -/
  | runtimeApi
  /-- A document of the prototype stage, whatever stage it states. -/
  | prototypeApi
  /-- A document of the stage that it states. -/
  | document
  | type
  deriving DecidableEq

namespace Entity

/-- The entity that the fields of an object describe. -/
def readObject {α : Type} (wrap : α → Entity) (read : Fields → Path → Reading α) (data : Json)
    (path : Path) : Reading Entity :=
  match data with
  | .obj fields => do
    let a ← read fields path
    return wrap a
  | _ => Reading.fail .notAnObject

/-- The entity of a kind that a JSON value describes; `path` is where it stands. -/
def read (debug : Bool) (kind : Kind) (data : Json) (path : Path) : Reading Entity :=
  match kind with
  | .image => readObject .image Image.read data path
  | .member => readObject .member (Member.read debug) data path
  | .concept => readObject .concept (Concept.read debug) data path
  | .property => readObject .property (Property.read debug) data path
  | .define => readObject .define (Define.read debug) data path
  | .defineValue => readObject .defineValue (DefineValue.read debug) data path
  | .prototype => readObject .prototype (Prototype.read debug) data path
  | .luaClass => readObject .luaClass (Class.read debug) data path
  | .method => readObject .method (Method.read debug) data path
  | .attribute => readObject .attribute (Attribute.read debug) data path
  | .parameter => readObject .parameter (Parameter.read debug) data path
  | .returnValue => readObject .parameter (Parameter.readReturned debug) data path
  | .parameterGroup => readObject .parameterGroup (ParameterGroup.read debug) data path
  | .variadicParameter => readObject .variadicParameter (VariadicParameter.read debug) data path
  | .methodFormat => pure (.methodFormat (.ofJson data))
  | .timeframe => pure (.timeframe (.ofJson data))
  | .eventRaised => readObject .eventRaised (EventRaised.read debug) data path
  | .event => readObject .event (Event.read debug) data path
  | .globalObject => readObject .globalObject (GlobalObject.read debug) data path
  | .runtimeApi =>
    readObject (fun api => .document (.runtime api)) (fun fields _ => RuntimeApi.read debug fields)
      data path
  | .prototypeApi =>
    readObject (fun api => .document (.prototype api))
      (fun fields _ => PrototypeApi.read debug fields) data path
  | .document => do
    let d ← Document.read debug data
    return .document d
  | .type => do
    let t ← TypeExpr.read data path
    return .type t

/-- The title of the kind in messages and records. -/
def title : Entity → String
  | .image _ => "Image"
  | .member _ => "MemberInfo"
  | .concept _ => "Concept"
  | .property _ => "Property"
  | .define _ => "Define"
  | .defineValue _ => "DefineValue"
  | .prototype _ => "Prototype"
  | .luaClass _ => "Class"
  | .method _ => "Method"
  | .attribute _ => "Attribute"
  | .parameter _ => "Parameter"
  | .parameterGroup _ => "ParameterGroup"
  | .variadicParameter _ => "VariadicParameter"
  | .methodFormat _ => "MethodFormat"
  | .timeframe _ => "Timeframe"
  | .eventRaised _ => "EventRaised"
  | .event _ => "Event"
  | .globalObject _ => "GlobalObject"
  | .document (.runtime _) => "RuntimeApi"
  | .document (.prototype _) => "PrototypeApi"
  | .type t => t.title

/-- The common part of a member. -/
def member? : Entity → Option Member
  | .member m => some m
  | .concept c => some c.info
  | .property p => some p.info
  | .define d => some d.info
  | .prototype p => some p.info
  | .luaClass c => some c.info
  | .method m => some m.info
  | .attribute a => some a.info
  | .event e => some e.info
  | _ => none

/-- The name of an entity. -/
def name? : Entity → Option Name
  | .defineValue v => some v.name
  | .parameter p => some p.name
  | .parameterGroup g => some g.name
  | .timeframe t => some (.str t.constantName)
  | .eventRaised e => some e.name
  | .globalObject o => some o.name
  | .type (.name n) => some (.str n)
  | e => e.member?.map (·.name)

/-- The place of an entity in the order of display. -/
def order? : Entity → Option (Option Int)
  | .defineValue v => some v.order
  | .parameter p => some p.order
  | .parameterGroup g => some g.order
  | .eventRaised e => some e.order
  | .globalObject o => some o.order
  | e => e.member?.map (·.order)

/-- The description of an entity. -/
def description? : Entity → Option String
  | .defineValue v => some v.description
  | .parameter p => some p.description
  | .parameterGroup g => some g.description
  | .variadicParameter p => some p.description
  | .eventRaised e => some e.description
  | .globalObject o => some o.description
  | e => e.member?.map (·.description)

/-- The type of an entity, which may be missing in the document. -/
def type? : Entity → Option (Option TypeExpr)
  | .concept c =>
    some (c.body.map fun body =>
      match body with
      | .builtin => .leaf (.str Concept.builtinWord)
      | .type t => t)
  | .property p => some p.type
  | .parameter p => some p.type
  | .variadicParameter p => some p.type
  | .globalObject o => some o.type
  | _ => none

/-- The parameters of an entity. -/
def parameters? : Entity → Option (List Parameter)
  | .method m => some (m.parameters.getD [])
  | .parameterGroup g => some g.parameters
  | _ => none

end Entity
end ApiReference
