import ApiReference.Entity.Class
import ApiReference.Entity.Define
import ApiReference.Entity.Prototype

/-!
# Documents

The engine publishes two documents, told apart by their stage: the runtime one lists classes,
events, concepts, defines and globals, the prototype one lists prototypes and the types they use.
A section that is absent is empty.

Both documents have the same kind of header, of which nothing is required, and sections, each of
which is a list of objects. Reading them stops at the first fault, so a document is read as a whole
or not at all, and only then it is noted that it was read, with the number of entities in some of
its sections.

The paths inside a document start with the empty one: a section is found at its key, and an entity
in it at its name. The stage is read before anything else and decides which sections are looked at;
a section of the other stage is ignored.
-/

set_option autoImplicit false

namespace ApiReference

/-- What every document says about itself. -/
structure Header where
  application : String
  applicationVersion : Option String
  apiVersion : Option Int

/-- The header of the document that an object describes. -/
def Header.ofFields (fields : Fields) : Header where
  application := (fields.text? "application").getD ""
  applicationVersion := fields.text? "application_version"
  apiVersion := fields.int? "api_version"

/-- The document of the runtime stage. -/
structure RuntimeApi where
  header : Header
  classes : List Class
  events : List Event
  concepts : List Concept
  defines : List Define
  globalObjects : List GlobalObject
  globalFunctions : List Method

namespace RuntimeApi

/-- The stage of the document. -/
def stage : String := "runtime"

/-- The document that an object describes. -/
def read (debug : Bool) (fields : Fields) : Reading RuntimeApi := do
  let classes ← fields.list debug "classes" (Class.read debug) ""
  let events ← fields.list debug "events" (Event.read debug) ""
  let concepts ← fields.list debug "concepts" (Concept.read debug) ""
  let defines ← fields.list debug "defines" (Define.read debug) ""
  let globalObjects ← fields.list debug "global_objects" (GlobalObject.read debug) ""
  let globalFunctions ← fields.list debug "global_functions" (Method.read debug) ""
  return { header := .ofFields fields, classes, events, concepts, defines, globalObjects
           globalFunctions }

/-- The note that the document was read. -/
def notice (api : RuntimeApi) : Notice :=
  .readRuntime api.header.apiVersion api.classes.length api.concepts.length api.defines.length
    api.events.length

end RuntimeApi

/-- The document of the prototype stage. -/
structure PrototypeApi where
  header : Header
  prototypes : List Prototype
  types : List Concept

namespace PrototypeApi

/-- The stage of the document. -/
def stage : String := "prototype"

/-- The document that an object describes. -/
def read (debug : Bool) (fields : Fields) : Reading PrototypeApi := do
  let prototypes ← fields.list debug "prototypes" (Prototype.read debug) ""
  let types ← fields.list debug "types" (Concept.read debug) ""
  return { header := .ofFields fields, prototypes, types }

/-- The note that the document was read. -/
def notice (api : PrototypeApi) : Notice :=
  .readPrototype api.header.apiVersion api.prototypes.length api.types.length

end PrototypeApi

/-- A document of one of the stages. -/
inductive Document where
  | runtime (api : RuntimeApi)
  | prototype (api : PrototypeApi)

namespace Document

/-- The document that a JSON value describes, by its stage. -/
def read (debug : Bool) : Json → Reading Document
  | .obj fields =>
    match Fields.value fields "stage" with
    | .str stage =>
      if stage = RuntimeApi.stage then do
        let api ← RuntimeApi.read debug fields
        Reading.note api.notice
        return .runtime api
      else if stage = PrototypeApi.stage then do
        let api ← PrototypeApi.read debug fields
        Reading.note api.notice
        return .prototype api
      else Reading.fail (.unknownStage (.str stage))
    | stage => Reading.fail (.unknownStage stage)
  | v => Reading.fail (.notADocument v)

end Document
end ApiReference
