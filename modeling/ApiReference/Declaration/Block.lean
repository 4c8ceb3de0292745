import ApiReference.Declaration.Function
import ApiReference.Declaration.Member
import ApiReference.Document

/-!
# Blocks of annotations

The declaration of an entity is a block of lines: its class line and a field line for each member.
The blocks of the defines inside a define follow it after an empty line each, under their full
names. The annotations of a document are the blocks of all its entities, section by section, with
an empty line between two blocks.

A block never has an empty line of its own but for those between a define and the defines inside it,
and blocks are put together with empty lines between them. So in the end every entity, a define
inside another one included, is a run of lines between empty ones.

Only the methods of classes look at the prefixes that are stripped, and so the prefixes are handed
to the writer of classes and to no other. Writing stops at the first line that cannot be written,
and then nothing of the document is.

The recursion over defines is structural, by mutual functions for a define, for the defines that it
may have, and for a list of them. The name of an inner define is not its own: it is the full name of
the define around it with a dot and its own name behind, and the top-level defines start with
`defineSpace`.
-/

set_option autoImplicit false

namespace ApiReference
namespace Declaration

/-- A class line and the lines of the members. -/
def block {α : Type} (name : Name) (line : α → Except Fault String) (members : List α) :
    Except Fault (List String) := do
  let head ← classLine name
  let fields ← members.mapM line
  return head :: fields

/-- The block of a concept. -/
def conceptBlock (c : Concept) : Except Fault (List String) :=
  block c.info.name propertyLine (c.properties.getD [])

/-- The block of a prototype. -/
def prototypeBlock (p : Prototype) : Except Fault (List String) :=
  block p.info.name propertyLine p.properties

/-- The block of an event. -/
def eventBlock (e : Event) : Except Fault (List String) :=
  block e.info.name parameterLine e.data

/-- The block of a class: attributes come before methods. -/
def classBlock (prefixes : List String) (c : Class) : Except Fault (List String) := do
  let attributes ← block c.info.name attributeLine c.attributes
  let methods ← c.methods.mapM (methodLine prefixes)
  return attributes ++ methods

/-- The full name of something inside `qualifier`, which may be empty. -/
def qualified (qualifier : String) (name : Name) : Name :=
  if qualifier.isEmpty then name else .str (qualifier ++ "." ++ name.inline)

mutual

/-- The block of a define inside `qualifier`, followed by the blocks of the defines inside it. -/
def defineBlock (qualifier : String) : Define → Except Fault (List String)
  | .mk info values subkeys => do
    let name := qualified qualifier info.name
    let own ← block name (fun v : DefineValue => defineValueLine v.name v.description)
      (values.getD [])
    let inner ← innerBlocks name.inline subkeys
    return own ++ inner
termination_by structural d => d

/-- The blocks of the defines listed inside `qualifier`. -/
def innerBlocks (qualifier : String) : Option (List Define) → Except Fault (List String)
  | some defines => defineBlocks qualifier defines
  | none => .ok []
termination_by structural defines => defines

/-- The blocks of several defines inside `qualifier`, each after an empty line. -/
def defineBlocks (qualifier : String) : List Define → Except Fault (List String)
  | [] => .ok []
  | d :: rest => do
    let lines ← defineBlock qualifier d
    let others ← defineBlocks qualifier rest
    return "" :: lines ++ others
termination_by structural ds => ds

end

/-- The lines of a global variable. -/
def globalObjectLines (o : GlobalObject) : Except Fault (List String) := do
  let type ← TypeExpr.renderOptional o.type
  return ["---@type " ++ type, o.name.inline ++ " = nil"]

/-- The lines of several blocks, with an empty line between two. -/
def joinBlocks : List (List String) → List String
  | [] => []
  | [lines] => lines
  | lines :: rest => lines ++ "" :: joinBlocks rest

/-- The name space of the top-level defines. -/
def defineSpace : String := "defines"

/-- The blocks of a document of the runtime stage. -/
def runtimeBlocks (prefixes : List String) (api : RuntimeApi) :
    Except Fault (List (List String)) := do
  let defines ← api.defines.mapM (defineBlock defineSpace)
  let concepts ← api.concepts.mapM conceptBlock
  let classes ← api.classes.mapM (classBlock prefixes)
  let events ← api.events.mapM eventBlock
  let objects ← api.globalObjects.mapM globalObjectLines
  let functions ← api.globalFunctions.mapM functionLines
  return defines ++ concepts ++ classes ++ events ++ objects ++ functions

/-- The blocks of a document of the prototype stage. -/
def prototypeBlocks (api : PrototypeApi) : Except Fault (List (List String)) := do
  let types ← api.types.mapM conceptBlock
  let prototypes ← api.prototypes.mapM prototypeBlock
  return types ++ prototypes

/-- The blocks of a document. -/
def documentBlocks (prefixes : List String) : Document → Except Fault (List (List String))
  | .runtime api => runtimeBlocks prefixes api
  | .prototype api => prototypeBlocks api

/-- The stage of a document. -/
def documentStage : Document → String
  | .runtime _ => RuntimeApi.stage
  | .prototype _ => PrototypeApi.stage

/-- The annotations of a document, with a note of their extent. -/
def documentLines (prefixes : List String) (d : Document) : Reading (List String) := do
  let blocks ← Reading.ofExcept (documentBlocks prefixes d)
  let lines := joinBlocks blocks
  Reading.note (.rendered (documentStage d) blocks.length lines.length)
  return lines

end Declaration
end ApiReference
