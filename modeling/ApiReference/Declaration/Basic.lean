import ApiReference.Declaration.Block
import ApiReference.Entity.Basic

/-!
# Annotating any entity

`Declaration.Kind` names what can be written of an entity, `Entity.declare` writes it. A
declaration needs certain parts; an entity that has them can be given to it, one that lacks a part
is refused.

This is the outer layer of the annotations: it takes an entity of any kind and whatever is wanted of
it. The writers of the single kinds are in the modules that it imports, and they are given what they
need by type.

* **A part is asked for when it is needed.** `part` turns a missing part into a fault, and the parts
  are asked for in the order in which they go into the line.
* **A field line depends on the kind.** `Kind.fieldDeclaration` writes the line of whatever kind of
  member the entity is, and an entity that is never a field has none. The other kinds of lines are
  written of anything that has the parts.
* **A name space may be any value.** One that counts as absent is no name space at all, and any
  other is shown as a value is shown in a line.
-/

set_option autoImplicit false

namespace ApiReference

namespace Declaration

/-- What can be written of an entity. -/
inductive Kind where
  | classDeclaration
  | propertyField
  | defineValueField
  | attributeType
  | attributeField
  | methodSignature
  | methodField
  | parameterField
  /-- The field line of whatever kind of member the entity is. -/
  | fieldDeclaration
  | paramDeclarations
  | returnDeclarations
  /-- The block of the entity inside the name space that the value states, if it counts as one. -/
  | declarationBlock (qualifier : Json)
  | document

/-- What was written: a single line, or several. -/
inductive Result where
  | line (s : String)
  | lines (ss : List String)
  deriving DecidableEq

/-- A part that the declaration needs. -/
def part {α : Type} : Option α → Except Fault α
  | some a => .ok a
  | none => .error .lacksPart

/-- The class line of an entity. -/
def classDeclarationLine (e : Entity) : Except Fault String := do
  let name ← part e.name?
  classLine name

/-- The field line of an entity with a type. -/
def typedEntityLine (e : Entity) : Except Fault String := do
  let name ← part e.name?
  let type ← part e.type?
  let description ← part e.description?
  typedFieldLine name type description

/-- The field line of an entity as the value of a define. -/
def valueEntityLine (e : Entity) : Except Fault String := do
  let name ← part e.name?
  let description ← part e.description?
  defineValueLine name description

/-- The attribute that an entity is. -/
def asAttribute : Entity → Except Fault Attribute
  | .attribute a => .ok a
  | _ => .error .lacksPart

/-- The method that an entity is. -/
def asMethod : Entity → Except Fault Method
  | .method m => .ok m
  | _ => .error .lacksPart

/-- The field line of an entity with parameters. -/
def functionEntityLine (prefixes : List String) (e : Entity) : Except Fault String := do
  let name ← part e.name?
  let parameters ← part e.parameters?
  let type ← signature prefixes parameters
  let description ← part e.description?
  fieldLine name type description

/-- The field line of a member, by its kind. -/
def memberLine (prefixes : List String) : Entity → Except Fault String
  | .property p => propertyLine p
  | .defineValue v => defineValueLine v.name v.description
  | .attribute a => attributeLine a
  | .method m => methodLine prefixes m
  | .parameter p => parameterLine p
  | e => .error (.noFieldLine e.title)

/-- The name space that a value states; it is empty if the value counts as absent. -/
def qualifierText (qualifier : Json) : String :=
  if qualifier.isTruthy then qualifier.inline else ""

/-- The block of an entity. An entity without members of its own has its class line only. -/
def entityBlock (prefixes : List String) (qualifier : String) : Entity → Except Fault (List String)
  | .define d => defineBlock qualifier d
  | .concept c => conceptBlock c
  | .prototype p => prototypeBlock p
  | .luaClass c => classBlock prefixes c
  | .event e => eventBlock e
  | e => do
    let line ← classDeclarationLine e
    return [line]

end Declaration

/-- What a declaration writes of an entity; `prefixes` are stripped from the types in signatures. -/
def Entity.declare (prefixes : List String) (e : Entity) (kind : Declaration.Kind) :
    Reading Declaration.Result :=
  match kind with
  | .classDeclaration => .ofExcept (.line <$> Declaration.classDeclarationLine e)
  | .propertyField => .ofExcept (.line <$> Declaration.typedEntityLine e)
  | .defineValueField => .ofExcept (.line <$> Declaration.valueEntityLine e)
  | .attributeType =>
    .ofExcept (.line <$> (Declaration.asAttribute e >>= Declaration.attributeType))
  | .attributeField =>
    .ofExcept (.line <$> (Declaration.asAttribute e >>= Declaration.attributeLine))
  | .methodSignature =>
    .ofExcept (.line <$> (Declaration.part e.parameters? >>= Declaration.signature prefixes))
  | .methodField => .ofExcept (.line <$> Declaration.functionEntityLine prefixes e)
  | .parameterField => .ofExcept (.line <$> Declaration.typedEntityLine e)
  | .fieldDeclaration => .ofExcept (.line <$> Declaration.memberLine prefixes e)
  | .paramDeclarations =>
    .ofExcept (.lines <$> (Declaration.asMethod e >>= Declaration.paramLines))
  | .returnDeclarations =>
    .ofExcept (.lines <$> (Declaration.asMethod e >>= Declaration.returnLines))
  | .declarationBlock qualifier =>
    .ofExcept (.lines <$> Declaration.entityBlock prefixes (Declaration.qualifierText qualifier) e)
  | .document =>
    match e with
    | .document d => .lines <$> Declaration.documentLines prefixes d
    | _ => Reading.fail .lacksPart

end ApiReference
