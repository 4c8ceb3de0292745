import ApiReference.Proofs.Declaration.Paragraphs

/-!
# What the lines are written of

The declarations of a document are lists of texts, and a text no longer says what it was written of.
This file lists what is written before any of it is: a `LineSource` for each line, in the order of
the lines, with the names and the types that its line shows. Writing the sources of a document one
after the other gives the lines of the document, or stops with the same fault
(`Document.documentLines_eq_mapM`). So whatever holds of the line of each source holds of every line
of the document.

Defines inside defines and the empty lines between blocks are sources in the same list: a define
comes with the names of the defines around it, and an empty line is written of nothing.

The theorem is an equality of outcomes, not of lines. The writer of a document goes through its
sections and entities in nested loops, and any of them may stop it; the list of sources is flat.
That the flat list stops at the same place with the same fault means that the order of the sources
is the order in which the writer comes to them, and not only the order of the lines.

Three properties of annotations rest on this list: that every line is one line, that only certain
parts of a document show, and how far the stripped prefixes reach. Each is shown by a case for each
constructor of `LineSource`, of which there are eleven, instead of by following the nested loops
once more.

## What is here

* `FieldSource`, `LineSource`: what a line is written of, and its line, names and types.
* `Document.lineSources`: the sources of a document, and those of each entity in it.
* `Document.documentLines_eq_mapM`: the lines of a document are those of its sources.
-/

set_option autoImplicit false

namespace ApiReference
namespace Declaration

/-! ## Members written as fields

Five kinds of members are written as fields. Their lines are put together alike and differ in the
text that stands for the type. -/

/-- A member that is written as a field of its class. -/
inductive FieldSource where
  | property (p : Property)
  | value (v : DefineValue)
  | attribute (a : Attribute)
  | method (m : Method)
  /-- A field of an event. -/
  | payload (p : Parameter)

namespace FieldSource

/-- The name of the member. -/
def name : FieldSource → Name
  | .property p => p.info.name
  | .value v => v.name
  | .attribute a => a.info.name
  | .method m => m.info.name
  | .payload p => p.name

/-- The whole description of the member. -/
def description : FieldSource → String
  | .property p => p.info.description
  | .value v => v.description
  | .attribute a => a.info.description
  | .method m => m.info.description
  | .payload p => p.description

/-- The text that stands for the type of the member. -/
def typeText (prefixes : List String) : FieldSource → Except Fault String
  | .property p => TypeExpr.renderOptional p.type
  | .value v => .ok ("\"" ++ v.name.inline ++ "\"")
  | .attribute a => attributeType a
  | .method m => signature prefixes (m.parameters.getD [])
  | .payload p => TypeExpr.renderOptional p.type

/-- The field line of the member. -/
def line (prefixes : List String) (f : FieldSource) : Except Fault String := do
  let type ← f.typeText prefixes
  fieldLine f.name type f.description

/-- The names that the line shows. -/
def names : FieldSource → List Name
  | .method m => m.info.name :: (m.parameters.getD []).map (·.name)
  | f => [f.name]

/-- The types that the line shows. -/
def types : FieldSource → List TypeExpr
  | .property p => p.type.toList
  | .value _ => []
  | .attribute a => a.readType.toList ++ a.writeType.toList
  | .method m => (m.parameters.getD []).filterMap (·.type)
  | .payload p => p.type.toList

end FieldSource

/-- The full name of the define whose name ends `path`, after the names of the defines around it. -/
def defineName (path : List Name) : String :=
  ".".intercalate (defineSpace :: path.map Json.inline)

end Declaration

open Declaration

/-! ## Sources

The names and types of a source are what its line shows of the document apart from a description. A
line that shows none of either is written of fixed text. -/

/-- What a line is written of. -/
inductive LineSource where
  /-- The empty line between two blocks. -/
  | gap
  /-- The class line of an entity that is no define. -/
  | head (name : Name)
  /-- The class line of a define; `path` has its name after the names of the defines around it. -/
  | define (path : List Name)
  | field (f : FieldSource)
  /-- The type of a global variable. -/
  | objectType (o : GlobalObject)
  | object (o : GlobalObject)
  | param (p : Parameter)
  /-- The one parameter of a function that takes a table. -/
  | table (m : Method)
  | variadic (p : VariadicParameter)
  | returned (p : Parameter)
  /-- The declaration of a function after the lines about what it takes and gives. -/
  | function (m : Method)

namespace LineSource

/-- The line that is written. -/
def line (prefixes : List String) : LineSource → Except Fault String
  | .gap => .ok ""
  | .head name => classLine name
  | .define path => classLine (.str (defineName path))
  | .field f => f.line prefixes
  | .objectType o => do
    let type ← TypeExpr.renderOptional o.type
    return "---@type " ++ type
  | .object o => .ok (o.name.inline ++ " = nil")
  | .param p => parameterParamLine p
  | .table m => do
    let fields ← (m.parameters.getD []).mapM tableField
    let type := "\x7b" ++ ", ".intercalate fields ++ "\x7d"
    return paramLine tableName (m.format.tableOptional.getD false) type ""
  | .variadic p => do
    let type ← TypeExpr.renderOptional p.type
    return paramLine variadicName false type p.description
  | .returned p => returnedLine p
  | .function m => do
    let arguments ← argumentNames m
    return "function " ++ m.info.name.inline ++ "(" ++ ", ".intercalate arguments ++ ") end"

/-- The names that the line shows. -/
def names : LineSource → List Name
  | .head name => [name]
  | .define path => path
  | .field f => f.names
  | .object o => [o.name]
  | .param p => [p.name]
  | .table m => (m.parameters.getD []).map (·.name)
  | .function m => m.info.name :: (m.parameters.getD []).map (·.name)
  | _ => []

/-- The types that the line shows. -/
def types : LineSource → List TypeExpr
  | .field f => f.types
  | .objectType o => o.type.toList
  | .param p => p.type.toList
  | .table m => (m.parameters.getD []).filterMap (·.type)
  | .variadic p => p.type.toList
  | .returned p => p.type.toList
  | _ => []

end LineSource

/-! ## The sources of entities

The sources follow the writers of `ApiReference.Declaration.Block` and
`ApiReference.Declaration.Function`, one list for each. -/

/-- The sources of a concept. -/
def Concept.lineSources (c : Concept) : List LineSource :=
  .head c.info.name :: (c.properties.getD []).map fun p => .field (.property p)

/-- The sources of a prototype. -/
def Prototype.lineSources (p : Prototype) : List LineSource :=
  .head p.info.name :: p.properties.map fun p => .field (.property p)

/-- The sources of an event. -/
def Event.lineSources (e : Event) : List LineSource :=
  .head e.info.name :: e.data.map fun p => .field (.payload p)

/-- The sources of a class. -/
def Class.lineSources (c : Class) : List LineSource :=
  .head c.info.name :: (c.attributes.map fun a => .field (.attribute a)) ++
    c.methods.map fun m => .field (.method m)

mutual

/-- The sources of a define and of the defines inside it; `around` has the names of the defines
around it. -/
def Define.lineSources (around : List Name) : Define → List LineSource
  | .mk info values subkeys =>
    .define (around ++ [info.name]) :: ((values.getD []).map fun v => .field (.value v)) ++
      Define.innerSources (around ++ [info.name]) subkeys
termination_by structural d => d

/-- The sources of the defines inside a define. -/
def Define.innerSources (around : List Name) : Option (List Define) → List LineSource
  | some defines => Define.listSources around defines
  | none => []
termination_by structural defines => defines

/-- The sources of several defines, each after an empty line. -/
def Define.listSources (around : List Name) : List Define → List LineSource
  | [] => []
  | d :: rest => .gap :: d.lineSources around ++ Define.listSources around rest
termination_by structural ds => ds

end

/-- The sources of a global variable. -/
def GlobalObject.lineSources (o : GlobalObject) : List LineSource :=
  [.objectType o, .object o]

/-- The sources of what a function takes. -/
def Method.paramSources (m : Method) : List LineSource :=
  if m.format.takesTable then [.table m]
  else (m.parameters.getD []).map .param ++ m.variadicParameter.toList.map .variadic

/-- The sources of a global function. -/
def Method.lineSources (m : Method) : List LineSource :=
  m.paramSources ++ (m.returnValues.getD []).map .returned ++ [.function m]

/-- The sources of a document, block by block. -/
def Document.sourceBlocks : Document → List (List LineSource)
  | .runtime api =>
    api.defines.map (Define.lineSources []) ++ api.concepts.map Concept.lineSources ++
      api.classes.map Class.lineSources ++ api.events.map Event.lineSources ++
      api.globalObjects.map GlobalObject.lineSources ++ api.globalFunctions.map Method.lineSources
  | .prototype api =>
    api.types.map Concept.lineSources ++ api.prototypes.map Prototype.lineSources

/-- The sources of a document, with an empty line between two blocks. -/
def Document.lineSources (doc : Document) : List LineSource :=
  [LineSource.gap].intercalate doc.sourceBlocks

/-! ## The lines of the sources

Each block is compared with the sources of its entity on its own. The prefixes are the same
throughout; only the lines of methods look at them. -/

section Blocks

variable {α : Type} {prefixes : List String}

theorem mapM_sources_map {as : List α} (g : α → LineSource) (f : α → Except Fault String)
    (h : ∀ a, (g a).line prefixes = f a) :
    (as.map g).mapM (LineSource.line prefixes) = as.mapM f := by
  rw [List.mapM_map]
  exact congrArg as.mapM (funext h)

/-- A class line and the lines of the members are the lines of their sources. -/
theorem block_eq_mapM {name : Name} {members : List α} (g : α → LineSource)
    {f : α → Except Fault String} (h : ∀ a, (g a).line prefixes = f a) :
    block name f members =
      (LineSource.head name :: members.map g).mapM (LineSource.line prefixes) := by
  rw [block, List.mapM_cons, mapM_sources_map g f h]
  rfl

theorem conceptBlock_eq_mapM (c : Concept) :
    conceptBlock c = c.lineSources.mapM (LineSource.line prefixes) :=
  block_eq_mapM (fun p => .field (.property p)) fun _ => rfl

theorem prototypeBlock_eq_mapM (p : Prototype) :
    prototypeBlock p = p.lineSources.mapM (LineSource.line prefixes) :=
  block_eq_mapM (fun p => .field (.property p)) fun _ => rfl

theorem eventBlock_eq_mapM (e : Event) :
    eventBlock e = e.lineSources.mapM (LineSource.line prefixes) :=
  block_eq_mapM (fun p => .field (.payload p)) fun _ => rfl

theorem classBlock_eq_mapM (c : Class) :
    classBlock prefixes c = c.lineSources.mapM (LineSource.line prefixes) := by
  have hattributes : block c.info.name attributeLine c.attributes =
      (LineSource.head c.info.name :: c.attributes.map fun a => .field (.attribute a)).mapM
        (LineSource.line prefixes) :=
    block_eq_mapM (fun a => .field (.attribute a)) fun _ => rfl
  rw [classBlock, Class.lineSources, List.mapM_append, hattributes,
    mapM_sources_map (fun m => .field (.method m)) (methodLine prefixes) fun _ => rfl]

theorem globalObjectLines_eq_mapM (o : GlobalObject) :
    globalObjectLines o = o.lineSources.mapM (LineSource.line prefixes) := by
  rw [globalObjectLines, GlobalObject.lineSources, List.mapM_cons, List.mapM_cons, List.mapM_nil]
  simp only [LineSource.line, bind_assoc, pure_bind]
  rfl

/-! ### Functions -/

theorem variadicLines_eq_mapM (p : Option VariadicParameter) :
    variadicLines p = (p.toList.map LineSource.variadic).mapM (LineSource.line prefixes) := by
  cases p with
  | none => rfl
  | some p =>
    rw [variadicLines, Option.toList_some, List.map_singleton, List.mapM_cons, List.mapM_nil]
    simp only [LineSource.line, bind_assoc, pure_bind]

theorem paramLines_eq_mapM (m : Method) :
    paramLines m = m.paramSources.mapM (LineSource.line prefixes) := by
  rw [paramLines, Method.paramSources]
  dsimp only
  split
  · rw [List.mapM_cons]
    simp only [LineSource.line]
    cases (m.parameters.getD []).mapM tableField <;> rfl
  · rw [List.mapM_append, mapM_sources_map .param parameterParamLine fun _ => rfl,
      ← variadicLines_eq_mapM]

theorem functionLines_eq_mapM (m : Method) :
    functionLines m = m.lineSources.mapM (LineSource.line prefixes) := by
  rw [functionLines, Method.lineSources, List.mapM_append, List.mapM_append,
    ← paramLines_eq_mapM, mapM_sources_map .returned returnedLine fun _ => rfl, ← returnLines,
    List.mapM_cons]
  simp only [LineSource.line]
  cases paramLines m <;> cases returnLines m <;> cases argumentNames m <;> rfl

/-! ### Defines -/

theorem defineName_nil : defineName [] = defineSpace := by
  rw [defineName, List.map_nil, String.intercalate_singleton]

/-- The full name of a define inside others is got by adding its own name at the end. -/
theorem qualified_defineName (around : List Name) (name : Name) :
    qualified (defineName around) name = .str (defineName (around ++ [name])) := by
  rw [defineName, defineName, List.map_append]
  exact Outline.qualified_intercalate (around.map Json.inline) name

/-- The class line of a define and the lines of its values. -/
theorem defineHead_eq_mapM (around : List Name) (info : Member) (values : List DefineValue) :
    block (qualified (defineName around) info.name)
        (fun v : DefineValue => defineValueLine v.name v.description) values =
      (LineSource.define (around ++ [info.name]) :: values.map fun v => .field (.value v)).mapM
        (LineSource.line prefixes) := by
  rw [qualified_defineName, block, List.mapM_cons,
    mapM_sources_map (fun v => .field (.value v))
      (fun v => defineValueLine v.name v.description) fun _ => rfl]
  rfl

mutual

/-- The block of a define consists of the lines of its sources: its own, and in each inner define
those of that define under the name that is longer by one. -/
theorem defineBlock_eq_mapM (around : List Name) : ∀ d : Define,
    defineBlock (defineName around) d = (d.lineSources around).mapM (LineSource.line prefixes)
  | .mk info values subkeys => by
    rw [defineBlock, Define.lineSources, List.mapM_append, ← defineHead_eq_mapM,
      ← innerBlocks_eq_mapM (around ++ [info.name]) subkeys, qualified_defineName]
    rfl
termination_by structural d => d

theorem innerBlocks_eq_mapM (around : List Name) : ∀ defines : Option (List Define),
    innerBlocks (defineName around) defines =
      (Define.innerSources around defines).mapM (LineSource.line prefixes)
  | some defines => defineBlocks_eq_mapM around defines
  | none => rfl
termination_by structural defines => defines

theorem defineBlocks_eq_mapM (around : List Name) : ∀ defines : List Define,
    defineBlocks (defineName around) defines =
      (Define.listSources around defines).mapM (LineSource.line prefixes)
  | [] => rfl
  | d :: rest => by
    rw [defineBlocks, Define.listSources, List.mapM_append, List.mapM_cons,
      defineBlock_eq_mapM around d, defineBlocks_eq_mapM around rest]
    simp only [LineSource.line]
    cases (d.lineSources around).mapM (LineSource.line prefixes) <;> rfl
termination_by structural ds => ds

end

/-! ### Documents -/

/-- The blocks of several entities are the lines of their sources. -/
theorem mapM_blocks {as : List α} {f : α → Except Fault (List String)}
    (g : α → List LineSource) (h : ∀ a, f a = (g a).mapM (LineSource.line prefixes)) :
    as.mapM f = (as.map g).mapM (List.mapM (LineSource.line prefixes)) := by
  rw [List.mapM_map]
  exact congrArg as.mapM (funext h)

/-- The blocks of a document are the lines of the sources of its blocks. -/
theorem documentBlocks_eq_mapM (doc : Document) :
    documentBlocks prefixes doc =
      doc.sourceBlocks.mapM (List.mapM (LineSource.line prefixes)) := by
  cases doc with
  | runtime api =>
    simp only [Document.sourceBlocks, List.mapM_append,
      ← mapM_blocks (Define.lineSources []) (defineBlock_eq_mapM []),
      ← mapM_blocks Concept.lineSources conceptBlock_eq_mapM,
      ← mapM_blocks Class.lineSources classBlock_eq_mapM,
      ← mapM_blocks Event.lineSources eventBlock_eq_mapM,
      ← mapM_blocks GlobalObject.lineSources globalObjectLines_eq_mapM,
      ← mapM_blocks Method.lineSources functionLines_eq_mapM]
    simp only [documentBlocks, runtimeBlocks, defineName_nil, bind_assoc, pure_bind]
  | prototype api =>
    simp only [Document.sourceBlocks, List.mapM_append,
      ← mapM_blocks Concept.lineSources conceptBlock_eq_mapM,
      ← mapM_blocks Prototype.lineSources prototypeBlock_eq_mapM]
    rfl

/-- Blocks are joined before or after their lines are written. -/
theorem mapM_intercalate_gap (blocks : List (List LineSource)) :
    ([LineSource.gap].intercalate blocks).mapM (LineSource.line prefixes) =
      joinBlocks <$> blocks.mapM (List.mapM (LineSource.line prefixes)) := by
  induction blocks with
  | nil => rfl
  | cons block rest ih =>
    cases rest with
    | nil =>
      rw [List.intercalate_singleton]
      cases h : block.mapM (LineSource.line prefixes) <;> simp [h, joinBlocks]
    | cons next rest =>
      rw [List.mapM_cons, List.intercalate_cons_cons, List.mapM_append, List.mapM_append, ih]
      cases block.mapM (LineSource.line prefixes) with
      | error fault => rfl
      | ok lines =>
        cases hmore : (next :: rest).mapM (List.mapM (LineSource.line prefixes)) with
        | error fault => rfl
        | ok others =>
          have hne : others ≠ [] := ne_nil_of_mapM_eq_ok hmore (List.cons_ne_nil next rest)
          show Except.ok ((lines ++ [""]) ++ joinBlocks others) = .ok (joinBlocks (lines :: others))
          rw [joinBlocks_cons, ← cons_joinBlocks hne, List.append_assoc]
          rfl

end Blocks

/-- **The lines of a document are the lines of its sources**, one by one; if one of these cannot be
written, the first of them stops the others. -/
theorem Document.documentLines_eq_mapM (prefixes : List String) (doc : Document) :
    (documentLines prefixes doc).outcome = doc.lineSources.mapM (LineSource.line prefixes) := by
  rw [Document.lineSources, mapM_intercalate_gap, ← documentBlocks_eq_mapM, documentLines]
  cases documentBlocks prefixes doc <;> rfl

end ApiReference
