import ApiReference.Declaration.Block
import ApiReference.Proofs.Document.Described
import ApiReference.Proofs.Document.Entries

/-!
# The outline of the annotations

Which paragraphs the annotations of a document consist of, told from the JSON value alone: one for
each object that the sections list, in order, and one for each define inside a define, after the
define that it belongs to. A paragraph has a head and a line for each object that the entity lists
as a member. Nothing here knows of empty lines, and nothing fails: a name stands for itself, and a
type that has no text is empty.

This is a specification, and it is kept apart from what it specifies. It reads fields with
`Fields.each` and `Fields.value`, which give something for every object, so there is no need to say
what happens to a document that is refused. The entities of a document and the readers that make
them do not occur. What the outline shares with the program is the text of a type, the rule for
stripping prefixes, and the way in which the line of a parameter is cut at its end; these are
specified elsewhere.

The defines are the one place at which the document is a tree of unknown depth. The writer of
defines carries a full name down with it as a text. Here each define has the list of the names
around it, and the defines are listed by a walk (`Outline.defineWalk`), as types and entries are.
-/

set_option autoImplicit false

namespace ApiReference

/-- The text of the type that a JSON value states. -/
def Json.typeText (v : Json) : String :=
  match TypeExpr.renderOptional v.type? with
  | .ok text => text
  | .error _ => ""

namespace Outline

variable (prefixes : List String) (fields : Fields)

/-- The name that an object states. -/
def name : String :=
  (fields.value "name").inline

/-- The text of the type that an object states. -/
def type : String :=
  (fields.value "type").typeText

/-- The description that an object states. -/
def description : String :=
  (fields.value "description").string

/-- The line of a member with the given text for its type. -/
def memberLine (type : String) : String :=
  "---@field " ++ name fields ++ " " ++ type ++ " " ++ Text.firstLine (description fields)

/-- The line of a property or of the field of an event. -/
def typedLine : String :=
  memberLine fields (type fields)

/-- The line of a value of a define. -/
def valueLine : String :=
  memberLine fields ("\"" ++ name fields ++ "\"")

/-- What an attribute gives and takes. -/
def attributeType : String :=
  match (fields.value "read_type").type?, (fields.value "write_type").type? with
  | some _, some _ =>
    (fields.value "read_type").typeText ++ " | " ++ (fields.value "write_type").typeText
  | some _, none => (fields.value "read_type").typeText
  | none, some _ => (fields.value "write_type").typeText
  | none, none => "any"

/-- The line of an attribute. -/
def attributeLine : String :=
  memberLine fields (attributeType fields)

/-- One parameter in a signature. -/
def signaturePart : String :=
  name fields ++ ":" ++ Declaration.stripPrefixes prefixes (type fields)

/-- The line of a method. -/
def methodLine : String :=
  memberLine fields
    ("fun(" ++ ", ".intercalate (fields.each "parameters" (signaturePart prefixes)) ++ ")")

/-! ## Paragraphs

A paragraph for each kind of entity. The objects listed under a key come in the order of the list,
and items of the list that are no objects are passed over. -/

/-- A paragraph that declares a class of the given name. -/
def headed (name : String) (lines : List String) : List String :=
  ("---@class " ++ name) :: lines

/-- The paragraph of a concept or a prototype. -/
def structParagraph : List String :=
  headed (name fields) (fields.each "properties" typedLine)

/-- The paragraph of an event. -/
def eventParagraph : List String :=
  headed (name fields) (fields.each "data" typedLine)

/-- The paragraph of a class. -/
def classParagraph : List String :=
  headed (name fields)
    (fields.each "attributes" attributeLine ++ fields.each "methods" (methodLine prefixes))

/-- A define, with the names of the defines around it, from the outside in. -/
structure NestedDefine where
  around : List String
  fields : Fields

/-- The walk through the defines inside a define. -/
def defineWalk : Walk NestedDefine where
  below d := (d.fields.objects "subkeys").map fun g => ⟨d.around ++ [name d.fields], g⟩
  wf := Walk.wellFounded_of_size (fun d => sizeOf d.fields) fun h => by
    obtain ⟨g, hg, rfl⟩ := List.mem_map.1 h
    exact Fields.sizeOf_lt_of_mem_objects hg

/-- The paragraph of a define. -/
def defineParagraph (d : NestedDefine) : List String :=
  headed (".".intercalate ("defines" :: d.around ++ [name d.fields]))
    (d.fields.each "values" valueLine)

/-- The paragraph of a global variable. -/
def objectParagraph : List String :=
  ["---@type " ++ type fields, name fields ++ " = nil"]

/-- The line of a parameter of a function. -/
def paramLine : String :=
  Declaration.paramLine (name fields) (fields.flag "optional") (type fields) (description fields)

/-- A parameter as a field of the table that holds the arguments. -/
def tableField : String :=
  name fields ++ Declaration.optionalMark (fields.flag "optional") ++ ": " ++ type fields

/-- The line of the table that holds the arguments. -/
def tableLine (format : MethodFormat) : String :=
  Declaration.paramLine "param" (format.tableOptional.getD false)
    ("\x7b" ++ ", ".intercalate (fields.each "parameters" tableField) ++ "\x7d") ""

/-- The line of a variadic parameter. -/
def variadicLine : String :=
  Declaration.paramLine "..." false (type fields) (description fields)

/-- The line of a returned value. -/
def returnLine : String :=
  Declaration.returnLine (type fields) (fields.flag "optional") (description fields)

/-- The object that describes the variadic parameter of a function, if there is one. -/
def variadic : List Fields :=
  (fields.value "variadic_parameter").object?.toList

/-- The parameter lines of a function and the names of its arguments. -/
def arguments : List String × List String :=
  let format := MethodFormat.ofJson (fields.value "format")
  if format.takesTable then ([tableLine fields format], ["param"])
  else
    (fields.each "parameters" paramLine ++ (variadic fields).map variadicLine,
      fields.each "parameters" name ++ (variadic fields).map fun _ => "...")

/-- The paragraph of a global function. -/
def functionParagraph : List String :=
  (arguments fields).1 ++ fields.each "return_values" returnLine ++
    ["function " ++ name fields ++ "(" ++ ", ".intercalate (arguments fields).2 ++ ") end"]

/-! ## Documents

The sections in the order in which they are written, which is not the order in which a document
lists them. -/

/-- The paragraphs of a document of the runtime stage. -/
def runtimeParagraphs : List (List String) :=
  ((fields.objects "defines").flatMap fun g => (defineWalk.nodes ⟨[], g⟩).map defineParagraph) ++
    fields.each "concepts" structParagraph ++ fields.each "classes" (classParagraph prefixes) ++
    fields.each "events" eventParagraph ++ fields.each "global_objects" objectParagraph ++
    fields.each "global_functions" functionParagraph

/-- The paragraphs of a document of the prototype stage. -/
def prototypeParagraphs : List (List String) :=
  fields.each "types" structParagraph ++ fields.each "prototypes" structParagraph

/-- The paragraphs of a document. -/
def document (d : Json) : List (List String) :=
  match Entry.ofDocument? d with
  | some ⟨.runtimeApi, fields⟩ => runtimeParagraphs prefixes fields
  | some ⟨_, fields⟩ => prototypeParagraphs fields
  | none => []

end Outline
end ApiReference
