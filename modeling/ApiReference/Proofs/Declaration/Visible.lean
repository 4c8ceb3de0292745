import ApiReference.Proofs.Declaration.LineSources

/-!
# What the annotations show

The annotations of a document show part of what the document says. This file says which part, as a
relation between two documents: `Document.Agree` compares them section by section and entity by
entity, and of each entity it compares what is shown of it and nothing else. What one kind of entity
shows depends on where it stands: of a method, a class shows the first line of the description and
the names and types of the parameters; a global function shows no description of its own, but those
of its parameters, and which of them may be left out.

Documents that agree have the same annotations, or neither has any (`Document.documentLines_congr`).
They are compared by the sources of their lines: each agreement gives lists of sources that are
written alike, one by one.

The relation is written for its reader. Each kind of entity has a structure with a field for each
thing that is shown, so that the list of these structures is the answer to the question what a
change to a document can change in its annotations; whatever no structure mentions cannot. The
orders, the lists and examples, the images, the visibility, and most descriptions are not mentioned.

* **Types are compared by their texts**, not as types. Two different types with one text are shown
  alike, and so are two types without a text, which stop the annotations both.
* **Descriptions are compared by their first lines.**
* **An absent list and an empty one** are the same.

One kind of entity may have several structures, such as `Parameter.Agree`, `Parameter.AgreeAsField`
and `Parameter.AgreeAsArgument`, which extend each other: from one to the next more is shown.

## What is here

* `Document.Agree` and the agreements of the entities.
* `Document.documentLines_congr`: documents that agree have the same annotations.
* `Document.documentLines_documentInFull`: a document with something in each section, and the same
  document with much more that is not shown.
-/

set_option autoImplicit false

namespace ApiReference

open Declaration

/-- The types have the same text, or neither has one. -/
abbrev TypeExpr.SameText (t u : Option TypeExpr) : Prop :=
  SameValue (renderOptional t) (renderOptional u)

/-- The descriptions are the same up to their first line break. -/
abbrev Text.SameFirstLine (s t : String) : Prop :=
  firstLine s = firstLine t

open TypeExpr (SameText)
open Text (SameFirstLine)

/-! ## Members

Members that are written as fields: they show their name, the text for their type and the first line
of their description. -/

/-- What is shown of the common part of a member that is written as a field. -/
structure Member.Agree (m n : Member) : Prop where
  name : m.name = n.name
  description : SameFirstLine m.description n.description

/-- What is shown of a property. -/
structure Property.Agree (p q : Property) : Prop where
  info : p.info.Agree q.info
  type : SameText p.type q.type

/-- What is shown of a value of a define. -/
structure DefineValue.Agree (v w : DefineValue) : Prop where
  name : v.name = w.name
  description : SameFirstLine v.description w.description

/-- What is shown of an attribute: what it is read as and what it is written as are one text. -/
structure Attribute.Agree (a b : Attribute) : Prop where
  info : a.info.Agree b.info
  type : SameValue (attributeType a) (attributeType b)

/-- Attributes agree if they can be read and written alike and both types have the same text. -/
theorem Attribute.Agree.of_types {a b : Attribute} (info : a.info.Agree b.info)
    (hread : Option.Rel (fun t u => SameValue t.render u.render) a.readType b.readType)
    (hwrite : Option.Rel (fun t u => SameValue t.render u.render) a.writeType b.writeType) :
    a.Agree b := by
  refine ⟨info, ?_⟩
  rw [attributeType, attributeType]
  generalize a.readType = ra, b.readType = rb, a.writeType = wa, b.writeType = wb at hread hwrite
  cases hread with
  | none =>
    cases hwrite with
    | none => exact .refl _
    | some hw => exact hw
  | some hr =>
    cases hwrite with
    | none => exact hr
    | some hw => exact hr.bind fun r => hw.map _

/-- What is shown of a parameter in the signature of a method. -/
structure Parameter.Agree (p q : Parameter) : Prop where
  name : p.name = q.name
  type : SameText p.type q.type

/-- What is shown of a method of a class. -/
structure Method.Agree (m n : Method) : Prop where
  info : m.info.Agree n.info
  parameters : List.Forall₂ Parameter.Agree (m.parameters.getD []) (n.parameters.getD [])

/-- What is shown of a field of an event. -/
structure Parameter.AgreeAsField (p q : Parameter) : Prop extends p.Agree q where
  description : SameFirstLine p.description q.description

/-! ## Entities with members -/

/-- What is shown of a concept. -/
structure Concept.Agree (c e : Concept) : Prop where
  name : c.info.name = e.info.name
  properties : List.Forall₂ Property.Agree (c.properties.getD []) (e.properties.getD [])

/-- What is shown of a prototype. -/
structure Prototype.Agree (p q : Prototype) : Prop where
  name : p.info.name = q.info.name
  properties : List.Forall₂ Property.Agree p.properties q.properties

/-- What is shown of an event. -/
structure Event.Agree (e f : Event) : Prop where
  name : e.info.name = f.info.name
  data : List.Forall₂ Parameter.AgreeAsField e.data f.data

/-- What is shown of a class. -/
structure Class.Agree (c d : Class) : Prop where
  name : c.info.name = d.info.name
  attributes : List.Forall₂ Attribute.Agree c.attributes d.attributes
  methods : List.Forall₂ Method.Agree c.methods d.methods

/-- What is shown of a define and of the defines inside it. -/
inductive Define.Agree : Define → Define → Prop where
  | intro {d e : Define} (name : d.info.name = e.info.name)
    (values : List.Forall₂ DefineValue.Agree (d.values.getD []) (e.values.getD []))
    (subkeys : List.Forall₂ Define.Agree (d.subkeys.getD []) (e.subkeys.getD [])) : Define.Agree d e

/-- What is shown of a global variable. -/
structure GlobalObject.Agree (o p : GlobalObject) : Prop where
  name : o.name = p.name
  type : SameText o.type p.type

/-! ## Global functions

Of a function more is shown of each parameter and less of the function itself. -/

/-- What is shown of a parameter of a function. -/
structure Parameter.AgreeAsArgument (p q : Parameter) : Prop extends p.AgreeAsField q where
  optional : p.optional = q.optional

/-- What is shown of a returned value, which is not its name. -/
structure Parameter.AgreeAsReturned (p q : Parameter) : Prop where
  type : SameText p.type q.type
  optional : p.optional = q.optional
  description : SameFirstLine p.description q.description

/-- What is shown of a variadic parameter. -/
structure VariadicParameter.Agree (p q : VariadicParameter) : Prop where
  type : SameText p.type q.type
  description : SameFirstLine p.description q.description

/-- What is shown of a global function. -/
structure Method.AgreeAsFunction (m n : Method) : Prop where
  name : m.info.name = n.info.name
  takesTable : m.format.takesTable = n.format.takesTable
  tableOptional : m.format.tableOptional.getD false = n.format.tableOptional.getD false
  parameters : List.Forall₂ Parameter.AgreeAsArgument (m.parameters.getD []) (n.parameters.getD [])
  variadicParameter : Option.Rel VariadicParameter.Agree m.variadicParameter n.variadicParameter
  returnValues :
    List.Forall₂ Parameter.AgreeAsReturned (m.returnValues.getD []) (n.returnValues.getD [])

/-! ## Documents -/

/-- What is shown of a document of the runtime stage. -/
structure RuntimeApi.Agree (a b : RuntimeApi) : Prop where
  defines : List.Forall₂ Define.Agree a.defines b.defines
  concepts : List.Forall₂ Concept.Agree a.concepts b.concepts
  classes : List.Forall₂ Class.Agree a.classes b.classes
  events : List.Forall₂ Event.Agree a.events b.events
  globalObjects : List.Forall₂ GlobalObject.Agree a.globalObjects b.globalObjects
  globalFunctions : List.Forall₂ Method.AgreeAsFunction a.globalFunctions b.globalFunctions

/-- What is shown of a document of the prototype stage. -/
structure PrototypeApi.Agree (a b : PrototypeApi) : Prop where
  types : List.Forall₂ Concept.Agree a.types b.types
  prototypes : List.Forall₂ Prototype.Agree a.prototypes b.prototypes

/-- What is shown of a document. -/
inductive Document.Agree : Document → Document → Prop where
  | runtime {a b : RuntimeApi} (h : a.Agree b) : Document.Agree (.runtime a) (.runtime b)
  | prototype {a b : PrototypeApi} (h : a.Agree b) : Document.Agree (.prototype a) (.prototype b)

/-! ## Fields

`SameValue` compares two steps by their values and not by their faults. Which fault stops the
annotations of two documents that agree is not claimed to be the same, since the types without a
text may be different ones. -/

variable {prefixes : List String}

/-- The lines of the sources are the same, or neither can be written. -/
abbrev LineSource.WrittenAlike (prefixes : List String) (s t : LineSource) : Prop :=
  SameValue (s.line prefixes) (t.line prefixes)

/-- Members with the same name, the same text for their type and the same first line of their
description are written alike. -/
theorem Declaration.FieldSource.writtenAlike {f g : FieldSource} (hname : f.name = g.name)
    (htype : SameValue (f.typeText prefixes) (g.typeText prefixes))
    (hdescription : SameFirstLine f.description g.description) :
    LineSource.WrittenAlike prefixes (.field f) (.field g) := by
  refine htype.bind fun type => ?_
  rw [fieldLine, fieldLine, hname, hdescription]
  exact .refl _

theorem Property.Agree.writtenAlike {p q : Property} (h : p.Agree q) :
    LineSource.WrittenAlike prefixes (.field (.property p)) (.field (.property q)) :=
  FieldSource.writtenAlike h.info.name h.type h.info.description

theorem DefineValue.Agree.writtenAlike {v w : DefineValue} (h : v.Agree w) :
    LineSource.WrittenAlike prefixes (.field (.value v)) (.field (.value w)) := by
  refine FieldSource.writtenAlike h.name ?_ h.description
  rw [FieldSource.typeText, FieldSource.typeText, h.name]
  exact .ok _

/-- Attributes that agree have the same line. -/
theorem Attribute.Agree.writtenAlike {a b : Attribute} (h : a.Agree b) :
    LineSource.WrittenAlike prefixes (.field (.attribute a)) (.field (.attribute b)) :=
  FieldSource.writtenAlike h.info.name h.type h.info.description

theorem Parameter.AgreeAsField.writtenAlike {p q : Parameter} (h : p.AgreeAsField q) :
    LineSource.WrittenAlike prefixes (.field (.payload p)) (.field (.payload q)) :=
  FieldSource.writtenAlike h.name h.type h.description

theorem Parameter.Agree.signaturePart {p q : Parameter} (h : p.Agree q) :
    SameValue (signaturePart prefixes p) (signaturePart prefixes q) := by
  rw [Declaration.signaturePart, Declaration.signaturePart, h.name]
  exact h.type.map _

/-- Methods of classes that agree have the same line. -/
theorem Method.Agree.writtenAlike {m n : Method} (h : m.Agree n) :
    LineSource.WrittenAlike prefixes (.field (.method m)) (.field (.method n)) := by
  refine FieldSource.writtenAlike h.info.name ?_ h.info.description
  exact (SameValue.mapM (h.parameters.imp fun _ _ hp => hp.signaturePart)).map _

/-! ## Blocks

Each kind of entity has a list of sources, and for entities that agree these lists correspond one by
one. For defines this is an induction on both sides at once. -/

section Blocks

variable {α : Type}

/-- A class line and the lines of members that are written alike. -/
theorem forall₂_writtenAlike_cons {R : α → α → Prop} {name other : Name} {as bs : List α}
    {g : α → LineSource} (hname : name = other) (h : List.Forall₂ R as bs)
    (hg : ∀ ⦃a b⦄, R a b → LineSource.WrittenAlike prefixes (g a) (g b)) :
    List.Forall₂ (LineSource.WrittenAlike prefixes) (.head name :: as.map g)
      (.head other :: bs.map g) := by
  subst hname
  exact .cons (.refl _) (List.rel_map hg h)

theorem Concept.Agree.lineSources {c e : Concept} (h : c.Agree e) :
    List.Forall₂ (LineSource.WrittenAlike prefixes) c.lineSources e.lineSources :=
  forall₂_writtenAlike_cons h.name h.properties fun _ _ hp => hp.writtenAlike

theorem Prototype.Agree.lineSources {p q : Prototype} (h : p.Agree q) :
    List.Forall₂ (LineSource.WrittenAlike prefixes) p.lineSources q.lineSources :=
  forall₂_writtenAlike_cons h.name h.properties fun _ _ hp => hp.writtenAlike

theorem Event.Agree.lineSources {e f : Event} (h : e.Agree f) :
    List.Forall₂ (LineSource.WrittenAlike prefixes) e.lineSources f.lineSources :=
  forall₂_writtenAlike_cons h.name h.data fun _ _ hp => hp.writtenAlike

/-- Classes that agree have lines that are the same one by one. -/
theorem Class.Agree.lineSources {c d : Class} (h : c.Agree d) :
    List.Forall₂ (LineSource.WrittenAlike prefixes) c.lineSources d.lineSources :=
  List.rel_append
    (forall₂_writtenAlike_cons h.name h.attributes fun _ _ ha => ha.writtenAlike)
    (List.rel_map (fun _ _ hm => hm.writtenAlike) h.methods)

mutual

/-- The sources of defines that agree are written alike, the inner ones by induction: the names in
front of theirs are the same. -/
theorem Define.Agree.lineSources (around : List Name) : ∀ d e : Define, d.Agree e →
    List.Forall₂ (LineSource.WrittenAlike prefixes) (d.lineSources around) (e.lineSources around)
  | .mk info values subkeys, .mk info' values' subkeys', .intro hname hvalues hsubkeys => by
    have hname : info.name = info'.name := hname
    rw [Define.lineSources, Define.lineSources, hname]
    refine List.rel_append
      (.cons (.refl _) (List.rel_map (fun _ _ hv => hv.writtenAlike) hvalues)) ?_
    exact Define.Agree.innerSources _ subkeys subkeys' hsubkeys
termination_by structural d => d

theorem Define.Agree.innerSources (around : List Name) : ∀ ds es : Option (List Define),
    List.Forall₂ Define.Agree (ds.getD []) (es.getD []) →
      List.Forall₂ (LineSource.WrittenAlike prefixes) (Define.innerSources around ds)
        (Define.innerSources around es)
  | some ds, some es, h => Define.Agree.listSources around ds es h
  | some [], none, _ => .nil
  | none, some [], _ => .nil
  | none, none, _ => .nil
termination_by structural ds => ds

theorem Define.Agree.listSources (around : List Name) : ∀ ds es : List Define,
    List.Forall₂ Define.Agree ds es →
      List.Forall₂ (LineSource.WrittenAlike prefixes) (Define.listSources around ds)
        (Define.listSources around es)
  | [], [], _ => .nil
  | d :: ds, e :: es, .cons hd hds =>
    List.rel_append (.cons (.refl _) (Define.Agree.lineSources around d e hd))
      (Define.Agree.listSources around ds es hds)
termination_by structural ds => ds

end

theorem GlobalObject.Agree.lineSources {o p : GlobalObject} (h : o.Agree p) :
    List.Forall₂ (LineSource.WrittenAlike prefixes) o.lineSources p.lineSources := by
  refine .cons (h.type.map _) (.cons ?_ .nil)
  show SameValue (.ok (o.name.inline ++ " = nil")) (.ok (p.name.inline ++ " = nil"))
  rw [h.name]
  exact .ok _

/-! ### Functions -/

theorem Parameter.AgreeAsArgument.writtenAlike {p q : Parameter} (h : p.AgreeAsArgument q) :
    LineSource.WrittenAlike prefixes (.param p) (.param q) := by
  refine h.type.bind fun type => ?_
  rw [paramLine, paramLine, h.name, h.optional, h.description]
  exact .refl _

theorem Parameter.AgreeAsArgument.tableField {p q : Parameter} (h : p.AgreeAsArgument q) :
    SameValue (tableField p) (tableField q) := by
  rw [Declaration.tableField, Declaration.tableField, h.name, h.optional]
  exact h.type.map _

theorem Parameter.AgreeAsReturned.writtenAlike {p q : Parameter} (h : p.AgreeAsReturned q) :
    LineSource.WrittenAlike prefixes (.returned p) (.returned q) := by
  refine h.type.bind fun type => ?_
  rw [returnLine, returnLine, h.optional, h.description]
  exact .refl _

theorem VariadicParameter.Agree.writtenAlike {p q : VariadicParameter} (h : p.Agree q) :
    LineSource.WrittenAlike prefixes (.variadic p) (.variadic q) := by
  refine h.type.bind fun type => ?_
  rw [paramLine, paramLine, h.description]
  exact .refl _

/-- A function that agrees with one that has a variadic parameter has one as well. -/
theorem VariadicParameter.isSome_eq_of_rel {v w : Option VariadicParameter}
    (h : Option.Rel VariadicParameter.Agree v w) : v.isSome = w.isSome := by
  cases h <;> rfl

theorem VariadicParameter.sources_of_rel {v w : Option VariadicParameter}
    (h : Option.Rel VariadicParameter.Agree v w) :
    List.Forall₂ (LineSource.WrittenAlike prefixes) (v.toList.map .variadic)
      (w.toList.map .variadic) := by
  cases h with
  | none => exact .nil
  | some hp => exact .cons hp.writtenAlike .nil

namespace Method.AgreeAsFunction

variable {m n : Method}

theorem table (h : m.AgreeAsFunction n) :
    LineSource.WrittenAlike prefixes (.table m) (.table n) := by
  refine (SameValue.mapM (h.parameters.imp fun _ _ hp => hp.tableField)).bind fun fields => ?_
  rw [h.tableOptional]
  exact .refl _

theorem argumentNames (h : m.AgreeAsFunction n) :
    SameValue (argumentNames m) (argumentNames n) := by
  have hnames : SameValue ((m.parameters.getD []).mapM fun p => nameText p.name)
      ((n.parameters.getD []).mapM fun p => nameText p.name) := by
    refine SameValue.mapM (h.parameters.imp fun p q hp => ?_)
    rw [hp.name]
    exact .refl _
  rw [Declaration.argumentNames, Declaration.argumentNames, h.takesTable,
    VariadicParameter.isSome_eq_of_rel h.variadicParameter]
  split
  · exact .ok _
  · exact hnames.map _

theorem function (h : m.AgreeAsFunction n) :
    LineSource.WrittenAlike prefixes (.function m) (.function n) := by
  refine h.argumentNames.bind fun arguments => ?_
  rw [h.name]
  exact .refl _

theorem paramSources (h : m.AgreeAsFunction n) :
    List.Forall₂ (LineSource.WrittenAlike prefixes) m.paramSources n.paramSources := by
  rw [Method.paramSources, Method.paramSources, h.takesTable]
  split
  · exact .cons h.table .nil
  · exact List.rel_append (List.rel_map (fun _ _ hp => hp.writtenAlike) h.parameters)
      (VariadicParameter.sources_of_rel h.variadicParameter)

/-- Functions that agree have lines that are the same one by one. -/
theorem lineSources (h : m.AgreeAsFunction n) :
    List.Forall₂ (LineSource.WrittenAlike prefixes) m.lineSources n.lineSources :=
  List.rel_append
    (List.rel_append h.paramSources (List.rel_map (fun _ _ hp => hp.writtenAlike) h.returnValues))
    (.cons h.function .nil)

end Method.AgreeAsFunction

/-! ### Documents -/

theorem Document.Agree.sourceBlocks {d e : Document} (h : d.Agree e) :
    List.Forall₂ (List.Forall₂ (LineSource.WrittenAlike prefixes)) d.sourceBlocks
      e.sourceBlocks := by
  cases h with
  | runtime h =>
    exact List.rel_append (List.rel_append (List.rel_append (List.rel_append (List.rel_append
      (List.rel_map (fun _ _ hd => hd.lineSources [] _ _) h.defines)
      (List.rel_map (fun _ _ hc => hc.lineSources) h.concepts))
      (List.rel_map (fun _ _ hc => hc.lineSources) h.classes))
      (List.rel_map (fun _ _ he => he.lineSources) h.events))
      (List.rel_map (fun _ _ ho => ho.lineSources) h.globalObjects))
      (List.rel_map (fun _ _ hf => hf.lineSources) h.globalFunctions)
  | prototype h =>
    exact List.rel_append (List.rel_map (fun _ _ hc => hc.lineSources) h.types)
      (List.rel_map (fun _ _ hp => hp.lineSources) h.prototypes)

theorem Document.Agree.documentStage {d e : Document} (h : d.Agree e) :
    documentStage d = documentStage e := by
  cases h <;> rfl

end Blocks

/-- **Documents that agree on what is shown have the same annotations**, with the same note about
them, or neither has any: nothing else that they say reaches a line. -/
theorem Document.documentLines_congr {d e : Document} (h : d.Agree e) (prefixes : List String) :
    (∃ lines, (documentLines prefixes d).outcome = .ok lines ∧
        documentLines prefixes e = documentLines prefixes d) ∨
      (∃ fault, (documentLines prefixes d).outcome = .error fault) ∧
        ∃ fault, (documentLines prefixes e).outcome = .error fault := by
  have hblocks : SameValue (documentBlocks prefixes d) (documentBlocks prefixes e) := by
    rw [documentBlocks_eq_mapM, documentBlocks_eq_mapM]
    exact SameValue.mapM (h.sourceBlocks.imp fun _ _ hb => SameValue.mapM hb)
  rw [documentLines, documentLines, h.documentStage]
  generalize documentBlocks prefixes d = x at hblocks ⊢
  generalize documentBlocks prefixes e = y at hblocks ⊢
  cases hblocks with
  | ok blocks => exact Or.inl ⟨joinBlocks blocks, rfl, rfl⟩
  | error fault other => exact Or.inr ⟨⟨fault, rfl⟩, other, rfl⟩

/-! ## A document and its bare form

The two documents of the example are one function of a flag, so that what is added for the second
one can be seen where it is added. -/

/-- Fields that no annotation shows. -/
def hiddenFields : Fields :=
  [("order", .int 3), ("lists", .arr [.str "A list."]), ("examples", .arr [.str "x = 1"]),
   ("images", .arr [.obj [("filename", .str "a.png")]]), ("visibility", .arr [.str "space-age"]),
   ("parent", .str "Base"), ("abstract", .bool true), ("inline", .bool true),
   ("alt_name", .str "other"), ("override", .bool true), ("default", .str "none"),
   ("raises", .arr [.obj [("name", .str "on_tick")]]), ("subclasses", .arr [.str "Train"]),
   ("operators", .arr [.obj [("name", .str "length"), ("read_type", .str "uint")]]),
   ("variant_parameter_groups", .arr [.obj [("name", .str "rail")]]), ("filter", .str "Filter")]

section PartlyShown

variable (full : Bool)

/-- A description, with more than its first line if `full` is set. -/
def describedInFull (s : String) : Json :=
  .str (if full then s ++ "\nAnd more." else s)

/-- An object with the given fields, and with what else is not shown if `full` is set. -/
def statedInFull (shown hidden : Fields) : Json :=
  .obj (shown ++ if full then hidden ++ hiddenFields else [])

/-- An object of which neither the description is shown, nor whether it may be left out. -/
def namedInFull (name : String) (shown : Fields) : Json :=
  statedInFull full (("name", .str name) :: shown)
    [("description", .str "Not shown."), ("optional", .bool true)]

/-- A member with the first line of its description. -/
def memberInFull (name description : String) (shown hidden : Fields) : Json :=
  statedInFull full
    (("name", .str name) :: ("description", describedInFull full description) :: shown) hidden

/-- A returned value. -/
def returnedInFull : Json :=
  statedInFull full [("type", .str "bool"), ("description", describedInFull full "Its value.")]
    [("name", .str "result")]

/-- A class with an attribute and a method. -/
def classInFull : Json :=
  namedInFull full "LuaEntity"
    [("attributes", .arr [memberInFull full "health" "Points." [("read_type", .str "float")]
        [("optional", .bool true)]]),
     ("methods", .arr [memberInFull full "die" "Kills it."
        [("parameters", .arr [namedInFull full "force" [("type", .str "ForceID")]])]
        [("return_values", .arr [returnedInFull true]),
         ("variadic_parameter", .obj [("type", .str "any")]),
         ("format", .obj [("takes_table", .bool true)])]])]

/-- A global function. -/
def functionInFull : Json :=
  namedInFull full "log"
    [("parameters", .arr [memberInFull full "text" "Shown."
        [("type", .str "string"), ("optional", .bool true)] []]),
     ("return_values", .arr [returnedInFull full]),
     ("variadic_parameter", statedInFull full
        [("type", .str "any"), ("description", describedInFull full "The rest.")] [])]

/-- A document with something in each section. -/
def documentInFull : Json :=
  statedInFull full
    [("stage", .str "runtime"),
     ("defines", .arr [namedInFull full "direction"
        [("values", .arr [memberInFull full "north" "Up." [] []]),
         ("subkeys", .arr [namedInFull full "inner" []])]]),
     ("concepts", .arr [statedInFull full
        [("name", .str "Position"),
         ("properties", .arr [memberInFull full "x" "In tiles." [("type", .str "double")]
            [("optional", .bool true)]])]
        [("type", .str "builtin"), ("description", .str "Not shown.")]]),
     ("classes", .arr [classInFull full]),
     ("events", .arr [namedInFull full "on_tick"
        [("data", .arr [memberInFull full "tick" "Now." [("type", .str "uint")]
          [("optional", .bool true)]])]]),
     ("global_objects", .arr [namedInFull full "game" [("type", .str "LuaGameScript")]]),
     ("global_functions", .arr [functionInFull full])]
    [("application", .str "factorio"), ("api_version", .int 6)]

end PartlyShown

/-- The annotations of the document. -/
def shownLines : List String :=
  ["---@class defines.direction", "---@field north \"north\" Up.", "",
   "---@class defines.direction.inner", "",
   "---@class Position", "---@field x double In tiles.", "",
   "---@class LuaEntity", "---@field health float Points.",
   "---@field die fun(force:ForceID) Kills it.", "",
   "---@class on_tick", "---@field tick uint Now.", "",
   "---@type LuaGameScript", "game = nil", "",
   "---@param text? string Shown.", "---@param ... any The rest.",
   "---@return bool Its value.", "function log(text, ...) end"]

theorem Document.documentLines_documentInFull :
    ∃ d e, (Document.read false (documentInFull false)).outcome = .ok d ∧
      (Document.read false (documentInFull true)).outcome = .ok e ∧ d.Agree e ∧
      (documentLines [] d).outcome = .ok shownLines ∧
      documentLines [] e = documentLines [] d := by
  obtain ⟨d, e, hd, he, hagree⟩ : ∃ d e,
      (Document.read false (documentInFull false)).outcome = .ok d ∧
      (Document.read false (documentInFull true)).outcome = .ok e ∧ d.Agree e := by
    refine ⟨_, _, rfl, rfl, .runtime ⟨?_, ?_, ?_, ?_, ?_, ?_⟩⟩
    · exact .cons (.intro rfl (.cons ⟨rfl, rfl⟩ .nil) (.cons (.intro rfl .nil .nil) .nil)) .nil
    · exact .cons ⟨rfl, .cons ⟨⟨rfl, rfl⟩, .refl _⟩ .nil⟩ .nil
    · exact .cons ⟨rfl, .cons (.of_types ⟨rfl, rfl⟩ (.some (.refl _)) .none) .nil,
        .cons ⟨⟨rfl, rfl⟩, .cons ⟨rfl, .refl _⟩ .nil⟩ .nil⟩ .nil
    · exact .cons ⟨rfl, .cons ⟨⟨rfl, .refl _⟩, rfl⟩ .nil⟩ .nil
    · exact .cons ⟨rfl, .refl _⟩ .nil
    · exact .cons ⟨rfl, rfl, rfl, .cons ⟨⟨⟨rfl, .refl _⟩, rfl⟩, rfl⟩ .nil, .some ⟨.refl _, rfl⟩,
        .cons ⟨.refl _, rfl, rfl⟩ .nil⟩ .nil
  obtain ⟨d', hd', hlines⟩ : ∃ d', (Document.read false (documentInFull false)).outcome = .ok d' ∧
      (documentLines [] d').outcome = .ok shownLines := ⟨_, rfl, rfl⟩
  obtain rfl : d' = d := Except.ok.inj (hd'.symm.trans hd)
  refine ⟨d', e, hd, he, hagree, hlines, ?_⟩
  rcases documentLines_congr hagree [] with ⟨-, -, hsame⟩ | ⟨⟨fault, hfault⟩, -⟩
  · exact hsame
  · rw [hlines] at hfault
    cases hfault

end ApiReference
