import ApiReference.Declaration.Basic
import ApiReference.Entity.Record
import ApiReference.Log.Line
import ApiReference.Log.Setup
import ApiReference.Report.Arguments
import ApiReference.Settings

/-!
# Sessions

A session is a sequence of requests to the library. Each is answered under the settings that hold
at the time, and only a change of the settings has an effect on the answers to later ones: a
request that fails does not end the session. An answer is a JSON value or a fault, with the
notices left on the way.

The requests cover all that can be observed of the library: reading and annotating, but also single
functions such as joining paths or taking the first line of a text. A request that is given a value
of the wrong kind for one of these is refused like any other.

* **`Request.run`** answers a request under settings that it cannot change.
* **`Request.answer`** adds the requests that change the settings, and gives the settings that hold
  after it.
* **`Session.run`** answers a list of requests, handing the settings on.

What is answered is JSON, and so the line for people is carried as a text of JSON: two halves that
make a pair arrive as one character, and a lone half does not arrive (`Request.carried`).
-/

set_option autoImplicit false

namespace ApiReference

/-- How one field of an object is read. -/
inductive Extraction where
  | required
  | text
  | description
  | flag
  | int
  | strings
  | type
  deriving DecidableEq

namespace Extraction

/-- The value that is read from a field. -/
def run (debug : Bool) (fields : Fields) (key : String) (path : Path) : Extraction → Reading Json
  | .required => fields.require key path
  | .text => pure (Entity.orNull .str (fields.text? key))
  | .description => .str <$> fields.description debug key path
  | .flag => pure (.bool (fields.flag key))
  | .int => pure (Entity.orNull .int (fields.int? key))
  | .strings => Entity.texts <$> fields.strings? debug key path
  | .type => Entity.orNull TypeExpr.record <$> fields.type? debug key path

end Extraction

/-- What the library can be asked for. -/
inductive Request where
  /-- The entity that a JSON value describes. -/
  | read (kind : Entity.Kind) (data : Json) (path : Path)
  /-- A declaration of the entity that a JSON value describes. -/
  | declare (kind : Entity.Kind) (data : Json) (path : Path) (what : Declaration.Kind)
  /-- The text of the type that a JSON value describes. -/
  | render (data : Json)
  /-- The text of a bare value in the position of a type. -/
  | renderLeaf (data : Json)
  /-- The text of a type that is missing if the value is `null`. -/
  | renderOptional (data : Json)
  /-- The type that a JSON value describes, as messages show it. -/
  | displayType (data : Json)
  /-- Whether two JSON values describe the same entity. -/
  | same (kind : Entity.Kind) (a b : Json) (path : Path)
  /-- Whether the described concept is a fundamental type. -/
  | isBuiltin (data : Json)
  /-- The operator of a name that the described class has. -/
  | operator (data : Json) (name : Name)
  /-- Name, place in the order and description of the described entity. -/
  | heading (kind : Entity.Kind) (data : Json)
  /-- One field of an object. -/
  | extract (how : Extraction) (data : Json) (key : String) (path : Path)
  | joinPath (path : Json) (name : Name)
  | memberPath (path : Json) (name : Name)
  | firstLine (text : Json)
  | classLine (name : Name)
  | fieldLine (name type description : Json)
  /-- A text without the given prefixes, without those of the settings if `null` is given. -/
  | strip (text prefixes : Json)
  | configure (changes : List Settings.Change)
  /-- The parts of the report that arguments make. -/
  | report (kind : Report.Class) (inOrder : List Json) (named : Fields)
  | logDefaults (env : Log.Environment)
  | logSetup (env : Log.Environment) (level : Option Json) (format : Json)
  | logLine (format : Log.Format) (record : Log.Record)

namespace Request

/-- The settings as an answer. -/
def settingsJson (settings : Settings) : Json :=
  .obj
    [("stripped_prefixes", Entity.each .str settings.strippedPrefixes),
     ("debug", .bool settings.debug), ("repr", .str settings.display)]

/-- A report as an answer. -/
def reportJson (report : Report) : Json :=
  .obj
    ([("str", .str report.message.inline), ("repr", .str report.display),
      ("message", report.message), ("code", report.code), ("details", report.details),
      ("is_value_error", .bool report.kind.isAboutValue),
      ("is_schema_error", .bool report.kind.isSchema)] ++
      match report.absent with
      | some (field, path) => [("field", field), ("path", path)]
      | none => [])

/-- Name, place and description of an entity as an answer. -/
def headingOf (e : Entity) : Except Fault Json := do
  let name ← Declaration.part e.name?
  let order ← Declaration.part e.order?
  let description ← Declaration.part e.description?
  return .arr [name, Entity.orNull .int order, .str description]

/-- What a declaration wrote as an answer. -/
def declarationJson : Declaration.Result → Json
  | .line s => .str s
  | .lines ss => Entity.each .str ss

/-- The text of a type that a JSON value describes. -/
def renderedType (data : Json) : Reading Json := do
  let t ← TypeExpr.read data ""
  let text ← Reading.ofExcept t.render
  return .str text

/-- The path of a named part of what a value names. -/
def joinedPath (path : Json) (name : Name) : Path :=
  if path.isTruthy then path.inline ++ "." ++ name.inline else name.inline

/-- The path of a named item of the list that a path names. -/
def namedPath (path : Json) (name : Name) : Except Fault Path :=
  match path with
  | .str path => .ok (Path.member path name.inline)
  | _ => .error .lacksPart

/-- The first line of a text; a value that counts as absent has an empty one. -/
def firstLineOf (text : Json) : Except Fault String :=
  match text with
  | .str s => .ok (Text.firstLine s)
  | v => if v.isTruthy then .error .lacksPart else .ok ""

/-- The prefixes in a list. The keys of an object and the characters of a text count as a list. -/
def prefixItems : Json → Except Fault (List Json)
  | .arr items => .ok items
  | .obj fields => .ok (fields.map fun f => .str f.1)
  | .str s => .ok (s.toList.map fun c => .str (String.singleton c))
  | _ => .error .notText

/-- A text without the given prefixes. Where none are given, any value is its own result. -/
def stripped (settings : Settings) (text prefixes : Json) : Except Fault Json := do
  let prefixes := if prefixes.isNull then Entity.each .str settings.strippedPrefixes else prefixes
  if prefixes.isTruthy then
    let items ← prefixItems prefixes
    let prefixes ← items.mapM Declaration.nameText
    let text ← Declaration.nameText text
    return .str (Declaration.stripPrefixes prefixes text)
  else return text

/-- The version of the package that answers. -/
def installedVersion : Option String := some "0.1.0"

/-- A text as an answer. Answers are JSON, where two halves that make a surrogate pair are the
character of the pair; half of one that is left alone has no place in an answer. -/
def carried (cs : List Text.CodePoint) : Except Fault Json :=
  match Text.ofCodePoints? (Text.joined cs) with
  | some s => .ok (.str s)
  | none => .error .notText

/-- The answer to a request that leaves the settings as they are. -/
def run (settings : Settings) : Request → Reading Json
  | .read kind data path => Entity.record <$> Entity.read settings.debug kind data path
  | .declare kind data path what => do
    let e ← Entity.read settings.debug kind data path
    let result ← e.declare settings.strippedPrefixes what
    return declarationJson result
  | .render data => renderedType data
  | .renderLeaf data => .ofExcept (.str <$> TypeExpr.renderLeaf data)
  | .renderOptional data =>
    if data.isNull then pure (.str TypeExpr.anyText) else renderedType data
  | .displayType data => do
    let t ← TypeExpr.read data ""
    return .str t.display
  | .same kind a b path => do
    let a ← Entity.read settings.debug kind a path
    let b ← Entity.read settings.debug kind b path
    return .bool (a.same b)
  | .isBuiltin data =>
    match data with
    | .obj fields => do
      let c ← Concept.read settings.debug fields ""
      return .bool c.isBuiltin
    | _ => Reading.fail .notAnObject
  | .operator data name =>
    match data with
    | .obj fields => do
      let c ← Class.read settings.debug fields ""
      return Entity.orNull Operator.record (c.operator? name)
    | _ => Reading.fail .notAnObject
  | .heading kind data => do
    let e ← Entity.read settings.debug kind data ""
    Reading.ofExcept (headingOf e)
  | .extract how data key path =>
    match data with
    | .obj fields => how.run settings.debug fields key path
    | _ => Reading.fail .notAnObject
  | .joinPath path name => pure (.str (joinedPath path name))
  | .memberPath path name => .ofExcept (.str <$> namedPath path name)
  | .firstLine text => .ofExcept (.str <$> firstLineOf text)
  | .classLine name => .ofExcept (.str <$> Declaration.classLine name)
  | .fieldLine name type description => .ofExcept do
    let _ ← Declaration.nameText name
    let type ← Declaration.nameText type
    let description ← firstLineOf description
    let line ← Declaration.fieldLine name type description
    return .str line
  | .strip text prefixes => .ofExcept (stripped settings text prefixes)
  | .configure _ => pure (settingsJson settings)
  | .report kind inOrder named => .ofExcept (reportJson <$> Report.make kind inOrder named)
  | .logDefaults env =>
    pure (.obj [("level", .int env.threshold), ("format", .str env.formatName)])
  | .logSetup env level format => do
    let setup ← Reading.ofExcept (Log.Setup.make env level format)
    return .obj
      [("level", setup.threshold), ("formatters", .arr [.str setup.format.title]),
       ("colors", .arr [Entity.orNull .bool setup.format.colors?])]
  | .logLine .json record => .ofExcept (.str <$> record.jsonLine installedVersion)
  | .logLine (.terminal colors) record => .ofExcept do
    let line ← record.terminalLine colors
    carried line

/-- The answer to a request under the given settings, and the settings after it. -/
def answer (settings : Settings) (request : Request) : Settings × Reading Json :=
  match request with
  | .configure changes =>
    match settings.applyAll changes with
    | (changed, none) => (changed, pure (settingsJson changed))
    | (changed, some fault) => (changed, Reading.fail fault)
  | request => (settings, request.run settings)

end Request

/-- The answers to requests made one after another. -/
def Session.run (settings : Settings) : List Request → List (Reading Json)
  | [] => []
  | request :: rest =>
    let (settings, answer) := request.answer settings
    answer :: Session.run settings rest

end ApiReference
