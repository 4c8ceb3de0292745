import ApiReference.Proofs.Declaration.Cuts
import ApiReference.Proofs.Declaration.TypeTexts

/-!
# How far the stripped prefixes reach

The annotations of a document are written under the prefixes that are set at the time. This file
shows how far these reach: into the signatures of the methods of classes, where they are stripped
from the types, and no further.

A step under a setting is a function of the setting, and so is a line. `Uniform` says of such a step
that it stops under every setting or under none, and what its values are as a function of the
setting. For the line of one source this is seen from how the line is built
(`LineSource.line_uniform`): it is the same under all prefixes, and shows its types as they are,
unless the source is a method. For all lines together it follows by induction on the sources
(`Document.documentLines_eq_map`), and two lists of prefixes are compared last.

Comparing two lists of prefixes right away would not have gone through. The induction would compare
the lines of two runs, and would have to know that the runs stop at the same source; that is a
statement about one run under all settings. With `Uniform` it is part of what is carried along, and
comparing two settings is an instance.

That no other line depends on the prefixes can be read off the types of most builders, which do not
take them. It is not a matter of types for the class block, in which attributes and methods are
written side by side under the same prefixes, and where the attribute of the last example shows its
type as it is.

## What is here

* `signature_eq_map`: the types in a signature are written without regard to the prefixes, which are
  stripped from their texts.
* `Document.fieldMethods_lineSources`: the methods among the sources are those of the classes.
* `Document.documentLines_differ_in_signatures`: the lines under any two lists of prefixes, one by
  one.
-/

set_option autoImplicit false

namespace ApiReference

open Declaration

/-! ## Steps under a setting

The setting is an arbitrary type here. What a step gives is described by a property of its values as
a function of the setting, so that `bind` can hand that function on as a whole. -/

section Uniform

variable {ι α β γ : Type}

/-- The step stops with one fault under every setting, or it gives a value under each, and these
values, as a function of the setting, have the property. -/
def Uniform (step : ι → Except Fault α) (P : (ι → α) → Prop) : Prop :=
  (∃ fault, ∀ i, step i = .error fault) ∨ ∃ w, (∀ i, step i = .ok (w i)) ∧ P w

namespace Uniform

/-- A step that does not look at the setting. -/
theorem const (x : Except Fault α) (f : ι → α → β) :
    Uniform (fun i => f i <$> x) fun w => ∃ a, x = .ok a ∧ w = fun i => f i a := by
  cases x with
  | error fault => exact Or.inl ⟨fault, fun _ => rfl⟩
  | ok a => exact Or.inr ⟨fun i => f i a, fun _ => rfl, a, rfl, rfl⟩

/-- What is said of the values may be weakened. -/
theorem imp {step : ι → Except Fault α} {P Q : (ι → α) → Prop} (h : Uniform step P)
    (hPQ : ∀ w, P w → Q w) : Uniform step Q := by
  rcases h with hfault | ⟨w, hstep, hP⟩
  · exact Or.inl hfault
  · exact Or.inr ⟨w, hstep, hPQ w hP⟩

/-- A sequence of steps, the second of which is told the value of the first under the same
setting. -/
theorem bind {step : ι → Except Fault α} {f : ι → α → Except Fault β} {P : (ι → α) → Prop}
    {Q : (ι → β) → Prop} (h : Uniform step P)
    (hf : ∀ w, P w → Uniform (fun i => f i (w i)) Q) : Uniform (fun i => step i >>= f i) Q := by
  rcases h with ⟨fault, hfault⟩ | ⟨w, hstep, hP⟩
  · exact Or.inl ⟨fault, fun i => (congrArg (· >>= f i) (hfault i)).trans (error_bind fault (f i))⟩
  · have hrest : (fun i => step i >>= f i) = fun i => f i (w i) :=
      funext fun i => by rw [hstep i, ok_bind]
    rw [hrest]
    exact hf w hP

/-- The same step taken for each item of a list. -/
theorem mapM {f : ι → α → Except Fault β} {R : α → (ι → β) → Prop} {as : List α}
    (h : ∀ a ∈ as, Uniform (fun i => f i a) (R a)) :
    Uniform (fun i => as.mapM (f i)) fun w =>
      ∃ ws, List.Forall₂ R as ws ∧ w = fun i => ws.map (· i) := by
  induction as with
  | nil => exact Or.inr ⟨fun _ => [], fun _ => rfl, [], .nil, rfl⟩
  | cons a rest ih =>
    rw [List.forall_mem_cons] at h
    simp only [List.mapM_cons]
    refine h.1.bind fun w hw => (ih h.2).bind ?_
    rintro _ ⟨ws, hws, rfl⟩
    exact Or.inr ⟨_, fun _ => rfl, w :: ws, .cons hw hws, rfl⟩

end Uniform

/-- A value is computed for each item, and then put together with the item. -/
theorem mapM_eq_zipWith {f : α → Except Fault β} (g : α → β → γ) (as : List α) :
    as.mapM (fun a => f a >>= fun b => pure (g a b)) = List.zipWith g as <$> as.mapM f := by
  induction as with
  | nil => rfl
  | cons a rest ih =>
    rw [List.mapM_cons, List.mapM_cons, ih]
    cases f a with
    | error fault => rfl
    | ok b => cases rest.mapM f <;> rfl

end Uniform

/-! ## Signatures

Writing a signature is split in two: the texts of the types, which may not exist but do not depend
on the prefixes, and the signature of these texts, which always exists. -/

namespace Declaration

/-- The type of the parameter, which may be missing, has the given text. -/
abbrev HasText (p : Parameter) (text : String) : Prop :=
  TypeExpr.renderOptional p.type = .ok text

/-- The signature of parameters whose types have the given texts. -/
def signatureText (prefixes : List String) (parameters : List Parameter) (texts : List String) :
    String :=
  "fun(" ++ ", ".intercalate (List.zipWith
    (fun p text => p.name.inline ++ ":" ++ stripPrefixes prefixes text) parameters texts) ++ ")"

/-- A signature is written in two steps, of which the first, the texts of the types, is the same for
all prefixes. -/
theorem signature_eq_map (prefixes : List String) (parameters : List Parameter) :
    signature prefixes parameters = signatureText prefixes parameters <$>
      parameters.mapM fun p => TypeExpr.renderOptional p.type := by
  have hparts := mapM_eq_zipWith (f := fun p : Parameter => TypeExpr.renderOptional p.type)
    (fun p text => p.name.inline ++ ":" ++ stripPrefixes prefixes text) parameters
  rw [signature]
  unfold signaturePart
  rw [hparts]
  cases parameters.mapM fun p => TypeExpr.renderOptional p.type <;> rfl

end Declaration

/-! ## Lines -/

namespace LineSource

/-- The line, as a function of the prefixes: it is the same for all of them, unless the source is a
method, and the line of a method depends on them by the text of its signature. -/
inductive Writes : LineSource → (List String → String) → Prop where
  | fixed {s : LineSource} {line : String} (hs : s.method? = none) (hline : s.line [] = .ok line) :
    s.Writes fun _ => line
  | method {m : Method} {texts : List String} {w : List String → String}
      (htexts : List.Forall₂ HasText (m.parameters.getD []) texts)
      (hline : ∀ prefixes, fieldLine m.info.name
        (signatureText prefixes (m.parameters.getD []) texts) m.info.description =
          .ok (w prefixes)) : Writes (.field (.method m)) w

/-- Only the line of a method looks at the prefixes. -/
theorem line_eq_of_method?_eq_none {s : LineSource} (hs : s.method? = none)
    (prefixes others : List String) : s.line prefixes = s.line others := by
  cases s with
  | field f =>
    cases f with
    | method m => cases hs
    | _ => rfl
  | _ => rfl

/-- Whether a field line can be written does not depend on the text of the type. -/
theorem fieldLine_uniform {ι : Type} (name : Name) (type : ι → String) (description : String) :
    Uniform (fun i => fieldLine name (type i) description) fun w =>
      ∀ i, fieldLine name (type i) description = .ok (w i) := by
  cases name with
  | str name => exact Or.inr ⟨_, fun _ => rfl, fun _ => rfl⟩
  | _ => exact Or.inl ⟨.notText, fun _ => rfl⟩

theorem methodLine_uniform (m : Method) :
    Uniform (fun prefixes => methodLine prefixes m) (Writes (.field (.method m))) := by
  simp only [methodLine, signature_eq_map]
  refine (Uniform.const _ fun prefixes => signatureText prefixes (m.parameters.getD [])).bind ?_
  rintro _ ⟨texts, htexts, rfl⟩
  exact (fieldLine_uniform m.info.name _ m.info.description).imp fun _ =>
    .method (mapM_eq_ok_iff.1 htexts)

/-- **The line of a source as a function of the prefixes.** -/
theorem line_uniform (s : LineSource) : Uniform (fun prefixes => s.line prefixes) s.Writes := by
  cases hs : s.method? with
  | none =>
    have hline : (fun prefixes => s.line prefixes) = fun _ => id <$> s.line [] :=
      funext fun prefixes => (line_eq_of_method?_eq_none hs prefixes []).trans (id_map _).symm
    rw [hline]
    refine (Uniform.const (s.line []) fun _ => id).imp ?_
    rintro _ ⟨line, hline, rfl⟩
    exact .fixed hs hline
  | some m =>
    obtain rfl : s = .field (.method m) := by
      cases s with
      | field f => cases f <;> cases hs; rfl
      | _ => cases hs
    exact methodLine_uniform m

end LineSource

/-! ## Methods among the sources

Which sources are methods is settled by the kind of entity that they belong to. Only a class has
any, and the functions of a document are written in another way. -/

/-- The methods of the classes of a document. -/
def Document.classMethods : Document → List Method
  | .runtime api => api.classes.flatMap (·.methods)
  | .prototype _ => []

/-- The methods whose field lines are written, in the order of the lines. -/
def LineSource.fieldMethods (sources : List LineSource) : List Method :=
  sources.filterMap method?

section Methods

open LineSource (fieldMethods)

variable {α : Type}

theorem fieldMethods_append (sources others : List LineSource) :
    fieldMethods (sources ++ others) = fieldMethods sources ++ fieldMethods others :=
  List.filterMap_append

theorem fieldMethods_cons_of_none {s : LineSource} (h : s.method? = none)
    (sources : List LineSource) : fieldMethods (s :: sources) = fieldMethods sources :=
  List.filterMap_cons_none h

theorem fieldMethods_map_eq_nil {g : α → LineSource} (h : ∀ a, (g a).method? = none)
    (as : List α) : fieldMethods (as.map g) = [] := by
  rw [fieldMethods, List.filterMap_eq_nil_iff, List.forall_mem_map]
  exact fun a _ => h a

/-- A class line and the lines of members that are no methods. -/
theorem fieldMethods_cons_map_eq_nil {s : LineSource} {g : α → LineSource} (hs : s.method? = none)
    (h : ∀ a, (g a).method? = none) (as : List α) : fieldMethods (s :: as.map g) = [] := by
  rw [fieldMethods_cons_of_none hs, fieldMethods_map_eq_nil h]

theorem fieldMethods_intercalate (blocks : List (List LineSource)) :
    fieldMethods ([LineSource.gap].intercalate blocks) = blocks.flatMap fieldMethods := by
  induction blocks with
  | nil => rfl
  | cons block rest ih =>
    cases rest with
    | nil => rw [List.intercalate_singleton, List.flatMap_singleton]
    | cons next rest =>
      rw [List.flatMap_cons, ← ih, List.intercalate_cons_cons, List.append_assoc,
        fieldMethods_append, List.singleton_append, fieldMethods_cons_of_none rfl]

theorem flatMap_fieldMethods_eq_nil {g : α → List LineSource} (h : ∀ a, fieldMethods (g a) = [])
    (as : List α) : (as.map g).flatMap fieldMethods = [] := by
  rw [List.flatMap_eq_nil_iff, List.forall_mem_map]
  exact fun a _ => h a

theorem Concept.fieldMethods_lineSources (c : Concept) : fieldMethods c.lineSources = [] :=
  fieldMethods_cons_map_eq_nil rfl (fun _ => rfl) (c.properties.getD [])

theorem Prototype.fieldMethods_lineSources (p : Prototype) : fieldMethods p.lineSources = [] :=
  fieldMethods_cons_map_eq_nil rfl (fun _ => rfl) p.properties

theorem Event.fieldMethods_lineSources (e : Event) : fieldMethods e.lineSources = [] :=
  fieldMethods_cons_map_eq_nil rfl (fun _ => rfl) e.data

theorem Class.fieldMethods_lineSources (c : Class) : fieldMethods c.lineSources = c.methods := by
  rw [Class.lineSources, fieldMethods_append, fieldMethods_cons_map_eq_nil rfl fun _ => rfl,
    fieldMethods, List.filterMap_map]
  exact List.filterMap_some

theorem GlobalObject.fieldMethods_lineSources (o : GlobalObject) :
    fieldMethods o.lineSources = [] := rfl

theorem Method.fieldMethods_paramSources (m : Method) : fieldMethods m.paramSources = [] := by
  rw [Method.paramSources]
  split
  · rfl
  · rw [fieldMethods_append, fieldMethods_map_eq_nil fun _ => rfl,
      fieldMethods_map_eq_nil fun _ => rfl, List.append_nil]

theorem Method.fieldMethods_lineSources (m : Method) : fieldMethods m.lineSources = [] := by
  rw [Method.lineSources, fieldMethods_append, fieldMethods_append, m.fieldMethods_paramSources,
    fieldMethods_map_eq_nil fun _ => rfl]
  rfl

mutual

theorem Define.fieldMethods_lineSources (around : List Name) : ∀ d : Define,
    fieldMethods (d.lineSources around) = []
  | .mk info values subkeys => by
    rw [Define.lineSources, fieldMethods_append, fieldMethods_cons_map_eq_nil rfl fun _ => rfl,
      Define.fieldMethods_innerSources (around ++ [info.name]) subkeys, List.append_nil]
termination_by structural d => d

theorem Define.fieldMethods_innerSources (around : List Name) : ∀ defines : Option (List Define),
    fieldMethods (Define.innerSources around defines) = []
  | some defines => Define.fieldMethods_listSources around defines
  | none => rfl
termination_by structural defines => defines

theorem Define.fieldMethods_listSources (around : List Name) : ∀ defines : List Define,
    fieldMethods (Define.listSources around defines) = []
  | [] => rfl
  | d :: rest => by
    rw [Define.listSources, fieldMethods_append, fieldMethods_cons_of_none rfl,
      Define.fieldMethods_lineSources around d, Define.fieldMethods_listSources around rest,
      List.append_nil]
termination_by structural defines => defines

end

/-- The methods among the sources of the lines of a document are those of its classes, in order. -/
theorem Document.fieldMethods_lineSources (doc : Document) :
    fieldMethods doc.lineSources = doc.classMethods := by
  rw [Document.lineSources, fieldMethods_intercalate]
  cases doc with
  | runtime api =>
    have hclasses : (api.classes.map Class.lineSources).flatMap fieldMethods =
        api.classes.flatMap (·.methods) := by
      rw [List.flatMap_map]
      exact congrArg (List.flatMap · api.classes) (funext Class.fieldMethods_lineSources)
    simp [Document.sourceBlocks, Document.classMethods, hclasses,
      flatMap_fieldMethods_eq_nil (Define.fieldMethods_lineSources []),
      flatMap_fieldMethods_eq_nil Concept.fieldMethods_lineSources,
      flatMap_fieldMethods_eq_nil Event.fieldMethods_lineSources,
      flatMap_fieldMethods_eq_nil GlobalObject.fieldMethods_lineSources,
      flatMap_fieldMethods_eq_nil Method.fieldMethods_lineSources]
  | prototype api =>
    simp [Document.sourceBlocks, Document.classMethods,
      flatMap_fieldMethods_eq_nil Concept.fieldMethods_lineSources,
      flatMap_fieldMethods_eq_nil Prototype.fieldMethods_lineSources]

end Methods

/-! ## Documents -/

theorem exists_getElem?_of_forall₂ {α β : Type} {R : α → β → Prop} {as : List α} {bs : List β}
    (h : List.Forall₂ R as bs) {i : Nat} {a : α} (ha : as[i]? = some a) :
    ∃ b, bs[i]? = some b ∧ R a b := by
  obtain ⟨hi, rfl⟩ := List.getElem?_eq_some_iff.1 ha
  have hj : i < bs.length := h.length_eq ▸ hi
  exact ⟨bs[i], List.getElem?_eq_getElem hj, h.get hi hj⟩

/-- The lines of a document are functions of the prefixes, one for each source. -/
theorem Document.documentLines_eq_map (doc : Document) :
    (∃ fault, ∀ prefixes, (documentLines prefixes doc).outcome = .error fault) ∨
      ∃ ws, (∀ prefixes, (documentLines prefixes doc).outcome = .ok (ws.map (· prefixes))) ∧
        List.Forall₂ LineSource.Writes doc.lineSources ws := by
  have huniform := Uniform.mapM fun s (_ : s ∈ doc.lineSources) => s.line_uniform
  simp only [Uniform, ← Document.documentLines_eq_mapM] at huniform
  rcases huniform with hfault | ⟨_, hlines, ws, hws, rfl⟩
  · exact Or.inl hfault
  · exact Or.inr ⟨ws, hlines, hws⟩

/-- The note about the annotations says how many blocks and lines there are, if there are any. -/
theorem Document.documentLines_notices (prefixes : List String) (doc : Document) :
    (documentLines prefixes doc).notices =
      match (documentLines prefixes doc).outcome with
      | .ok lines => [.rendered (documentStage doc) doc.sourceBlocks.length lines.length]
      | .error _ => [] := by
  have hlength : ∀ blocks, documentBlocks prefixes doc = .ok blocks →
      doc.sourceBlocks.length = blocks.length := fun blocks hblocks => by
    rw [documentBlocks_eq_mapM] at hblocks
    exact (mapM_eq_ok_iff.1 hblocks).length_eq
  rw [documentLines]
  cases hblocks : documentBlocks prefixes doc with
  | error fault => rfl
  | ok blocks =>
    rw [hlength blocks hblocks]
    rfl

/-- **The prefixes reach the signatures of the methods of classes and nothing else.** Under any two
lists of them, a document has annotations or stops with the same fault, and leaves the same note.
There are as many lines, and they are the same one by one, with every type as it is on its own, but
for those of methods of classes. These are both written of the same name, description and texts of
types: only the types in the signature are stripped, of the prefixes that are set, so of nothing if
none are. -/
theorem Document.documentLines_differ_in_signatures (doc : Document) (ps qs : List String) :
    (documentLines ps doc).notices = (documentLines qs doc).notices ∧
    LineSource.fieldMethods doc.lineSources = doc.classMethods ∧
    ((∃ fault, (documentLines ps doc).outcome = .error fault ∧
        (documentLines qs doc).outcome = .error fault) ∨
      ∃ ls ms, (documentLines ps doc).outcome = .ok ls ∧ (documentLines qs doc).outcome = .ok ms ∧
        ls.length = doc.lineSources.length ∧ ms.length = doc.lineSources.length ∧
        (∀ (i : Nat) (s : LineSource), doc.lineSources[i]? = some s → s.method? = none →
          ∃ line, ls[i]? = some line ∧ ms[i]? = some line ∧ s.ShowsTypes line) ∧
        ∀ (i : Nat) (m : Method), doc.lineSources[i]? = some (.field (.method m)) →
          ∃ texts l l', List.Forall₂ HasText (m.parameters.getD []) texts ∧
            ls[i]? = some l ∧ ms[i]? = some l' ∧
            fieldLine m.info.name (signatureText ps (m.parameters.getD []) texts)
              m.info.description = .ok l ∧
            fieldLine m.info.name (signatureText qs (m.parameters.getD []) texts)
              m.info.description = .ok l') ∧
    ∀ text, stripPrefixes [] text = text := by
  refine ⟨?_, doc.fieldMethods_lineSources, ?_, fun text => (stripPrefixes_cuts [] text).2.2⟩
  · rw [doc.documentLines_notices ps, doc.documentLines_notices qs]
    rcases doc.documentLines_eq_map with ⟨fault, hfault⟩ | ⟨ws, hlines, -⟩
    · rw [hfault ps, hfault qs]
    · rw [hlines ps, hlines qs]
      dsimp only
      rw [List.length_map, List.length_map]
  · rcases doc.documentLines_eq_map with ⟨fault, hfault⟩ | ⟨ws, hlines, hws⟩
    · exact Or.inl ⟨fault, hfault ps, hfault qs⟩
    refine Or.inr ⟨_, _, hlines ps, hlines qs, ?_, ?_, fun i s hs hnone => ?_, fun i m hm => ?_⟩
    · rw [List.length_map, hws.length_eq]
    · rw [List.length_map, hws.length_eq]
    · obtain ⟨w, hw, hwrites⟩ := exists_getElem?_of_forall₂ hws hs
      rw [List.getElem?_map, List.getElem?_map, hw]
      cases hwrites with
      | @fixed _ line hs hline =>
        exact ⟨line, rfl, rfl, LineSource.showsTypes hs hline⟩
      | method => cases hnone
    · obtain ⟨w, hw, hwrites⟩ := exists_getElem?_of_forall₂ hws hm
      rw [List.getElem?_map, List.getElem?_map, hw]
      cases hwrites with
      | fixed hs => cases hs
      | @method _ texts _ htexts hline =>
        exact ⟨texts, w ps, w qs, htexts, rfl, rfl, hline ps, hline qs⟩

/-- A class with an attribute and a method, both with the type of a define. -/
def tileFields : Fields :=
  [("stage", .str "runtime"),
   ("classes", .arr [.obj
     [("name", .str "Tile"),
      ("attributes", .arr [.obj [("name", .str "front"), ("read_type", .str "defines.side")]]),
      ("methods", .arr [.obj
        [("name", .str "turn"), ("parameters", .arr [.obj
          [("name", .str "to"), ("type", .str "defines.side")]])]])]])]

-- the attribute shows its type as it is under both lists, the signature does not
set_option maxRecDepth 2000 in
example : ∃ doc, (Document.read false (.obj tileFields)).outcome = .ok doc ∧
    (documentLines [] doc).outcome =
      .ok ["---@class Tile", "---@field front defines.side ",
        "---@field turn fun(to:defines.side) "] ∧
    (documentLines ["defines."] doc).outcome =
      .ok ["---@class Tile", "---@field front defines.side ", "---@field turn fun(to:side) "] :=
  ⟨_, rfl, by with_unfolding_all rfl, by with_unfolding_all rfl⟩

end ApiReference
