import ApiReference.Proofs.Declaration.Lines
import ApiReference.Proofs.Document.Acceptance
import Mathlib.Data.List.TakeWhile

/-!
# The paragraphs of the annotations

The annotations of a document are a list of lines in which empty lines stand between entities. Two
mechanisms put them there: `joinBlocks` between the blocks of a document, and the block of a define
in front of the block of each define inside it. This file shows that the two amount to one, and that
the lines fall into exactly the paragraphs that the outline of the document has.

The result is stated by taking the lines apart: `paragraphs` splits them at the empty lines. It
would be weaker to say how the lines are put together, as a list with empty lines in it may have
been put together in several ways. Splitting gives the entities back only if no line of an entity is
empty and no entity is without lines, and both are shown of the outline
(`isParagraph_of_mem_document`).

* **No line is empty**, because each has a tag or a word of the program in it, whatever the names,
  the types and the descriptions are and how many blanks are cut from its end.
* **Defines join the paragraphs.** The blocks of a define inside another are put behind it by a
  recursion of their own. `joinBlocks_map_append` says that blocks which are joined from blocks are
  joined as if all were on one level, and `defineBlock_eq` is the induction, along the walk through
  the defines.

## What is here

* `paragraphs_joinBlocks`: blocks without empty lines can be told apart after they are joined.
* `Outline.defineBlock_eq`: the block of a define is made of the paragraphs of the define and of all
  defines inside it, each under its full name.
* `Document.documentLines_paragraphs`: the paragraphs of the annotations of a document are those of
  its outline.
-/

set_option autoImplicit false

namespace ApiReference

/-- The runs of lines between empty lines. No lines are no paragraphs. -/
def paragraphs (lines : List String) : List (List String) :=
  if lines.isEmpty then [] else lines.splitOn ""

/-- Some lines, none of which is empty. -/
def IsParagraph (lines : List String) : Prop :=
  lines ≠ [] ∧ "" ∉ lines

open Declaration

/-! ## Joining blocks

An empty line in front of each block is easier to reason about than one between two, since then no
block is the first. `cons_joinBlocks` is the step between the two. -/

/-- Joining is putting an empty line between any two blocks. -/
theorem joinBlocks_eq_intercalate (blocks : List (List String)) :
    joinBlocks blocks = [""].intercalate blocks := by
  induction blocks with
  | nil => rfl
  | cons block rest ih =>
    cases rest with
    | nil => rw [joinBlocks, List.intercalate_singleton]
    | cons next rest =>
      rw [joinBlocks, ih, List.intercalate_cons_cons, List.append_assoc]
      · rfl
      · nofun

/-- With an empty line in front, every block is alike: it comes after an empty line. -/
theorem cons_joinBlocks {blocks : List (List String)} (h : blocks ≠ []) :
    "" :: joinBlocks blocks = blocks.flatMap ("" :: ·) := by
  induction blocks with
  | nil => exact absurd rfl h
  | cons block rest ih =>
    cases rest with
    | nil => rw [joinBlocks, List.flatMap_singleton]
    | cons next rest =>
      rw [joinBlocks, ih (List.cons_ne_nil _ _)]
      · rfl
      · nofun

theorem joinBlocks_cons (block : List String) (rest : List (List String)) :
    joinBlocks (block :: rest) = block ++ rest.flatMap ("" :: ·) :=
  (List.cons.inj (cons_joinBlocks (List.cons_ne_nil block rest))).2

section Groups

variable {α : Type} {gs : List α} {f : α → List (List String)}

theorem flatMap_cons_joinBlocks (h : ∀ g ∈ gs, f g ≠ []) :
    (gs.flatMap fun g => "" :: joinBlocks (f g)) = (gs.flatMap f).flatMap ("" :: ·) := by
  induction gs with
  | nil => rfl
  | cons g rest ih =>
    rw [List.forall_mem_cons] at h
    rw [List.flatMap_cons, cons_joinBlocks h.1, ih h.2, List.flatMap_cons, List.flatMap_append]

/-- **Blocks that are themselves joined from blocks** are joined as if all were on one level. -/
theorem joinBlocks_map_append (h : ∀ g ∈ gs, f g ≠ []) (rest : List (List String)) :
    joinBlocks ((gs.map fun g => joinBlocks (f g)) ++ rest) =
      joinBlocks (gs.flatMap f ++ rest) := by
  cases gs with
  | nil => rfl
  | cons g more =>
    have hmap : ((g :: more).map fun g => joinBlocks (f g)) ++ rest ≠ [] := List.cons_ne_nil _ _
    have hflat : (g :: more).flatMap f ++ rest ≠ [] :=
      List.append_ne_nil_of_left_ne_nil
        (List.append_ne_nil_of_left_ne_nil (h g List.mem_cons_self) _) _
    have hcons : "" :: joinBlocks (((g :: more).map fun g => joinBlocks (f g)) ++ rest) =
        "" :: joinBlocks ((g :: more).flatMap f ++ rest) := by
      rw [cons_joinBlocks hmap, cons_joinBlocks hflat, List.flatMap_append, List.flatMap_append,
        List.flatMap_map, flatMap_cons_joinBlocks h]
    exact (List.cons.inj hcons).2

end Groups

/-- **Blocks without empty lines can be told apart** after they are joined. -/
theorem paragraphs_joinBlocks {blocks : List (List String)} (h : ∀ b ∈ blocks, IsParagraph b) :
    paragraphs (joinBlocks blocks) = blocks := by
  cases blocks with
  | nil => rfl
  | cons block rest =>
    have hne : (joinBlocks (block :: rest)).isEmpty = false := by
      have hblock := (h block List.mem_cons_self).1
      cases rest <;> simp [joinBlocks, hblock]
    rw [paragraphs, hne, joinBlocks_eq_intercalate]
    exact List.splitOn_intercalate "" (fun b hb => (h b hb).2) (List.cons_ne_nil _ _)

/-! ## Defines inside defines

The full name of a define is a text to the writer, which adds to it at each level. In the outline it
is the list of names around the define; the two agree at every level, as the induction has to show
for all `around` at once. -/

namespace Outline

open Entry

variable {prefixes : List String} {fields : Fields}

theorem innerBlocks_eq (qualifier : String) (defines : Option (List Define)) :
    innerBlocks qualifier defines = defineBlocks qualifier (defines.getD []) := by
  cases defines <;> rfl

/-- The blocks of several defines, each after an empty line. -/
theorem defineBlocks_eq {qualifier : String} {gs : List Fields} {f : Fields → List String}
    (h : ∀ g ∈ gs, defineBlock qualifier (.ofFields g) = .ok (f g)) :
    defineBlocks qualifier (gs.map Define.ofFields) = .ok (gs.flatMap fun g => "" :: f g) := by
  induction gs with
  | nil => rfl
  | cons g rest ih =>
    rw [List.forall_mem_cons] at h
    rw [List.map_cons, defineBlocks, h.1, ok_bind, ih h.2]
    rfl

/-- The full name of a define continues the full name of the define around it. -/
theorem qualified_intercalate (around : List String) (n : Name) :
    qualified (".".intercalate ("defines" :: around)) n =
      .str (".".intercalate ("defines" :: around ++ [n.inline])) := by
  have hne : (".".intercalate ("defines" :: around)).isEmpty = false := by
    cases around <;> simp [String.isEmpty_iff, ← Bool.not_eq_true]
  rw [qualified, hne, String.intercalate_append_of_ne_nil (List.cons_ne_nil _ _)
    (List.cons_ne_nil _ _), String.intercalate_singleton]
  rfl

/-- The paragraphs of a define and of the defines inside it, one level at a time. -/
theorem defineParagraphs_eq (around : List String) (fields : Fields) :
    (defineWalk.nodes ⟨around, fields⟩).map defineParagraph =
      defineParagraph ⟨around, fields⟩ :: (fields.objects "subkeys").flatMap fun g =>
        (defineWalk.nodes ⟨around ++ [name fields], g⟩).map defineParagraph := by
  rw [defineWalk.nodes_eq, List.map_cons]
  simp only [defineWalk, List.flatMap_map, List.map_flatMap]

theorem defineParagraphs_ne_nil (d : NestedDefine) :
    (defineWalk.nodes d).map defineParagraph ≠ [] := by
  rw [defineWalk.nodes_eq]
  exact List.cons_ne_nil _ _

/-- **The block of a define** is made of the paragraphs of the define and of all defines inside it,
in the order of the walk. -/
theorem defineBlock_eq (d : NestedDefine) :
    (Entry.mk .define d.fields).Throughout Writable →
      defineBlock (".".intercalate ("defines" :: d.around)) (.ofFields d.fields) =
        .ok (joinBlocks ((defineWalk.nodes d).map defineParagraph)) := by
  induction d using defineWalk.induction with
  | step d ih =>
  intro h
  obtain ⟨around, fields⟩ := d
  -- a define inside starts its own walk, with one more name around it
  have hinner : ∀ g ∈ fields.objects "subkeys",
      defineBlock (".".intercalate ("defines" :: around ++ [name fields])) (.ofFields g) =
        .ok (joinBlocks ((defineWalk.nodes ⟨around ++ [name fields], g⟩).map defineParagraph)) :=
    fun g hg => ih ⟨around ++ [name fields], g⟩ (List.mem_map.2 ⟨g, hg, rfl⟩)
      (h.of_mem_objects (by simp) hg)
  have hvalues : (fields.each "values" DefineValue.ofFields).mapM
      (fun v => defineValueLine v.name v.description) = .ok (fields.each "values" valueLine) :=
    mapM_each fun g hg => defineValueLine_eq (h.of_mem_objects (by simp) hg).own
  have hown : block (.str (".".intercalate ("defines" :: around ++ [name fields])))
      (fun v : DefineValue => defineValueLine v.name v.description)
      (fields.each "values" DefineValue.ofFields) = .ok (defineParagraph ⟨around, fields⟩) := by
    rw [block, hvalues]
    rfl
  have hname : qualified (".".intercalate ("defines" :: around)) (Member.ofFields fields).name =
      .str (".".intercalate ("defines" :: around ++ [name fields])) :=
    qualified_intercalate around (fields.value "name")
  show defineBlock (".".intercalate ("defines" :: around)) (.ofFields fields) = _
  rw [Define.ofFields_eq, defineBlock, hname, Fields.each?_getD, hown, ok_bind, Json.inline_str,
    innerBlocks_eq, Fields.each?_getD, Fields.each, defineBlocks_eq hinner, ok_bind]
  rw [defineParagraphs_eq, joinBlocks_cons,
    flatMap_cons_joinBlocks fun g _ => defineParagraphs_ne_nil ⟨around ++ [name fields], g⟩]
  rfl

/-! ## Lines that are not empty

A line that is cut at its end keeps its first character if that is no blank, and the lines that are
cut start with a tag. -/

/-- Cutting blanks leaves a text that starts with something else. -/
theorem trimEnd_ne_empty {c : Char} {s : String} (hs : s.toList.head? = some c)
    (hc : Text.isBlank c = false) : Text.trimEnd s ≠ "" := by
  obtain ⟨cs, hcs⟩ := List.head?_eq_some_iff.1 hs
  intro h
  have hdrop : s.toList.reverse.dropWhile Text.isBlank = [] := by
    simpa [Text.trimEnd, Text.trimEndChars] using h
  have hblank : Text.isBlank c = true := by
    refine List.dropWhile_eq_nil_iff.1 hdrop c ?_
    rw [List.mem_reverse, hcs]
    exact List.mem_cons_self
  rw [hblank] at hc
  cases hc

theorem memberLine_ne_empty (type : String) : memberLine fields type ≠ "" := by
  simp [memberLine]

theorem paramLine_ne_empty (name type description : String) (optional : Bool) :
    Declaration.paramLine name optional type description ≠ "" :=
  trimEnd_ne_empty (c := '-') (by simp) (by decide)

theorem returnLine_ne_empty (type description : String) (optional : Bool) :
    Declaration.returnLine type optional description ≠ "" :=
  trimEnd_ne_empty (c := '-') (by simp) (by decide)

theorem isParagraph_headed {name : String} {lines : List String} (h : ∀ l ∈ lines, l ≠ "") :
    IsParagraph (headed name lines) := by
  refine ⟨List.cons_ne_nil _ _, fun hmem => ?_⟩
  obtain he | hmem := List.mem_cons.1 hmem
  · simp at he
  · exact h "" hmem rfl

theorem ne_empty_of_mem_each {key : String} {f : Fields → String} (h : ∀ g, f g ≠ "") :
    ∀ l ∈ fields.each key f, l ≠ "" := by
  intro l hl
  obtain ⟨g, -, rfl⟩ := List.mem_map.1 hl
  exact h g

theorem isParagraph_struct : IsParagraph (structParagraph fields) :=
  isParagraph_headed (ne_empty_of_mem_each fun _ => memberLine_ne_empty _)

theorem isParagraph_event : IsParagraph (eventParagraph fields) :=
  isParagraph_headed (ne_empty_of_mem_each fun _ => memberLine_ne_empty _)

theorem isParagraph_define (d : NestedDefine) : IsParagraph (defineParagraph d) :=
  isParagraph_headed (ne_empty_of_mem_each fun _ => memberLine_ne_empty _)

theorem isParagraph_class : IsParagraph (classParagraph prefixes fields) := by
  refine isParagraph_headed fun l hl => ?_
  obtain hl | hl := List.mem_append.1 hl
  · exact ne_empty_of_mem_each (fun _ => memberLine_ne_empty _) l hl
  · exact ne_empty_of_mem_each (fun _ => memberLine_ne_empty _) l hl

theorem isParagraph_object : IsParagraph (objectParagraph fields) := by
  refine ⟨List.cons_ne_nil _ _, ?_⟩
  simp [objectParagraph]

theorem ne_empty_of_mem_arguments : ∀ l ∈ (arguments fields).1, l ≠ "" := by
  intro l hl
  rw [arguments] at hl
  split at hl
  · rw [List.mem_singleton.1 hl]
    exact paramLine_ne_empty _ _ _ _
  · obtain hl | hl := List.mem_append.1 hl
    · exact ne_empty_of_mem_each (fun _ => paramLine_ne_empty _ _ _ _) l hl
    · obtain ⟨g, -, rfl⟩ := List.mem_map.1 hl
      exact paramLine_ne_empty _ _ _ _

theorem isParagraph_function : IsParagraph (functionParagraph fields) := by
  refine ⟨List.append_ne_nil_of_right_ne_nil _ (List.cons_ne_nil _ _), fun hmem => ?_⟩
  rw [functionParagraph, List.append_assoc] at hmem
  obtain hmem | hmem := List.mem_append.1 hmem
  · exact ne_empty_of_mem_arguments "" hmem rfl
  · obtain hmem | hmem := List.mem_append.1 hmem
    · exact ne_empty_of_mem_each (fun _ => returnLine_ne_empty _ _ _) "" hmem rfl
    · simp at hmem

/-! ## Documents -/

theorem isParagraph_of_mem_each {key : String} {f : Fields → List String}
    (h : ∀ g, IsParagraph (f g)) : ∀ p ∈ fields.each key f, IsParagraph p := by
  intro p hp
  obtain ⟨g, -, rfl⟩ := List.mem_map.1 hp
  exact h g

theorem isParagraph_of_mem_runtime : ∀ p ∈ runtimeParagraphs prefixes fields, IsParagraph p := by
  intro p hp
  simp only [runtimeParagraphs, List.mem_append, List.mem_flatMap, List.mem_map] at hp
  obtain ((((⟨g, -, d, -, rfl⟩ | hp) | hp) | hp) | hp) | hp := hp
  · exact isParagraph_define d
  · exact isParagraph_of_mem_each (fun _ => isParagraph_struct) p hp
  · exact isParagraph_of_mem_each (fun _ => isParagraph_class) p hp
  · exact isParagraph_of_mem_each (fun _ => isParagraph_event) p hp
  · exact isParagraph_of_mem_each (fun _ => isParagraph_object) p hp
  · exact isParagraph_of_mem_each (fun _ => isParagraph_function) p hp

theorem isParagraph_of_mem_prototype : ∀ p ∈ prototypeParagraphs fields, IsParagraph p := by
  intro p hp
  obtain hp | hp := List.mem_append.1 hp
  · exact isParagraph_of_mem_each (fun _ => isParagraph_struct) p hp
  · exact isParagraph_of_mem_each (fun _ => isParagraph_struct) p hp

/-- The block of a top-level define. -/
def topBlock (fields : Fields) : List String :=
  joinBlocks ((defineWalk.nodes ⟨[], fields⟩).map defineParagraph)

theorem runtimeBlocks_eq (h : (Entry.mk .runtimeApi fields).Throughout Writable) :
    ∃ blocks, runtimeBlocks prefixes (.ofFields fields) = .ok blocks ∧
      joinBlocks blocks = joinBlocks (runtimeParagraphs prefixes fields) := by
  have hdefines : (RuntimeApi.ofFields fields).defines.mapM (defineBlock defineSpace) =
      .ok (fields.each "defines" topBlock) :=
    mapM_each fun g hg => by
      have hblock := defineBlock_eq ⟨[], g⟩ (h.of_mem_objects (by simp) hg)
      rwa [String.intercalate_singleton] at hblock
  have hconcepts : (RuntimeApi.ofFields fields).concepts.mapM conceptBlock = _ :=
    mapM_each fun g hg => conceptBlock_eq (h.of_mem_objects (by simp) hg)
  have hclasses : (RuntimeApi.ofFields fields).classes.mapM (classBlock prefixes) = _ :=
    mapM_each fun g hg => classBlock_eq (h.of_mem_objects (by simp) hg)
  have hevents : (RuntimeApi.ofFields fields).events.mapM eventBlock = _ :=
    mapM_each fun g hg => eventBlock_eq (h.of_mem_objects (by simp) hg)
  have hobjects : (RuntimeApi.ofFields fields).globalObjects.mapM globalObjectLines = _ :=
    mapM_each fun g hg => globalObjectLines_eq (h.of_mem_objects (by simp) hg).own
  have hfunctions : (RuntimeApi.ofFields fields).globalFunctions.mapM functionLines = _ :=
    mapM_each fun g hg => functionLines_eq (h.of_mem_objects (by simp) hg)
  have hblocks : runtimeBlocks prefixes (.ofFields fields) = .ok
      (fields.each "defines" topBlock ++ fields.each "concepts" structParagraph ++
        fields.each "classes" (classParagraph prefixes) ++ fields.each "events" eventParagraph ++
        fields.each "global_objects" objectParagraph ++
        fields.each "global_functions" functionParagraph) := by
    rw [runtimeBlocks, hdefines, hconcepts, hclasses, hevents, hobjects, hfunctions]
    rfl
  refine ⟨_, hblocks, ?_⟩
  simp only [List.append_assoc, runtimeParagraphs]
  -- the paragraphs of a define are one block here; joined, they are the same lines
  exact joinBlocks_map_append (fun g _ => defineParagraphs_ne_nil ⟨[], g⟩) _

theorem prototypeBlocks_eq (h : (Entry.mk .prototypeApi fields).Throughout Writable) :
    prototypeBlocks (.ofFields fields) = .ok (prototypeParagraphs fields) := by
  have htypes : (PrototypeApi.ofFields fields).types.mapM conceptBlock = _ :=
    mapM_each fun g hg => conceptBlock_eq (h.of_mem_objects (by simp) hg)
  have hprototypes : (PrototypeApi.ofFields fields).prototypes.mapM prototypeBlock = _ :=
    mapM_each fun g hg => prototypeBlock_eq (h.of_mem_objects (by simp) hg)
  rw [prototypeBlocks, htypes, hprototypes]
  rfl

/-- Every paragraph of the outline has lines, and none of them is empty. -/
theorem isParagraph_of_mem_document {d : Json} : ∀ p ∈ document prefixes d, IsParagraph p := by
  rw [document]
  split
  · exact isParagraph_of_mem_runtime
  · exact isParagraph_of_mem_prototype
  · nofun

/-- The blocks of a document are joined as the paragraphs of its outline are. -/
theorem documentBlocks_eq (prefixes : List String) {debug : Bool} {d : Json} {doc : Document}
    (hread : (Document.read debug d).outcome = .ok doc)
    (hwrite : ∀ e ∈ ofDocument? d, e.Throughout Writable) :
    ∃ blocks, documentBlocks prefixes doc = .ok blocks ∧
      joinBlocks blocks = joinBlocks (document prefixes d) := by
  obtain ⟨fields, rfl, ⟨hs, -, rfl⟩ | ⟨hs, -, rfl⟩⟩ := Document.read_outcome_eq_ok_iff.1 hread
  · have hroot : ofDocument? (.obj fields) = some ⟨.runtimeApi, fields⟩ := by
      simp [ofDocument?, hs]
    rw [document, hroot]
    exact runtimeBlocks_eq (hwrite _ hroot)
  · have hroot : ofDocument? (.obj fields) = some ⟨.prototypeApi, fields⟩ := by
      simp [ofDocument?, hs, RuntimeApi.stage, PrototypeApi.stage]
    rw [document, hroot]
    exact ⟨_, prototypeBlocks_eq (hwrite _ hroot), rfl⟩

end Outline

theorem documentLines_outcome {prefixes : List String} {doc : Document}
    {blocks : List (List String)} (h : documentBlocks prefixes doc = .ok blocks) :
    (documentLines prefixes doc).outcome = .ok (joinBlocks blocks) := by
  rw [documentLines, h]
  rfl

/-- **The annotations of an accepted document fall into the paragraphs of its outline.** If all
names are strings and no type has a list in place of a part, the annotations are written, and their
empty lines delimit exactly the paragraphs that the outline lists for the entities, in its order. -/
theorem Document.documentLines_paragraphs (prefixes : List String) {debug : Bool} {d : Json}
    {doc : Document} (hread : (Document.read debug d).outcome = .ok doc)
    (hwrite : ∀ e ∈ Entry.ofDocument? d, ∀ q ∈ Entry.walk.nodes e, q.Writable) :
    ∃ lines, (documentLines prefixes doc).outcome = .ok lines ∧
      paragraphs lines = Outline.document prefixes d ∧
      ∀ p ∈ Outline.document prefixes d, p ≠ [] := by
  obtain ⟨blocks, hblocks, hjoin⟩ := Outline.documentBlocks_eq prefixes hread hwrite
  refine ⟨joinBlocks blocks, documentLines_outcome hblocks, ?_, fun p hp => ?_⟩
  · rw [hjoin]
    exact paragraphs_joinBlocks Outline.isParagraph_of_mem_document
  · exact (Outline.isParagraph_of_mem_document p hp).1

/-- A document with a define two levels deep and a concept. -/
def nestedDocument : Json :=
  .obj
    [("stage", .str "runtime"),
     ("concepts", .arr [.obj
       [("name", .str "Row"),
        ("type", .obj [("complex_type", .str "array"), ("value", .str "string")]),
        ("properties", .arr [.obj [("name", .str "size"), ("type", .str "uint")]])]]),
     ("defines", .arr [.obj
       [("name", .str "a"), ("values", .arr [.obj [("name", .str "x")]]),
        ("subkeys", .arr [.obj
          [("name", .str "b"), ("subkeys", .arr [.obj [("name", .str "c")]])]])]])]

theorem writable_nestedDocument :
    ∀ e ∈ Entry.ofDocument? nestedDocument, ∀ q ∈ Entry.walk.nodes e, q.Writable := by
  have hplain {v : Json} (hv : v.isObject = false) : (TypeExpr.Place.whole v "").ListFree :=
    TypeExpr.Place.listFree_of_not_object hv (TypeExpr.Place.not_holdsList_whole v "")
  have harray : (TypeExpr.Place.whole
      (.obj [("complex_type", .str "array"), ("value", .str "string")]) "").ListFree := by
    refine TypeExpr.Place.listFree_iff.2 ⟨TypeExpr.Place.not_holdsList_whole _ _, fun q hq => ?_⟩
    obtain rfl := List.mem_singleton.1 hq
    refine TypeExpr.Place.listFree_of_not_object rfl ?_
    simp [TypeExpr.Place.HoldsList, Fields.value_cons]
  intro e he
  cases (show some _ = some e from he)
  simp [Entry.walk, Walk.nodes_eq, Entry.below, Entry.inSlot, Fields.objects, Fields.value_cons,
    Json.items, Json.object?]
  simp [Entry.Writable, Fields.value_cons]
  exact ⟨harray, hplain rfl, hplain rfl⟩

theorem outline_nestedDocument : Outline.document [] nestedDocument =
    [["---@class defines.a", "---@field x \"x\" "], ["---@class defines.a.b"],
     ["---@class defines.a.b.c"], ["---@class Row", "---@field size uint "]] := by
  have hroot : Entry.ofDocument? nestedDocument = some ⟨.runtimeApi, _⟩ := rfl
  rw [Outline.document, hroot]
  simp [Outline.runtimeParagraphs, Outline.defineWalk, Walk.nodes_eq, Outline.defineParagraph,
    Outline.structParagraph, Outline.headed, Outline.name, Outline.valueLine, Outline.typedLine,
    Outline.memberLine, Outline.type, Outline.description, Json.typeText, Json.type?,
    Fields.each, Fields.objects, Fields.value_cons, Json.items, Json.object?]
  decide

theorem Document.paragraphs_nestedDocument :
    ∃ doc lines, (Document.read false nestedDocument).outcome = .ok doc ∧
      (documentLines [] doc).outcome = .ok lines ∧
      paragraphs lines =
        [["---@class defines.a", "---@field x \"x\" "], ["---@class defines.a.b"],
         ["---@class defines.a.b.c"], ["---@class Row", "---@field size uint "]] := by
  obtain ⟨doc, hdoc⟩ : ∃ doc, (Document.read false nestedDocument).outcome = .ok doc := ⟨_, rfl⟩
  obtain ⟨lines, hlines, hparagraphs, -⟩ :=
    documentLines_paragraphs [] hdoc writable_nestedDocument
  exact ⟨doc, lines, hdoc, hlines, hparagraphs.trans outline_nestedDocument⟩

end ApiReference
