import ApiReference.Proofs.Declaration.LineSources
import ApiReference.Proofs.Declaration.Stripping
import ApiReference.Proofs.Text.SingleLine

/-!
# Every line of the annotations is one line

Each line of the annotations is put together from fixed text, from names, from the texts of types
and from at most one description. The fixed text has no line break, and every builder cuts the
description in front of its first one. So the only line breaks that a line can have are those of the
names and types that it shows: where these have none, it is a single line
(`LineSource.isLine_of_line_eq_ok`), one case for each source of a line.

The hypotheses are about names and types because these are written as they are. That a type may have
a line break in its text at all is the subject of `ApiReference.Proofs.TypeExpr.SingleLine`; here
its text is only required to have none. Descriptions may have any characters, and the characters
that end a line are not only the usual two: a form feed or a line separator ends it as well.

What the theorem says of descriptions is more than that they do no harm. The part that is shown is
the longest one without a line break that the description starts with (`Text.IsFirstLine`), so
nothing in front of the break is lost either.

## What is here

* `isLine_of_classLine`, `isLine_of_fieldLine`, `isLine_paramLine`, `isLine_returnLine`: the
  builders of lines.
* `LineSource.isLine_of_line_eq_ok`: the lines of all sources.
* `Document.isLine_of_mem_documentLines`: the lines of a document.
-/

set_option autoImplicit false

namespace ApiReference

open Declaration Text

/-- The text of the type is a single line. -/
def TypeExpr.RendersInLine (t : TypeExpr) : Prop :=
  ∀ text, t.render = .ok text → IsLine text

namespace Declaration

variable {prefixes : List String} {name : Name} {type description line : String}

theorem isLine_of_nameText {text : String} (h : nameText name = .ok text)
    (hname : IsLine name.inline) : IsLine text := by
  cases name with
  | str s =>
    rw [nameText] at h
    exact Except.ok.inj h ▸ hname
  | _ => cases h

theorem isLine_of_renderOptional {t : Option TypeExpr} {text : String}
    (h : TypeExpr.renderOptional t = .ok text) (ht : ∀ x ∈ t.toList, x.RendersInLine) :
    IsLine text := by
  cases t with
  | none =>
    rw [← Except.ok.inj h]
    decide
  | some x => exact ht x (by simp) text h

/-! ## The builders of lines

A text put together from single lines is one. What has to be seen for each builder is that the
description goes through `Text.firstLine`. -/

theorem isLine_of_classLine (h : classLine name = .ok line) (hname : IsLine name.inline) :
    IsLine line := by
  obtain ⟨text, htext, hline⟩ := bind_eq_ok_iff.1 h
  rw [← Except.ok.inj hline, isLine_append_iff]
  exact ⟨by decide, isLine_of_nameText htext hname⟩

theorem isLine_of_fieldLine (h : fieldLine name type description = .ok line)
    (hname : IsLine name.inline) (htype : IsLine type) : IsLine line := by
  obtain ⟨text, htext, hline⟩ := bind_eq_ok_iff.1 h
  rw [← Except.ok.inj hline]
  simp only [isLine_append_iff]
  exact ⟨⟨⟨⟨⟨by decide, isLine_of_nameText htext hname⟩, by decide⟩, htype⟩, by decide⟩,
    isLine_firstLine description⟩

theorem isLine_optionalMark (optional : Bool) : IsLine (optionalMark optional) := by
  cases optional <;> decide

/-- The line of a parameter has no line breaks but those of its name and its type. -/
theorem isLine_paramLine {name : String} (optional : Bool) (hname : IsLine name)
    (htype : IsLine type) : IsLine (paramLine name optional type description) := by
  refine IsLine.trimEnd ?_
  simp only [isLine_append_iff]
  exact ⟨⟨⟨⟨⟨⟨by decide, hname⟩, isLine_optionalMark optional⟩, by decide⟩, htype⟩, by decide⟩,
    isLine_firstLine description⟩

theorem isLine_returnLine (optional : Bool) (htype : IsLine type) :
    IsLine (returnLine type optional description) := by
  refine IsLine.trimEnd ?_
  simp only [isLine_append_iff]
  exact ⟨⟨⟨⟨by decide, htype⟩, isLine_optionalMark optional⟩, by decide⟩,
    isLine_firstLine description⟩

/-- What is written of each item of a list, put together with commas. -/
theorem isLine_commas {α : Type} {f : α → Except Fault String} {as : List α} {texts : List String}
    (h : as.mapM f = .ok texts) (hf : ∀ a ∈ as, ∀ text, f a = .ok text → IsLine text) :
    IsLine (", ".intercalate texts) :=
  (isLine_intercalate_iff (by decide)).2 (forall_mem_of_mapM_eq_ok h hf)

/-! ## Parameters

A signature and the table of arguments are lists of parameters in one line, so here several names
and types meet. -/

section Parameters

variable {p : Parameter} {ps : List Parameter} {text : String}

theorem isLine_of_signaturePart (h : signaturePart prefixes p = .ok text)
    (hname : IsLine p.name.inline) (htype : ∀ t ∈ p.type.toList, t.RendersInLine) :
    IsLine text := by
  obtain ⟨type, ht, htext⟩ := bind_eq_ok_iff.1 h
  rw [← Except.ok.inj htext, isLine_append_iff, isLine_append_iff]
  exact ⟨⟨hname, by decide⟩,
    (isLine_of_renderOptional ht htype).of_subset (stripPrefixes_subset prefixes type)⟩

theorem isLine_of_tableField (h : tableField p = .ok text)
    (hname : IsLine p.name.inline) (htype : ∀ t ∈ p.type.toList, t.RendersInLine) :
    IsLine text := by
  obtain ⟨type, ht, htext⟩ := bind_eq_ok_iff.1 h
  rw [← Except.ok.inj htext]
  simp only [isLine_append_iff]
  exact ⟨⟨⟨hname, isLine_optionalMark _⟩, by decide⟩, isLine_of_renderOptional ht htype⟩

/-- The types of several parameters, seen from one of them. -/
theorem rendersInLine_of_mem (hp : p ∈ ps)
    (htypes : ∀ t ∈ ps.filterMap (·.type), t.RendersInLine) :
    ∀ t ∈ p.type.toList, t.RendersInLine :=
  fun t ht => htypes t (List.mem_filterMap.2 ⟨p, hp, Option.mem_toList.1 ht⟩)

/-- A signature is a single line if the names and types of its parameters are. -/
theorem isLine_of_signature (h : signature prefixes ps = .ok text)
    (hnames : ∀ p ∈ ps, IsLine p.name.inline)
    (htypes : ∀ t ∈ ps.filterMap (·.type), t.RendersInLine) : IsLine text := by
  obtain ⟨parts, hparts, htext⟩ := bind_eq_ok_iff.1 h
  rw [← Except.ok.inj htext, isLine_append_iff, isLine_append_iff]
  refine ⟨⟨by decide, isLine_commas hparts fun p hp text hpart => ?_⟩, by decide⟩
  exact isLine_of_signaturePart hpart (hnames p hp) (rendersInLine_of_mem hp htypes)

theorem isLine_of_argumentNames {m : Method} {texts : List String}
    (h : argumentNames m = .ok texts) (hnames : ∀ p ∈ m.parameters.getD [], IsLine p.name.inline) :
    ∀ s ∈ texts, IsLine s := by
  rw [argumentNames] at h
  split at h
  · obtain rfl := Except.ok.inj h
    decide
  · obtain ⟨names, hn, htexts⟩ := bind_eq_ok_iff.1 h
    rw [← Except.ok.inj htexts, List.forall_mem_append]
    refine ⟨forall_mem_of_mapM_eq_ok hn fun p hp text htext =>
      isLine_of_nameText htext (hnames p hp), ?_⟩
    split <;> decide

end Parameters

/-! ## Fields

A field line is taken apart again at the end of this section: into the name, the text for the type,
and what is shown of the description. -/

/-- What an attribute is read and written as is a single line if both types are. -/
theorem isLine_of_attributeType {a : Attribute} {text : String} (h : attributeType a = .ok text)
    (hr : ∀ t ∈ a.readType.toList, t.RendersInLine)
    (hw : ∀ t ∈ a.writeType.toList, t.RendersInLine) : IsLine text := by
  rw [attributeType] at h
  split at h
  case h_1 r w hread hwrite =>
    rw [hread, Option.toList_some, List.forall_mem_singleton] at hr
    rw [hwrite, Option.toList_some, List.forall_mem_singleton] at hw
    obtain ⟨s, hs, h⟩ := bind_eq_ok_iff.1 h
    obtain ⟨s', hs', h⟩ := bind_eq_ok_iff.1 h
    rw [← Except.ok.inj h, isLine_append_iff, isLine_append_iff]
    exact ⟨⟨hr s hs, by decide⟩, hw s' hs'⟩
  case h_2 r hread _ => exact hr r (by simp [hread]) text h
  case h_3 w _ hwrite => exact hw w (by simp [hwrite]) text h
  case h_4 =>
    rw [← Except.ok.inj h]
    decide

namespace FieldSource

variable {f : FieldSource}

theorem name_mem_names (f : FieldSource) : f.name ∈ f.names := by
  cases f <;> simp [name, names]

theorem isLine_of_typeText {text : String} (h : f.typeText prefixes = .ok text)
    (hnames : ∀ n ∈ f.names, IsLine n.inline) (htypes : ∀ t ∈ f.types, t.RendersInLine) :
    IsLine text := by
  cases f with
  | property p => exact isLine_of_renderOptional h htypes
  | value v =>
    rw [← Except.ok.inj h, isLine_append_iff, isLine_append_iff]
    exact ⟨⟨by decide, hnames v.name (by simp [names, name])⟩, by decide⟩
  | «attribute» a =>
    rw [types, List.forall_mem_append] at htypes
    exact isLine_of_attributeType h htypes.1 htypes.2
  | method m =>
    refine isLine_of_signature h (fun p hp => hnames p.name ?_) htypes
    exact List.mem_cons_of_mem _ (List.mem_map.2 ⟨p, hp, rfl⟩)
  | payload p => exact isLine_of_renderOptional h htypes

theorem isLine_of_line (h : f.line prefixes = .ok line) (hnames : ∀ n ∈ f.names, IsLine n.inline)
    (htypes : ∀ t ∈ f.types, t.RendersInLine) : IsLine line := by
  obtain ⟨type, htype, hline⟩ := bind_eq_ok_iff.1 h
  exact isLine_of_fieldLine hline (hnames f.name f.name_mem_names)
    (isLine_of_typeText htype hnames htypes)

/-- What a field line is put together from. Of the description it shows the longest part that it
starts with and that has no line break. -/
theorem exists_shown (h : f.line prefixes = .ok line) :
    ∃ name type shown, f.name = .str name ∧ f.typeText prefixes = .ok type ∧
      line = "---@field " ++ name ++ " " ++ type ++ " " ++ shown ∧
      IsFirstLine shown f.description := by
  obtain ⟨type, htype, hline⟩ := bind_eq_ok_iff.1 h
  obtain ⟨name, hname, hline⟩ := bind_eq_ok_iff.1 hline
  refine ⟨name, type, firstLine f.description, ?_, htype, (Except.ok.inj hline).symm,
    isFirstLine_firstLine _⟩
  cases hn : f.name with
  | str s =>
    rw [hn, nameText] at hname
    rw [Except.ok.inj hname]
  | _ =>
    rw [hn] at hname
    cases hname

end FieldSource
end Declaration

/-! ## Sources of lines -/

namespace LineSource

variable {prefixes : List String} {source : LineSource} {line : String}

/-- A line has no line breaks but those of the names and types that it shows. -/
theorem isLine_of_line_eq_ok (h : source.line prefixes = .ok line)
    (hnames : ∀ n ∈ source.names, IsLine n.inline) (htypes : ∀ t ∈ source.types, t.RendersInLine) :
    IsLine line := by
  cases source with
  | gap =>
    rw [← Except.ok.inj h]
    decide
  | head name => exact isLine_of_classLine h (hnames name (by simp [names]))
  | define path =>
    refine isLine_of_classLine h ((isLine_intercalate_iff (by decide)).2 ?_)
    rw [List.forall_mem_cons, List.forall_mem_map]
    exact ⟨by decide, hnames⟩
  | field f => exact f.isLine_of_line h hnames htypes
  | objectType o =>
    obtain ⟨type, htype, hline⟩ := bind_eq_ok_iff.1 h
    rw [← Except.ok.inj hline, isLine_append_iff]
    exact ⟨by decide, isLine_of_renderOptional htype htypes⟩
  | object o =>
    rw [← Except.ok.inj h, isLine_append_iff]
    exact ⟨hnames o.name (by simp [names]), by decide⟩
  -- these lines may show a description, but no more than its first line
  | param p =>
    obtain ⟨type, htype, hline⟩ := bind_eq_ok_iff.1 h
    rw [← Except.ok.inj hline]
    exact isLine_paramLine _ (hnames p.name (by simp [names]))
      (isLine_of_renderOptional htype htypes)
  | table m =>
    obtain ⟨fields, hfields, hline⟩ := bind_eq_ok_iff.1 h
    rw [names, List.forall_mem_map] at hnames
    rw [← Except.ok.inj hline]
    refine isLine_paramLine _ (by decide) ?_
    rw [isLine_append_iff, isLine_append_iff]
    refine ⟨⟨by decide, isLine_commas hfields fun p hp text hfield => ?_⟩, by decide⟩
    exact isLine_of_tableField hfield (hnames p hp) (rendersInLine_of_mem hp htypes)
  | variadic p =>
    obtain ⟨type, htype, hline⟩ := bind_eq_ok_iff.1 h
    rw [← Except.ok.inj hline]
    exact isLine_paramLine _ (by decide) (isLine_of_renderOptional htype htypes)
  | returned p =>
    obtain ⟨type, htype, hline⟩ := bind_eq_ok_iff.1 h
    rw [← Except.ok.inj hline]
    exact isLine_returnLine _ (isLine_of_renderOptional htype htypes)
  | function m =>
    obtain ⟨arguments, harguments, hline⟩ := bind_eq_ok_iff.1 h
    rw [names, List.forall_mem_cons, List.forall_mem_map] at hnames
    rw [← Except.ok.inj hline]
    simp only [isLine_append_iff]
    exact ⟨⟨⟨⟨by decide, hnames.1⟩, by decide⟩,
      (isLine_intercalate_iff (by decide)).2 (isLine_of_argumentNames harguments hnames.2)⟩,
      by decide⟩

/-- If the line is written of a field, it shows the first line of the description after the name and
the type. -/
def ShowsFirstLine (prefixes : List String) (source : LineSource) (line : String) : Prop :=
  ∀ f, source = .field f → ∃ name type shown, f.name = .str name ∧ f.typeText prefixes = .ok type ∧
    line = "---@field " ++ name ++ " " ++ type ++ " " ++ shown ∧ IsFirstLine shown f.description

end LineSource

/-- **Every line of the annotations of a document is a single line**, whatever the descriptions are,
if no name and no text of a type that is shown has a line break. The field lines are those of the
members written as fields, and each of them shows its description up to the first line break. -/
theorem Document.isLine_of_mem_documentLines {prefixes : List String} {doc : Document}
    {lines : List String} (h : (documentLines prefixes doc).outcome = .ok lines)
    (hnames : ∀ source ∈ doc.lineSources, ∀ n ∈ source.names, IsLine n.inline)
    (htypes : ∀ source ∈ doc.lineSources, ∀ t ∈ source.types, ∀ text,
      t.render = .ok text → IsLine text) :
    (∀ line ∈ lines, IsLine line) ∧
      List.Forall₂ (LineSource.ShowsFirstLine prefixes) doc.lineSources lines := by
  rw [documentLines_eq_mapM] at h
  refine ⟨forall_mem_of_mapM_eq_ok h fun source hs line hline => ?_, ?_⟩
  · exact source.isLine_of_line_eq_ok hline (hnames source hs) (htypes source hs)
  · refine (mapM_eq_ok_iff.1 h).imp fun source line hline => ?_
    rintro f rfl
    exact f.exists_shown hline

/-- A document of a class whose attribute, method and parameter have descriptions of several
lines. -/
def multilineFields : Fields :=
  [("stage", .str "runtime"),
   ("classes", .arr [.obj
     [("name", .str "LuaEntity"), ("description", .str "An entity.\nAny."),
      ("attributes", .arr [.obj
        [("name", .str "health"), ("description", .str "Points.\r\nNone if it has none."),
         ("read_type", .str "float")]]),
      ("methods", .arr [.obj
        [("name", .str "die"), ("description", .str "\u2028Kills it."),
         ("parameters", .arr [.obj
           [("name", .str "force"), ("type", .str "ForceID"),
            ("description", .str "Of whom.\u000bOptional.")]])]])]])]

theorem Document.isLine_multilineDocument :
    ∃ doc lines, (Document.read false (.obj multilineFields)).outcome = .ok doc ∧
      (documentLines [] doc).outcome = .ok lines ∧
      lines = ["---@class LuaEntity", "---@field health float Points.",
        "---@field die fun(force:ForceID) "] ∧
      (∀ line ∈ lines, IsLine line) ∧
      List.Forall₂ (LineSource.ShowsFirstLine []) doc.lineSources lines := by
  let doc : Document := .runtime (.ofFields multilineFields)
  have hread : (Document.read false (.obj multilineFields)).outcome = .ok doc := rfl
  have hlines : (documentLines [] doc).outcome =
      .ok ["---@class LuaEntity", "---@field health float Points.",
        "---@field die fun(force:ForceID) "] := by rfl
  have hnames : ∀ source ∈ doc.lineSources, ∀ n ∈ source.names, IsLine n.inline := by decide
  have htypes : doc.lineSources.flatMap LineSource.types =
      [.name "float", .name "ForceID"] := by rfl
  refine ⟨doc, _, hread, hlines, rfl, isLine_of_mem_documentLines hlines hnames ?_⟩
  intro source hs t ht text h
  have hmem : t ∈ [TypeExpr.name "float", TypeExpr.name "ForceID"] :=
    htypes ▸ List.mem_flatMap.2 ⟨source, hs, ht⟩
  rcases List.mem_pair.1 hmem with rfl | rfl
  · obtain rfl := Except.ok.inj h
    decide
  · obtain rfl := Except.ok.inj h
    decide

end ApiReference
