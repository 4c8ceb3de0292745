import ApiReference.Proofs.Declaration.Stripping
import ApiReference.Proofs.Text.Numeral
import ApiReference.Proofs.TypeExpr.Nodes
import Mathlib.Data.Bool.AllAny

/-!
# Stripping the text of a type

Name spaces are stripped from the text of a type, not from the type. The text does not show where a
name ends and where the brackets, commas and words of the composite types begin, so stripping could
damage them. It does not: what a type writes of its own holds no name space, and it is cut off from
what the document puts into it by characters that are none of a token.

`TypeExpr.mapTexts` changes the texts of a document inside a type: the names, the bare strings, and
what the literals show. `render_mapTexts_strip` says that stripping the text of a type gives the
text of the type whose own texts are stripped one by one, and that neither can be written if the
other cannot.

The two things to be shown of the text of a node are those that
`ApiReference.Proofs.Declaration.Stripping` asks for.

* **There are seams.** Whatever a frame writes starts and ends in one of the `edges` where it meets
  a text of the document, and no edge is a character of a token.
* **There is nothing to strip between them.** Words such as `table` and `boolean` have no dot. A
  number has one, but no letter in front of it; this is the only place at which the grammar of
  numerals is needed, and the reason why a dot alone does not settle the matter.

The text of a literal is what makes the empty text a case of its own: a description that is a name
space and nothing else is stripped to nothing, and the quotes around it stay.
-/

set_option autoImplicit false

namespace ApiReference

open Declaration

namespace TypeExpr

/-! ## The texts of a document inside a type

The text that is changed is the one that is shown, so a literal of a string has its description
changed and not its value if it has both. Nothing else in the type is touched. -/

/-- The bare value, with its text changed if it is a string. -/
def mapLeaf (f : String → String) : Json → Json
  | .str s => .str (f s)
  | v => v

/-- The literal, with the text changed that it shows: its description if it has one, else the string
that it fixes. A literal of no other kind than a string, a number or a boolean shows nothing. A
description stays one even if its text becomes empty. -/
def mapLiteral (f : String → String) : Json → Option String → TypeExpr
  | .str s, some description => .literal (.str s) (some (f description))
  | .str s, none => .literal (.str (f s)) none
  | .bool b, description => .literal (.bool b) (description.map f)
  | .int n, description => .literal (.int n) (description.map f)
  | .float x, description => .literal (.float x) (description.map f)
  | value, description => .literal value description

mutual

/-- The type, with every name, every bare string and every text that a literal shows changed. -/
def mapTexts (f : String → String) : TypeExpr → TypeExpr
  | .name n => .name (f n)
  | .array element => .array (element.mapTexts f)
  | .dictionary key value => .dictionary (key.mapTexts f) (value.mapTexts f)
  | .tuple elements => .tuple (mapTextsAll f elements)
  | .union options fullFormat => .union (mapTextsAll f options) fullFormat
  | .literal value description => mapLiteral f value description
  | .alias inner description => .alias (inner.mapTexts f) description
  | .leaf value => .leaf (mapLeaf f value)
termination_by structural t => t

/-- Several types with their texts changed. -/
def mapTextsAll (f : String → String) : List TypeExpr → List TypeExpr
  | [] => []
  | t :: rest => t.mapTexts f :: mapTextsAll f rest
termination_by structural ts => ts

end

theorem mapTextsAll_eq_map (f : String → String) (ts : List TypeExpr) :
    mapTextsAll f ts = ts.map (mapTexts f) := by
  induction ts with
  | nil => rfl
  | cons t rest ih => rw [mapTextsAll, ih, List.map_cons]

/-! ## What a type writes of its own

One lemma for each kind of text next to which a part may stand, and one for each kind of node that
has text of its own. -/

/-- The characters that a type writes next to the texts of a document. -/
def edges : List Char :=
  [' ', ',', '<', '>', '[', ']', '|', '"']

/-- No edge is a character of a token. -/
theorem isTokenChar_edge : ∀ c ∈ edges, isTokenChar c = false :=
  List.all_iff_forall_prop.1 (by decide +kernel)

/-- The first or last character of a text, if it is one of those. -/
theorem isTokenChar_of_all_edges {c? : Option Char} (h : c?.all edges.contains = true) :
    ∀ c ∈ c?, isTokenChar c = false := fun c hc =>
  isTokenChar_edge c (List.contains_iff_mem.1 ((Option.all_eq_true _ _).1 h c hc))

section Strip

variable {prefixes : List String} (hprefixes : ∀ p ∈ prefixes, IsNameSpace p)

include hprefixes

/-- What a type writes behind a text. -/
theorem stripPrefixes_before {closing : String} (h : closing.toList.head?.all edges.contains = true)
    (hdot : '.' ∉ closing.toList) (s : String) :
    stripPrefixes prefixes (s ++ closing) = stripPrefixes prefixes s ++ closing := by
  rw [stripPrefixes_append_of_head hprefixes (isTokenChar_of_all_edges h),
    stripPrefixes_of_no_dot hprefixes hdot]

/-- What a type writes in front of a text. -/
theorem stripPrefixes_after {opening : String}
    (h : opening.toList.getLast?.all edges.contains = true) (hdot : '.' ∉ opening.toList)
    (s : String) : stripPrefixes prefixes (opening ++ s) = opening ++ stripPrefixes prefixes s := by
  rw [stripPrefixes_append_of_last hprefixes (isTokenChar_of_all_edges h),
    stripPrefixes_of_no_dot hprefixes hdot]

/-- The two parts of a dictionary are stripped on their own. -/
theorem stripPrefixes_table (key value : String) :
    stripPrefixes prefixes ("table<" ++ key ++ ", " ++ value ++ ">") =
      "table<" ++ stripPrefixes prefixes key ++ ", " ++ stripPrefixes prefixes value ++ ">" := by
  have hcomma : ∀ c ∈ (", " ++ value).toList.head?, isTokenChar c = false := by
    have := isTokenChar_edge ',' (by decide)
    simpa using this
  rw [stripPrefixes_before hprefixes (by decide) (by decide), String.append_assoc,
    String.append_assoc, stripPrefixes_after hprefixes (by decide) (by decide),
    stripPrefixes_append_of_head hprefixes hcomma,
    stripPrefixes_after hprefixes (by decide) (by decide), ← String.append_assoc,
    ← String.append_assoc]

/-- A kind without a dot stays, and the description after it is stripped on its own. -/
theorem stripPrefixes_describe {kind : String} (hdot : '.' ∉ kind.toList)
    (description : Option String) :
    stripPrefixes prefixes (describe kind description) =
      describe kind (description.map (stripPrefixes prefixes)) := by
  cases description with
  | none => exact stripPrefixes_of_no_dot hprefixes hdot
  | some s =>
    have hspace : (kind ++ " ").toList.getLast?.all edges.contains = true := by
      simp [edges]
    have hplain : '.' ∉ (kind ++ " ").toList := by simpa using hdot
    exact stripPrefixes_after hprefixes hspace hplain s

/-- A literal is stripped by stripping what it shows. -/
theorem render_mapLiteral (value : Json) (description : Option String) :
    (mapLiteral (stripPrefixes prefixes) value description).render =
      .ok (stripPrefixes prefixes (renderLiteral value description)) := by
  have hquoted (s : String) : stripPrefixes prefixes ("string \"\"\"" ++ s ++ "\"") =
      "string \"\"\"" ++ stripPrefixes prefixes s ++ "\"" := by
    rw [stripPrefixes_before hprefixes (by decide) (by decide),
      stripPrefixes_after hprefixes (by decide) (by decide)]
  cases value with
  | str s =>
    cases description with
    | none => exact congrArg Except.ok (hquoted s).symm
    | some d => exact congrArg Except.ok (hquoted d).symm
  | bool b => exact congrArg Except.ok (stripPrefixes_describe hprefixes (by decide) _).symm
  | int n => exact congrArg Except.ok (stripPrefixes_describe hprefixes (by decide) _).symm
  | float x => exact congrArg Except.ok (stripPrefixes_describe hprefixes (by decide) _).symm
  | _ =>
    have hany : stripPrefixes prefixes anyText = anyText :=
      stripPrefixes_of_no_dot hprefixes (by decide)
    exact congrArg Except.ok hany.symm

/-- Bare numbers and booleans hold no name space. -/
theorem renderLeaf_mapLeaf (value : Json) :
    renderLeaf (mapLeaf (stripPrefixes prefixes) value) =
      stripPrefixes prefixes <$> renderLeaf value := by
  have hnumeral {s : String} (h : Binary64.IsNumeral s.toList) : stripPrefixes prefixes s = s :=
    stripPrefixes_eq_self hprefixes h.pairwise
  cases value with
  | bool b =>
    have hdot : '.' ∉ (if b then "true" else "false" : String).toList := by cases b <;> decide
    exact congrArg Except.ok (stripPrefixes_of_no_dot hprefixes hdot).symm
  | int n => exact congrArg Except.ok (hnumeral (Binary64.isNumeral_toString_int n)).symm
  | float x =>
    refine congrArg Except.ok (hnumeral ?_).symm
    split
    · exact Binary64.isNumeral_toString_int _
    · exact x.isNumeral_text
  | _ => rfl

/-- **Stripping the text of a type strips the texts in it.** A text that is stripped to nothing is
still shown. If the type has no text, the stripped type has none for the same reason. -/
theorem render_mapTexts_strip (t : TypeExpr) :
    (t.mapTexts (stripPrefixes prefixes)).render = stripPrefixes prefixes <$> t.render := by
  induction t using walk.induction with
  | step t ih =>
  have hparts : (t.parts.map (mapTexts (stripPrefixes prefixes))).mapM render =
      List.map (stripPrefixes prefixes) <$> t.parts.mapM render := mapM_map_eq ih
  -- no separator has a character of a token, so every cut lies within one of the texts
  have hlist {separator : String} (hne : separator.toList ≠ [])
      (h : separator.toList.all edges.contains = true) (texts : List String) :
      stripPrefixes prefixes (separator.intercalate texts) =
        separator.intercalate (texts.map (stripPrefixes prefixes)) :=
    stripPrefixes_intercalate hprefixes hne
      (fun c hc => isTokenChar_edge c (List.contains_iff_mem.1 (List.all_eq_true.1 h c hc))) texts
  cases t with
  | name n => rfl
  | literal value description => exact render_mapLiteral hprefixes value description
  | leaf value => exact renderLeaf_mapLeaf hprefixes value
  | «alias» inner description => exact ih inner List.mem_cons_self
  | array element =>
    rw [mapTexts, render, render, ih element List.mem_cons_self]
    cases element.render with
    | error fault => rfl
    | ok s =>
      refine congrArg Except.ok ?_
      exact (stripPrefixes_before hprefixes (by decide) (by decide) s).symm
  | dictionary key value =>
    rw [mapTexts, render, render, ih key List.mem_cons_self,
      ih value (List.mem_cons_of_mem key List.mem_cons_self)]
    cases key.render with
    | error fault => rfl
    | ok k =>
      cases value.render with
      | error fault => rfl
      | ok v => exact congrArg Except.ok (stripPrefixes_table hprefixes k v).symm
  | tuple elements =>
    rw [mapTexts, mapTextsAll_eq_map, render, render, renderAll_eq_mapM, renderAll_eq_mapM,
      show (elements.map _).mapM render = _ from hparts]
    show (_ <$> elements.mapM render >>= _) = _ <$> (elements.mapM render >>= _)
    cases elements.mapM render with
    | error fault => rfl
    | ok texts =>
      refine congrArg Except.ok ?_
      rw [stripPrefixes_before hprefixes (by decide) (by decide),
        stripPrefixes_after hprefixes (by decide) (by decide), hlist (by decide) (by decide)]
  | union options fullFormat =>
    rw [mapTexts, mapTextsAll_eq_map, render, render, renderAll_eq_mapM, renderAll_eq_mapM,
      show (options.map _).mapM render = _ from hparts]
    show (_ <$> options.mapM render >>= _) = _ <$> (options.mapM render >>= _)
    cases options.mapM render with
    | error fault => rfl
    | ok texts => exact congrArg Except.ok (hlist (by decide) (by decide) texts).symm

end Strip

/-- A type with the name space of the defines in a bare string, in a name and alone in a literal. -/
def directionTable : TypeExpr :=
  .dictionary (.leaf (.str "defines.direction"))
    (.union [.array (.name "mydefines.x"), .literal (.str "north") (some "defines.")] false)

theorem render_mapTexts_strip_directionTable :
    (∀ p ∈ ["defines."], IsNameSpace p) ∧
      directionTable.render =
        .ok "table<defines.direction, mydefines.x[] | string \"\"\"defines.\">" ∧
      (directionTable.mapTexts (stripPrefixes ["defines."])).render =
        .ok "table<direction, mydefines.x[] | string \"\"\"\">" := by
  have hprefixes : ∀ p ∈ ["defines."], IsNameSpace p := by
    intro p hp
    rw [List.mem_singleton.1 hp]
    exact ⟨⟨'d', rfl, rfl⟩, by decide, List.all_eq_true.1 (by decide +kernel)⟩
  have htext : directionTable.render =
      .ok "table<defines.direction, mydefines.x[] | string \"\"\"defines.\">" := rfl
  refine ⟨hprefixes, htext, ?_⟩
  rw [render_mapTexts_strip hprefixes, htext]
  exact congrArg Except.ok (by decide +kernel)

end TypeExpr
end ApiReference
