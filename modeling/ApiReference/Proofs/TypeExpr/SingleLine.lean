import ApiReference.Proofs.Text.SingleLine
import ApiReference.Proofs.TypeExpr.Nodes

/-!
# When the text of a type is a single line

An annotation has room for one line, and the text of a type is put into it as it is. Everything that
a frame writes of its own is on one line, so a line break can only come from the document: from a
name or a bare string, or from what a literal shows. A literal shows its description, if it has one,
and that is the free text of the document, which is cut to its first line everywhere else but not
here.

The condition is exact. The text is a single line if and only if every text that is shown is one,
and what is shown is read off the JSON value, place by place. An alias has a description too, but it
is not shown, and may have any number of lines.

## What is here

* `Place.shown?`: the text of the document that a place shows.
* `isLine_render_iff`: the text of a type that is read is a single line exactly if every shown text
  is one.
* `isLine_render_longAlias`: an alias under a description of two lines, whose text is a single line.
* `longLiteral_not_isLine`: a literal with a description of two lines, whose text has two lines.
-/

set_option autoImplicit false

namespace ApiReference

open Text

/-- What a literal shows of the document: its description, in place of the value if that is a
string. -/
def Json.shownWith : Json → Option String → Option String
  | .str s, description => some (description.getD s)
  | .bool _, description => description
  | .int _, description => description
  | .float _, description => description
  | _, _ => none

theorem Json.shownWith_literalValue (v : Json) (description : Option String) :
    v.literalValue.shownWith description = v.shownWith description := by
  cases v <;> rfl

namespace TypeExpr

/-! ## Frames of a single line

Separators and closing brackets are single lines whatever the type is. So the question is asked of
what a node writes in front of its parts, and from there carried through the walk. -/

/-- A kind with a description is a single line if the description is one. -/
theorem isLine_describe_iff {kind : String} (h : IsLine kind) (description : Option String) :
    IsLine (describe kind description) ↔ ∀ s, description = some s → IsLine s := by
  cases description with
  | none => simpa [describe] using h
  | some s =>
    have hspace : IsLine " " := by decide
    simp [describe, isLine_append_iff, h, hspace]

/-- A literal is written on a single line if what it shows is one. -/
theorem isLine_renderLiteral_iff (value : Json) (description : Option String) :
    IsLine (renderLiteral value description) ↔
      ∀ s, value.shownWith description = some s → IsLine s := by
  cases value with
  | str s =>
    have hopening : IsLine "string \"\"\"" := by decide
    have hclosing : IsLine "\"" := by decide
    simp [renderLiteral, Json.shownWith, isLine_append_iff, hopening, hclosing]
  | bool b => exact isLine_describe_iff (by decide) description
  | int n => exact isLine_describe_iff (by decide) description
  | float x => exact isLine_describe_iff (by decide) description
  | _ =>
    have hany : IsLine anyText := by decide
    simpa [renderLiteral, Json.shownWith] using hany

theorem isLine_renderLeaf_iff {value : Json} {text : String} (h : renderLeaf value = .ok text) :
    IsLine text ↔ ∀ s, value = .str s → IsLine s := by
  cases value with
  | str s =>
    obtain rfl := Except.ok.inj h
    simp
  | bool b =>
    obtain rfl := Except.ok.inj h
    cases b <;> simp <;> decide
  | int n =>
    obtain rfl := Except.ok.inj h
    simpa using isLine_toString_int n
  | float x =>
    obtain rfl := Except.ok.inj h
    have hline : IsLine (if x.isIntegral then toString x.truncate else x.text) := by
      split
      · exact isLine_toString_int _
      · exact isLine_of_isNumeral x.isNumeral_text
    simpa using hline
  | _ => cases h

/-- Only in front of its parts a node may write more than one line. -/
theorem isLine_around_iff {t : TypeExpr} {f : Frame} (h : t.frame = .ok f) {texts : List String} :
    IsLine (f.around texts) ↔ IsLine f.opening ∧ ∀ s ∈ texts, IsLine s := by
  have hempty : IsLine "" := by decide
  have hown : IsLine f.separator ∧ IsLine f.closing := by
    cases t with
    | leaf value =>
      rw [frame] at h
      cases hleaf : renderLeaf value with
      | error fault => rw [hleaf] at h; cases h
      | ok text =>
        rw [hleaf] at h
        obtain rfl := Except.ok.inj h
        exact ⟨hempty, hempty⟩
    | name n =>
      obtain rfl := Except.ok.inj h
      exact ⟨hempty, hempty⟩
    | literal value description =>
      obtain rfl := Except.ok.inj h
      exact ⟨hempty, hempty⟩
    | _ =>
      obtain rfl := Except.ok.inj h
      decide
  rw [Frame.around, isLine_append_iff, isLine_append_iff, isLine_intercalate_iff hown.1]
  exact and_iff_left hown.2

/-- What corresponds in pairs corresponds as a whole. -/
theorem forall_mem_iff_of_forall₂ {α β : Type} {P : α → Prop} {Q : β → Prop} {as : List α}
    {bs : List β} (h : List.Forall₂ (fun a b => P a ↔ Q b) as bs) :
    (∀ a ∈ as, P a) ↔ ∀ b ∈ bs, Q b := by
  induction h with
  | nil => exact ⟨nofun, nofun⟩
  | cons hab _ ih => rw [List.forall_mem_cons, List.forall_mem_cons, hab, ih]

/-- The text of a type is a single line if all its nodes write single lines. -/
theorem isLine_render_iff_nodes {t : TypeExpr} {text : String} (h : t.render = .ok text) :
    IsLine text ↔ ∀ s ∈ walk.nodes t, ∀ f, s.frame = .ok f → IsLine f.opening := by
  induction t using walk.induction generalizing text with
  | step t ih =>
    obtain ⟨f, texts, hf, htexts, rfl⟩ := render_eq_ok_iff.1 h
    have hparts : List.Forall₂
        (fun s text => (∀ c ∈ walk.nodes s, ∀ f, c.frame = .ok f → IsLine f.opening) ↔ IsLine text)
        t.parts texts := by
      have hboth := (List.forall₂_and_left _ _).2 ⟨fun s hs => @ih s hs, htexts⟩
      exact hboth.imp fun s text hs => (hs.1 hs.2).symm
    rw [isLine_around_iff hf, walk.forall_mem_nodes_iff, ← forall_mem_iff_of_forall₂ hparts]
    refine and_congr_left fun _ => ⟨fun hline g hg => ?_, fun hline => hline f hf⟩
    rw [hf] at hg
    exact Except.ok.inj hg ▸ hline

/-! ## What a document shows

Whether a text is shown depends on the form that an object states, and for a form that is not known
the word for it is shown, as a name. -/

/-- The text of the document that a place shows: a name, a bare string, or what a literal shows. -/
def Place.shown? (p : Place) : Option String :=
  match p.value with
  | .str s => some s
  | .obj fields =>
    match Fields.form? fields, Fields.value fields "complex_type" with
    | some .literal, _ =>
      (Fields.value fields "value").shownWith (Fields.value fields "description").text?
    | none, .str form => some form
    | _, _ => none
  | _ => none

theorem Place.shown?_eq_some_iff {p : Place} (h : p.value.isObject = false) {s : String} :
    p.shown? = some s ↔ p.value = .str s := by
  rw [shown?]
  cases hv : p.value with
  | obj fields => rw [hv] at h; cases h
  | str r => rw [Option.some.injEq, Json.str.injEq]
  | _ => exact ⟨nofun, nofun⟩

/-- A place shows a text of a single line exactly if the node that it spells writes one. -/
theorem Place.Spells.isLine_shown_iff {p : Place} {t : TypeExpr} (h : p.Spells t) :
    (∀ s, p.shown? = some s → IsLine s) ↔ ∀ f, t.frame = .ok f → IsLine f.opening := by
  have hempty : IsLine "" := by decide
  rw [Spells] at h
  generalize p.position = pos at h
  generalize hv : p.value = v at h
  cases h with
  | leaf hk =>
    simp only [shown?_eq_some_iff (hv ▸ Position.isObject_of_keeps hk), hv, frame]
    cases hleaf : renderLeaf v with
    | error fault =>
      refine ⟨fun _ f hf => ?_, fun _ s hs => ?_⟩
      · cases hf
      · rw [hs] at hleaf
        cases hleaf
    | ok text =>
      rw [← isLine_renderLeaf_iff hleaf]
      refine ⟨fun hline f hf => ?_, fun hline => hline _ rfl⟩
      exact Except.ok.inj hf ▸ hline
  | name hne s => simp [shown?, hv, frame]
  | literal hform =>
    simp only [shown?, hv, hform, frame, Except.ok.injEq, forall_eq', isLine_renderLiteral_iff,
      Json.shownWith_literalValue]
  | unknown hstated hform => simp [shown?, hv, frame, hform, hstated]
  -- these nodes show no text of their own, only the parts below them do
  | array hform h => simp [shown?, hv, hform, frame, hempty]
  | aliased hform h => simp [shown?, hv, hform, frame, hempty]
  | union hform hne hlen h => simp [shown?, hv, hform, frame, hempty]
  | tuple hform hne hlen h =>
    have hopening : IsLine "tuple<" := by decide
    simp [shown?, hv, hform, frame, hopening]
  | dictionary hform hkey hvalue =>
    have hopening : IsLine "table<" := by decide
    simp [shown?, hv, hform, frame, hopening]

/-- **The text of a type that is read is a single line exactly if every shown text is one.** -/
theorem isLine_render_iff {data : Json} {path : Path} {t : TypeExpr} {text : String}
    (h : (read data path).outcome = .ok t) (htext : t.render = .ok text) :
    IsLine text ↔
      ∀ p ∈ Place.walk.nodes (.whole data path), ∀ s, p.shown? = some s → IsLine s := by
  have hs : (Place.whole data path).Spells t := read_outcome_eq_ok_iff.1 h
  rw [isLine_render_iff_nodes htext]
  exact (forall_mem_iff_of_forall₂ (hs.forall₂_nodes.imp fun p s hp => hp.isLine_shown_iff)).symm

/-- An alias of a name, under a description of two lines. -/
def longAlias : Json :=
  .obj [("complex_type", .str "type"), ("value", .str "uint"), ("description", .str "one\ntwo")]

theorem isLine_render_longAlias :
    ∃ t text, (read longAlias "").outcome = .ok t ∧ t.render = .ok text ∧ IsLine text := by
  have hread : (read longAlias "").outcome = .ok (.alias (.leaf (.str "uint")) (some "one\ntwo")) :=
    rfl
  have hbelow : (Place.whole longAlias "").below = [.part .alias "value" (.str "uint") ""] := rfl
  refine ⟨_, "uint", hread, rfl, (isLine_render_iff hread rfl).2 ?_⟩
  rw [Place.walk.forall_mem_nodes_iff]
  refine ⟨nofun, fun p hp => ?_⟩
  have hp : p ∈ (Place.whole longAlias "").below := hp
  rw [hbelow, List.mem_singleton] at hp
  subst hp
  rw [Place.walk.forall_mem_nodes_iff]
  refine ⟨fun s hs => ?_, nofun⟩
  obtain rfl := Option.some.inj (show some "uint" = some s from hs)
  decide

/-- A literal with a description of two lines. -/
def longLiteral : Json :=
  .obj [("complex_type", .str "literal"), ("value", .str "a"), ("description", .str "one\ntwo")]

/-- **A literal puts its whole description into the text**, so the text may have more than one line
although all names and values are single lines. -/
theorem longLiteral_not_isLine :
    (read longLiteral "").outcome = .ok (.literal (.str "a") (some "one\ntwo")) ∧
      (TypeExpr.literal (.str "a") (some "one\ntwo")).render =
        .ok "string \"\"\"one\ntwo\"" ∧
      IsLine "a" ∧ ¬ IsLine "string \"\"\"one\ntwo\"" :=
  ⟨rfl, rfl, by decide, by decide⟩

end TypeExpr
end ApiReference
