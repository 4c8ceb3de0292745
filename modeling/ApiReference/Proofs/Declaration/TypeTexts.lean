import ApiReference.Proofs.Declaration.LineSources

/-!
# The texts of types in lines

A line shows a type by the text that the type has on its own, and the class line of a define shows
the full name of the define. `LineSource.typeTexts` lists these texts, and `Text.StandsIn` says that
one of them is part of a line. Blanks do not count at the end of a text, since lines about what a
function takes and gives are cut there.

The lines of methods of classes are left out: in the signature of a method the types stand without
some prefixes.

That a type stands in a line is less than saying what the line is, and it is meant to be. The
theorem in which it is used compares a document under two lists of prefixes, and what it has to say
of a line that is the same under both is that its types were not touched. An infix says that without
repeating how each kind of line is put together, and survives a change to any of them that keeps the
types in place.

## What is here

* `Text.StandsIn`: one text is part of another, up to blanks at its end.
* `LineSource.typeTexts`: the texts that a line has to show.
* `LineSource.showsTypes`: it shows them.
-/

set_option autoImplicit false

namespace ApiReference

open Declaration

/-! ## Parts of texts

A text that is part of another stays part of it when more is written around it. Cutting blanks from
the end is the one step that can take something away, and it takes away no more of the part than its
own blanks. -/

namespace Text

/-- The text is a part of the other one, but for blanks at its end. -/
def StandsIn (text s : String) : Prop :=
  (trimEnd text).toList <:+: s.toList

/-- What is a part as it stands is one without its blanks at the end. -/
theorem standsIn_of_infix {text s : String} (h : text.toList <:+: s.toList) : StandsIn text s := by
  rw [StandsIn, trimEnd, String.toList_ofList]
  exact (isPrefix_trimEndChars text.toList).isInfix.trans h

theorem trimEndChars_infix {cs ds : List Char} (h : cs <:+: ds) :
    trimEndChars cs <:+: trimEndChars ds := by
  obtain ⟨before, after, rfl⟩ := h
  obtain ⟨cut, hcut⟩ := isPrefix_trimEndChars cs
  by_cases hnil : trimEndChars cs = []
  · rw [hnil]
    exact List.nil_infix
  · have hlast : ∀ c ∈ (before ++ trimEndChars cs).getLast?, isBlank c = false := by
      rw [List.getLast?_append_of_ne_nil before hnil]
      exact getLast?_trimEndChars cs
    have hsplit : before ++ cs ++ after = (before ++ trimEndChars cs) ++ (cut ++ after) := by
      rw [List.append_assoc before (trimEndChars cs), ← List.append_assoc (trimEndChars cs), hcut,
        List.append_assoc]
    rw [hsplit, trimEndChars_append hlast]
    exact List.infix_append before (trimEndChars cs) _

/-- Cutting the blanks from the end of a text cuts none in front of what stands in it. -/
theorem standsIn_trimEnd {text s : String} (h : text.toList <:+: s.toList) :
    StandsIn text (trimEnd s) := by
  rw [StandsIn, trimEnd, trimEnd, String.toList_ofList, String.toList_ofList]
  exact trimEndChars_infix h

theorem infix_append (before text after : String) :
    text.toList <:+: (before ++ text ++ after).toList := by
  rw [String.toList_append, String.toList_append]
  exact List.infix_append before.toList text.toList after.toList

theorem infix_intercalate {text : String} {parts : List String} (h : text ∈ parts)
    (separator : String) : text.toList <:+: (separator.intercalate parts).toList := by
  induction parts with
  | nil => cases h
  | cons part rest ih =>
    rcases eq_or_ne rest [] with rfl | hne
    · obtain rfl := List.mem_singleton.1 h
      simp
    · rw [String.intercalate_cons_of_ne_nil hne, String.toList_append, String.toList_append]
      rcases List.mem_cons.1 h with rfl | hrest
      · rw [List.append_assoc]
        exact (List.prefix_append text.toList _).isInfix
      · exact (ih hrest).trans (List.suffix_append _ _).isInfix

end Text

/-! ## Texts and lines

A text may be a fault, for a type without a text. Then the line cannot be written either; so of a
line that is written, all texts are there. -/

namespace LineSource

/-- The texts of the types that the line shows; the class line of a define shows its full name. Of a
field it is the text in place of the type, before any prefixes are stripped. -/
def typeTexts : LineSource → List (Except Fault String)
  | .define path => [.ok (defineName path)]
  | .field f => [f.typeText []]
  | .objectType o => [TypeExpr.renderOptional o.type]
  | .param p => [TypeExpr.renderOptional p.type]
  | .table m => (m.parameters.getD []).map fun p => TypeExpr.renderOptional p.type
  | .variadic p => [TypeExpr.renderOptional p.type]
  | .returned p => [TypeExpr.renderOptional p.type]
  | _ => []

/-- The method whose field line is written, if the source is one. -/
def method? : LineSource → Option Method
  | .field (.method m) => some m
  | _ => none

/-- All texts of types stand in the line as they are. -/
def ShowsTypes (source : LineSource) (line : String) : Prop :=
  ∀ type ∈ source.typeTexts, ∃ text, type = .ok text ∧ Text.StandsIn text line

end LineSource

section Lines

variable {prefixes : List String} {text type line : String}

/-- A field line shows the text given for the type. -/
theorem infix_fieldLine {name : Name} {description : String}
    (h : fieldLine name type description = .ok line) : type.toList <:+: line.toList := by
  obtain ⟨name, -, hline⟩ := bind_eq_ok_iff.1 h
  rw [← Except.ok.inj hline, String.append_assoc]
  exact Text.infix_append _ type _

/-- The line of a parameter shows its type, but for blanks at the end. -/
theorem standsIn_paramLine (h : text.toList <:+: type.toList) (name : String) (optional : Bool)
    (description : String) : Text.StandsIn text (paramLine name optional type description) := by
  refine Text.standsIn_trimEnd (h.trans ?_)
  rw [String.append_assoc]
  exact Text.infix_append _ type _

theorem standsIn_returnLine (type : String) (optional : Bool) (description : String) :
    Text.StandsIn type (returnLine type optional description) := by
  refine Text.standsIn_trimEnd ?_
  rw [String.append_assoc, String.append_assoc]
  exact Text.infix_append _ type _

/-- The fields of a table are written one after the other between braces. -/
theorem infix_tableFields {parameters : List Parameter} {fields : List String}
    (h : parameters.mapM tableField = .ok fields) {p : Parameter} (hp : p ∈ parameters) :
    ∃ text, TypeExpr.renderOptional p.type = .ok text ∧
      text.toList <:+: ("\x7b" ++ ", ".intercalate fields ++ "\x7d").toList := by
  obtain ⟨field, hmem, hfield⟩ := exists_mem_of_mapM_eq_ok h hp
  obtain ⟨text, htext, hfield⟩ := bind_eq_ok_iff.1 hfield
  rw [← Except.ok.inj hfield] at hmem
  refine ⟨text, htext, ?_⟩
  refine List.IsInfix.trans ?_ ((Text.infix_intercalate hmem ", ").trans (Text.infix_append _ _ _))
  rw [String.toList_append]
  exact (List.suffix_append _ text.toList).isInfix

end Lines

/-- **A line shows each type by its own text**, unless it is the line of a method. -/
theorem LineSource.showsTypes {prefixes : List String} {source : LineSource} {line : String}
    (hs : source.method? = none) (h : source.line prefixes = .ok line) :
    source.ShowsTypes line := by
  cases source with
  | field f =>
    obtain ⟨type, htype, hline⟩ := bind_eq_ok_iff.1 h
    -- the prefixes count for methods only, and a method is excluded by the hypothesis
    have hplain : f.typeText [] = f.typeText prefixes := by
      cases f with
      | method m => cases hs
      | _ => rfl
    refine List.forall_mem_singleton.2 ⟨type, hplain.trans htype, ?_⟩
    exact Text.standsIn_of_infix (infix_fieldLine hline)
  | define path =>
    refine List.forall_mem_singleton.2 ⟨defineName path, rfl, Text.standsIn_of_infix ?_⟩
    rw [← Except.ok.inj h, String.toList_append]
    exact (List.suffix_append _ _).isInfix
  | objectType o =>
    obtain ⟨type, htype, hline⟩ := bind_eq_ok_iff.1 h
    refine List.forall_mem_singleton.2 ⟨type, htype, Text.standsIn_of_infix ?_⟩
    rw [← Except.ok.inj hline, String.toList_append]
    exact (List.suffix_append _ _).isInfix
  | param p =>
    obtain ⟨type, htype, hline⟩ := bind_eq_ok_iff.1 h
    rw [← Except.ok.inj hline]
    exact List.forall_mem_singleton.2 ⟨type, htype, standsIn_paramLine List.infix_rfl _ _ _⟩
  | table m =>
    obtain ⟨fields, hfields, hline⟩ := bind_eq_ok_iff.1 h
    rw [← Except.ok.inj hline]
    refine List.forall_mem_map.2 fun p hp => ?_
    obtain ⟨text, htext, hinfix⟩ := infix_tableFields hfields hp
    exact ⟨text, htext, standsIn_paramLine hinfix _ _ _⟩
  | variadic p =>
    obtain ⟨type, htype, hline⟩ := bind_eq_ok_iff.1 h
    rw [← Except.ok.inj hline]
    exact List.forall_mem_singleton.2 ⟨type, htype, standsIn_paramLine List.infix_rfl _ _ _⟩
  | returned p =>
    obtain ⟨type, htype, hline⟩ := bind_eq_ok_iff.1 h
    rw [← Except.ok.inj hline]
    exact List.forall_mem_singleton.2 ⟨type, htype, standsIn_returnLine _ _ _⟩
  | _ => exact List.forall_mem_nil _

end ApiReference
