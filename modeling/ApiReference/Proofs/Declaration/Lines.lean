import ApiReference.Proofs.Declaration.Outline
import ApiReference.Proofs.TypeExpr.Printing

/-!
# The lines of the outline are written

Two things keep a line from being written: a name that is not a string, and a type with a list in
place of a part. An entry without them is `Entry.Writable`. For the entity that a writable object
describes, each declaration gives the lines that the outline has for the object.

The conditions are about the JSON value, like the outline. A name that is not a string is accepted
by the reader, which keeps it as it is, and is refused only where a line has to start with it. In
other places, as in a signature, any name is written in one way or another, so `Writable` asks for a
string only of entries that have to have a name.

The lemmas follow the writers, one for each. On the left is a declaration of an entity that was made
from fields, on the right the text that the outline computes from these fields, and in between there
is no more to do than to look up the name and the types. What makes this short is that the outline
was given the same shape as the writers; that it is the right outline is seen from its definition,
which mentions neither entities nor faults.
-/

set_option autoImplicit false

namespace ApiReference

/-- The name of the entry is a string if it needs one, and its types have a text. -/
def Entry.Writable (e : Entry) : Prop :=
  (e.kind.required? = some "name" → ∃ s, e.fields.value "name" = .str s) ∧
    ∀ key ∈ e.kind.typeKeys, (TypeExpr.Place.whole (e.fields.value key) "").ListFree

/-- A type without a list in place of a part has a text. -/
theorem renderOptional_type? {v : Json} (h : (TypeExpr.Place.whole v "").ListFree) :
    TypeExpr.renderOptional v.type? = .ok v.typeText := by
  have hok : ∃ text, TypeExpr.renderOptional v.type? = .ok text := by
    cases ht : v.type? with
    | none => exact ⟨_, rfl⟩
    | some t =>
      cases v with
      | obj fields =>
        rw [Json.type?] at ht
        cases hread : (TypeExpr.read (.obj fields) "").outcome with
        | error fault => rw [hread] at ht; cases ht
        | ok s =>
          rw [hread] at ht
          have hs : (TypeExpr.Place.whole (.obj fields) "").Spells s :=
            TypeExpr.read_outcome_eq_ok_iff.1 hread
          obtain ⟨text, hs⟩ := hs.exists_render_iff.2 h
          exact ⟨text, Option.some.inj ht ▸ hs⟩
      | str s =>
        obtain ⟨n, -, rfl⟩ := Option.map_eq_some_iff.1 ht
        exact ⟨n, rfl⟩
      | _ => cases ht
  obtain ⟨text, ht⟩ := hok
  rw [Json.typeText, ht]

namespace Outline

open Declaration Entry

variable {α β : Type} {prefixes : List String} {fields : Fields} {kind : Entity.Kind}

theorem renderOptional_eq (h : (Entry.mk kind fields).Writable) {key : String}
    (hkey : key ∈ kind.typeKeys) :
    TypeExpr.renderOptional (fields.value key).type? = .ok (fields.value key).typeText :=
  renderOptional_type? (h.2 key hkey)

/-- The name of a writable entry is written as it is. -/
theorem nameText_eq (h : (Entry.mk kind fields).Writable) (hkind : kind.required? = some "name") :
    nameText (fields.value "name") = .ok (name fields) := by
  obtain ⟨s, hs⟩ := h.1 hkind
  rw [name, hs]
  rfl

/-- What is written for each object of a list. -/
theorem mapM_each {key : String} {f : Fields → α} {g : α → Except Fault β} {h : Fields → β}
    (hg : ∀ x ∈ fields.objects key, g (f x) = .ok (h x)) :
    (fields.each key f).mapM g = .ok (fields.each key h) := by
  rw [Fields.each, Fields.each]
  generalize fields.objects key = gs at hg ⊢
  induction gs with
  | nil => rfl
  | cons x rest ih =>
    rw [List.forall_mem_cons] at hg
    rw [List.map_cons, List.mapM_cons, hg.1, ih hg.2]
    rfl

/-! ## Members

A member is writable as soon as its own entry is; a method also needs its parameters to be, and so
the condition on it is about the entry and everything below. -/

theorem fieldLine_eq (h : (Entry.mk kind fields).Writable) (hkind : kind.required? = some "name")
    (type : String) :
    fieldLine (fields.value "name") type (fields.value "description").string =
      .ok (memberLine fields type) := by
  rw [fieldLine, nameText_eq h hkind]
  rfl

theorem propertyLine_eq (h : (Entry.mk .property fields).Writable) :
    propertyLine (.ofFields fields) = .ok (typedLine fields) := by
  simp only [propertyLine, typedFieldLine, Property.ofFields, Member.ofFields, ok_bind,
    renderOptional_eq h (show "type" ∈ _ by decide), fieldLine_eq h rfl]
  rfl

theorem parameterLine_eq (h : (Entry.mk .parameter fields).Writable) :
    parameterLine (.ofFields fields) = .ok (typedLine fields) := by
  simp only [parameterLine, typedFieldLine, Parameter.ofFields, Parameter.ofNamed, ok_bind,
    renderOptional_eq h (show "type" ∈ _ by decide), fieldLine_eq h rfl]
  rfl

theorem defineValueLine_eq (h : (Entry.mk .defineValue fields).Writable) :
    defineValueLine (DefineValue.ofFields fields).name (DefineValue.ofFields fields).description =
      .ok (valueLine fields) :=
  fieldLine_eq h rfl _

theorem attributeType_eq (h : (Entry.mk .attribute fields).Writable) :
    Declaration.attributeType (.ofFields fields) = .ok (attributeType fields) := by
  have hr := renderOptional_eq h (show "read_type" ∈ _ by decide)
  have hw := renderOptional_eq h (show "write_type" ∈ _ by decide)
  rw [Declaration.attributeType, attributeType]
  simp only [Attribute.ofFields]
  cases hrt : (fields.value "read_type").type? with
  | none =>
    cases hwt : (fields.value "write_type").type? with
    | none => rfl
    | some w => rwa [hwt] at hw
  | some r =>
    rw [hrt] at hr
    cases hwt : (fields.value "write_type").type? with
    | none => exact hr
    | some w =>
      rw [hwt] at hw
      show (r.render >>= _) = _
      rw [show r.render = _ from hr, ok_bind, show w.render = _ from hw]
      rfl

theorem attributeLine_eq (h : (Entry.mk .attribute fields).Writable) :
    Declaration.attributeLine (.ofFields fields) = .ok (attributeLine fields) := by
  rw [Declaration.attributeLine, attributeType_eq h, ok_bind]
  exact fieldLine_eq h rfl _

theorem signaturePart_eq (h : (Entry.mk .parameter fields).Writable) :
    Declaration.signaturePart prefixes (.ofFields fields) =
      .ok (signaturePart prefixes fields) := by
  simp only [Declaration.signaturePart, Parameter.ofFields, Parameter.ofNamed, ok_bind,
    renderOptional_eq h (show "type" ∈ _ by decide)]
  rfl

/-- What is written for each parameter of a method. -/
theorem mapM_parameters {g : Parameter → Except Fault β} {f : Fields → β}
    (h : (Entry.mk .method fields).Throughout Writable)
    (hg : ∀ x : Fields, (Entry.mk .parameter x).Writable → g (.ofFields x) = .ok (f x)) :
    ((Method.ofFields fields).parameters.getD []).mapM g = .ok (fields.each "parameters" f) := by
  rw [Method.ofFields, Fields.each?_getD]
  exact mapM_each fun x hx => hg x (h.of_mem_objects (by simp) hx).own

theorem methodLine_eq (h : (Entry.mk .method fields).Throughout Writable) :
    Declaration.methodLine prefixes (.ofFields fields) = .ok (methodLine prefixes fields) := by
  rw [Declaration.methodLine, signature, mapM_parameters h fun x => signaturePart_eq, ok_bind]
  exact fieldLine_eq h.own rfl _

/-! ## Blocks

A block needs the entry of its head and those of its members. -/

theorem block_eq {line : α → Except Fault String} {key : String} {f : Fields → α}
    {g : Fields → String} (h : (Entry.mk kind fields).Writable)
    (hkind : kind.required? = some "name")
    (hline : ∀ x ∈ fields.objects key, line (f x) = .ok (g x)) :
    block (fields.value "name") line (fields.each key f) =
      .ok (headed (name fields) (fields.each key g)) := by
  rw [block, classLine, nameText_eq h hkind, ok_bind, mapM_each hline]
  rfl

theorem conceptBlock_eq (h : (Entry.mk .concept fields).Throughout Writable) :
    conceptBlock (.ofFields fields) = .ok (structParagraph fields) := by
  rw [conceptBlock, Concept.ofFields, Fields.each?_getD]
  exact block_eq h.own rfl fun x hx => propertyLine_eq (h.of_mem_objects (by simp) hx).own

theorem prototypeBlock_eq (h : (Entry.mk .prototype fields).Throughout Writable) :
    prototypeBlock (.ofFields fields) = .ok (structParagraph fields) :=
  block_eq h.own rfl fun x hx => propertyLine_eq (h.of_mem_objects (by simp) hx).own

theorem eventBlock_eq (h : (Entry.mk .event fields).Throughout Writable) :
    eventBlock (.ofFields fields) = .ok (eventParagraph fields) :=
  block_eq h.own rfl fun x hx => parameterLine_eq (h.of_mem_objects (by simp) hx).own

/-- The block of a class is its paragraph in the outline. -/
theorem classBlock_eq (h : (Entry.mk .luaClass fields).Throughout Writable) :
    classBlock prefixes (.ofFields fields) = .ok (classParagraph prefixes fields) := by
  have hattributes : block (fields.value "name") Declaration.attributeLine
      (Class.ofFields fields).attributes = _ :=
    block_eq h.own rfl fun x hx => attributeLine_eq (h.of_mem_objects (by simp) hx).own
  have hmethods : (Class.ofFields fields).methods.mapM (Declaration.methodLine prefixes) = _ :=
    mapM_each fun x hx => methodLine_eq (h.of_mem_objects (by simp) hx)
  rw [classBlock]
  show (block (fields.value "name") _ _ >>= _) = _
  rw [hattributes, ok_bind, hmethods]
  rfl

theorem globalObjectLines_eq (h : (Entry.mk .globalObject fields).Writable) :
    globalObjectLines (.ofFields fields) = .ok (objectParagraph fields) := by
  simp only [globalObjectLines, GlobalObject.ofFields, ok_bind,
    renderOptional_eq h (show "type" ∈ _ by decide)]
  rfl

/-! ## Functions

The table of arguments is written from the same parameters as the lines, so nothing more is needed
for it. -/

theorem tableField_eq (h : (Entry.mk .parameter fields).Writable) :
    Declaration.tableField (.ofFields fields) = .ok (tableField fields) := by
  simp only [Declaration.tableField, Parameter.ofFields, Parameter.ofNamed, ok_bind,
    renderOptional_eq h (show "type" ∈ _ by decide)]
  rfl

theorem parameterParamLine_eq (h : (Entry.mk .parameter fields).Writable) :
    parameterParamLine (.ofFields fields) = .ok (paramLine fields) := by
  simp only [parameterParamLine, Parameter.ofFields, Parameter.ofNamed, ok_bind,
    renderOptional_eq h (show "type" ∈ _ by decide)]
  rfl

theorem returnedLine_eq (h : (Entry.mk .returnValue fields).Writable) :
    returnedLine (.ofReturned fields) = .ok (returnLine fields) := by
  simp only [returnedLine, Parameter.ofReturned, Parameter.ofNamed, ok_bind,
    renderOptional_eq h (show "type" ∈ _ by decide)]
  rfl

theorem variadicLines_eq (h : (Entry.mk .method fields).Throughout Writable) :
    variadicLines (Method.ofFields fields).variadicParameter =
      .ok ((variadic fields).map variadicLine) := by
  show variadicLines ((fields.value "variadic_parameter").object?.map .ofFields) = _
  rw [variadic]
  cases hv : (fields.value "variadic_parameter").object? with
  | none => rfl
  | some g =>
    have hg : (Entry.mk .variadicParameter g).Writable :=
      (h.of_value_eq (by simp) (Json.object?_eq_some_iff.1 hv)).own
    simp only [Option.map_some, variadicLines, VariadicParameter.ofFields, ok_bind,
      renderOptional_eq hg (show "type" ∈ _ by decide)]
    rfl

/-- The parameter lines of a function are those of the outline. -/
theorem paramLines_eq (h : (Entry.mk .method fields).Throughout Writable) :
    paramLines (.ofFields fields) = .ok (arguments fields).1 := by
  have hformat : (Method.ofFields fields).format = .ofJson (fields.value "format") := rfl
  rw [paramLines, arguments, hformat]
  dsimp only
  split
  · rw [mapM_parameters h fun x => tableField_eq]
    rfl
  · rw [mapM_parameters h fun x => parameterParamLine_eq, ok_bind, variadicLines_eq h]
    rfl

theorem argumentNames_eq (h : (Entry.mk .method fields).Throughout Writable) :
    argumentNames (.ofFields fields) = .ok (arguments fields).2 := by
  have hformat : (Method.ofFields fields).format = .ofJson (fields.value "format") := rfl
  rw [argumentNames, arguments, hformat]
  split
  · rfl
  · rw [mapM_parameters h fun x hx => nameText_eq hx rfl, ok_bind, variadic]
    show Except.ok (_ ++ if (Option.map _ _).isSome = true then _ else _) = _
    cases (fields.value "variadic_parameter").object? <;> rfl

/-- The lines of a function are its paragraph in the outline. -/
theorem functionLines_eq (h : (Entry.mk .method fields).Throughout Writable) :
    functionLines (.ofFields fields) = .ok (functionParagraph fields) := by
  have hreturns : returnLines (.ofFields fields) =
      .ok (fields.each "return_values" returnLine) := by
    rw [returnLines, Method.ofFields, Fields.each?_getD]
    exact mapM_each fun x hx => returnedLine_eq (h.of_mem_objects (by simp) hx).own
  rw [functionLines, paramLines_eq h, hreturns, argumentNames_eq h]
  rfl

end Outline
end ApiReference
