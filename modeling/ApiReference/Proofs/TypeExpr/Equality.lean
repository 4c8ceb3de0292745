import ApiReference.Entity.Record
import ApiReference.Proofs.Json.Equality
import ApiReference.Proofs.Text.InStep
import ApiReference.Proofs.TypeExpr.Nodes

/-!
# Texts of types that are the same

Types are compared part by part, and values in them as numbers, so an array of `1` is the same as an
array of `1.0` and of `true`. What is written depends on the kind of a value: a whole number has one
text, however it is given, but a boolean is written as a word.

So types that are the same have the same text exactly if the same nodes of them hold booleans
(`render_eq_iff_booleans_eq`). The argument has three steps.

* **What can be the same.** The comparison runs over records, in which the form of a node is a field
  like any other. `alike_of_same` turns it into a comparison of types: two types of the same form,
  the same in each part. The one exception is a bare object, whose record could be that of a form; a
  type that is read has none (`WellFormed.isObject_leaf`).
* **One node.** Two such types write the same around their parts, apart from booleans
  (`Alike.headsInStep`). Texts that agree apart from booleans are in step: neither is a proper
  beginning of the other, and they are equal exactly if the booleans are in the same places. This is
  `InStep` of `ApiReference.Proofs.Text.InStep`.
* **All nodes.** The rest is induction along the walk (`sameUpTo_of_same`), in which being in step
  is carried over separators and closing brackets.

Being in step, and not only being equal or not, is what has to be shown of the parts: knowing that
two parts have different texts would not tell that the texts around them differ.

## What is here

* `Alike`: the ways in which two types can be the same.
* `booleans`: which nodes of a type hold booleans.
* `render_eq_iff_booleans_eq`: when types that are the same have the same text.
* `numberLiteral_flagLiteral`: literal types that are the same and have different texts.
-/

set_option autoImplicit false

namespace ApiReference

namespace TypeExpr

/-! ## Types that are the same

`Same` compares the records of two types, as documents are compared. `Alike` says the same thing in
terms of the types, with one rule for each form, so that later proofs go by cases on it and never
see a record. -/

/-- The types are the same, part by part. -/
abbrev Same (t u : TypeExpr) : Prop :=
  (Entity.type t).same (.type u) = true

/-- **The ways in which two types can be the same.** -/
inductive Alike : TypeExpr → TypeExpr → Prop where
  | name (n : String) : Alike (.name n) (.name n)
  | array {t u : TypeExpr} (h : Same t u) : Alike (.array t) (.array u)
  | dictionary {key value key' value' : TypeExpr} (hkey : Same key key')
      (hvalue : Same value value') : Alike (.dictionary key value) (.dictionary key' value')
  | tuple {ts us : List TypeExpr} (h : List.Forall₂ Same ts us) : Alike (.tuple ts) (.tuple us)
  | union {ts us : List TypeExpr} (h : List.Forall₂ Same ts us) (fullFormat : Bool) :
      Alike (.union ts fullFormat) (.union us fullFormat)
  | literal {v w : Json} (h : v.same w = true) (description : Option String) :
      Alike (.literal v description) (.literal w description)
  | aliased {t u : TypeExpr} (h : Same t u) (description : Option String) :
      Alike (.alias t description) (.alias u description)
  | leaf {v w : Json} (h : v.same w = true) : Alike (.leaf v) (.leaf w)

/-- Lists of records are compared member by member, and so are the types. -/
theorem forall₂_of_sameItems {ts us : List TypeExpr}
    (h : Json.sameItems (recordAll ts) (recordAll us) = true) : List.Forall₂ Same ts us := by
  induction ts generalizing us with
  | nil =>
    cases us with
    | nil => exact .nil
    | cons u us => cases h
  | cons t ts ih =>
    cases us with
    | nil => cases h
    | cons u us =>
      rw [recordAll, recordAll, Json.sameItems, Bool.and_eq_true] at h
      exact .cons h.1 (ih h.2)

theorem optionalText_inj {d e : Option String}
    (h : (optionalText d).same (optionalText e) = true) : d = e := by
  cases d with
  | none =>
    cases e with
    | none => rfl
    | some e => cases h
  | some d =>
    cases e with
    | none => cases h
    | some e => exact congrArg some (eq_of_beq h)

/-- Types are the same in one of the ways, unless a bare value is an object, which is a record like
those of the forms. -/
theorem alike_of_same {t u : TypeExpr} (ht : ∀ v, t = .leaf v → v.isObject = false)
    (hu : ∀ v, u = .leaf v → v.isObject = false) (h : Same t u) : Alike t u := by
  have hobject : t.record.isObject = u.record.isObject := Json.isObject_eq_of_same h
  have h : t.record.same u.record = true := h
  -- the records of different forms differ in their first field
  cases t with
  | leaf v =>
    cases u with
    | leaf w => exact .leaf h
    | _ => cases (ht v rfl).symm.trans hobject
  | name n =>
    cases u with
    | leaf w => cases hobject.trans (hu w rfl)
    | name m =>
      have hname : n = m := by
        simpa [record, Json.same, Json.sameFields, Fields.get?] using h
      exact hname ▸ .name n
    | _ => cases h
  | array t =>
    cases u with
    | leaf w => cases hobject.trans (hu w rfl)
    | array u =>
      have helement : t.record.same u.record = true := by
        simpa [record, Json.same, Json.sameFields, Fields.get?] using h
      exact .array helement
    | _ => cases h
  | dictionary key value =>
    cases u with
    | leaf w => cases hobject.trans (hu w rfl)
    | dictionary key' value' =>
      have hparts : key.record.same key'.record = true ∧
          value.record.same value'.record = true := by
        simpa [record, Json.same, Json.sameFields, Fields.get?] using h
      exact .dictionary hparts.1 hparts.2
    | _ => cases h
  | tuple ts =>
    cases u with
    | leaf w => cases hobject.trans (hu w rfl)
    | tuple us =>
      have hitems : Json.sameItems (recordAll ts) (recordAll us) = true := by
        simpa [record, Json.same, Json.sameFields, Fields.get?] using h
      exact .tuple (forall₂_of_sameItems hitems)
    | _ => cases h
  | union ts f =>
    cases u with
    | leaf w => cases hobject.trans (hu w rfl)
    | union us g =>
      have hparts : Json.sameItems (recordAll ts) (recordAll us) = true ∧
          (Json.bool f).sameNumber (.bool g) = true := by
        simpa [record, Json.same, Json.sameFields, Fields.get?] using h
      exact Json.bool_eq_of_sameNumber hparts.2 ▸ .union (forall₂_of_sameItems hparts.1) f
    | _ => cases h
  | literal v d =>
    cases u with
    | leaf w => cases hobject.trans (hu w rfl)
    | literal w e =>
      have hparts : v.same w = true ∧ (optionalText d).same (optionalText e) = true := by
        simpa [record, Json.same, Json.sameFields, Fields.get?] using h
      exact optionalText_inj hparts.2 ▸ .literal hparts.1 d
    | _ => cases h
  | «alias» t d =>
    cases u with
    | leaf w => cases hobject.trans (hu w rfl)
    | «alias» u e =>
      have hparts : t.record.same u.record = true ∧
          (optionalText d).same (optionalText e) = true := by
        simpa [record, Json.same, Json.sameFields, Fields.get?] using h
      exact optionalText_inj hparts.2 ▸ .aliased hparts.1 d
    | _ => cases h

theorem Alike.forall₂_parts {t u : TypeExpr} (h : Alike t u) :
    List.Forall₂ Same t.parts u.parts := by
  cases h with
  | array h => exact .cons h .nil
  | dictionary hkey hvalue => exact .cons hkey (.cons hvalue .nil)
  | tuple h => exact h
  | union h => exact h
  | aliased h => exact .cons h .nil
  | _ => exact .nil

/-- Whether a node holds a boolean, as a bare value or as the value of a literal. -/
def isBoolean : TypeExpr → Bool
  | .leaf value => value.isBoolean
  | .literal value _ => value.isBoolean
  | _ => false

/-- Which nodes of a type hold booleans, in order. -/
def booleans (t : TypeExpr) : List Bool :=
  (walk.nodes t).map isBoolean

theorem booleans_eq (t : TypeExpr) : t.booleans = t.isBoolean :: t.parts.flatMap booleans := by
  rw [booleans, walk.nodes_eq, List.map_cons, List.map_flatMap]
  rfl

/-! ## Values that are the same

Two numbers are the same if they stand for one number, and then they have one text. A boolean counts
as `0` or `1` and is the same as these numbers; its text is another one, and the two differ in their
first character. -/

/-- A whole number is written without a point, however it is given. -/
theorem renderLeaf_of_whole {v : Json} {n : Int} (hv : v.isBoolean = false)
    (h : v.whole? = some n) : renderLeaf v = .ok (toString n) := by
  cases v with
  | int m => rw [renderLeaf, Option.some.inj (show some m = some n from h)]
  | float x =>
    rw [Json.whole?, Option.ite_none_right_eq_some, Option.some.injEq] at h
    rw [renderLeaf, if_pos h.1, h.2]
  | bool b => cases hv
  | _ => cases h

/-- Numbers that are the same have the same text. -/
theorem renderLeaf_eq_of_sameNumber {v w : Json} (hv : v.isBoolean = false)
    (hw : w.isBoolean = false) (h : v.sameNumber w = true) :
    ∃ text, renderLeaf v = .ok text ∧ renderLeaf w = .ok text := by
  have hwhole : v.whole? = w.whole? := Json.whole?_eq_of_sameNumber h
  cases hn : v.whole? with
  | some n => exact ⟨_, renderLeaf_of_whole hv hn, renderLeaf_of_whole hw (hwhole ▸ hn)⟩
  | none =>
    obtain rfl := Json.eq_of_sameNumber_of_not_whole h hn
    cases v with
    | float x => exact ⟨_, rfl, rfl⟩
    | bool b => cases hn
    | int n => cases hn
    | _ => cases h

/-- A boolean is written as a word, the number that it counts as with a digit. -/
theorem inStep_renderLeaf_bool {b : Bool} {w : Json} (hw : w.isBoolean = false)
    (h : w.whole? = (Json.bool b).whole?) :
    ∃ text, renderLeaf w = .ok text ∧
      InStep [true] [false] (if b then "true" else "false") text := by
  refine ⟨_, renderLeaf_of_whole hw h, inStep_of_clash ?_⟩
  cases b with
  | false => exact clash_of_ne (by decide) _ _
  | true => exact clash_of_ne (by decide) _ _

/-- Numbers and booleans that are the same have texts in step. -/
theorem inStep_renderLeaf {v w : Json} (h : v.sameNumber w = true) :
    ∃ v' w', renderLeaf v = .ok v' ∧ renderLeaf w = .ok w' ∧
      InStep [v.isBoolean] [w.isBoolean] v' w' := by
  have hwhole : v.whole? = w.whole? := Json.whole?_eq_of_sameNumber h
  cases hv : v.isBoolean with
  | true =>
    obtain ⟨b, rfl⟩ := Json.isBoolean_eq_true_iff.1 hv
    cases hw : w.isBoolean with
    | true =>
      obtain ⟨c, rfl⟩ := Json.isBoolean_eq_true_iff.1 hw
      obtain rfl := Json.bool_eq_of_sameNumber h
      exact ⟨_, _, rfl, rfl, .refl _ _⟩
    | false =>
      obtain ⟨text, htext, hstep⟩ := inStep_renderLeaf_bool hw hwhole.symm
      exact ⟨_, text, rfl, htext, hstep⟩
  | false =>
    cases hw : w.isBoolean with
    | true =>
      obtain ⟨c, rfl⟩ := Json.isBoolean_eq_true_iff.1 hw
      obtain ⟨text, htext, hstep⟩ := inStep_renderLeaf_bool hv hwhole
      exact ⟨text, _, htext, rfl, hstep.symm⟩
    | false =>
      obtain ⟨text, hvtext, hwtext⟩ := renderLeaf_eq_of_sameNumber hv hw h
      exact ⟨text, text, hvtext, hwtext, .refl _ text⟩

theorem inStep_describe (d : Option String) :
    InStep [true] [false] (describe "boolean" d) (describe "number" d) := by
  have hkinds : InStep [true] [false] "boolean" "number" :=
    inStep_of_clash (clash_of_ne (by decide) _ _)
  cases d with
  | none => exact hkinds
  | some s => exact (hkinds.append_text " ").append_text s

/-- Literals of values that are the same have texts in step. Only the word for the kind depends on
the value; a string is shown as it is. -/
theorem inStep_renderLiteral {v w : Json} (h : v.same w = true) (d : Option String) :
    InStep [v.isBoolean] [w.isBoolean] (renderLiteral v d) (renderLiteral w d) := by
  have hnumber {v : Json} (hv : v.isNumber = true) :
      renderLiteral v d = describe (if v.isBoolean then "boolean" else "number") d := by
    cases v <;> first | rfl | cases hv
  cases Json.same_iff_alike.1 h with
  | number hv hw h =>
    rw [hnumber hv, hnumber hw]
    cases v.isBoolean <;> cases w.isBoolean
    · exact .refl _ _
    · exact (inStep_describe d).symm
    · exact inStep_describe d
    · exact .refl _ _
  | _ => exact .refl _ _

/-! ## Rendering what is the same -/

/-- The first nodes of two types write the same, apart from booleans, or fail with one message. -/
inductive HeadsInStep (t u : TypeExpr) : Prop where
  | ok {v w separator closing : String} (ht : t.frame = .ok ⟨v, separator, closing⟩)
      (hu : u.frame = .ok ⟨w, separator, closing⟩) (h : InStep [t.isBoolean] [u.isBoolean] v w)
  | error {f g : Fault} (ht : t.frame = .error f) (hu : u.frame = .error g)
      (h : f.message? = g.message?)

theorem Alike.headsInStep {t u : TypeExpr} (h : Alike t u) : HeadsInStep t u := by
  cases h with
  | literal h d => exact .ok rfl rfl (inStep_renderLiteral h d)
  | leaf h =>
    cases Json.same_iff_alike.1 h with
    | str s => exact .ok rfl rfl (.refl _ s)
    | number hv hw h =>
      obtain ⟨v', w', hv', hw', hstep⟩ := inStep_renderLeaf h
      exact .ok (by rw [frame, hv']; rfl) (by rw [frame, hw']; rfl) hstep
    | _ => exact .error rfl rfl rfl
  | _ => exact .ok rfl rfl (.refl _ _)

theorem render_eq_of_frame {t : TypeExpr} {opening separator closing : String}
    (h : t.frame = .ok ⟨opening, separator, closing⟩) :
    t.render = (separator.intercalate <$> t.parts.mapM render) >>= fun inside =>
      pure (opening ++ inside ++ closing) := by
  rw [render_eq_frame, h, ok_bind]
  cases t.parts.mapM render <;> rfl

theorem HeadsInStep.sameUpTo {t u : TypeExpr} (h : HeadsInStep t u)
    (hparts : List.Forall₂ (fun s r => SameUpTo s.booleans r.booleans s.render r.render)
      t.parts u.parts) :
    SameUpTo t.booleans u.booleans t.render u.render := by
  cases h with
  | error ht hu h =>
    rw [render_eq_frame t, render_eq_frame u, ht, hu]
    exact .error h
  | @ok v w separator closing ht hu h =>
    rw [render_eq_of_frame ht, render_eq_of_frame hu, booleans_eq, booleans_eq]
    exact .around h (.mapM hparts separator) closing

/-- No bare value of a type that is read is an object. -/
theorem WellFormed.isObject_leaf {pos : Position} {t : TypeExpr} (h : WellFormed pos t) :
    ∀ v, t = .leaf v → v.isObject = false := by
  rintro v rfl
  cases h with
  | leaf hv => exact Position.isObject_of_keeps hv

/-- **Types that are the same are rendered alike.** -/
theorem sameUpTo_of_same {pos pos' : Position} {t u : TypeExpr} (ht : WellFormed pos t)
    (hu : WellFormed pos' u) (h : Same t u) :
    SameUpTo t.booleans u.booleans t.render u.render := by
  induction t using walk.induction generalizing pos pos' u with
  | step t ih =>
    have halike := alike_of_same ht.isObject_leaf hu.isObject_leaf h
    have hright : List.Forall₂ (fun s r => (∃ inner, WellFormed inner r) ∧ Same s r)
        t.parts u.parts :=
      ((List.forall₂_and_left _ _).2 ⟨fun r hr => hu.part hr, halike.forall₂_parts.flip⟩).flip
    have hboth := (List.forall₂_and_left _ _).2
      ⟨fun s hs => And.intro (ht.part hs) (@ih s hs), hright⟩
    refine halike.headsInStep.sameUpTo (hboth.imp ?_)
    rintro s r ⟨⟨⟨inner, hs⟩, ih⟩, ⟨inner', hr⟩, hsame⟩
    exact ih hs hr hsame

/-- **Types that are read and are the same have the same text exactly if the same nodes of them hold
booleans**, and one of them has a text exactly if the other has. -/
theorem render_eq_iff_booleans_eq {a b : Json} {path path' : Path} {t u : TypeExpr}
    (ht : (read a path).outcome = .ok t) (hu : (read b path').outcome = .ok u)
    (h : (Entity.type t).same (.type u) = true) :
    ((∃ text, t.render = .ok text) ↔ ∃ text, u.render = .ok text) ∧
      ∀ text other, t.render = .ok text → u.render = .ok other →
        (text = other ↔ t.booleans = u.booleans) := by
  have hsame := sameUpTo_of_same (wellFormed_of_spells (read_outcome_eq_ok_iff.1 ht))
    (wellFormed_of_spells (read_outcome_eq_ok_iff.1 hu)) h
  generalize t.render = x, u.render = y at hsame
  cases hsame with
  | error hf => exact ⟨⟨nofun, nofun⟩, nofun⟩
  | ok hstep =>
    refine ⟨iff_of_true ⟨_, rfl⟩ ⟨_, rfl⟩, ?_⟩
    rintro text other ⟨⟩ ⟨⟩
    exact hstep.eq_iff

/-- A tuple of a whole number and a boolean. -/
def wholeAndFlag : Json :=
  .obj [("complex_type", .str "tuple"), ("values", .arr [.int 1, .bool true])]

/-- A tuple of the same numbers, the first with a point. -/
def pointAndWhole : Json :=
  .obj
    [("complex_type", .str "tuple"),
     ("values", .arr [.float (.finite false (twoPow 52) (-52)), .int 1])]

theorem render_eq_iff_booleans_eq_tuple :
    ∃ t u, (read wholeAndFlag "").outcome = .ok t ∧ (read pointAndWhole "").outcome = .ok u ∧
      (Entity.type t).same (.type u) = true ∧ t.render = .ok "tuple<1, true>" ∧
      u.render = .ok "tuple<1, 1>" ∧ t.booleans ≠ u.booleans := by
  have hwhole : (read wholeAndFlag "").outcome =
      .ok (.tuple [.leaf (.int 1), .leaf (.bool true)]) := rfl
  have hpoint : (read pointAndWhole "").outcome =
      .ok (.tuple [.leaf (.float (.finite false (twoPow 52) (-52))), .leaf (.int 1)]) := rfl
  refine ⟨_, _, hwhole, hpoint, rfl, rfl, rfl, ?_⟩
  rw [Ne, ← (render_eq_iff_booleans_eq hwhole hpoint rfl).2 _ _ rfl rfl]
  decide

/-- A literal type that fixes a number. -/
def numberLiteral : Json :=
  .obj [("complex_type", .str "literal"), ("value", .int 1)]

/-- A literal type that fixes a boolean. -/
def flagLiteral : Json :=
  .obj [("complex_type", .str "literal"), ("value", .bool true)]

/-- **Types that are the same need not have the same text.** -/
theorem numberLiteral_flagLiteral :
    (read numberLiteral "").outcome = .ok (.literal (.int 1) none) ∧
      (read flagLiteral "").outcome = .ok (.literal (.bool true) none) ∧
      (Entity.type (.literal (.int 1) none)).same (.type (.literal (.bool true) none)) = true ∧
      (TypeExpr.literal (.int 1) none).render = .ok "number" ∧
      (TypeExpr.literal (.bool true) none).render = .ok "boolean" ∧ "number" ≠ "boolean" :=
  ⟨rfl, rfl, rfl, rfl, rfl, by decide⟩

end TypeExpr
end ApiReference
