import ApiReference.Proofs.TypeExpr.NormalForm
import Mathlib.Logic.Relation

/-!
# Simplifying a type step by step

The normal form undoes several differences at once, at all depths. Here each of them is undone on
its own, anywhere in a type: `Simplifies` takes away one alias, names one bare string, puts the
options of one inner union in its place, drops one union of a single option, or forgets one time
that the options are described one by one.

The normal form is a function, and a proof about it would have to follow its recursion. The steps
are a relation, with one rule for each difference and one for each way down, and what is to be shown
of them is shown rule by rule:

* **No step changes the text** of a type, and where there is none, none changes what keeps the type
  from having one (`Simplifies.render_eq`).
* **No step changes the normal form** (`Simplifies.normalize_eq`).
* **Steps lead to the normal form** from a type that is read (`WellFormed.reaches_normalize`), and
  nothing else that they lead to is normal.

So the order of the steps does not matter (`render_simplified`). Note what follows from the second
point: the relation has normal forms that are unique, without a proof that two steps from one type
can be joined again. The function `normalize` is an invariant that tells them.

An inner union must have options to give way to them. A union without options has the empty text,
and taking it away from among others would take away a bar as well; types that are read have no such
union, but `Simplifies` is about all types, so the rule says it.
-/

set_option autoImplicit false

namespace ApiReference
namespace TypeExpr

open Relation (ReflTransGen)

/-- One thing in a type is made simpler. -/
inductive Simplifies : TypeExpr → TypeExpr → Prop where
  /-- An alias gives way to what it stands for. -/
  | unalias (inner : TypeExpr) (description : Option String) :
      Simplifies (.alias inner description) inner
  /-- A bare string is the name that it spells. -/
  | bare (s : String) : Simplifies (.leaf (.str s)) (.name s)
  /-- A union inside a union gives way to its options. -/
  | splice (before inner after : List TypeExpr) (fullFormat innerFormat : Bool)
      (hne : inner ≠ []) :
      Simplifies (.union (before ++ .union inner innerFormat :: after) fullFormat)
        (.union (before ++ inner ++ after) fullFormat)
  /-- The union of a single option is that option. -/
  | single (t : TypeExpr) (fullFormat : Bool) : Simplifies (.union [t] fullFormat) t
  | format (options : List TypeExpr) : Simplifies (.union options true) (.union options false)
  | array {t u : TypeExpr} (h : Simplifies t u) : Simplifies (.array t) (.array u)
  | key {t u : TypeExpr} (h : Simplifies t u) (value : TypeExpr) :
      Simplifies (.dictionary t value) (.dictionary u value)
  | value (key : TypeExpr) {t u : TypeExpr} (h : Simplifies t u) :
      Simplifies (.dictionary key t) (.dictionary key u)
  | element (before : List TypeExpr) {t u : TypeExpr} (h : Simplifies t u)
      (after : List TypeExpr) :
      Simplifies (.tuple (before ++ t :: after)) (.tuple (before ++ u :: after))
  | option (before : List TypeExpr) {t u : TypeExpr} (h : Simplifies t u)
      (after : List TypeExpr) (fullFormat : Bool) :
      Simplifies (.union (before ++ t :: after) fullFormat)
        (.union (before ++ u :: after) fullFormat)

/-! ## Steps keep the text

Most rules replace a type by one with the same text, at some place among others. Only `splice`
changes the number of options, and for it the texts of unions are taken apart at the place of the
inner union. -/

/-- Options with the same text may stand for each other in front of further options. -/
theorem render_ofAlternatives_append_right {ts us : List TypeExpr} (hts : ts ≠ []) (hus : us ≠ [])
    (h : (ofAlternatives ts).render = (ofAlternatives us).render) (after : List TypeExpr) :
    (ofAlternatives (ts ++ after)).render = (ofAlternatives (us ++ after)).render := by
  by_cases hafter : after = []
  · rw [hafter, List.append_nil, List.append_nil, h]
  · rw [render_ofAlternatives_append hts hafter, render_ofAlternatives_append hus hafter, h]

/-- Options with the same text may stand for each other after further options. -/
theorem render_ofAlternatives_append_left {ts us : List TypeExpr} (hts : ts ≠ []) (hus : us ≠ [])
    (h : (ofAlternatives ts).render = (ofAlternatives us).render) (before : List TypeExpr) :
    (ofAlternatives (before ++ ts)).render = (ofAlternatives (before ++ us)).render := by
  by_cases hbefore : before = []
  · rw [hbefore, List.nil_append, List.nil_append, h]
  · rw [render_ofAlternatives_append hbefore hts, render_ofAlternatives_append hbefore hus, h]

/-- A type among others may stand for one with the same text. -/
theorem mapM_render_replace {t u : TypeExpr} (h : t.render = u.render)
    (before after : List TypeExpr) :
    (before ++ t :: after).mapM render = (before ++ u :: after).mapM render := by
  rw [List.mapM_append, List.mapM_append, List.mapM_cons, List.mapM_cons, h]

/-- **A step keeps the text**, and a type without one is kept from it by the same bare value. -/
theorem Simplifies.render_eq {t u : TypeExpr} (h : Simplifies t u) : t.render = u.render := by
  induction h with
  | unalias inner description => rfl
  | bare s => rfl
  | splice before inner after fullFormat innerFormat hne =>
    have hinner : (ofAlternatives [TypeExpr.union inner innerFormat]).render =
        (ofAlternatives inner).render := render_union inner innerFormat
    have hafter := render_ofAlternatives_append_right (List.cons_ne_nil _ _) hne hinner after
    rw [render_union, render_union, List.append_assoc]
    exact render_ofAlternatives_append_left (List.cons_ne_nil _ _)
      (List.append_ne_nil_of_left_ne_nil hne after) hafter before
  | single t fullFormat => exact render_union [t] fullFormat
  | format options => rw [render_union, render_union]
  | array h ih => rw [render, render, ih]
  | key h value ih => rw [render, render, ih]
  | value key h ih => rw [render, render, ih]
  | element before h after ih =>
    rw [render, render, renderAll_eq_mapM, renderAll_eq_mapM, mapM_render_replace ih]
  | option before h after fullFormat ih =>
    rw [render, render, renderAll_eq_mapM, renderAll_eq_mapM, mapM_render_replace ih]

/-! ## Steps keep the normal form -/

/-- **A step keeps the normal form.** -/
theorem Simplifies.normalize_eq {t u : TypeExpr} (h : Simplifies t u) :
    t.normalize = u.normalize := by
  induction h with
  | unalias inner description => rfl
  | bare s => rfl
  | splice before inner after fullFormat innerFormat hne =>
    rw [normalize_union, normalize_union, List.flatMap_append, List.flatMap_cons,
      alternatives_normalize_union, List.flatMap_append, List.flatMap_append, List.append_assoc]
  | single t fullFormat =>
    rw [normalize_union, List.flatMap_singleton, ofAlternatives_alternatives]
  | format options => rw [normalize_union, normalize_union]
  | array h ih => rw [normalize, normalize, ih]
  | key h value ih => rw [normalize, normalize, ih]
  | value key h ih => rw [normalize, normalize, ih]
  | element before h after ih =>
    rw [normalize_tuple, normalize_tuple, List.map_append, List.map_append, List.map_cons,
      List.map_cons, ih]
  | option before h after fullFormat ih =>
    rw [normalize_union, normalize_union, List.flatMap_append, List.flatMap_append,
      List.flatMap_cons, List.flatMap_cons, ih]

/-! ## Normal types

A normal type is told without the normal form, by what may not be found at any of its nodes. -/

/-- There is nothing to simplify at the node itself. -/
def IsSettled : TypeExpr → Prop
  | .alias _ _ => False
  | .leaf (.str _) => False
  | .union options fullFormat =>
    options.length ≠ 1 ∧ (∀ t ∈ options, t.isUnion = false) ∧ fullFormat = false
  | _ => True

/-- There is nothing to simplify anywhere in the type: it has no alias, no bare string, no union of
a single option, no union directly inside a union, and none whose options are described one by
one. -/
def IsNormal (t : TypeExpr) : Prop :=
  ∀ s ∈ walk.nodes t, s.IsSettled

theorem isNormal_iff {t : TypeExpr} :
    t.IsNormal ↔ t.IsSettled ∧ ∀ s ∈ t.parts, s.IsNormal :=
  walk.forall_mem_nodes_iff

theorem IsNormal.of_mem_alternatives {s t : TypeExpr} (h : t.IsNormal)
    (hs : s ∈ t.alternatives) : s.IsNormal := by
  cases t with
  | union options fullFormat => exact (isNormal_iff.1 h).2 s hs
  | _ => exact List.mem_singleton.1 hs ▸ h

theorem isNormal_ofAlternatives {ts : List TypeExpr} (h : ∀ t ∈ ts, t.IsNormal)
    (hunion : ∀ t ∈ ts, t.isUnion = false) : (ofAlternatives ts).IsNormal := by
  unfold ofAlternatives
  split
  · next t => exact h t List.mem_cons_self
  · next hlength =>
    refine isNormal_iff.2 ⟨⟨fun hone => ?_, hunion, rfl⟩, h⟩
    obtain ⟨t, ht⟩ := List.length_eq_one_iff.1 hone
    exact hlength t ht

/-- **A normal form is normal.** -/
theorem isNormal_normalize (t : TypeExpr) : t.normalize.IsNormal := by
  induction t using walk.induction with
  | step t ih =>
    have ih : ∀ s ∈ t.parts, s.normalize.IsNormal := ih
    cases t with
    | array element =>
      exact isNormal_iff.2 ⟨trivial, List.forall_mem_singleton.2 (ih element List.mem_cons_self)⟩
    | dictionary key value =>
      refine isNormal_iff.2 ⟨trivial, List.forall_mem_cons.2 ⟨ih key List.mem_cons_self, ?_⟩⟩
      exact List.forall_mem_singleton.2 (ih value (List.mem_cons_of_mem key List.mem_cons_self))
    | tuple elements =>
      rw [normalize_tuple]
      exact isNormal_iff.2 ⟨trivial, List.forall_mem_map.2 ih⟩
    | union options fullFormat =>
      rw [normalize_union]
      refine isNormal_ofAlternatives (fun s hs => ?_) fun s hs => ?_
      · obtain ⟨t, ht, hs⟩ := List.mem_flatMap.1 hs
        exact (ih t ht).of_mem_alternatives hs
      · obtain ⟨t, ht, hs⟩ := List.mem_flatMap.1 hs
        exact isUnion_of_mem_alternatives t s hs
    | «alias» inner description => exact ih inner List.mem_cons_self
    | leaf value => cases value <;> exact isNormal_iff.2 ⟨trivial, nofun⟩
    | _ => exact isNormal_iff.2 ⟨trivial, nofun⟩

/-- **A normal type is its own normal form.** -/
theorem IsNormal.normalize_eq {t : TypeExpr} (h : t.IsNormal) : t.normalize = t := by
  induction t using walk.induction with
  | step t ih =>
    obtain ⟨hsettled, hparts⟩ := isNormal_iff.1 h
    have ih : ∀ s ∈ t.parts, s.normalize = s := fun s hs => ih s hs (hparts s hs)
    cases t with
    | array element => rw [normalize, ih element List.mem_cons_self]
    | dictionary key value =>
      rw [normalize, ih key List.mem_cons_self,
        ih value (List.mem_cons_of_mem key List.mem_cons_self)]
    | tuple elements =>
      have helements : elements.map normalize = elements :=
        (List.map_congr_left ih).trans (List.map_id elements)
      rw [normalize_tuple, helements]
    | union options fullFormat =>
      obtain ⟨hlength, hunion, rfl⟩ := hsettled
      have hoptions : options.flatMap (fun t => t.normalize.alternatives) = options := by
        -- an option is its own normal form and no union, so it is spliced in as itself
        have hown : ∀ t ∈ options, t.normalize.alternatives = [t] := fun t ht => by
          rw [ih t ht, alternatives_of_not_isUnion (hunion t ht)]
        rw [List.flatMap_congr hown, List.flatMap_singleton']
      rw [normalize_union, hoptions]
      unfold ofAlternatives
      split
      · exact absurd rfl hlength
      · rfl
    | «alias» inner description => cases hsettled
    | leaf value =>
      cases value with
      | str s => cases hsettled
      | _ => rfl
    | _ => rfl

/-! ## Steps lead to the normal form

The walk to the normal form simplifies the parts of a type first and the type itself last. Parts are
simplified one after another, in a list of which some members are already done; this is why the
lemmas on lists have a part `before` that stays. -/

section Reach

variable {f : List TypeExpr → TypeExpr} {φ : TypeExpr → TypeExpr}

/-- Where a step for one member of a list is a step of the whole, all members can be simplified, one
after another. -/
theorem reaches_map (hf : ∀ before {t u}, Simplifies t u → ∀ after,
      Simplifies (f (before ++ t :: after)) (f (before ++ u :: after)))
    {ts : List TypeExpr} (h : ∀ t ∈ ts, ReflTransGen Simplifies t (φ t))
    (before : List TypeExpr) :
    ReflTransGen Simplifies (f (before ++ ts)) (f (before ++ ts.map φ)) := by
  induction ts generalizing before with
  | nil => exact .refl
  | cons t rest ih =>
    rw [List.forall_mem_cons] at h
    have hfirst : ReflTransGen Simplifies (f (before ++ t :: rest)) (f (before ++ φ t :: rest)) :=
      h.1.lift (fun s => f (before ++ s :: rest)) fun _ _ hs => hf before hs rest
    have hrest := ih h.2 (before ++ [φ t])
    rw [List.append_assoc, List.append_assoc] at hrest
    exact hfirst.trans hrest

/-- All unions among the options of a union can give way to their own options. -/
theorem reaches_flatMap_alternatives {ts : List TypeExpr} (h : ∀ t ∈ ts, t.alternatives ≠ [])
    (before : List TypeExpr) (fullFormat : Bool) :
    ReflTransGen Simplifies (.union (before ++ ts) fullFormat)
      (.union (before ++ ts.flatMap alternatives) fullFormat) := by
  induction ts generalizing before with
  | nil => exact .refl
  | cons t rest ih =>
    rw [List.forall_mem_cons] at h
    have hfirst : ReflTransGen Simplifies (.union (before ++ t :: rest) fullFormat)
        (.union (before ++ t.alternatives ++ rest) fullFormat) := by
      cases t with
      | union inner innerFormat =>
        exact .single (.splice before inner rest fullFormat innerFormat h.1)
      | _ => rw [List.append_assoc]; exact .refl
    rw [List.flatMap_cons, ← List.append_assoc]
    exact hfirst.trans (ih h.2 (before ++ t.alternatives))

/-- What remains of a union is taken for the union of its options: a single option for itself, and
the format is forgotten. -/
theorem reaches_ofAlternatives (ts : List TypeExpr) (fullFormat : Bool) :
    ReflTransGen Simplifies (.union ts fullFormat) (ofAlternatives ts) := by
  unfold ofAlternatives
  split
  · next t => exact .single (.single t fullFormat)
  · cases fullFormat with
    | true => exact .single (.format ts)
    | false => exact .refl

end Reach

/-- **Steps lead from a well-formed type to its normal form.** In a union, first all options are
simplified, and then the unions among them give way to their options. -/
theorem WellFormed.reaches_normalize {pos : Position} {t : TypeExpr} (h : WellFormed pos t) :
    ReflTransGen Simplifies t t.normalize := by
  induction h with
  | @leaf pos v hv =>
    cases v with
    | str s => exact .single (.bare s)
    | _ => exact .refl
  | array h ih => exact ih.lift TypeExpr.array fun _ _ => .array
  | @dictionary pos key value hkey hvalue ihkey ihvalue =>
    have hfirst : ReflTransGen Simplifies (.dictionary key value)
        (.dictionary key.normalize value) :=
      ihkey.lift (TypeExpr.dictionary · value) fun _ _ h => .key h value
    exact hfirst.trans (ihvalue.lift (TypeExpr.dictionary key.normalize) fun _ _ => .value _)
  | tuple hne h ih =>
    rw [normalize_tuple]
    exact reaches_map (fun before _ _ => .element before) ih []
  | @union pos options fullFormat hne h ih =>
    have hne : ∀ t ∈ options.map normalize, t.alternatives ≠ [] :=
      List.forall_mem_map.2 fun t ht => (h t ht).alternatives_ne_nil
    have hoptions : ReflTransGen Simplifies (.union options fullFormat)
        (.union (options.map normalize) fullFormat) :=
      reaches_map (f := (TypeExpr.union · fullFormat))
        (fun before _ _ h after => .option before h after fullFormat) ih []
    have hspliced := reaches_flatMap_alternatives hne [] fullFormat
    rw [normalize_union, ← List.flatMap_map]
    exact (hoptions.trans hspliced).trans (reaches_ofAlternatives _ fullFormat)
  | aliased h hdescription ih => exact .head (.unalias _ _) ih
  | _ => exact .refl

/-- What the first of several steps keeps, all of them keep. -/
theorem eq_of_reaches {β : Type} {f : TypeExpr → β} {t u : TypeExpr}
    (hf : ∀ {s r}, Simplifies s r → f s = f r) (h : ReflTransGen Simplifies t u) : f t = f u := by
  induction h with
  | refl => rfl
  | tail _ hstep ih => exact ih.trans (hf hstep)

/-- **A type has the text of its normal form**, and if it has none, neither has the normal form. -/
theorem WellFormed.render_normalize {pos : Position} {t : TypeExpr} (h : WellFormed pos t) :
    t.normalize.render = t.render :=
  (eq_of_reaches Simplifies.render_eq h.reaches_normalize).symm

/-- **A type that is read has the text of its normal form, and of everything on the way there.**
Whichever simplifications are made, in whatever order, the text stays the same, and so does what
keeps the type from having one; they lead to one normal type only, the normal form. -/
theorem render_simplified {data : Json} {path : Path} {t : TypeExpr}
    (h : (read data path).outcome = .ok t) :
    t.normalize.render = t.render ∧
      (∀ u, ReflTransGen Simplifies t u → u.render = t.render) ∧
      ∀ u, ReflTransGen Simplifies t u ∧ u.IsNormal ↔ u = t.normalize := by
  have hwf := wellFormed_of_spells (read_outcome_eq_ok_iff.1 h)
  refine ⟨hwf.render_normalize, fun u hu => (eq_of_reaches Simplifies.render_eq hu).symm,
    fun u => ⟨?_, ?_⟩⟩
  · rintro ⟨hu, hnormal⟩
    rw [← hnormal.normalize_eq]
    exact (eq_of_reaches Simplifies.normalize_eq hu).symm
  · rintro rfl
    exact ⟨hwf.reaches_normalize, isNormal_normalize t⟩

/-- A table whose values have a name, or are what an alias of a union stands for. -/
def aliasedOptions : Json :=
  .obj
    [("complex_type", .str "dictionary"), ("key", .str "string"),
     ("value", .obj
       [("complex_type", .str "union"),
        ("options", .arr [.str "Row", .obj
          [("complex_type", .str "type"), ("description", .str "Rows of rows."),
           ("value", .obj
             [("complex_type", .str "union"), ("full_format", .bool true),
              ("options", .arr [.str "Page", .obj
                [("complex_type", .str "union"), ("options", .arr [.str "Book"])]])])]])])]

theorem render_simplified_aliasedOptions :
    ∃ t, (read aliasedOptions "").outcome = .ok t ∧
      t.normalize = .dictionary (.name "string")
        (.union [.name "Row", .name "Page", .name "Book"] false) ∧
      t.normalize.render = t.render ∧ t.render = .ok "table<string, Row | Page | Book>" ∧
      t.normalize.IsNormal := by
  have hread : (read aliasedOptions "").outcome = .ok _ := rfl
  obtain ⟨hrender, -, hnormal⟩ := render_simplified hread
  exact ⟨_, hread, rfl, hrender, by with_unfolding_all rfl, ((hnormal _).2 rfl).2⟩

end TypeExpr
end ApiReference
