import ApiReference.Proofs.TypeExpr.Nodes

/-!
# The normal form of a type

Different types may have the same text: an alias is written as what it stands for, a bare string as
the name that it spells, a union inside a union as its options, and a union of a single option as
that option. `normalize` undoes these differences. In a normal form a union has options that are no
unions (`isUnion_of_mem_alternatives`).

Every type is the union of its `alternatives`, be it of a single one, and the normal form of a union
has the alternatives of all options (`alternatives_normalize_union`). Alternatives are the reason
why `normalize` is short: without them a union inside a union and a union of one option would each
need a case of their own, and so would a union of one union.

What is *not* undone is the order of options, and an option that is given twice: both show in the
text. A union without options does not occur in a type that is read, and
`WellFormed.alternatives_ne_nil` is what the other modules need of that.

This module is about the normal form alone. That a type and its normal form have one text is shown
in `ApiReference.Proofs.TypeExpr.Simplification`, one difference at a time, and that different
normal forms have different texts in `ApiReference.Proofs.TypeExpr.Unambiguous`.
-/

set_option autoImplicit false

namespace ApiReference
namespace TypeExpr

/-- Whether the type is a union. -/
def isUnion : TypeExpr → Bool
  | .union _ _ => true
  | _ => false

/-- The types of which a type is the union: itself if it is no union. -/
def alternatives : TypeExpr → List TypeExpr
  | .union options _ => options
  | t => [t]

/-- The union of types: of a single type the type itself. -/
def ofAlternatives : List TypeExpr → TypeExpr
  | [t] => t
  | ts => .union ts false

/-- The type that a bare value stands for. -/
def ofBare : Json → TypeExpr
  | .str s => .name s
  | v => .leaf v

mutual

/-- The normal form of a type. -/
def normalize : TypeExpr → TypeExpr
  | .name n => .name n
  | .array element => .array element.normalize
  | .dictionary key value => .dictionary key.normalize value.normalize
  | .tuple elements => .tuple (normalizeAll elements)
  | .union options _ => ofAlternatives ((normalizeAll options).flatMap alternatives)
  | .literal value description => .literal value description
  | .alias inner _ => inner.normalize
  | .leaf value => ofBare value
termination_by structural t => t

/-- The normal forms of several types. -/
def normalizeAll : List TypeExpr → List TypeExpr
  | [] => []
  | t :: rest => t.normalize :: normalizeAll rest
termination_by structural ts => ts

end

theorem normalizeAll_eq_map (ts : List TypeExpr) : normalizeAll ts = ts.map normalize := by
  induction ts with
  | nil => rfl
  | cons t rest ih => rw [normalizeAll, ih, List.map_cons]

theorem normalize_tuple (elements : List TypeExpr) :
    (TypeExpr.tuple elements).normalize = .tuple (elements.map normalize) := by
  rw [normalize, normalizeAll_eq_map]

theorem normalize_union (options : List TypeExpr) (fullFormat : Bool) :
    (TypeExpr.union options fullFormat).normalize =
      ofAlternatives (options.flatMap fun t => t.normalize.alternatives) := by
  rw [normalize, normalizeAll_eq_map, List.flatMap_map]

/-! ## Alternatives

`alternatives` and `ofAlternatives` undo each other on lists of types that are no unions, which is
what a normal form consists of. -/

theorem alternatives_of_not_isUnion {t : TypeExpr} (h : t.isUnion = false) :
    t.alternatives = [t] := by
  cases t with
  | union options fullFormat => cases h
  | _ => rfl

theorem alternatives_ofAlternatives {ts : List TypeExpr} (h : ∀ t ∈ ts, t.isUnion = false) :
    (ofAlternatives ts).alternatives = ts := by
  unfold ofAlternatives
  split
  · next t => exact alternatives_of_not_isUnion (h t List.mem_cons_self)
  · rfl

theorem isUnion_ofBare (v : Json) : (ofBare v).isUnion = false := by
  cases v <;> rfl

/-- **In a normal form no alternative is a union.** -/
theorem isUnion_of_mem_alternatives (t : TypeExpr) :
    ∀ s ∈ t.normalize.alternatives, s.isUnion = false := by
  induction t using walk.induction with
  | step t ih =>
    cases t with
    | union options fullFormat =>
      have hoptions : ∀ s ∈ options.flatMap fun t => t.normalize.alternatives,
          s.isUnion = false := by
        intro s hs
        obtain ⟨t, ht, hs⟩ := List.mem_flatMap.1 hs
        exact ih t ht s hs
      rw [normalize_union, alternatives_ofAlternatives hoptions]
      exact hoptions
    | «alias» inner description => exact ih inner List.mem_cons_self
    | leaf value =>
      rw [normalize, alternatives_of_not_isUnion (isUnion_ofBare value)]
      exact List.forall_mem_singleton.2 (isUnion_ofBare value)
    | _ => exact List.forall_mem_singleton.2 rfl

/-- The alternatives of a union are those of its options, in order. -/
theorem alternatives_normalize_union (options : List TypeExpr) (fullFormat : Bool) :
    (TypeExpr.union options fullFormat).normalize.alternatives =
      options.flatMap fun t => t.normalize.alternatives := by
  rw [normalize_union, alternatives_ofAlternatives]
  intro s hs
  obtain ⟨t, ht, hs⟩ := List.mem_flatMap.1 hs
  exact isUnion_of_mem_alternatives t s hs

/-- A normal form is the union of its alternatives. -/
theorem ofAlternatives_alternatives (t : TypeExpr) :
    ofAlternatives t.normalize.alternatives = t.normalize := by
  induction t using walk.induction with
  | step t ih =>
    cases t with
    | union options fullFormat => rw [alternatives_normalize_union, normalize_union]
    | «alias» inner description => exact ih inner List.mem_cons_self
    | leaf value =>
      rw [normalize, alternatives_of_not_isUnion (isUnion_ofBare value)]
      rfl
    | _ => rfl

theorem WellFormed.alternatives_ne_nil {pos : Position} {t : TypeExpr} (h : WellFormed pos t) :
    t.normalize.alternatives ≠ [] := by
  induction h with
  | @leaf pos v hv =>
    rw [normalize, alternatives_of_not_isUnion (isUnion_ofBare v)]
    exact List.cons_ne_nil _ _
  | @union pos options fullFormat hne h ih =>
    rw [alternatives_normalize_union]
    obtain ⟨first, rest, rfl⟩ := List.exists_cons_of_ne_nil hne
    rw [List.flatMap_cons]
    exact List.append_ne_nil_of_left_ne_nil (ih first List.mem_cons_self) _
  | aliased h hdescription ih => exact ih
  | _ => exact List.cons_ne_nil _ _

/-! ## Texts of unions

The bar of a union joins texts, so a union of lists put together has the texts of both, with one
more bar between them. Neither list may be empty, for there would be a bar without a text on one
side. -/

/-- The union of types is written as their texts with bars between them, also if it is one type and
no union. -/
theorem render_ofAlternatives (ts : List TypeExpr) :
    (ofAlternatives ts).render = " | ".intercalate <$> ts.mapM render := by
  unfold ofAlternatives
  split
  · next t => exact (intercalate_mapM_singleton render t " | ").symm
  · rw [render, renderAll_eq_mapM, map_eq_pure_bind]

theorem render_union (options : List TypeExpr) (fullFormat : Bool) :
    (TypeExpr.union options fullFormat).render = (ofAlternatives options).render := by
  rw [render_ofAlternatives, render, renderAll_eq_mapM, map_eq_pure_bind]

theorem render_ofAlternatives_append {ts us : List TypeExpr} (hts : ts ≠ []) (hus : us ≠ []) :
    (ofAlternatives (ts ++ us)).render =
      (ofAlternatives ts).render >>= fun s => (ofAlternatives us).render >>= fun r =>
        pure (s ++ " | " ++ r) := by
  rw [render_ofAlternatives, render_ofAlternatives, render_ofAlternatives]
  exact intercalate_mapM_append hts hus " | "

end TypeExpr
end ApiReference
