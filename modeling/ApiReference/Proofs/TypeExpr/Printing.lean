import ApiReference.Proofs.TypeExpr.Nodes

/-!
# Which types have a text

Rendering a type stops at the first of its nodes that has no frame (`render_eq_error_iff`). In a
type that is read from a JSON value such a node is a list: one that stands where a form requires a
part is kept as a bare value, and a bare list has no text. It is the only obstacle.

The reader keeps the list because it takes every value but an object and `null` as a bare part. As a
member of a tuple or a union the same list would be read as a type, and refused. So a value can be
read without an error and still have no text, and which values these are is told here from the value
alone.

The order matters as well: where several lists stand in place of parts, the message names the first
of them, in the order of the walk, which is the order in which the text would be written.

## What is here

* `Place.HoldsList`, `Place.ListFree`, `Place.lists`: the lists in place of a part.
* `render_stops_at_first_list`: a type that is read from a value has a text exactly if the value has
  no such list, and otherwise the first of them is what has no text.
* `listPart_not_rendered`: a type that is read and has no text.
-/

set_option autoImplicit false

namespace ApiReference
namespace TypeExpr

/-! ## Nodes without a frame

The faults are collected from all nodes, although rendering never gets past the first of them.
Whether there is a text is then whether a list is empty, and which fault is met is the head of that
list. -/

/-- What keeps a node from having a frame. -/
def fault? (t : TypeExpr) : Option Fault :=
  match t.frame with
  | .ok _ => none
  | .error fault => some fault

/-- The faults of the nodes of a type, in order. -/
def faults (t : TypeExpr) : List Fault :=
  (walk.nodes t).filterMap fault?

theorem faults_eq (t : TypeExpr) : t.faults = t.fault?.toList ++ t.parts.flatMap faults :=
  walk.filterMap_nodes_eq fault? t

/-- **Rendering stops at the first node without a frame.** -/
theorem render_eq_error_iff (t : TypeExpr) :
    ∀ fault, t.render = .error fault ↔ t.faults.head? = some fault := by
  induction t using walk.induction with
  | step t ih =>
    have ih : ∀ s ∈ t.parts, ∀ fault, s.render = .error fault ↔ s.faults.head? = some fault := ih
    intro fault
    rw [render_eq_frame, faults_eq, fault?]
    cases t.frame with
    | error first =>
      rw [error_bind, Except.error.injEq, Option.toList_some, List.singleton_append,
        List.head?_cons, Option.some.injEq]
    | ok f =>
      rw [ok_bind, Option.toList_none, List.nil_append, ← mapM_eq_error_iff ih]
      cases t.parts.mapM render with
      | error first => rw [error_bind, Except.error.injEq, Except.error.injEq]
      | ok texts => exact ⟨nofun, nofun⟩

/-- A type has a text exactly if none of its nodes has a fault. -/
theorem exists_render_iff {t : TypeExpr} : (∃ text, t.render = .ok text) ↔ t.faults = [] := by
  rw [← List.head?_eq_none_iff, Option.eq_none_iff_forall_ne_some]
  constructor
  · rintro ⟨text, htext⟩ fault hfault
    rw [(render_eq_error_iff t fault).2 hfault] at htext
    cases htext
  · intro h
    cases ht : t.render with
    | ok text => exact ⟨text, rfl⟩
    | error fault => exact absurd ((render_eq_error_iff t fault).1 ht) (h fault)

/-! ## Lists in place of a part

A list is told by its place: it has to stand under a key that a form requires. A list on its own, or
among the members of a tuple or a union, is not read as a type in the first place. -/

namespace Place

/-- A list stands where a form requires a part. -/
def HoldsList (p : Place) : Prop :=
  ∃ form key items owner, p = .part form key (.arr items) owner

/-- A list stands neither at the place nor at one below it. -/
def ListFree (p : Place) : Prop :=
  ∀ q ∈ walk.nodes p, ¬ q.HoldsList

/-- The list that stands in place of a part. -/
def list? : Place → Option Json
  | .part _ _ (.arr items) _ => some (.arr items)
  | _ => none

/-- The lists that stand in place of a part, at the place or below it, in order. -/
def lists (p : Place) : List Json :=
  (walk.nodes p).filterMap list?

theorem lists_eq (p : Place) : p.lists = p.list?.toList ++ p.below.flatMap lists :=
  walk.filterMap_nodes_eq list? p

variable {p : Place} {t : TypeExpr}

theorem list?_eq_none_iff : p.list? = none ↔ ¬ p.HoldsList := by
  constructor
  · rintro h ⟨form, key, items, owner, rfl⟩
    cases h
  · intro h
    cases p with
    | part form key v owner =>
      cases v with
      | arr items => exact absurd ⟨form, key, items, owner, rfl⟩ h
      | _ => rfl
    | _ => rfl

/-- No list is found exactly if none is there. -/
theorem lists_eq_nil_iff : p.lists = [] ↔ p.ListFree := by
  simp only [lists, List.filterMap_eq_nil_iff, list?_eq_none_iff, ListFree]

/-- A place is free of lists exactly if it holds none and the places below it are free of them. -/
theorem listFree_iff : p.ListFree ↔ ¬ p.HoldsList ∧ ∀ q ∈ p.below, q.ListFree :=
  walk.forall_mem_nodes_iff

theorem not_holdsList_whole (v : Json) (path : Path) : ¬ (Place.whole v path).HoldsList :=
  fun ⟨_, _, _, _, h⟩ => Place.noConfusion h

/-- There is nothing below a value that is not an object. -/
theorem listFree_of_not_object (hv : p.value.isObject = false) (h : ¬ p.HoldsList) :
    p.ListFree := by
  refine listFree_iff.2 ⟨h, fun q hq => ?_⟩
  rw [below] at hq
  split at hq
  · next fields hp => rw [hp] at hv; cases hv
  · cases hq

/-- What keeps a node from having a frame is a list at its place. -/
theorem Spells.fault?_eq (h : p.Spells t) : t.fault? = p.list?.map .unrenderable := by
  cases p with
  | whole v path =>
    cases h with
    | leaf hk => cases hk
    | _ => rfl
  | part form key v owner =>
    cases h with
    | leaf hk =>
      cases v with
      | null => cases hk
      | obj fields => cases hk
      | _ => rfl
    | _ => rfl
  | member v path =>
    cases h with
    | leaf hk =>
      cases v with
      | bool b => rfl
      | int n => rfl
      | float x => rfl
      | _ => cases hk
    | _ => rfl

theorem Spells.faults_eq (h : p.Spells t) : t.faults = p.lists.map .unrenderable := by
  rw [lists, List.map_filterMap, TypeExpr.faults]
  exact (h.filterMap_nodes fun hs => hs.fault?_eq.symm).symm

/-- **A type that is spelled has a text if no list stands in place of a part.** -/
theorem Spells.exists_render_iff (h : p.Spells t) :
    (∃ text, t.render = .ok text) ↔ p.ListFree := by
  rw [TypeExpr.exists_render_iff, h.faults_eq, List.map_eq_nil_iff, lists_eq_nil_iff]

end Place

/-- **A type that is read has a text exactly if no list stands in place of a part**, and otherwise
rendering it stops at the first such list. -/
theorem render_stops_at_first_list {data : Json} {path : Path} {t : TypeExpr}
    (h : (read data path).outcome = .ok t) :
    ((∃ text, t.render = .ok text) ↔ (Place.whole data path).ListFree) ∧
      ∀ fault, t.render = .error fault ↔
        ∃ list, (Place.whole data path).lists.head? = some list ∧ fault = .unrenderable list := by
  have hs : (Place.whole data path).Spells t := read_outcome_eq_ok_iff.1 h
  refine ⟨hs.exists_render_iff, fun fault => ?_⟩
  rw [render_eq_error_iff, hs.faults_eq, List.head?_map, Option.map_eq_some_iff]
  exact exists_congr fun list => and_congr_right fun _ => eq_comm

/-- An array of a bare list. -/
def listPart : Json :=
  .obj [("complex_type", .str "array"), ("value", .arr [.int 1])]

theorem render_stops_at_first_list_listPart :
    (read listPart "").outcome = .ok (.array (.leaf (.arr [.int 1]))) ∧
      (Place.whole listPart "").lists.head? = some (.arr [.int 1]) ∧
      (TypeExpr.array (.leaf (.arr [.int 1]))).render = .error (.unrenderable (.arr [.int 1])) := by
  have hread : (read listPart "").outcome = .ok (.array (.leaf (.arr [.int 1]))) := rfl
  have hlists : (Place.whole listPart "").lists.head? = some (.arr [.int 1]) := by
    have hbelow : (Place.whole listPart "").below =
        [.part .array "value" (.arr [.int 1]) ""] := rfl
    rw [Place.lists_eq, hbelow, List.flatMap_singleton, Place.lists_eq]
    rfl
  exact ⟨hread, hlists, ((render_stops_at_first_list hread).2 _).2 ⟨_, hlists, rfl⟩⟩

/-- **Not every type that is read has a text.** -/
theorem listPart_not_rendered :
    ¬ ∀ data path t, (read data path).outcome = .ok t → ∃ text, t.render = .ok text := by
  intro h
  obtain ⟨text, htext⟩ := h listPart "" _ rfl
  cases htext

end TypeExpr
end ApiReference
