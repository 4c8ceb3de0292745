import ApiReference.Json.Basic

/-!
# Walks through nested data

Types nest in types, and entities in entities. A `Walk` says which nodes lie directly below a node;
`Walk.nodes` lists a node with everything below it, each node before what is below it and from left
to right, which is the order in which a reader meets the nodes of a document.

A walk carries the proof that it comes to an end, as a field. That proof is all that the recursion
of `Walk.nodes` needs, and the list is never unfolded by its equation lemma again: `Walk.nodes_eq`
gives one level of it, and the facts about all nodes are stated by levels too. So a proof about a
walk is an induction along it (`Walk.induction`) with one level on either side.

Two walks use this: the one through the places of a type and the one through the sites of a
document. Both go down into JSON values, and both end because a value inside a value is smaller. The
facts about sizes that this takes are at the end of the file; they are the only place where the size
of a term is looked at.

## What is here

* `Walk.nodes_eq`: the list of nodes, one level at a time, without the argument for termination.
* `Walk.forall_mem_nodes_iff`: a property of all nodes is a property of the first and of all nodes
  below it.
* `Walk.filterMap_nodes_eq`: what is collected from all nodes, one level at a time.
* `Walk.induction`: what holds of a node as soon as it holds of the nodes directly below it holds of
  every node.
* `Json.sizeOf_value_lt`, `Json.sizeOf_lt_of_mem_items`, `Fields.sizeOf_lt_of_mem_objects`: the
  values inside a JSON value are smaller than the value, which is what walks through documents
  shrink by.
-/

set_option autoImplicit false

namespace ApiReference

/-- Which nodes lie directly below a node, from left to right. No node has endless ways down. -/
structure Walk (α : Type) where
  below : α → List α
  wf : WellFounded fun b a => b ∈ below a

namespace Walk

variable {α : Type}

/-- Where every step down makes something smaller, there are no endless ways down. -/
theorem wellFounded_of_size {below : α → List α} (size : α → Nat)
    (h : ∀ {a b : α}, b ∈ below a → size b < size a) : WellFounded fun b a => b ∈ below a :=
  Subrelation.wf h (measure size).wf

variable (w : Walk α)

/-- A node and all nodes below it, in the order in which a reader meets them. -/
def nodes (a : α) : List α :=
  a :: (w.below a).attach.flatMap fun b => nodes b.1
termination_by w.wf.wrap a
decreasing_by exact b.2

theorem nodes_eq (a : α) : w.nodes a = a :: (w.below a).flatMap w.nodes := by
  rw [nodes, ← List.flatMap_map, List.attach_map_subtype_val]

/-- Something holds of all nodes if it holds of the first one and of all nodes below it. -/
theorem forall_mem_nodes_iff {a : α} {P : α → Prop} :
    (∀ c ∈ w.nodes a, P c) ↔ P a ∧ ∀ b ∈ w.below a, ∀ c ∈ w.nodes b, P c := by
  rw [nodes_eq, List.forall_mem_cons]
  simp only [List.mem_flatMap, forall_exists_index, and_imp]
  exact and_congr_right fun _ => ⟨fun h b hb c hc => h c b hb hc, fun h c b hb hc => h b hb c hc⟩

/-- What is collected from all nodes: what the first one gives, and then what is collected from each
of the nodes below it. -/
theorem filterMap_nodes_eq {β : Type} (f : α → Option β) (a : α) :
    (w.nodes a).filterMap f =
      (f a).toList ++ (w.below a).flatMap fun b => (w.nodes b).filterMap f := by
  rw [nodes_eq, List.filterMap_cons, List.filterMap_flatMap]
  cases f a <;> rfl

/-- The first of what is collected from nodes comes from the first node that gives anything. -/
theorem exists_first_of_head?_flatMap {β : Type} {f : α → List β} {nodes : List α} {b : β}
    (h : (nodes.flatMap f).head? = some b) : ∃ before a after, nodes = before ++ a :: after ∧
      (∀ c ∈ before, f c = []) ∧ (f a).head? = some b := by
  induction nodes with
  | nil => cases h
  | cons a rest ih =>
    rw [List.flatMap_cons, List.head?_append] at h
    cases ha : (f a).head? with
    | none =>
      rw [ha, Option.none_or] at h
      obtain ⟨before, first, after, rfl, hbefore, hfirst⟩ := ih h
      have hnil : f a = [] := List.head?_eq_none_iff.1 ha
      exact ⟨a :: before, first, after, rfl, List.forall_mem_cons.2 ⟨hnil, hbefore⟩, hfirst⟩
    | some c =>
      rw [ha, Option.some_or] at h
      exact ⟨[], a, rest, rfl, fun _ hc => absurd hc List.not_mem_nil, ha.trans h⟩

/-- **Induction along a walk.** -/
theorem induction {P : α → Prop} (step : ∀ a, (∀ b ∈ w.below a, P b) → P a) (a : α) : P a :=
  w.wf.induction a step

end Walk

/-! ## The values inside a value

A field that an object does not have is `null`, and the items of a value that is no array are none.
Both are convenient where a walk goes down, and neither is in the way here: `null` is smaller than
any object, and of no items there is nothing to show. -/

namespace Json

/-- The items of an array; any other value has none. -/
def items : Json → List Json
  | .arr items => items
  | _ => []

/-- The members of an object; any other value is none. -/
def object? : Json → Option Fields
  | .obj fields => some fields
  | _ => none

theorem object?_eq_some_iff {v : Json} {fields : Fields} :
    v.object? = some fields ↔ v = .obj fields := by
  cases v <;> simp [object?]

theorem isObject_eq_true_iff {v : Json} : v.isObject = true ↔ ∃ fields, v = .obj fields := by
  cases v <;> simp [isObject]

theorem isNull_eq_true_iff {v : Json} : v.isNull = true ↔ v = .null := by
  cases v <;> simp [isNull]

/-- An item of a value is smaller than the value. -/
theorem sizeOf_lt_of_mem_items {v item : Json} (h : item ∈ v.items) : sizeOf item < sizeOf v := by
  cases v with
  | arr items =>
    have h : item ∈ items := h
    have := List.sizeOf_lt_of_mem h
    rw [Json.arr.sizeOf_spec]
    omega
  | _ => cases h

/-- The value of a field is smaller than the object, also if the object does not have the field. -/
theorem sizeOf_value_lt (fields : Fields) (key : String) :
    sizeOf (fields.value key) < sizeOf (Json.obj fields) := by
  have h : sizeOf (fields.value key) ≤ sizeOf fields := by
    induction fields with
    | nil => exact Nat.le_refl _
    | cons f rest ih =>
      obtain ⟨k, v⟩ := f
      rw [Fields.value_cons, List.cons.sizeOf_spec, Prod.mk.sizeOf_spec]
      split
      · show sizeOf v ≤ _
        omega
      · omega
  rw [Json.obj.sizeOf_spec]
  omega

end Json

namespace Fields

/-- The objects in a list of entities; what is not an object is no entity. -/
def objects (fields : Fields) (key : String) : List Fields :=
  (fields.value key).items.filterMap Json.object?

theorem mem_objects_iff {fields item : Fields} {key : String} :
    item ∈ fields.objects key ↔ Json.obj item ∈ (fields.value key).items := by
  simp [objects, Json.object?_eq_some_iff]

theorem sizeOf_lt_of_mem_objects {fields item : Fields} {key : String}
    (h : item ∈ fields.objects key) : sizeOf item < sizeOf fields := by
  have h1 := Json.sizeOf_lt_of_mem_items (mem_objects_iff.1 h)
  have h2 := Json.sizeOf_value_lt fields key
  rw [Json.obj.sizeOf_spec] at h1 h2
  omega

end Fields
end ApiReference
