import ApiReference.Proofs.TypeExpr.Encoding
import ApiReference.TypeExpr.Rendering
import Mathlib.Data.List.Forall2

/-!
# The nodes of a type

A type is a tree: `TypeExpr.walk` goes through it from a type to the types it is built from. Its
text is put together node by node. Every node has a `Frame`, which says what it writes around and
between the texts of its parts (`render_eq_frame`), so what is shown for all frames holds of texts
without a case for each form.

A value and the type that it spells are trees of one shape: the places of the value and the nodes of
the type correspond, in order, and each place spells its node (`Place.Spells.forall₂_nodes`). What
is collected from the nodes of a type can therefore be read off the value
(`Place.Spells.filterMap_nodes`).

This is how statements about a type that is read become statements about the value. A theorem about
texts is first shown for types, where the induction is over the nodes, and then carried over to
places by this correspondence. The theorems that say when a type has a text, and when the text is
one line, are of this kind; both name places of the value in their statements, and no nodes of the
type.

## What is here

* `parts`, `walk`: the nodes of a type.
* `Frame`, `frame`, `render_eq_frame`: the text of a type from the texts of its parts.
* `Place.Spells.forall₂_nodes`: places and nodes correspond.
-/

set_option autoImplicit false

namespace ApiReference
namespace TypeExpr

/-! ## The walk

A dictionary has two parts, its key first, which is the order in which they are read and written. A
literal is a leaf of the tree: its value is no type. -/

/-- The types directly inside a type, from left to right. -/
def parts : TypeExpr → List TypeExpr
  | .array element => [element]
  | .dictionary key value => [key, value]
  | .tuple elements => elements
  | .union options _ => options
  | .alias inner _ => [inner]
  | _ => []

theorem sizeOf_lt_of_mem_parts {s t : TypeExpr} (h : s ∈ t.parts) : sizeOf s < sizeOf t := by
  cases t with
  | tuple elements =>
    have := List.sizeOf_lt_of_mem (show s ∈ elements from h)
    rw [tuple.sizeOf_spec]
    omega
  | union options fullFormat =>
    have := List.sizeOf_lt_of_mem (show s ∈ options from h)
    rw [union.sizeOf_spec]
    omega
  | array element =>
    obtain rfl := List.mem_singleton.1 h
    rw [array.sizeOf_spec]
    omega
  | «alias» inner description =>
    obtain rfl := List.mem_singleton.1 h
    rw [alias.sizeOf_spec]
    omega
  | dictionary key value =>
    rw [dictionary.sizeOf_spec]
    obtain rfl | h := List.mem_cons.1 h
    · omega
    · obtain rfl := List.mem_singleton.1 h
      omega
  | _ => cases h

/-- The walk through a type. -/
def walk : Walk TypeExpr where
  below := parts
  wf := Walk.wellFounded_of_size sizeOf sizeOf_lt_of_mem_parts

/-- The parts of a well-formed type are well formed where they stand. -/
theorem WellFormed.part {pos : Position} {s t : TypeExpr} (h : WellFormed pos t)
    (hs : s ∈ t.parts) : ∃ inner, WellFormed inner s := by
  cases h with
  | array h => exact ⟨_, List.mem_singleton.1 hs ▸ h⟩
  | dictionary hkey hvalue =>
    obtain rfl | hs := List.mem_cons.1 hs
    · exact ⟨_, hkey⟩
    · exact ⟨_, List.mem_singleton.1 hs ▸ hvalue⟩
  | tuple hne h => exact ⟨_, h s hs⟩
  | union hne h => exact ⟨_, h s hs⟩
  | aliased h hdescription => exact ⟨_, List.mem_singleton.1 hs ▸ h⟩
  | _ => cases hs

/-! ## Frames

The text of a node is its parts in a frame, also where there are no parts: a name is a frame with
nothing inside. The only nodes without a frame are bare values without a text. -/

/-- What a node writes in front of the texts of its parts, between them and after them. -/
structure Frame where
  opening : String
  separator : String
  closing : String

/-- The texts of the parts in their frame. -/
def Frame.around (f : Frame) (texts : List String) : String :=
  f.opening ++ f.separator.intercalate texts ++ f.closing

/-- The frame of a node. A bare value without a text has none. -/
def frame : TypeExpr → Except Fault Frame
  | .name n => .ok ⟨n, "", ""⟩
  | .array _ => .ok ⟨"", "", "[]"⟩
  | .dictionary _ _ => .ok ⟨"table<", ", ", ">"⟩
  | .tuple _ => .ok ⟨"tuple<", ", ", ">"⟩
  | .union _ _ => .ok ⟨"", " | ", ""⟩
  | .literal value description => .ok ⟨renderLiteral value description, "", ""⟩
  | .alias _ _ => .ok ⟨"", "", ""⟩
  | .leaf value => (renderLeaf value).map fun text => ⟨text, "", ""⟩

/-- The texts of several types are found one after another, until one of them has none. -/
theorem renderAll_eq_mapM (ts : List TypeExpr) : renderAll ts = ts.mapM render := by
  induction ts with
  | nil => rfl
  | cons t rest ih => rw [renderAll, ih, List.mapM_cons]

/-- **The text of a type is that of its parts in the frame of its first node.** -/
theorem render_eq_frame (t : TypeExpr) :
    t.render = t.frame >>= fun f => t.parts.mapM render >>= fun texts =>
      pure (f.around texts) := by
  cases t with
  | leaf value =>
    rw [render, frame]
    cases h : renderLeaf value with
    | error fault => rfl
    | ok text => simp [Except.map, parts, Frame.around]
  | tuple elements => simp [render, frame, ok_bind, parts, Frame.around, renderAll_eq_mapM]
  | union options fullFormat =>
    simp [render, frame, ok_bind, parts, Frame.around, renderAll_eq_mapM]
  | _ => simp [render, frame, ok_bind, parts, Frame.around, String.append_assoc]

/-- A type has a text if its first node has a frame and all its parts have texts. -/
theorem render_eq_ok_iff {t : TypeExpr} {text : String} :
    t.render = .ok text ↔ ∃ f texts, t.frame = .ok f ∧
      List.Forall₂ (fun s s' => s.render = .ok s') t.parts texts ∧ f.around texts = text := by
  rw [render_eq_frame]
  cases hf : t.frame with
  | error fault => simp [error_bind]
  | ok f =>
    rw [ok_bind]
    cases htexts : t.parts.mapM render with
    | error fault =>
      refine ⟨nofun, ?_⟩
      rintro ⟨_, texts, -, h, -⟩
      rw [mapM_eq_ok_iff.2 h] at htexts
      cases htexts
    | ok texts =>
      constructor
      · intro h
        exact ⟨f, texts, rfl, mapM_eq_ok_iff.1 htexts, Except.ok.inj h⟩
      · rintro ⟨g, others, hg, h, rfl⟩
        rw [mapM_eq_ok_iff.2 h, Except.ok.injEq] at htexts
        rw [htexts, Except.ok.inj hg]
        rfl

/-! ## Places and nodes

The grammar pairs the values that a form lists with the types that they spell. Here the pairing is
brought into the shape in which the two walks go on, one list of places and one list of parts. -/

namespace Place

/-- In which position a type stands at the place. -/
def position : Place → Position
  | .whole _ _ => .whole
  | .part _ _ _ _ => .part
  | .member _ _ => .member

/-- The place spells a type. -/
abbrev Spells (p : Place) (t : TypeExpr) : Prop :=
  TypeExpr.Spells p.position p.value t

theorem forall₂_members {items : List Json} {ts : List TypeExpr}
    (hlen : items.length = ts.length) (h : ∀ m ∈ items.zip ts, TypeExpr.Spells .member m.1 m.2)
    (path : Path) (i : Nat) :
    List.Forall₂ Spells ((items.zipIdx i).map fun v => .member v.1 (path.item v.2)) ts := by
  induction items generalizing ts i with
  | nil =>
    rw [List.eq_nil_of_length_eq_zero hlen.symm]
    exact .nil
  | cons v rest ih =>
    cases ts with
    | nil => cases hlen
    | cons t ts =>
      rw [List.zip_cons_cons, List.forall_mem_cons] at h
      exact .cons h.1 (ih (Nat.succ.inj hlen) h.2 (i + 1))

variable {p : Place} {t : TypeExpr}

/-- The places directly below a place spell the parts of the type that it spells. -/
theorem Spells.forall₂_below (h : p.Spells t) : List.Forall₂ Spells p.below t.parts := by
  rw [Spells] at h
  generalize p.position = pos at h
  generalize hv : p.value = v at h
  rw [Place.below, hv]
  cases h with
  | leaf hk =>
    cases v with
    | obj fields => cases Position.isObject_of_keeps hk
    | _ => exact .nil
  | name hne s => exact .nil
  | array hform h =>
    simp only [Place.inside, hform]
    exact .cons h .nil
  | dictionary hform hkey hvalue =>
    simp only [Place.inside, hform]
    exact .cons hkey (.cons hvalue .nil)
  | tuple hform hne hlen h =>
    simpa [Place.inside, hform, Form.partKeys, Form.memberKeys, parts] using
      forall₂_members hlen h (p.path.join "values") 0
  | union hform hne hlen h =>
    simpa [Place.inside, hform, Form.partKeys, Form.memberKeys, parts] using
      forall₂_members hlen h (p.path.join "options") 0
  | literal hform =>
    simp only [Place.inside, hform]
    exact .nil
  | aliased hform h =>
    simp only [Place.inside, hform]
    exact .cons h .nil
  | unknown hstated hform =>
    simp only [Place.inside, hform]
    exact .nil

/-- **The places of a value and the nodes of the type that it spells correspond**, in order. -/
theorem Spells.forall₂_nodes (h : p.Spells t) :
    List.Forall₂ Spells (walk.nodes p) (TypeExpr.walk.nodes t) := by
  induction p using walk.induction generalizing t with
  | step p ih =>
    have hbelow : List.Forall₂
        (fun q s =>
          (∀ {s}, q.Spells s → List.Forall₂ Spells (walk.nodes q) (TypeExpr.walk.nodes s)) ∧
            q.Spells s) p.below t.parts :=
      (List.forall₂_and_left _ _).2 ⟨ih, h.forall₂_below⟩
    rw [walk.nodes_eq, TypeExpr.walk.nodes_eq]
    exact .cons h (List.rel_flatMap hbelow fun q s hs => hs.1 hs.2)

/-- What is collected from the nodes of a type can be collected from the places that spell it. -/
theorem Spells.filterMap_nodes {β : Type} (h : p.Spells t) {f : Place → Option β}
    {g : TypeExpr → Option β} (hfg : ∀ {q : Place} {s : TypeExpr}, q.Spells s → f q = g s) :
    (walk.nodes p).filterMap f = (TypeExpr.walk.nodes t).filterMap g := by
  have hnodes := h.forall₂_nodes
  generalize walk.nodes p = ps, TypeExpr.walk.nodes t = ts at hnodes
  induction hnodes with
  | nil => rfl
  | cons hs _ ih => rw [List.filterMap_cons, List.filterMap_cons, hfg hs, ih]

end Place
end TypeExpr
end ApiReference
