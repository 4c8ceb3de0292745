import ApiReference.Field
import Mathlib.Data.List.TakeWhile

/-!
# Paths of the items of a list

A reader of a list makes the path of an item from the path of the list's owner, the key and the
position; the path of the owner is got back by cutting at the last dot (`Path.parent_item_join`).
That is right for every owner, whatever dots and brackets its name has: neither a key nor a position
has a dot, so the last one is the dot in front of the key, and there is none if the owner has the
empty path.

Hence a reader of items that goes on at the path with the name might as well have been told the path
of the owner (`Path.position_undone`): nothing of the key and the position is left in it.

Paths are texts, and this is where it shows. A path with a list of steps in it would have its owner
as a field, and there would be nothing to prove. With texts the owner has to be found again, in a
text in which names from a document stand between dots and brackets of the program's own; and a name
may hold either. That it works is due to the program's part of the path alone.

The condition on the key is needed: at a key with a dot, the text up to that dot would be taken for
the owner. The keys of the lists of a document are all words.
-/

set_option autoImplicit false

namespace ApiReference
namespace Path

/-! ## The last dot

Cutting at the last dot is done from the end of the text, on the reversed characters. -/

theorem bne_dot_of_mem_reverse {cs : List Char} (h : '.' ∉ cs) :
    ∀ c ∈ cs.reverse, (c != '.') = true := by
  intro c hc
  have hne : c ≠ '.' := fun he => h (he ▸ List.mem_reverse.1 hc)
  simpa using hne

theorem beforeLastDot_of_no_dot {cs : List Char} (h : '.' ∉ cs) : beforeLastDot cs = [] := by
  rw [beforeLastDot, List.dropWhile_eq_nil_iff.2 (bne_dot_of_mem_reverse h)]
  rfl

/-- What stands in front of a dot after which there is none. -/
theorem beforeLastDot_append {cs rest : List Char} (h : '.' ∉ rest) :
    beforeLastDot (cs ++ '.' :: rest) = cs := by
  rw [beforeLastDot, List.reverse_append, List.reverse_cons, List.append_assoc,
    List.dropWhile_append_of_pos (bne_dot_of_mem_reverse h)]
  simp

/-! ## Items

A position is written in digits between brackets, so it has no dot in it. -/

theorem toList_item (path : Path) (i : Nat) :
    (path.item i).toList = path.toList ++ '[' :: (toString i).toList ++ [']'] := by
  simp [item]

theorem getLast?_item (path : Path) (i : Nat) : (path.item i).toList.getLast? = some ']' := by
  rw [toList_item, List.getLast?_append]
  rfl

theorem item_ne_empty (path : Path) (i : Nat) : path.item i ≠ "" := by
  intro h
  have hlast := getLast?_item path i
  rw [h] at hlast
  cases hlast

/-- A position has no dot. -/
theorem dot_not_mem_toString (i : Nat) : '.' ∉ (toString i).toList := by
  intro h
  rw [Nat.toString_eq_repr, Nat.repr_eq_ofList_toDigits, String.toList_ofList] at h
  have hdigit : ('.').isDigit = true := Nat.isDigit_of_mem_toDigits (by decide) (by decide) h
  cases hdigit

section Keys

variable {key : String} (hkey : '.' ∉ key.toList)

include hkey

/-- **What contains an item of a list is the owner of the list.** -/
theorem parent_item_join (path : Path) (i : Nat) : ((path.join key).item i).parent = path := by
  have hrest : '.' ∉ key.toList ++ '[' :: (toString i).toList ++ [']'] := by
    simp only [List.mem_append, List.mem_cons, not_or]
    exact ⟨⟨hkey, by decide, dot_not_mem_toString i⟩, by decide, List.not_mem_nil⟩
  rw [parent, toList_item]
  by_cases hp : path = ""
  · rw [hp, join_empty, beforeLastDot_of_no_dot hrest]
  · have hchars : (path.join key).toList ++ '[' :: (toString i).toList ++ [']'] =
        path.toList ++ '.' :: (key.toList ++ '[' :: (toString i).toList ++ [']']) := by
      rw [join_of_ne_empty hp]
      simp
    rw [hchars, beforeLastDot_append hrest, String.ofList_toList]

/-- The name of an item takes the place of its key and position. -/
theorem member_item_join (path : Path) (i : Nat) (name : String) :
    ((path.join key).item i).member name = path.join name := by
  rw [member, getLast?_item, if_pos rfl, parent_item_join hkey]

end Keys
end Path

/-! ## Reading a list

A reader is given the path of an item and nothing else that says where it is. If two readers do the
same at all paths of this form, they read the same list. -/

namespace Fields

variable {α : Type} {path : Path} {read other : Fields → Path → Reading α}

/-- Only what a reader does at the paths of items matters to the reading of the items. -/
theorem readItems_congr (h : ∀ g i, read g (path.item i) = other g (path.item i)) (i : Nat)
    (items : List Json) : readItems read path i items = readItems other path i items := by
  induction items generalizing i with
  | nil => rfl
  | cons v rest ih =>
    cases v with
    | obj g => rw [readItems, readItems, h, ih]
    | _ => exact ih (i + 1)

/-- Readers that do the same at the paths of the items of a list read the same list. -/
theorem list?_congr {key : String}
    (h : ∀ g i, read g ((path.join key).item i) = other g ((path.join key).item i)) (debug : Bool)
    (fields : Fields) : fields.list? debug key read path = fields.list? debug key other path := by
  rw [list?, list?]
  split
  · rw [readItems_congr h]
  · rfl

end Fields

namespace Path

/-- **The position that the reader of a list appends is undone by the name of the item.** Whatever
the path of the owner and the name are, and for every key without a dot, the path of an item that is
known by its name is the path of the owner with the name. So the items of a list are read the same
if each is told the path of the owner with its name, in place of the one that it makes from the path
at which it is found. -/
theorem position_undone {key : String} (hkey : '.' ∉ key.toList) (path : Path) :
    (∀ (i : Nat) (name : String), ((path.join key).item i).member name = path.join name) ∧
    ∀ (α : Type) (read : Fields → Path → Path → Reading α) (name : Fields → String) (debug : Bool)
      (fields : Fields),
      fields.list? debug key (fun g found => read g found (found.member (name g))) path =
        fields.list? debug key (fun g found => read g found (path.join (name g))) path := by
  refine ⟨member_item_join hkey path, fun α read name debug fields => ?_⟩
  refine Fields.list?_congr (fun g i => ?_) debug fields
  rw [member_item_join hkey]

/-- Owners of which one has the empty path and the others' names have dots and brackets. -/
theorem position_undone_brackets : '.' ∉ "methods".toList ∧
    ((Path.join "" "methods").item 0).member "a.b" = "a.b" ∧
    ((Path.join "classes[3]" "methods").item 12).member "a.b" = "classes[3].a.b" ∧
    ((Path.join "A.b]" "methods").item 7).member "" = "A.b]." := by
  have hkey : '.' ∉ "methods".toList := by decide
  exact ⟨hkey, (position_undone hkey "").1 0 "a.b",
    (position_undone hkey "classes[3]").1 12 "a.b", (position_undone hkey "A.b]").1 7 ""⟩

end Path
end ApiReference
