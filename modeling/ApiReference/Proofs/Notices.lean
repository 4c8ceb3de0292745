import ApiReference.Proofs.Reading
import Mathlib.Data.List.Perm.Subperm

/-!
# The notices of a step

A step that runs to its end leaves certain notices, and one that a fault stops has left some of them
by then (`Reading.Leaves`). The order in which they are left is not looked at, so a specification
may list them in an order of its own. A sequence of steps leaves what its steps leave
(`Reading.Leaves.bind`); where a later step depends on the value of an earlier one, that value is
known from the faults of the earlier step (`Reading.Leaves.bindTo`).

A notice that sums up what was done comes last, and not at all if the step was stopped
(`Reading.Closes`).

Order is given up on purpose. The specifications list notices by the walk through a document, in
which an object comes before what it contains. The readers are free to read the fields of an object
in any order, and some read a field that leaves a notice after the ones with objects in them. What a
maintainer wants to know is which notices there are and how often, and that is a permutation; for a
step that was stopped it is a sub-permutation, so that nothing is noted twice or made up.

How often matters. A weaker notion, by which the notices of a step are among those of the
specification, would let a reader note one thing several times.
-/

set_option autoImplicit false

namespace ApiReference
namespace Reading

variable {α β : Type}

/-- The step leaves the notices, in some order, and some of them if it stops before its end. -/
structure Leaves (x : Reading α) (notices : List Notice) : Prop where
  subperm : x.notices.Subperm notices
  perm : ∀ a, x.outcome = .ok a → x.notices.Perm notices

namespace Leaves

variable {x : Reading α} {f : α → Reading β} {notices others : List Notice}

/-- A step that does nothing leaves nothing. -/
theorem pure (a : α) : Leaves (Pure.pure a) [] :=
  ⟨.refl [], fun _ _ => .refl []⟩

/-- A step that fails has left nothing, so any notices may be named for it. -/
theorem fail (fault : Fault) (notices : List Notice) :
    Leaves (Reading.fail fault : Reading α) notices :=
  ⟨List.nil_subperm, nofun⟩

theorem note (notice : Notice) : Leaves (Reading.note notice) [notice] :=
  ⟨.refl _, fun _ _ => .refl _⟩

/-- A step whose notices are known in their order. -/
theorem of_notices (hx : x.notices = notices) : x.Leaves notices :=
  ⟨hx ▸ .refl _, fun _ _ => .of_eq hx⟩

/-- The notices may be listed in another order. -/
theorem of_perm (hx : x.Leaves notices) (h : notices.Perm others) : x.Leaves others :=
  ⟨hx.subperm.trans h.subperm, fun a ha => (hx.perm a ha).trans h⟩

theorem of_eq (hx : x.Leaves notices) (h : notices = others) : x.Leaves others :=
  h ▸ hx

/-- A sequence of steps leaves the notices of its steps. -/
theorem bind_of_ok (hx : x.Leaves notices)
    (hf : ∀ a, x.outcome = .ok a → (f a).Leaves others) : (x >>= f).Leaves (notices ++ others) := by
  cases ho : x.outcome with
  | ok a =>
    have hall := hx.perm a ho
    have ha := hf a ho
    constructor
    · rw [bind_notices_of_ok ho]
      exact hall.subperm.append ha.subperm
    · intro b hb
      rw [bind_outcome_of_ok ho] at hb
      rw [bind_notices_of_ok ho]
      exact hall.append (ha.perm b hb)
  | error fault =>
    constructor
    · rw [bind_notices_of_error ho]
      exact hx.subperm.trans (List.sublist_append_left notices others).subperm
    · intro b hb
      rw [bind_outcome_of_error ho] at hb
      cases hb

theorem bind (hx : x.Leaves notices) (hf : ∀ a, (f a).Leaves others) :
    (x >>= f).Leaves (notices ++ others) :=
  hx.bind_of_ok fun a _ => hf a

/-- A sequence whose later steps depend on the value of the first one. -/
theorem bindTo {faults : List Fault} {a : α} (hx : x.Leaves notices) (ha : x.Reports faults a)
    (hf : (f a).Leaves others) : (x >>= f).Leaves (notices ++ others) :=
  hx.bind_of_ok fun _ hb => (ha.outcome_eq_ok_iff.1 hb).2 ▸ hf

/-- A step whose value is taken further. -/
theorem map (hx : x.Leaves notices) (g : α → β) :
    (x >>= fun a => Pure.pure (g a)).Leaves notices :=
  (hx.bind fun a => pure (g a)).of_eq (List.append_nil notices)

/-- A sequence whose first step leaves nothing. -/
theorem silent (hx : x.Leaves []) (hf : ∀ a, (f a).Leaves others) : (x >>= f).Leaves others :=
  hx.bind hf

end Leaves

/-- The step leaves the notices, in some order, and then the last one; if it stops before its end,
it leaves some of the notices, and not the last one. -/
structure Closes (x : Reading α) (notices : List Notice) (last : Notice) : Prop where
  of_ok : ∀ a, x.outcome = .ok a → ∃ found, x.notices = found ++ [last] ∧ found.Perm notices
  of_error : ∀ fault, x.outcome = .error fault → x.notices.Subperm notices

/-- A step whose value is noted at its end. -/
theorem Leaves.closes {x : Reading α} {notices : List Notice} {faults : List Fault} {a : α}
    (hx : x.Leaves notices) (ha : x.Reports faults a) (last : α → Notice) (g : α → β) :
    (x >>= fun b => Reading.note (last b) >>= fun _ => Pure.pure (g b)).Closes notices
      (last a) := by
  cases ho : x.outcome with
  | ok b =>
    obtain rfl : b = a := (ha.outcome_eq_ok_iff.1 ho).2
    constructor
    · intro c _
      exact ⟨x.notices, bind_notices_of_ok ho _, hx.perm b ho⟩
    · intro fault hfault
      rw [bind_outcome_of_ok ho] at hfault
      cases hfault
  | error fault =>
    constructor
    · intro c hc
      rw [bind_outcome_of_error ho] at hc
      cases hc
    · intro other _
      rw [bind_notices_of_error ho]
      exact hx.subperm

end Reading
end ApiReference
