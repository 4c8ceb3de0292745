import ApiReference.Reading
import Mathlib.Data.List.Forall2

/-!
# Steps that give a value

Which value a sequence of steps gives, and which fault stops it if it gives none
(`Reading.Reports`). The notices that the steps leave on the way play no part here.

A step that leaves no notices is its outcome. The same step taken for each item of a list gives a
value for each (`mapM_eq_ok_iff`), or stops with the fault of the first item that has one
(`mapM_eq_error_iff`). Two steps may be compared by their values alone (`SameValue`).

`Reading.Reports x faults a` names two things that `x` alone does not show: the faults that the step
would meet if it went on after each of them, and the value that it gives if there are none. A
specification computes both from the input, without the step. The list is longer than what can be
observed, and that is what makes it compose: the faults of a sequence are those of its steps put
together (`Reading.Reports.bind`), whereas the first fault of a sequence is a case distinction. That
the value has to be named even for a step that fails is harmless, since every specification has a
value to fall back on.

## What is here

* `mapM_eq_ok_iff`, `mapM_eq_error_iff`, `exists_mapM_eq_ok`: a step for each item of a list.
* `SameValue`: steps with the same value, or both without one.
* `Reading.Reports`: the faults of a step and its value.
-/

set_option autoImplicit false

namespace ApiReference

variable {α β : Type}

/-! ## Steps without notices

Writing lines and texts leaves no notices, so most of what is shown of annotations is about
`Except`. -/

theorem ok_bind (a : α) (f : α → Except Fault β) : (Except.ok a >>= f) = f a := rfl

theorem error_bind (fault : Fault) (f : α → Except Fault β) :
    (Except.error fault >>= f) = .error fault := rfl

/-- A sequence gives a value if both steps do. -/
theorem bind_eq_ok_iff {x : Except Fault α} {f : α → Except Fault β} {b : β} :
    (x >>= f) = .ok b ↔ ∃ a, x = .ok a ∧ f a = .ok b := by
  cases x with
  | error fault => simp [error_bind]
  | ok a => simp [ok_bind]

/-- A step for each item gives values if it gives one for each item, and these are the values. -/
theorem mapM_eq_ok_iff {f : α → Except Fault β} {as : List α} {bs : List β} :
    as.mapM f = .ok bs ↔ List.Forall₂ (fun a b => f a = .ok b) as bs := by
  induction as generalizing bs with
  | nil =>
    rw [List.mapM_nil, List.forall₂_nil_left_iff]
    exact ⟨fun h => (Except.ok.inj h).symm, fun h => h ▸ rfl⟩
  | cons a rest ih =>
    rw [List.mapM_cons, List.forall₂_cons_left_iff]
    cases ha : f a with
    | error fault => simp [error_bind]
    | ok b =>
      rw [ok_bind]
      cases hrest : rest.mapM f with
      | error fault =>
        refine ⟨nofun, ?_⟩
        rintro ⟨c, cs, -, hcs, -⟩
        rw [ih.2 hcs] at hrest
        cases hrest
      | ok cs =>
        rw [ok_bind]
        constructor
        · intro h
          exact ⟨b, cs, rfl, ih.1 hrest, (Except.ok.inj h).symm⟩
        · rintro ⟨c, ds, hc, hds, rfl⟩
          rw [ih.2 hds, Except.ok.injEq] at hrest
          rw [hrest, Except.ok.inj hc]
          rfl

/-- A step that gives each item a value in some relation to it gives the values of all items. -/
theorem exists_mapM_eq_ok {f : α → Except Fault β} {R : α → β → Prop} {as : List α}
    (h : ∀ a ∈ as, ∃ b, f a = .ok b ∧ R a b) : ∃ bs, as.mapM f = .ok bs ∧ List.Forall₂ R as bs := by
  induction as with
  | nil => exact ⟨[], rfl, .nil⟩
  | cons a rest ih =>
    rw [List.forall_mem_cons] at h
    obtain ⟨⟨b, hb, hR⟩, hrest⟩ := h
    obtain ⟨bs, hbs, hall⟩ := ih hrest
    refine ⟨b :: bs, ?_, .cons hR hall⟩
    rw [List.mapM_cons, hb, hbs]
    rfl

/-- Whatever each item gives has a property that is shared by all values of the step. -/
theorem forall_mem_of_mapM_eq_ok {f : α → Except Fault β} {P : β → Prop} {as : List α}
    {bs : List β} (h : as.mapM f = .ok bs) (hP : ∀ a ∈ as, ∀ b, f a = .ok b → P b) :
    ∀ b ∈ bs, P b := by
  have hall := mapM_eq_ok_iff.1 h
  clear h
  induction hall with
  | nil => exact fun _ hb => absurd hb List.not_mem_nil
  | cons hab _ ih =>
    rw [List.forall_mem_cons] at hP ⊢
    exact ⟨hP.1 _ hab, ih hP.2⟩

theorem exists_mem_of_mapM_eq_ok {f : α → Except Fault β} {as : List α} {bs : List β}
    (h : as.mapM f = .ok bs) {a : α} (ha : a ∈ as) : ∃ b ∈ bs, f a = .ok b := by
  have hall := mapM_eq_ok_iff.1 h
  clear h
  induction hall with
  | nil => cases ha
  | @cons a' b as bs hab _ ih =>
    rcases List.mem_cons.1 ha with rfl | hrest
    · exact ⟨b, List.mem_cons_self, hab⟩
    · obtain ⟨c, hc, hac⟩ := ih hrest
      exact ⟨c, List.mem_cons_of_mem b hc, hac⟩

/-- A step taken for changed items gives changed values if it does so for each item. -/
theorem mapM_map_eq {γ δ : Type} {f : α → Except Fault β} {g : γ → Except Fault δ} {φ : α → γ}
    {ψ : β → δ} {as : List α} (h : ∀ a ∈ as, g (φ a) = ψ <$> f a) :
    (as.map φ).mapM g = List.map ψ <$> as.mapM f := by
  induction as with
  | nil => rfl
  | cons a rest ih =>
    rw [List.forall_mem_cons] at h
    rw [List.map_cons, List.mapM_cons, List.mapM_cons, h.1, ih h.2]
    cases f a with
    | error fault => rfl
    | ok b => cases rest.mapM f <;> rfl

theorem ne_nil_of_mapM_eq_ok {f : α → Except Fault β} {as : List α} {bs : List β}
    (h : as.mapM f = .ok bs) (hne : as ≠ []) : bs ≠ [] := by
  rintro rfl
  exact hne (List.forall₂_nil_right_iff.1 (mapM_eq_ok_iff.1 h))

theorem intercalate_mapM_singleton (f : α → Except Fault String) (a : α) (separator : String) :
    separator.intercalate <$> [a].mapM f = f a := by
  cases h : f a <;> simp [h]

/-- Texts for the items of two lists, put together with a separator. -/
theorem intercalate_mapM_append {f : α → Except Fault String} {as bs : List α} (has : as ≠ [])
    (hbs : bs ≠ []) (separator : String) :
    separator.intercalate <$> (as ++ bs).mapM f =
      (separator.intercalate <$> as.mapM f) >>= fun s =>
        (separator.intercalate <$> bs.mapM f) >>= fun r => pure (s ++ separator ++ r) := by
  rw [List.mapM_append]
  cases hs : as.mapM f with
  | error fault => rfl
  | ok texts =>
    cases hr : bs.mapM f with
    | error fault => rfl
    | ok others =>
      exact congrArg Except.ok (String.intercalate_append_of_ne_nil
        (ne_nil_of_mapM_eq_ok hs has) (ne_nil_of_mapM_eq_ok hr hbs))

theorem intercalate_mapM_cons (f : α → Except Fault String) (a : α) {as : List α} (h : as ≠ [])
    (separator : String) :
    separator.intercalate <$> (a :: as).mapM f =
      f a >>= fun s => (separator.intercalate <$> as.mapM f) >>= fun r =>
        pure (s ++ separator ++ r) := by
  rw [← intercalate_mapM_singleton f a separator]
  exact intercalate_mapM_append (List.cons_ne_nil a []) h separator

/-- A step for each item stops at the first item that has faults, with the first of these. -/
theorem mapM_eq_error_iff {f : α → Except Fault β} {faults : α → List Fault} {as : List α}
    (h : ∀ a ∈ as, ∀ fault, f a = .error fault ↔ (faults a).head? = some fault) (fault : Fault) :
    as.mapM f = .error fault ↔ (as.flatMap faults).head? = some fault := by
  induction as with
  | nil => exact ⟨nofun, nofun⟩
  | cons a rest ih =>
    rw [List.forall_mem_cons] at h
    rw [List.mapM_cons, List.flatMap_cons, List.head?_append]
    cases ha : f a with
    | error first =>
      rw [(h.1 first).1 ha, error_bind, Option.some_or, Except.error.injEq, Option.some.injEq]
    | ok b =>
      have hnone : (faults a).head? = none :=
        Option.eq_none_iff_forall_ne_some.2 fun first he => by
          rw [(h.1 first).2 he] at ha
          cases ha
      rw [hnone, ok_bind, Option.none_or, ← ih h.2]
      cases rest.mapM f with
      | error first => rfl
      | ok bs => exact ⟨nofun, nofun⟩

/-- Two steps give the same value, or neither gives one. -/
inductive SameValue : Except Fault α → Except Fault α → Prop where
  | ok (a : α) : SameValue (.ok a) (.ok a)
  | error (fault other : Fault) : SameValue (.error fault) (.error other)

namespace SameValue

theorem refl (x : Except Fault α) : SameValue x x := by
  cases x with
  | ok a => exact .ok a
  | error fault => exact .error fault fault

theorem bind {x y : Except Fault α} {f g : α → Except Fault β} (h : SameValue x y)
    (hf : ∀ a, SameValue (f a) (g a)) : SameValue (x >>= f) (y >>= g) := by
  cases h with
  | ok a => exact hf a
  | error fault other => exact .error fault other

/-- A value that is taken further in the same way. -/
theorem map {x y : Except Fault α} (h : SameValue x y) (f : α → β) :
    SameValue (x >>= fun a => pure (f a)) (y >>= fun a => pure (f a)) :=
  h.bind fun a => .ok (f a)

theorem mapM {γ : Type} {f : α → Except Fault γ} {g : β → Except Fault γ} {as : List α}
    {bs : List β} (h : List.Forall₂ (fun a b => SameValue (f a) (g b)) as bs) :
    SameValue (as.mapM f) (bs.mapM g) := by
  induction h with
  | nil => exact .ok []
  | cons hab _ ih =>
    rw [List.mapM_cons, List.mapM_cons]
    exact hab.bind fun c => ih.bind fun cs => .ok (c :: cs)

end SameValue

namespace Reading

theorem bind_outcome_of_ok {x : Reading α} {a : α} (h : x.outcome = .ok a) (f : α → Reading β) :
    (x >>= f).outcome = (f a).outcome := by
  rw [bind_outcome, h]
  rfl

theorem bind_outcome_of_error {x : Reading α} {fault : Fault} (h : x.outcome = .error fault)
    (f : α → Reading β) : (x >>= f).outcome = .error fault := by
  rw [bind_outcome, h]
  rfl

/-! ## The fault that stops a step

The first of the listed faults is the one that is met. From an empty list it follows that there is a
value, which is how totality is shown. -/

/-- The step stops with the first of the faults; if there are none, it gives the value. -/
def Reports (x : Reading α) (faults : List Fault) (a : α) : Prop :=
  x.outcome =
    match faults with
    | [] => .ok a
    | fault :: _ => .error fault

namespace Reports

variable {x : Reading α} {f : α → Reading β} {faults others : List Fault} {a : α} {b : β}

theorem pure (a : α) : Reports (Pure.pure a) [] a := rfl

theorem note (notice : Notice) : Reports (Reading.note notice) [] () := rfl

/-- A sequence of steps has the faults of its steps in order. -/
theorem bind (hx : x.Reports faults a) (hf : (f a).Reports others b) :
    (x >>= f).Reports (faults ++ others) b := by
  cases faults with
  | nil => exact (bind_outcome_of_ok hx f).trans hf
  | cons fault rest => exact bind_outcome_of_error hx f

theorem of_eq (hx : x.Reports faults a) (h : faults = others) : x.Reports others a :=
  h ▸ hx

/-- A sequence of steps whose first one always gives a value. -/
theorem always (hx : x.Reports [] a) (hf : (f a).Reports others b) :
    (x >>= f).Reports others b :=
  hx.bind hf

/-- A step whose value is taken further. -/
theorem map (hx : x.Reports faults a) (g : α → β) :
    (x >>= fun a => Pure.pure (g a)).Reports faults (g a) :=
  (hx.bind (pure (g a))).of_eq (List.append_nil faults)

/-- The step gives a value exactly if there are no faults, and then it is the one named. -/
theorem outcome_eq_ok_iff (hx : x.Reports faults a) {c : α} :
    x.outcome = .ok c ↔ faults = [] ∧ c = a := by
  rw [hx]
  cases faults with
  | nil => simp [eq_comm]
  | cons fault rest => simp

/-- The step stops exactly with the first of its faults. -/
theorem outcome_eq_error_iff (hx : x.Reports faults a) {fault : Fault} :
    x.outcome = .error fault ↔ faults.head? = some fault := by
  rw [hx]
  cases faults <;> simp

end Reports
end Reading
end ApiReference
