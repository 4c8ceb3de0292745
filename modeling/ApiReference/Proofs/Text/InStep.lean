import ApiReference.Proofs.Reading

/-!
# Texts that differ where booleans do

Two lists `Clash` if they differ in an item that both have at the same place. Whatever is appended
to them, and whatever is put in front of both, they still clash; lists that merely differ need not.

Two texts are `InStep` with two lists of booleans if both pairs are equal or both clash. Texts that
are put together from parts in step are therefore in step with the lists put together
(`InStep.append`), and they are equal exactly if the lists are (`InStep.eq_iff`). `SameUpTo` says
this of texts that may be missing.

The relation is made for an induction over two types that are the same. Their texts have the same
parts in the same order, some of which differ, and each part comes with its booleans. If one part
were a proper beginning of the other, what follows could make up for the difference, and the whole
texts could be equal although the parts are not. Clashing excludes that: two texts that clash stay
different whatever is appended to either of them.
-/

set_option autoImplicit false

namespace ApiReference

/-! ## Lists that clash -/

section Clash

variable {α : Type} {xs ys : List α}

/-- The lists differ in an item that both have at the same place. -/
def Clash (xs ys : List α) : Prop :=
  ∃ common x y xs' ys', x ≠ y ∧ xs = common ++ x :: xs' ∧ ys = common ++ y :: ys'

theorem clash_of_ne {x y : α} (h : x ≠ y) (xs ys : List α) : Clash (x :: xs) (y :: ys) :=
  ⟨[], x, y, xs, ys, h, rfl, rfl⟩

theorem Clash.ne (h : Clash xs ys) : xs ≠ ys := by
  obtain ⟨common, x, y, xs', ys', hxy, rfl, rfl⟩ := h
  intro heq
  exact hxy (List.cons.inj (List.append_cancel_left heq)).1

theorem Clash.symm (h : Clash xs ys) : Clash ys xs := by
  obtain ⟨common, x, y, xs', ys', hxy, hxs, hys⟩ := h
  exact ⟨common, y, x, ys', xs', hxy.symm, hys, hxs⟩

/-- Whatever is appended, a clash remains. -/
theorem Clash.append (h : Clash xs ys) (as bs : List α) : Clash (xs ++ as) (ys ++ bs) := by
  obtain ⟨common, x, y, xs', ys', hxy, rfl, rfl⟩ := h
  exact ⟨common, x, y, xs' ++ as, ys' ++ bs, hxy, by simp, by simp⟩

theorem Clash.append_left (h : Clash xs ys) (as : List α) : Clash (as ++ xs) (as ++ ys) := by
  obtain ⟨common, x, y, xs', ys', hxy, rfl, rfl⟩ := h
  exact ⟨as ++ common, x, y, xs', ys', hxy, by simp, by simp⟩

end Clash

/-! ## In step

The booleans and the texts of the parts are put together in the same order, so being in step is kept
by appending both. -/

/-- The lists are equal and so are the texts, or the lists clash and so do the texts. -/
def InStep (bs cs : List Bool) (v w : String) : Prop :=
  (bs = cs ∧ v = w) ∨ (Clash bs cs ∧ Clash v.toList w.toList)

section InStep

variable {bs cs bs' cs' : List Bool} {v w v' w' : String}

theorem InStep.refl (bs : List Bool) (v : String) : InStep bs bs v v :=
  .inl ⟨rfl, rfl⟩

theorem InStep.symm (h : InStep bs cs v w) : InStep cs bs w v := by
  rcases h with ⟨rfl, rfl⟩ | ⟨hlists, htexts⟩
  · exact .refl bs v
  · exact .inr ⟨hlists.symm, htexts.symm⟩

/-- A boolean on one side only. -/
theorem inStep_of_clash (h : Clash v.toList w.toList) : InStep [true] [false] v w :=
  .inr ⟨clash_of_ne (by decide) [] [], h⟩

/-- **Parts in step make wholes in step.** -/
theorem InStep.append (h : InStep bs cs v w) (h' : InStep bs' cs' v' w') :
    InStep (bs ++ bs') (cs ++ cs') (v ++ v') (w ++ w') := by
  rw [InStep, String.toList_append, String.toList_append]
  rcases h with ⟨rfl, rfl⟩ | ⟨hlists, htexts⟩
  · rcases h' with ⟨rfl, rfl⟩ | ⟨hlists, htexts⟩
    · exact .inl ⟨rfl, rfl⟩
    · exact .inr ⟨hlists.append_left bs, htexts.append_left v.toList⟩
  · exact .inr ⟨hlists.append bs' cs', htexts.append v'.toList w'.toList⟩

theorem InStep.append_text (h : InStep bs cs v w) (s : String) :
    InStep bs cs (v ++ s) (w ++ s) := by
  simpa using h.append (InStep.refl [] s)

/-- Texts in step are equal exactly if the booleans are. -/
theorem InStep.eq_iff (h : InStep bs cs v w) : v = w ↔ bs = cs := by
  rcases h with ⟨rfl, rfl⟩ | ⟨hlists, htexts⟩
  · exact iff_of_true rfl rfl
  · exact iff_of_false (fun h => htexts.ne (congrArg String.toList h)) hlists.ne

end InStep

/-- Both texts are there and in step with the lists, or both are missing, with the same message. -/
inductive SameUpTo (bs cs : List Bool) : Except Fault String → Except Fault String → Prop where
  | ok {v w : String} (h : InStep bs cs v w) : SameUpTo bs cs (.ok v) (.ok w)
  | error {f g : Fault} (h : f.message? = g.message?) : SameUpTo bs cs (.error f) (.error g)

section SameUpTo

variable {bs cs bs' cs' : List Bool} {x y x' y' : Except Fault String}

theorem SameUpTo.append (h : SameUpTo bs cs x y) (h' : SameUpTo bs' cs' x' y')
    (separator : String) :
    SameUpTo (bs ++ bs') (cs ++ cs')
      (x >>= fun v => x' >>= fun v' => pure (v ++ separator ++ v'))
      (y >>= fun w => y' >>= fun w' => pure (w ++ separator ++ w')) := by
  cases h with
  | error h => exact .error h
  | @ok v w h =>
    cases h' with
    | error h' => exact .error h'
    | ok h' => exact .ok ((h.append_text separator).append h')

theorem SameUpTo.around {v w : String} (h : InStep bs cs v w) (h' : SameUpTo bs' cs' x y)
    (closing : String) :
    SameUpTo (bs ++ bs') (cs ++ cs') (x >>= fun inside => pure (v ++ inside ++ closing))
      (y >>= fun inside => pure (w ++ inside ++ closing)) := by
  cases h' with
  | error h' => exact .error h'
  | ok h' => exact .ok ((h.append h').append_text closing)

/-- Texts for the items of two lists, put together with a separator. -/
theorem SameUpTo.mapM {α : Type} {f : α → Except Fault String} {booleans : α → List Bool}
    {as as' : List α}
    (h : List.Forall₂ (fun a a' => SameUpTo (booleans a) (booleans a') (f a) (f a')) as as')
    (separator : String) :
    SameUpTo (as.flatMap booleans) (as'.flatMap booleans) (separator.intercalate <$> as.mapM f)
      (separator.intercalate <$> as'.mapM f) := by
  induction h with
  | nil => exact .ok (.refl [] _)
  | @cons a a' rest rest' ha hrest ih =>
    cases hrest with
    | nil =>
      rw [intercalate_mapM_singleton, intercalate_mapM_singleton, List.flatMap_singleton,
        List.flatMap_singleton]
      exact ha
    | cons hnext hrest =>
      rw [intercalate_mapM_cons f a (List.cons_ne_nil _ _),
        intercalate_mapM_cons f a' (List.cons_ne_nil _ _), List.flatMap_cons, List.flatMap_cons]
      exact ha.append ih separator

end SameUpTo

end ApiReference
