import ApiReference.Fault
import ApiReference.Notice

/-!
# Steps that may fail and leave notices

A `Reading` is the outcome of a step, a value or the fault that stopped it, together with the
notices that the step left on the way. Notices of a step that fails are kept: in a sequence of steps
the notices come in order, up to and including those of the step that failed.

The readers of documents and the writers of annotations are sequences of such steps. It is a lawful
monad, so sequences can be regrouped, and the lemmas here say what a sequence does: its outcome is
that of the steps as if there were no notices (`bind_outcome`), and its notices are those of the
steps up to the first that fails (`bind_notices_of_ok`, `bind_notices_of_error`).

A step that is known not to leave notices is a plain `Except Fault`, and is used as a reading by
`Reading.ofExcept`.
-/

set_option autoImplicit false

namespace ApiReference

/-- The outcome of a step and the notices it left, in order. -/
structure Reading (α : Type) where
  notices : List Notice
  outcome : Except Fault α

namespace Reading

variable {α β γ : Type}

/-- The step that has a value and leaves no notice. -/
def done (a : α) : Reading α :=
  ⟨[], .ok a⟩

/-- The step that stops with a fault. -/
def fail (fault : Fault) : Reading α :=
  ⟨[], .error fault⟩

/-- The step that only leaves a notice. -/
def note (notice : Notice) : Reading Unit :=
  ⟨[notice], .ok ()⟩

/-- The step that leaves no notice and may fail. -/
def ofExcept (outcome : Except Fault α) : Reading α :=
  ⟨[], outcome⟩

/-- A step and then one that depends on its value. -/
def andThen (x : Reading α) (f : α → Reading β) : Reading β :=
  match x.outcome with
  | .ok a => ⟨x.notices ++ (f a).notices, (f a).outcome⟩
  | .error fault => ⟨x.notices, .error fault⟩

instance : Monad Reading where
  pure := done
  bind := andThen

@[simp] theorem pure_notices (a : α) : (pure a : Reading α).notices = [] := rfl

@[simp] theorem pure_outcome (a : α) : (pure a : Reading α).outcome = .ok a := rfl

@[simp] theorem fail_notices (fault : Fault) : (fail fault : Reading α).notices = [] := rfl

@[simp] theorem fail_outcome (fault : Fault) :
    (fail fault : Reading α).outcome = .error fault := rfl

@[simp] theorem fail_bind (fault : Fault) (f : α → Reading β) :
    (fail fault >>= f) = fail fault := rfl

theorem bind_outcome (x : Reading α) (f : α → Reading β) :
    (x >>= f).outcome = x.outcome.bind fun a => (f a).outcome := by
  obtain ⟨ns, o⟩ := x
  cases o <;> rfl

theorem bind_notices_of_ok {x : Reading α} {a : α} (h : x.outcome = .ok a) (f : α → Reading β) :
    (x >>= f).notices = x.notices ++ (f a).notices := by
  obtain ⟨ns, o⟩ := x
  cases h
  rfl

theorem bind_notices_of_error {x : Reading α} {fault : Fault} (h : x.outcome = .error fault)
    (f : α → Reading β) : (x >>= f).notices = x.notices := by
  obtain ⟨ns, o⟩ := x
  cases h
  rfl

instance : LawfulMonad Reading := by
  refine LawfulMonad.mk' Reading ?_ ?_ ?_
  · rintro α ⟨ns, o⟩
    cases o <;> simp [Functor.map, andThen, done]
  · intro α β a f
    simp [bind, pure, andThen, done]
  · rintro α β γ ⟨ns, o⟩ f g
    cases o with
    | error fault => rfl
    | ok a => cases h : (f a).outcome <;> simp [bind, andThen, h]

end Reading
end ApiReference
