/-!
# Steps that may fail

Reading a timestamp, looking up a path and delivering a command each take several steps, and the
first step that fails ends them.

* `ok_bind`, `error_bind` -- what is left to do once the outcome of a step is known.
* `bind_eq_ok_iff` -- all steps succeed exactly when each of them does with what the one before it
  gave.
-/

namespace Steward

variable {ε α β : Type}

@[simp] theorem ok_bind (a : α) (f : α → Except ε β) : Except.ok a >>= f = f a := rfl

@[simp] theorem error_bind (e : ε) (f : α → Except ε β) : Except.error e >>= f = .error e := rfl

/-- **Two steps succeed when the first one does and the second one does with what the first one
    gave.** -/
theorem bind_eq_ok_iff {x : Except ε α} {f : α → Except ε β} {b : β} :
    x >>= f = .ok b ↔ ∃ a, x = .ok a ∧ f a = .ok b := by
  cases x with
  | error e => exact ⟨nofun, nofun⟩
  | ok a =>
    constructor
    · intro h
      exact ⟨a, rfl, h⟩
    · intro ⟨a', ha, h⟩
      rw [Except.ok.inj ha]
      exact h

end Steward
