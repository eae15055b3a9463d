import Mathlib

/-!
# Computations that can fail

Most operations of the library return `Except`: a result, or the error that stopped them. Their
proofs take a successful call apart step by step. A bind succeeded exactly when its first step did
and the rest did from that step's value. Stating this once lets each proof peel a `do` block apart
with `obtain`, in the order its steps run, where unfolding `Except.bind` would nest a case split
per step.
-/

namespace Except

variable {ε ε' α β : Type}

/-- A bind succeeded exactly when its first step succeeded and the rest, from that step's value,
did too. -/
theorem bind_eq_ok_iff {x : Except ε α} {f : α → Except ε β} {b : β} :
    x >>= f = .ok b ↔ ∃ a, x = .ok a ∧ f a = .ok b := by
  cases x <;> simp [bind, Except.bind]

/-- A bind failed exactly when its first step did, or the rest did from that step's value. -/
theorem bind_eq_error_iff {x : Except ε α} {f : α → Except ε β} {e : ε} :
    x >>= f = .error e ↔ x = .error e ∨ ∃ a, x = .ok a ∧ f a = .error e := by
  cases x <;> simp [bind, Except.bind]

/-- A pure computation succeeds with exactly its value. -/
theorem pure_eq_ok_iff {a b : α} : (pure a : Except ε α) = .ok b ↔ a = b := by
  simp [pure, Except.pure]

/-- Relabelling errors keeps every result. -/
theorem mapError_eq_ok_iff {f : ε → ε'} {x : Except ε α} {a : α} :
    x.mapError f = .ok a ↔ x = .ok a := by
  cases x <;> simp [Except.mapError]

/-- A relabelled error is the relabelling of an error of the computation. -/
theorem mapError_eq_error_iff {f : ε → ε'} {x : Except ε α} {e : ε'} :
    x.mapError f = .error e ↔ ∃ c, x = .error c ∧ e = f c := by
  cases x <;> simp [Except.mapError, eq_comm]

/-- Mapping the result keeps every error. -/
theorem map_eq_error_iff {f : α → β} {x : Except ε α} {e : ε} :
    x.map f = .error e ↔ x = .error e := by
  cases x <;> simp [Except.map]

end Except
