/-
This file has lists of checks where the first failure decides.
-/

import Mathlib.Tactic

namespace VamsSoc.Library

/-- The checks run in order, and the first one that fails gives its error. -/
def firstError {ε : Type} (accepted : ε) : List (Bool × ε) → ε
  | [] => accepted
  | (fails, error) :: rest => if fails then error else firstError accepted rest

section Checks
variable {ε : Type} {accepted : ε}

/-- A record is accepted when no check fails. -/
theorem firstError_eq_accepted {checks : List (Bool × ε)} (real : ∀ check ∈ checks, check.2 ≠ accepted) :
    firstError accepted checks = accepted ↔ ∀ check ∈ checks, check.1 = false := by
  induction checks with
  | nil => simp [firstError]
  | cons check rest ih =>
      obtain ⟨error, others⟩ := List.forall_mem_cons.mp real
      rw [firstError, List.forall_mem_cons, ← ih others]
      cases check.1 with
      | false => simp
      | true => simpa using error

end Checks
end VamsSoc.Library
