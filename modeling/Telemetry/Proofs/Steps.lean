/-
This file takes steps apart that can fail: the second one is taken if the first
one succeeds, and the failure of either is the failure of both.
-/

namespace Telemetry

variable {Failure First Second : Type} {first : Except Failure First}
  {next : First → Except Failure Second}

theorem bind_eq_ok_iff {result : Second} :
    (first >>= next) = .ok result ↔ ∃ value, first = .ok value ∧ next value = .ok result := by
  cases first <;> simp [bind, Except.bind]

theorem bind_eq_error_iff {failure : Failure} :
    (first >>= next) = .error failure ↔
      first = .error failure ∨ ∃ value, first = .ok value ∧ next value = .error failure := by
  cases first <;> simp [bind, Except.bind]

end Telemetry
