/-
This file reads arithmetic over a field, where nothing is rounded. What is
computed by a cleverer way than it is meant can be proved equal to what is meant
there: repeated squaring gives the power.
-/

import Mathlib.Algebra.Order.Floor.Defs
import Mathlib.Tactic.Ring
import Telemetry.Arithmetic

namespace Telemetry.Exact

variable {Number : Type} [Field Number] [LinearOrder Number] [FloorSemiring Number]

/-- The arithmetic of a field. -/
scoped instance arithmetic : Arithmetic Number where
  ofInt value := (value : Number)
  wholePart value := ⌊value⌋₊
  less first second := decide (first < second)
  atMost first second := decide (first ≤ second)

theorem ofNat_eq (value : Nat) : (Arithmetic.ofNat value : Number) = value :=
  Int.cast_natCast value

theorem mul_lowest_digit (result base : Number) (exponent : Nat) :
    (if exponent % 2 = 1 then result * base else result) = result * base ^ (exponent % 2) := by
  rcases Nat.mod_two_eq_zero_or_one exponent with even | odd
  · rw [even, if_neg Nat.zero_ne_one, pow_zero, mul_one]
  · rw [odd, if_pos rfl, pow_one]

/-- Repeated squaring multiplies by the power. -/
theorem powerOnto_eq (result base : Number) (exponent : Nat) :
    Arithmetic.powerOnto result base exponent = result * base ^ exponent := by
  fun_induction Arithmetic.powerOnto result base exponent with
  | case1 result base exponent product small =>
    rw [← Nat.mod_eq_of_lt small]
    exact mul_lowest_digit result base exponent
  | case2 result base exponent product large inductionHypothesis =>
    have digit : product = result * base ^ (exponent % 2) := mul_lowest_digit result base exponent
    rw [inductionHypothesis, digit, ← pow_two, ← pow_mul, mul_assoc, ← pow_add, Nat.mod_add_div]

/-- A power is the power, also one with a negative exponent. -/
theorem power_eq_zpow (base : Number) (exponent : Int) :
    Arithmetic.power base exponent = base ^ exponent := by
  have one : (Arithmetic.ofNat 1 : Number) = 1 := (ofNat_eq 1).trans Nat.cast_one
  rw [Arithmetic.power, powerOnto_eq, one, one_mul]
  split
  · rename_i negative
    rw [one_div, ← zpow_natCast, Int.ofNat_natAbs_of_nonpos negative.le, zpow_neg, inv_inv]
  · rename_i notNegative
    rw [← zpow_natCast, Int.natAbs_of_nonneg (Int.not_lt.1 notNegative)]

end Telemetry.Exact
