/-
This file says when the mean of a sample can be trusted. The values are added in
64 bits, so the sum that is shown differs from the sum of the values by a
multiple of `2 ^ 64`, and the mean is that sum by the number of values. The mean
is the mean of the values exactly if their sum can be written in 64 bits, and
then it lies between the least and the greatest of them. Beyond that it can lie
outside, and two of the longest durations have a negative mean.
-/

import Mathlib.Algebra.Order.BigOperators.Group.List
import Mathlib.Algebra.Order.Field.Basic
import Mathlib.Data.List.Pairwise
import Mathlib.Data.Rat.Floor
import Mathlib.Tactic.NormNum
import Telemetry.Proofs.Arithmetic.Exact
import Telemetry.Proofs.Sample.Reservoirs

namespace Telemetry.Sample

open Exact

/-- Sums in 64 bits are sums up to a multiple of `2 ^ 64`. -/
theorem toInt_foldl_add (values : List Int64) (start : Int64) :
    (values.foldl (· + ·) start).toInt =
      (start.toInt + (values.map Int64.toInt).sum).bmod (2 ^ 64) := by
  induction values generalizing start with
  | nil =>
    rw [List.foldl_nil, List.map_nil, List.sum_nil, add_zero]
    exact (Int64.toInt_bmod start).symm
  | cons value rest inductionHypothesis =>
    rw [List.foldl_cons, inductionHypothesis, Int64.toInt_add, Int.bmod_add_bmod, List.map_cons,
      List.sum_cons, add_assoc]

/-- Whether a number can be written in 64 bits. -/
def FitsWord (number : Int) : Prop :=
  -2 ^ 63 ≤ number ∧ number < 2 ^ 63

theorem bmod_eq_self_iff (number : Int) : number.bmod (2 ^ 64) = number ↔ FitsWord number := by
  rw [Int.bmod_def, FitsWord]
  omega

theorem toNumber_eq {Number : Type} [Field Number] [LinearOrder Number] [FloorSemiring Number]
    (value : Int64) : (toNumber value : Number) = value.toInt :=
  rfl

namespace Snapshot

/-- The sum of the kept values, however large. -/
def total (snapshot : Snapshot) : Int :=
  (snapshot.values.map Int64.toInt).sum

theorem toInt_sum (snapshot : Snapshot) : snapshot.sum.toInt = snapshot.total.bmod (2 ^ 64) := by
  rw [sum, toInt_foldl_add, Int64.toInt_zero, zero_add]
  rfl

/-! ### The least and the greatest value -/

section Ascending

variable {snapshot : Snapshot} (ascending : snapshot.values.Pairwise (· ≤ ·)) {value : Int64}
  (member : value ∈ snapshot.values)

include ascending member

theorem least_le : snapshot.least ≤ value := by
  rw [least, List.head?_eq_some_head (List.ne_nil_of_mem member), Option.getD_some]
  exact ascending.rel_head member

theorem le_greatest : value ≤ snapshot.greatest := by
  rw [greatest, List.getLast?_eq_some_getLast (List.ne_nil_of_mem member), Option.getD_some]
  exact ascending.rel_getLast member

end Ascending

theorem size_mul_least_le_total {snapshot : Snapshot}
    (ascending : snapshot.values.Pairwise (· ≤ ·)) :
    snapshot.size * snapshot.least.toInt ≤ snapshot.total := by
  have bound := List.card_nsmul_le_sum (snapshot.values.map Int64.toInt) snapshot.least.toInt
    fun number member => by
      obtain ⟨value, own, rfl⟩ := List.mem_map.1 member
      exact Int64.le_iff_toInt_le.1 (least_le ascending own)
  rwa [List.length_map, nsmul_eq_mul] at bound

theorem total_le_size_mul_greatest {snapshot : Snapshot}
    (ascending : snapshot.values.Pairwise (· ≤ ·)) :
    snapshot.total ≤ snapshot.size * snapshot.greatest.toInt := by
  have bound := List.sum_le_card_nsmul (snapshot.values.map Int64.toInt) snapshot.greatest.toInt
    fun number member => by
      obtain ⟨value, own, rfl⟩ := List.mem_map.1 member
      exact Int64.le_iff_toInt_le.1 (le_greatest ascending own)
  rwa [List.length_map, nsmul_eq_mul] at bound

/-! ### The mean -/

section Exact

variable {Number : Type} [Field Number] [LinearOrder Number] [FloorSemiring Number]
  {snapshot : Snapshot} (nonempty : snapshot.values ≠ [])

include nonempty

theorem mean_eq : (snapshot.mean : Number) = snapshot.sum.toInt / snapshot.size := by
  rw [mean, List.isEmpty_eq_false_iff.2 nonempty, if_neg Bool.false_ne_true, toNumber_eq, ofNat_eq]

variable (Number) [IsStrictOrderedRing Number]

omit [FloorSemiring Number] in
theorem size_pos : (0 : Number) < snapshot.size :=
  Nat.cast_pos.2 (List.length_pos_iff.2 nonempty)

/-- The mean is the mean of the values exactly if their sum can be written in 64 bits. -/
theorem mean_eq_total_div_iff :
    (snapshot.mean : Number) = snapshot.total / snapshot.size ↔ FitsWord snapshot.total := by
  rw [mean_eq nonempty, div_left_inj' (size_pos Number nonempty).ne', Int.cast_inj, toInt_sum,
    bmod_eq_self_iff]

theorem least_le_mean_iff :
    (toNumber snapshot.least : Number) ≤ snapshot.mean ↔
      snapshot.size * snapshot.least.toInt ≤ snapshot.total.bmod (2 ^ 64) := by
  rw [mean_eq nonempty, toNumber_eq, le_div_iff₀ (size_pos Number nonempty), ← toInt_sum, mul_comm]
  exact_mod_cast Iff.rfl

theorem mean_le_greatest_iff :
    (snapshot.mean : Number) ≤ toNumber snapshot.greatest ↔
      snapshot.total.bmod (2 ^ 64) ≤ snapshot.size * snapshot.greatest.toInt := by
  rw [mean_eq nonempty, toNumber_eq, div_le_iff₀ (size_pos Number nonempty), ← toInt_sum, mul_comm]
  exact_mod_cast Iff.rfl

theorem mean_nonneg_iff : 0 ≤ (snapshot.mean : Number) ↔ 0 ≤ snapshot.sum := by
  rw [mean_eq nonempty, le_div_iff₀ (size_pos Number nonempty), zero_mul, Int.cast_nonneg_iff,
    Int64.le_iff_toInt_le, Int64.toInt_zero]

end Exact

theorem sum_nonneg_iff (snapshot : Snapshot) :
    0 ≤ snapshot.sum ↔ snapshot.total % 2 ^ 64 < 2 ^ 63 := by
  rw [Int64.le_iff_toInt_le, Int64.toInt_zero, toInt_sum, Int.bmod_def]
  omega

theorem total_ofValues (count : Int64) (values : List Int64) :
    (ofValues count values).total = (values.map Int64.toInt).sum :=
  ((List.mergeSort_perm values _).map _).sum_eq

theorem size_ofValues (count : Int64) (values : List Int64) :
    (ofValues count values).size = values.length :=
  (List.mergeSort_perm values _).length_eq

end Snapshot

/-- When the mean of a sample lies inside its values, for every list of values that is not empty.
The mean is the mean of the values exactly if their sum can be written in 64 bits, and then it lies
between the least and the greatest of them. In general the sum is counted around in 64 bits, which
decides whether the mean lies there. A mean is negative exactly if the sum that is shown is, and of
values that are not negative neither is negative if their sum can be written in 64 bits. -/
theorem mean_is_mean_of_values_iff {Number : Type} [Field Number] [LinearOrder Number]
    [IsStrictOrderedRing Number] [FloorSemiring Number] (count : Int64) {values : List Int64}
    (nonempty : values ≠ []) :
    let snapshot := Snapshot.ofValues count values
    let total := (values.map Int64.toInt).sum
    let mean : Number := snapshot.mean
    let inside := toNumber snapshot.least ≤ mean ∧ mean ≤ toNumber snapshot.greatest
    (∀ value ∈ values, snapshot.least ≤ value ∧ value ≤ snapshot.greatest) ∧
      (mean = total / values.length ↔ FitsWord total) ∧
      (FitsWord total → inside) ∧
      (inside ↔ values.length * snapshot.least.toInt ≤ total.bmod (2 ^ 64) ∧
        total.bmod (2 ^ 64) ≤ values.length * snapshot.greatest.toInt) ∧
      (0 ≤ mean ↔ 0 ≤ snapshot.sum) ∧ (0 ≤ snapshot.sum ↔ total % 2 ^ 64 < 2 ^ 63) ∧
      ((∀ value ∈ values, 0 ≤ value) → FitsWord total → 0 ≤ mean ∧ 0 ≤ snapshot.sum) := by
  intro snapshot total mean inside
  have perm : snapshot.values.Perm values := List.mergeSort_perm values _
  have ascending := ascending_values_ofValues count values
  have kept : snapshot.values ≠ [] := fun empty => nonempty (List.nil_perm.1 (empty ▸ perm))
  have same : snapshot.total = total := Snapshot.total_ofValues count values
  have size : snapshot.size = values.length := Snapshot.size_ofValues count values
  have exact := Snapshot.mean_eq_total_div_iff Number kept
  have left := Snapshot.least_le_mean_iff Number kept
  have right := Snapshot.mean_le_greatest_iff Number kept
  have meanSign := Snapshot.mean_nonneg_iff Number kept
  have sumSign := snapshot.sum_nonneg_iff
  rw [same, size] at exact left right
  rw [same] at sumSign
  have insideIff := and_congr left right
  refine ⟨fun value member => ?_, exact, fun fits => insideIff.2 ?_, insideIff, meanSign, sumSign,
    fun notNegative fits => ?_⟩
  · have own := perm.symm.subset member
    exact ⟨Snapshot.least_le ascending own, Snapshot.le_greatest ascending own⟩
  · have lower := Snapshot.size_mul_least_le_total ascending
    have upper := Snapshot.total_le_size_mul_greatest ascending
    rw [(bmod_eq_self_iff total).2 fits, ← same, ← size]
    exact ⟨lower, upper⟩
  · have totalSign : 0 ≤ total := List.sum_nonneg fun number member => by
      obtain ⟨value, own, rfl⟩ := List.mem_map.1 member
      exact Int64.le_iff_toInt_le.1 (notNegative value own)
    have shown : 0 ≤ snapshot.sum := sumSign.2 (by have := fits.2; omega)
    exact ⟨meanSign.2 shown, shown⟩

/-- Two of the longest and two of the least durations: in the middle their sum leaves 64 bits, and
in the end it fits. -/
theorem mean_of_far_values :
    let values := [Int64.maxValue, Int64.minValue, 4, Int64.maxValue, Int64.minValue]
    let snapshot := Snapshot.ofValues 5 values
    let mean : ℚ := snapshot.mean
    values ≠ [] ∧ FitsWord 2 ∧ mean = 2 / 5 ∧
      toNumber snapshot.least ≤ mean ∧ mean ≤ toNumber snapshot.greatest := by
  intro values snapshot mean
  have nonempty : values ≠ [] := List.cons_ne_nil _ _
  have total : (values.map Int64.toInt).sum = 2 := by decide
  have fits : FitsWord (values.map Int64.toInt).sum := ⟨by decide, by decide⟩
  obtain ⟨-, exact, inside, -⟩ := @mean_is_mean_of_values_iff ℚ _ _ _ _ 5 values nonempty
  have value := exact.2 fits
  rw [total] at value
  exact ⟨nonempty, total ▸ fits, value, inside fits⟩

theorem values_ofValues_replicate (count : Int64) (size : Nat) (value : Int64) :
    (Snapshot.ofValues count (List.replicate size value)).values = List.replicate size value :=
  List.perm_replicate.1 (List.mergeSort_perm _ _)

/-- Two of the longest durations that a timer can record have a negative sum and a negative mean,
and two of the least values have the mean zero. -/
theorem equal_values_have_other_mean :
    let longest := Snapshot.ofValues 2 [Int64.maxValue, Int64.maxValue]
    let least := Snapshot.ofValues 2 [Int64.minValue, Int64.minValue]
    (longest.least = Int64.maxValue ∧ longest.greatest = Int64.maxValue ∧
        longest.sum = -2 ∧ (longest.mean : ℚ) = -1) ∧
      least.least = Int64.minValue ∧ least.greatest = Int64.minValue ∧ (least.mean : ℚ) = 0 := by
  intro longest least
  have ofLongest : longest = ⟨2, [Int64.maxValue, Int64.maxValue]⟩ :=
    congrArg (Snapshot.mk 2) (values_ofValues_replicate 2 2 Int64.maxValue)
  have ofLeast : least = ⟨2, [Int64.minValue, Int64.minValue]⟩ :=
    congrArg (Snapshot.mk 2) (values_ofValues_replicate 2 2 Int64.minValue)
  rw [ofLongest, ofLeast]
  decide +kernel

end Telemetry.Sample
