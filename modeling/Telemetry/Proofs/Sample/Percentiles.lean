/-
This file says what the percentiles of a sample are. Read exactly, the percentile
interpolates between the values around its position; it lies between the least
and the greatest value and rises with the quantile. On floating point numbers the
position is rounded, and still no value is read outside the list: a position that
has reached one has a first value below it, and a position below the rounded
length is below the length. Only a quantile that is no number would read outside,
and settings do not hold such.
-/

import Mathlib.Tactic.Linarith
import Telemetry.Proofs.Arithmetic.Exact
import Telemetry.Proofs.Arithmetic.Rounding
import Telemetry.Proofs.Exposition.Quantiles
import Telemetry.Sample.Snapshot

namespace Telemetry.Sample

open Exact
open Exposition (IsHeld)

/-! ### Reading inside the list -/

section Within

variable {Number : Type} [Arithmetic Number]

/-- The position of a percentile among the values, counted from one. -/
def position (values : List Int64) (p : Number) : Number :=
  p * Arithmetic.ofNat (values.length + 1)

/-- The percentile, if every value that it needs is read inside the list. -/
def percentileWithin? (values : List Int64) (p : Number) : Option Number :=
  let size := values.length
  let valueAt? (index : Nat) : Option Number := values[index]?.map toNumber
  if size = 0 then some (Arithmetic.ofNat 0)
  else
    let place := position values p
    if Arithmetic.less place (Arithmetic.ofNat 1) then valueAt? 0
    else if Arithmetic.atMost (Arithmetic.ofNat size) place then valueAt? (size - 1)
    else
      let whole := Arithmetic.wholePart place
      -- there is no value before the first one
      if whole = 0 then none
      else do
        let lower ← valueAt? (whole - 1)
        let upper ← valueAt? whole
        some (lower + (place - Arithmetic.ofNat whole) * (upper - lower))

variable {values : List Int64} {p : Number}

theorem map_getElem?_eq_some {index : Nat} (inside : index < values.length) :
    values[index]?.map toNumber = some (toNumber (values.getD index 0) : Number) := by
  rw [List.getD_eq_getElem?_getD, List.getElem?_eq_getElem inside, Option.getD_some,
    Option.map_some]

/-- The percentile is read inside the list exactly if the values around an inner position are. -/
theorem percentileWithin?_eq_some_iff (nonempty : values ≠ []) :
    percentileWithin? values p = some (percentile values p) ↔
      (Arithmetic.less (position values p) (Arithmetic.ofNat 1) = false →
        Arithmetic.atMost (Arithmetic.ofNat values.length) (position values p) = false →
        1 ≤ Arithmetic.wholePart (position values p) ∧
          Arithmetic.wholePart (position values p) < values.length) := by
  have size : 0 < values.length := List.length_pos_iff.2 nonempty
  unfold percentileWithin? percentile position
  simp only [if_neg size.ne']
  generalize p * Arithmetic.ofNat (values.length + 1) = place
  cases Arithmetic.less place (Arithmetic.ofNat 1) with
  | true =>
    simp only [if_true, map_getElem?_eq_some size]
    exact iff_of_true trivial nofun
  | false =>
    simp only [Bool.false_eq_true, if_false]
    cases Arithmetic.atMost (Arithmetic.ofNat values.length) place with
    | true =>
      simp only [if_true, map_getElem?_eq_some (Nat.sub_lt size Nat.one_pos)]
      exact iff_of_true trivial nofun
    | false =>
      simp only [Bool.false_eq_true, if_false]
      by_cases inside : 1 ≤ Arithmetic.wholePart place ∧ Arithmetic.wholePart place < values.length
      · obtain ⟨first, last⟩ := inside
        rw [if_neg (Nat.one_le_iff_ne_zero.1 first), map_getElem?_eq_some (by omega),
          map_getElem?_eq_some last]
        exact iff_of_true rfl fun _ _ => ⟨first, last⟩
      · refine iff_of_false ?_ fun claim => inside (claim trivial trivial)
        split
        · exact nofun
        · rename_i first
          rw [List.getElem?_eq_none (by omega : values.length ≤ Arithmetic.wholePart place)]
          cases values[Arithmetic.wholePart place - 1]? <;> exact nofun

end Within

section Floats

variable {values : List Int64} (nonempty : values ≠ []) (word : values.length < 2 ^ 64) {q : Float}

include nonempty word

/-- A position between one and the length has its whole part there. -/
theorem wholePart_bounds {place : Float} (real : place.isNaN = false)
    (low : ¬place < Float.ofNat 1) (high : ¬Float.ofNat values.length ≤ place) :
    1 ≤ place.toUInt64.toNat ∧ place.toUInt64.toNat < values.length := by
  have size : 0 < values.length := List.length_pos_iff.2 nonempty
  have lengthFinite := Double.isFinite_ofNat size word.le
  have oneFinite := Double.isFinite_ofNat Nat.one_pos (by decide)
  have finite := Double.isFinite_of_not_lt_of_not_le oneFinite lengthFinite real low high
  have below : place < Float.ofNat values.length := by
    rwa [Double.lt_iff ℚ finite lengthFinite, ← not_le, ← Double.le_iff ℚ lengthFinite finite]
  have lower : (1 : ℚ) ≤ Double.exactValue ℚ place := by
    rw [Double.lt_iff ℚ finite oneFinite, not_lt] at low
    rwa [(@Double.denotes_ofNat ℚ _ _ _ _ Nat.one_pos (by decide)).exactValue_eq,
      Nat.cast_one] at low
  -- the length is rounded, and may be rounded up, but the place does not lie in between
  have upper := @Double.exactValue_lt_of_lt_ofNat ℚ _ _ _ _ size word.le _ finite below
  rw [Double.toNat_toUInt64 ℚ finite]
  have atLeast : 1 ≤ ⌊Double.exactValue ℚ place⌋₊ := Nat.le_floor (by rwa [Nat.cast_one])
  have lessThan : ⌊Double.exactValue ℚ place⌋₊ < values.length := (Nat.floor_lt' size.ne').2 upper
  omega

/-- On floating point numbers, percentiles are read inside the list exactly for the quantiles that
are numbers. -/
theorem percentileWithin?_eq_some_iff_isNaN :
    percentileWithin? values q = some (percentile values q) ↔ q.isNaN = false := by
  rw [percentileWithin?_eq_some_iff nonempty]
  constructor
  · intro inside
    by_contra notReal
    have unpacked : (position values q).toModel.unpack = .notANumber :=
      Double.unpack_mul_of_isNaN (Bool.not_eq_false _ ▸ notReal) _
    have low : ¬position values q < Float.ofNat 1 := by
      rw [Double.lt_iff_compare, unpacked]
      exact nofun
    have high : ¬Float.ofNat values.length ≤ position values q := by
      rw [Double.le_iff_compare, unpacked]
      cases (Float.ofNat values.length).toModel.unpack <;> exact Bool.false_ne_true
    have whole : Arithmetic.wholePart (position values q) = 0 := by
      show ((position values q).toModel.unpack.toUInt64).toNat = 0
      rw [unpacked]
      rfl
    have first := (inside (decide_eq_false low) (decide_eq_false high)).1
    omega
  · intro real low high
    have moved : (position values q).isNaN = false :=
      Double.isNaN_mul_ofNat (Nat.succ_pos values.length) word real
    exact wholePart_bounds nonempty word moved (of_decide_eq_false low) (of_decide_eq_false high)

end Floats

/-! ### Interpolation -/

section Exact

variable {Number : Type} [Field Number] [LinearOrder Number] [FloorSemiring Number]

/-- Linear interpolation at a place among values, which are counted from one: at a value it is that
value, and between two neighbours it lies on the line through them. -/
structure IsInterpolation (values : List Int64) (place result : Number) : Prop where
  first : 1 ≤ place
  last : place ≤ values.length
  atValue {index : Nat} {value : Int64} : values[index]? = some value → place = index + 1 →
    result = toNumber value
  between {index : Nat} {lower upper : Int64} : values[index]? = some lower →
    values[index + 1]? = some upper → index + 1 ≤ place → place ≤ index + 2 →
      result = toNumber lower + (place - (index + 1)) * (toNumber upper - toNumber lower)

variable [IsStrictOrderedRing Number] {values : List Int64} {place result : Number}

/-- A place is that of a value or lies strictly between two neighbours. -/
theorem exists_value_or_neighbours (first : 1 ≤ place) (last : place ≤ values.length) :
    (∃ (index : Nat) (value : Int64), values[index]? = some value ∧ place = index + 1) ∨
      ∃ (index : Nat) (lower upper : Int64), values[index]? = some lower ∧
        values[index + 1]? = some upper ∧ index + 1 < place ∧ place < index + 2 := by
  have least : 1 ≤ ⌊place⌋₊ := Nat.le_floor (by rwa [Nat.cast_one])
  obtain ⟨index, whole⟩ := Nat.exists_eq_add_of_le' least
  have below : (index : Number) + 1 ≤ place := by
    have := Nat.floor_le (zero_le_one.trans first)
    rwa [whole, Nat.cast_add, Nat.cast_one] at this
  have above : place < index + 2 := by
    have := Nat.lt_floor_add_one place
    rw [whole] at this
    push_cast at this
    linarith
  have inside : index < values.length := by
    have : ((index + 1 : Nat) : Number) ≤ values.length := by
      push_cast
      exact below.trans last
    exact Nat.cast_le.1 this
  rcases below.eq_or_lt with same | strictly
  · exact Or.inl ⟨index, _, List.getElem?_eq_getElem inside, same.symm⟩
  · have insideToo : index + 1 < values.length := by
      have : ((index + 1 : Nat) : Number) < values.length := by
        push_cast
        exact strictly.trans_le last
      exact Nat.cast_lt.1 this
    exact Or.inr ⟨index, _, _, List.getElem?_eq_getElem inside,
      List.getElem?_eq_getElem insideToo, strictly, above⟩

/-- An interpolation has one result. -/
theorem IsInterpolation.unique {other : Number} (holds : IsInterpolation values place result)
    (otherHolds : IsInterpolation values place other) : result = other := by
  rcases exists_value_or_neighbours holds.first holds.last with
    ⟨index, value, found, here⟩ | ⟨index, lower, upper, found, next, above, below⟩
  · rw [holds.atValue found here, otherHolds.atValue found here]
  · rw [holds.between found next above.le below.le, otherHolds.between found next above.le below.le]

theorem le_of_succ_cast_le {index other : Nat} (order : (index : Number) + 1 ≤ other + 1) :
    index ≤ other :=
  Nat.cast_le.1 (le_of_add_le_add_right order)

section Ascending

variable (ascending : values.Pairwise (· ≤ ·))

include ascending

theorem toNumber_le_toNumber {index other : Nat} {value greater : Int64}
    (found : values[index]? = some value) (foundToo : values[other]? = some greater)
    (before : index ≤ other) : (toNumber value : Number) ≤ toNumber greater := by
  obtain ⟨inside, rfl⟩ := List.getElem?_eq_some_iff.1 found
  obtain ⟨insideToo, rfl⟩ := List.getElem?_eq_some_iff.1 foundToo
  have order : values[index] ≤ values[other] := by
    rcases before.eq_or_lt with rfl | strictly
    · exact Int64.le_refl _
    · exact List.pairwise_iff_getElem.1 ascending index other inside insideToo strictly
  exact Int.cast_le.2 (Int64.le_iff_toInt_le.1 order)

/-- An interpolation is at least every value up to its place. -/
theorem IsInterpolation.le_result (holds : IsInterpolation values place result) {index : Nat}
    {value : Int64} (found : values[index]? = some value) (before : index + 1 ≤ place) :
    toNumber value ≤ result := by
  rcases exists_value_or_neighbours holds.first holds.last with
    ⟨other, greater, foundToo, here⟩ | ⟨other, lower, upper, foundToo, next, above, below⟩
  · rw [holds.atValue foundToo here]
    exact toNumber_le_toNumber ascending found foundToo (le_of_succ_cast_le (before.trans here.le))
  · have order : index ≤ other := by
      have : ((index + 1 : Nat) : Number) < (other + 2 : Nat) := by
        push_cast
        exact before.trans_lt below
      have := Nat.cast_lt.1 this
      omega
    have rise : (toNumber lower : Number) ≤ toNumber upper :=
      toNumber_le_toNumber ascending foundToo next (Nat.le_succ other)
    rw [holds.between foundToo next above.le below.le]
    exact (toNumber_le_toNumber ascending found foundToo order).trans
      (le_add_of_nonneg_right (mul_nonneg (sub_nonneg.2 above.le) (sub_nonneg.2 rise)))

/-- An interpolation is at most every value from its place on. -/
theorem IsInterpolation.result_le (holds : IsInterpolation values place result) {index : Nat}
    {value : Int64} (found : values[index]? = some value) (after : place ≤ index + 1) :
    result ≤ toNumber value := by
  rcases exists_value_or_neighbours holds.first holds.last with
    ⟨other, greater, foundToo, here⟩ | ⟨other, lower, upper, foundToo, next, above, below⟩
  · rw [holds.atValue foundToo here]
    exact toNumber_le_toNumber ascending foundToo found (le_of_succ_cast_le (here.ge.trans after))
  · have order : other + 1 ≤ index := by
      have : ((other + 1 : Nat) : Number) < (index + 1 : Nat) := by
        push_cast
        exact above.trans_le after
      have := Nat.cast_lt.1 this
      omega
    have rise : (toNumber lower : Number) ≤ toNumber upper :=
      toNumber_le_toNumber ascending foundToo next (Nat.le_succ other)
    have part : place - (other + 1) ≤ 1 := by linarith
    rw [holds.between foundToo next above.le below.le]
    refine le_trans ?_ (toNumber_le_toNumber ascending next found order)
    calc toNumber lower + (place - (other + 1)) * (toNumber upper - toNumber lower)
      _ ≤ toNumber lower + 1 * (toNumber upper - toNumber lower) :=
          add_le_add_right (mul_le_mul_of_nonneg_right part (sub_nonneg.2 rise)) _
      _ = toNumber upper := by ring

/-- An interpolation rises with its place. -/
theorem IsInterpolation.mono {other further : Number} (holds : IsInterpolation values place result)
    (otherHolds : IsInterpolation values other further) (order : place ≤ other) :
    result ≤ further := by
  rcases exists_value_or_neighbours holds.first holds.last with
    ⟨index, value, found, here⟩ | ⟨index, lower, upper, found, next, above, below⟩
  · rw [holds.atValue found here]
    exact otherHolds.le_result ascending found (here.ge.trans order)
  · have rise : (toNumber lower : Number) ≤ toNumber upper :=
      toNumber_le_toNumber ascending found next (Nat.le_succ index)
    have nextPlace : ((index + 1 : Nat) : Number) + 1 = index + 2 := by push_cast; ring
    -- the next value lies between the two results unless both are on the same line
    rcases le_or_gt (index + 2 : Number) other with beyond | same
    · exact (holds.result_le ascending next (nextPlace ▸ below.le)).trans
        (otherHolds.le_result ascending next (nextPlace ▸ beyond))
    · rw [holds.between found next above.le below.le,
        otherHolds.between found next (above.le.trans order) same.le]
      exact add_le_add_right (mul_le_mul_of_nonneg_right (sub_le_sub_right order _)
        (sub_nonneg.2 rise)) _

end Ascending

/-! ### Exact percentiles -/

/-- In exact arithmetic, percentiles are read inside the list. -/
theorem percentileWithin?_eq_some {values : List Int64} (nonempty : values ≠ []) (p : Number) :
    percentileWithin? values p = some (percentile values p) := by
  rw [percentileWithin?_eq_some_iff nonempty]
  intro low high
  replace low := not_lt.1 (of_decide_eq_false low)
  replace high := not_le.1 (of_decide_eq_false high)
  rw [ofNat_eq] at low high
  have size : values.length ≠ 0 := (List.length_pos_iff.2 nonempty).ne'
  exact ⟨Nat.le_floor low, (Nat.floor_lt' size).2 high⟩

/-- The line from the value at the whole part of a place to the next one. -/
def lineAt (values : List Int64) (place : Number) : Number :=
  let whole := ⌊place⌋₊
  let valueAt (index : Nat) : Number := toNumber (values.getD index 0)
  valueAt (whole - 1) + (place - whole) * (valueAt whole - valueAt (whole - 1))

theorem getD_of_getElem? {index : Nat} {value : Int64} (found : values[index]? = some value) :
    values.getD index 0 = value := by
  rw [List.getD_eq_getElem?_getD, found, Option.getD_some]

theorem lineAt_natCast (whole : Nat) :
    lineAt values (whole : Number) = toNumber (values.getD (whole - 1) 0) := by
  simp only [lineAt, Nat.floor_natCast, sub_self, zero_mul, add_zero]

theorem isInterpolation_lineAt (first : 1 ≤ place) (last : place ≤ values.length) :
    IsInterpolation values place (lineAt values place) where
  first := first
  last := last
  atValue {index value} found here := by
    rw [here, ← Nat.cast_add_one, lineAt_natCast, Nat.add_sub_cancel, getD_of_getElem? found]
  between {index lower upper} found next above below := by
    rcases below.lt_or_eq with inner | here
    · have whole : ⌊place⌋₊ = index + 1 := by
        rw [Nat.floor_eq_iff (zero_le_one.trans first)]
        push_cast
        exact ⟨above, by linarith⟩
      simp only [lineAt, whole, Nat.add_sub_cancel, getD_of_getElem? found, getD_of_getElem? next,
        Nat.cast_add_one]
    · have whole : place = (index + 2 : Nat) := by rw [here]; push_cast; rfl
      rw [whole, lineAt_natCast, Nat.add_succ_sub_one, getD_of_getElem? next]
      push_cast
      ring

/-- The position of a percentile, clamped to the places of the values. -/
def clampedPosition (values : List Int64) (p : Number) : Number :=
  max 1 (min (values.length : Number) (p * (values.length + 1)))

section Clamped

variable (nonempty : values ≠ []) (p : Number)

include nonempty

theorem one_le_length : (1 : Number) ≤ values.length :=
  Nat.one_le_cast.2 (List.length_pos_iff.2 nonempty)

theorem clampedPosition_le : clampedPosition values p ≤ values.length :=
  max_le (one_le_length nonempty) (min_le_left _ _)

/-- The percentile lies on the line at its clamped position. -/
theorem percentile_eq_lineAt : percentile values p = lineAt values (clampedPosition values p) := by
  have size : 0 < values.length := List.length_pos_iff.2 nonempty
  have least : (1 : Number) ≤ values.length := one_le_length nonempty
  have first := @lineAt_natCast Number _ _ _ _ values 1
  have last := @lineAt_natCast Number _ _ _ _ values values.length
  rw [Nat.cast_one] at first
  unfold percentile clampedPosition
  simp only [if_neg size.ne', ofNat_eq, Nat.cast_one, Nat.cast_add]
  generalize p * (values.length + 1 : Number) = place
  rcases lt_or_ge place 1 with low | notLow
  · rw [max_eq_left ((min_le_right _ _).trans low.le), first]
    exact if_pos (decide_eq_true low)
  · rw [if_neg (by simpa [Arithmetic.less] using notLow)]
    rcases le_or_gt (values.length : Number) place with high | notHigh
    · rw [min_eq_left high, max_eq_right least, last]
      exact if_pos (decide_eq_true high)
    · rw [min_eq_right notHigh.le, max_eq_right notLow]
      exact if_neg (by simpa [Arithmetic.atMost] using notHigh)

/-- A percentile, read exactly, is linear interpolation at its clamped position, and nothing else
is. -/
theorem isInterpolation_iff {result : Number} :
    IsInterpolation values (clampedPosition values p) result ↔ result = percentile values p := by
  have holds := isInterpolation_lineAt (le_max_left _ _) (clampedPosition_le nonempty p)
  rw [percentile_eq_lineAt nonempty]
  exact ⟨fun other => other.unique holds, fun same => same ▸ holds⟩

end Clamped

theorem clampedPosition_mono {p other : Number} (order : p ≤ other) :
    clampedPosition values p ≤ clampedPosition values other :=
  max_le_max le_rfl (min_le_min le_rfl (mul_le_mul_of_nonneg_right order (by positivity)))

end Exact

/-- Percentiles of ascending values, for every quantile that settings can hold: it lies between zero
and one. On floating point numbers and in exact arithmetic, no value is read outside the list, which
is as long as a machine word can count. In exact arithmetic the percentile lies between the first
and the last value, a larger quantile has no lower one, and it is linear interpolation at the
position among the values, counted from one and clamped to their places. -/
theorem percentiles_interpolate_inside {Number : Type} [Field Number] [LinearOrder Number]
    [IsStrictOrderedRing Number] [FloorSemiring Number] {values : List Int64}
    (nonempty : values ≠ []) (ascending : values.Pairwise (· ≤ ·)) {q : Float} (held : IsHeld q) :
    let quantile : Number := Double.exactValue Number q
    (0 ≤ quantile ∧ quantile ≤ 1) ∧
      (values.length < 2 ^ 64 → percentileWithin? values q = some (percentile values q)) ∧
      percentileWithin? values quantile = some (percentile values quantile) ∧
      (toNumber (values.head nonempty) ≤ percentile values quantile ∧
        percentile values quantile ≤ toNumber (values.getLast nonempty)) ∧
      (∀ r, IsHeld r → q ≤ r →
        percentile values quantile ≤ percentile values (Double.exactValue Number r)) ∧
      ∀ result, IsInterpolation values (clampedPosition values quantile) result ↔
        result = percentile values quantile := by
  intro quantile
  have size : 0 < values.length := List.length_pos_iff.2 nonempty
  obtain ⟨finite, bounds⟩ :=
    Exposition.exactValue_bounds_of_isQuantile Number (Exposition.isHeld_iff.1 held)
  have holds (p : Number) := (isInterpolation_iff nonempty p).2 rfl
  have head : values[0]? = some (values.head nonempty) := by
    rw [← List.head?_eq_getElem?, List.head?_eq_some_head]
  have last : values[values.length - 1]? = some (values.getLast nonempty) := by
    rw [← List.getLast?_eq_getElem?, List.getLast?_eq_some_getLast]
  have lastPlace : ((values.length - 1 : Nat) : Number) + 1 = values.length := by
    rw [← Nat.cast_add_one, Nat.sub_add_cancel size]
  refine ⟨bounds, fun word => ?_, percentileWithin?_eq_some nonempty quantile, ⟨?_, ?_⟩,
    fun r heldToo order => ?_, fun result => isInterpolation_iff nonempty quantile⟩
  · exact (percentileWithin?_eq_some_iff_isNaN nonempty word).2
      (Double.isNaN_eq_false_of_isFinite finite)
  · refine (holds quantile).le_result ascending head ?_
    rw [Nat.cast_zero, zero_add]
    exact le_max_left _ _
  · refine (holds quantile).result_le ascending last ?_
    rw [lastPlace]
    exact clampedPosition_le nonempty quantile
  · have finiteToo :=
      (Exposition.exactValue_bounds_of_isQuantile Number (Exposition.isHeld_iff.1 heldToo)).1
    exact (holds quantile).mono ascending (holds _)
      (clampedPosition_mono ((Double.le_iff Number finite finiteToo).1 order))

/-- The median lies between the two middle values, and the next default quantile reaches the
greatest value. -/
theorem median_of_far_values :
    let values := [Int64.minValue, 7, 8, Int64.maxValue]
    let median : ℚ := Double.exactValue ℚ 0.5
    (values ≠ [] ∧ values.Pairwise (· ≤ ·) ∧ values.length < 2 ^ 64 ∧ IsHeld 0.5 ∧ IsHeld 0.95 ∧
        (0.5 : Float) ≤ 0.95) ∧
      percentileWithin? values (0.5 : Float) = some 7.5 ∧
      percentileWithin? values median = some (15 / 2) ∧
      (toNumber Int64.minValue ≤ percentile values median ∧
        percentile values median ≤ toNumber Int64.maxValue) ∧
      percentile values median ≤ percentile values (Double.exactValue ℚ 0.95) ∧
      IsInterpolation values (5 / 2 : ℚ) (15 / 2) := by
  intro values median
  have nonempty : values ≠ [] := List.cons_ne_nil _ _
  have ascending : values.Pairwise (· ≤ ·) := by decide +kernel
  have word : values.length < 2 ^ 64 := by decide
  have held : IsHeld 0.5 := Exposition.isHeld_iff.2 (by decide +kernel)
  have heldToo : IsHeld 0.95 := Exposition.isHeld_iff.2 (by decide +kernel)
  have order : (0.5 : Float) ≤ 0.95 := by decide +kernel
  have half : median = 1 / 2 := by decide +kernel
  have value : percentile values (0.5 : Float) = 7.5 := by decide +kernel
  have exact : percentile values (1 / 2 : ℚ) = 15 / 2 := by decide +kernel
  have place : clampedPosition values (1 / 2 : ℚ) = 5 / 2 := by decide +kernel
  obtain ⟨-, read, readExactly, inside, rising, line⟩ :=
    @percentiles_interpolate_inside ℚ _ _ _ _ values nonempty ascending 0.5 held
  have same : percentile values median = 15 / 2 := by rw [half, exact]
  refine ⟨⟨nonempty, ascending, word, held, heldToo, order⟩, ?_, ?_, inside,
    rising 0.95 heldToo order, ?_⟩
  · rw [read word, value]
  · rw [← same]
    exact readExactly
  · rw [← place, ← half]
    exact (line _).2 same.symm

end Telemetry.Sample
