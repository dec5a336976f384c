/-
This file bounds quotients of floating point numbers. If one positive number is
less than 2^53 times another, the quotient is rounded to zero or to a positive
number with a small exponent: rounding fills 53 bits, and at most one bit more is
needed when it carries. A decimal below 2^53 is read as such a quotient, so it is
read as a finite number, however many digits it has.
-/

import Mathlib
import Telemetry.Proofs.Arithmetic.Rounding

namespace Telemetry.Double

open Float.Model Float.Model.UnpackedFloat

/-- Zero, or a positive number with an exponent of at most one, which is below 2^54. -/
def IsModest : UnpackedFloat → Prop
  | .zero .positive => True
  | .finite .positive _ exponent _ => exponent ≤ 1
  | _ => False

/-! ### Rounding and packing -/

theorem mantissa_ofMantissaAndAccuracy (mantissa : Nat) (accuracy : Accuracy) :
    (ExtendedMantissa.ofMantissaAndAccuracy mantissa accuracy).mantissa = mantissa := by
  rcases accuracy with _ | order
  · rfl
  · cases order <;> rfl

/-- The exponent is raised to the target, and never lowered. -/
theorem snd_shiftToTargetExponent (mantissa : Nat) (exponent : Int) (accuracy : Accuracy) :
    (shiftToTargetExponent .binary64 mantissa exponent accuracy).2 =
      max exponent (max (totalExponent mantissa exponent - 53) (-1074)) := by
  show exponent + ((max (totalExponent mantissa exponent - 53) (-1074) - exponent).toNat : Int) = _
  omega

theorem log2_lt_of_lt {number bits : Nat} (positive : 0 < bits) (below : number < 2 ^ bits) :
    number.log2 < bits := by
  rcases number.eq_zero_or_pos with rfl | positive
  · exact Nat.log2_zero.trans_lt positive
  · exact (Nat.log2_lt positive.ne').2 below

/-- After the shift the mantissa has 53 bits at most. -/
theorem mantissa_shiftToTargetExponent_lt (mantissa : Nat) (exponent : Int)
    (accuracy : Accuracy) :
    (shiftToTargetExponent .binary64 mantissa exponent accuracy).1.mantissa < 2 ^ 53 := by
  show (ExtendedMantissa.ofMantissaAndAccuracy mantissa accuracy >>>
    (max (totalExponent mantissa exponent - 53) (-1074) - exponent).toNat).mantissa < 2 ^ 53
  rw [mantissa_shiftRight, mantissa_ofMantissaAndAccuracy,
    Nat.div_lt_iff_lt_mul (Nat.two_pow_pos _), ← pow_add]
  refine Nat.lt_log2_self.trans_le (Nat.pow_le_pow_right two_pos ?_)
  rw [totalExponent]
  omega

/-- A number below 2^53 is rounded to a modest one. -/
theorem isModest_roundWithAccuracy {mantissa : Nat} {exponent : Int} (low : exponent ≤ 0)
    (below : totalExponent mantissa exponent ≤ 53) (accuracy : Accuracy) :
    IsModest (roundWithAccuracy .binary64 .positive mantissa exponent accuracy) := by
  cases first : shiftToTargetExponent .binary64 mantissa exponent accuracy with
  | mk extended scale =>
    cases second : shiftToTargetExponent .binary64 extended.roundedMantissa scale .exact with
    | mk last final =>
      simp only [roundWithAccuracy, first, second]
      split
      · trivial
      · have fits : extended.mantissa < 2 ^ 53 :=
          (congrArg (·.1.mantissa) first).symm.trans_lt (mantissa_shiftToTargetExponent_lt ..)
        have rounded : extended.roundedMantissa < 2 ^ 54 :=
          ((roundedMantissa_bounds extended).2.trans fits).trans_lt (by decide)
        have bits : extended.roundedMantissa.log2 < 54 := log2_lt_of_lt (by decide) rounded
        have scaleIs := (congrArg (·.2) first).symm.trans (snd_shiftToTargetExponent ..)
        have finalIs := (congrArg (·.2) second).symm.trans (snd_shiftToTargetExponent ..)
        rw [totalExponent] at finalIs
        show final ≤ 1
        omega

/-- Components with a small exponent are those of a modest number. -/
theorem isModest_unpack_packComponents {exponent : BitVec 11} (small : exponent.toNat ≤ 1076)
    (mantissa : BitVec 52) :
    IsModest (UnpackedFloat.unpack .binary64
      (packComponents .binary64 .positive exponent mantissa)) := by
  have notGreatest : exponent ≠ -1#11 := by
    rintro rfl
    exact absurd small (by decide)
  by_cases least : exponent = 0#11
  · subst least
    unfold UnpackedFloat.unpack
    simp only [unpackExponent_packComponents, unpackMantissa_packComponents,
      unpackSign_packComponents, Sign.ofBitVec_toBitVec]
    rw [if_neg notGreatest]
    split
    · split
      · trivial
      · show (-1074 : Int) ≤ 1
        decide
    · contradiction
  · obtain ⟨positive, unpacked⟩ :=
      unpack_packComponents .positive exponent mantissa notGreatest least
    rw [unpacked]
    show (exponent.toNat : Int) - 1075 ≤ 1
    omega

/-- A modest number is still modest when it comes back from its bits. -/
theorem isModest_unpack_pack {number : UnpackedFloat} (modest : IsModest number) :
    IsModest (Float.Model.pack number).unpack := by
  show IsModest (UnpackedFloat.unpack .binary64 (UnpackedFloat.pack .binary64 number))
  fun_cases UnpackedFloat.pack Format.binary64 number with
  | case1 | case2 => exact modest.elim
  | case3 sign =>
    cases sign with
    | negative => exact modest.elim
    | positive => exact isModest_unpack_packComponents (by decide) _
  | case4 sign mantissa exponent positive biased infinite =>
    cases sign with
    | negative => exact modest.elim
    | positive =>
      replace modest : exponent ≤ 1 := modest
      have : biased = (exponent + 1023 + 52).toNat := rfl
      exact absurd (show 2 ^ 11 ≤ biased + 1 from infinite) (by omega)
  | case5 sign mantissa exponent positive bits biased finite =>
    cases sign with
    | negative => exact modest.elim
    | positive =>
      replace modest : exponent ≤ 1 := modest
      have bias : biased = (exponent + 1023 + 52).toNat := rfl
      have scale : (BitVec.ofNat 11 biased).toNat = biased := Nat.mod_eq_of_lt (by omega)
      exact isModest_unpack_packComponents (scale.trans_le (by omega)) _
  | case6 sign =>
    cases sign with
    | negative => exact modest.elim
    | positive => exact isModest_unpack_packComponents (by decide) _

/-! ### Quotients -/

theorem le_scaled_log2 {mantissa : Nat} (positive : 0 < mantissa) (exponent : Int) :
    (2 : ℚ) ^ (mantissa.log2 + exponent : Int) ≤ scaled ℚ mantissa exponent := by
  rw [scaled, zpow_add₀ two_ne_zero, zpow_natCast]
  refine mul_le_mul_of_nonneg_right ?_ (zpow_pos two_pos exponent).le
  exact_mod_cast Nat.log2_self_le positive.ne'

theorem scaled_lt_log2 (mantissa : Nat) (exponent : Int) :
    scaled ℚ mantissa exponent < (2 : ℚ) ^ (mantissa.log2 + 1 + exponent : Int) := by
  rw [scaled, zpow_add₀ two_ne_zero]
  refine mul_lt_mul_of_pos_right ?_ (zpow_pos two_pos exponent)
  exact_mod_cast (Nat.lt_log2_self (n := mantissa))

/-- The whole part of a quotient is at most the quotient. -/
theorem scaled_div_mul_scaled_le (first second shift : Nat) (target scale : Int) :
    scaled ℚ ((first <<< shift) / second) target * scaled ℚ second scale ≤
      scaled ℚ first (shift + target + scale) := by
  have whole : ((first <<< shift) / second : Nat) * (second : ℚ) ≤ first * 2 ^ shift := by
    have bound := Nat.div_mul_le_self (first <<< shift) second
    rw [Nat.shiftLeft_eq] at bound ⊢
    exact_mod_cast bound
  have power : (0 : ℚ) < 2 ^ target * 2 ^ scale := mul_pos (zpow_pos two_pos _) (zpow_pos two_pos _)
  calc scaled ℚ ((first <<< shift) / second) target * scaled ℚ second scale
      = ((first <<< shift) / second : Nat) * (second : ℚ) * (2 ^ target * 2 ^ scale) := by
        rw [scaled, scaled]
        ring
    _ ≤ first * 2 ^ shift * (2 ^ target * 2 ^ scale) := mul_le_mul_of_nonneg_right whole power.le
    _ = scaled ℚ first (shift + target + scale) := by
        rw [scaled, zpow_add₀ two_ne_zero, zpow_add₀ two_ne_zero, zpow_natCast]
        ring

/-- The quotient of positive numbers is modest if the first is less than 2^53 times the second. -/
theorem isModest_div {first second : Nat} {exponent scale : Int}
    (firstPositive : 0 < first) (secondPositive : 0 < second)
    (below : scaled ℚ first exponent < 2 ^ 53 * scaled ℚ second scale) :
    IsModest (UnpackedFloat.div .binary64 (.finite .positive first exponent firstPositive)
      (.finite .positive second scale secondPositive)) := by
  have order : totalExponent first exponent - totalExponent second scale ≤ 53 := by
    have bound : (2 : ℚ) ^ (first.log2 + exponent : Int) <
        2 ^ (53 + (second.log2 + 1 + scale) : Int) := by
      calc (2 : ℚ) ^ (first.log2 + exponent : Int)
          ≤ scaled ℚ first exponent := le_scaled_log2 firstPositive exponent
        _ < 2 ^ 53 * scaled ℚ second scale := below
        _ < 2 ^ 53 * 2 ^ (second.log2 + 1 + scale : Int) :=
            mul_lt_mul_of_pos_left (scaled_lt_log2 second scale) (by positivity)
        _ = 2 ^ (53 + (second.log2 + 1 + scale) : Int) := (zpow_add₀ two_ne_zero 53 _).symm
    have exponents := (zpow_lt_zpow_iff_right₀ one_lt_two).1 bound
    rw [totalExponent, totalExponent]
    omega
  let target : Int := min (exponent - scale)
    (max (totalExponent first exponent - totalExponent second scale - 53) (-1074))
  let shift : Nat := (exponent - scale - target).toNat
  let quotient : Nat := (first <<< shift) / second
  have low : target ≤ 0 := by omega
  show IsModest (roundWithAccuracy .binary64 .positive quotient target _)
  refine isModest_roundWithAccuracy low ?_ _
  rcases quotient.eq_zero_or_pos with zero | more
  · rw [zero, totalExponent, Nat.log2_zero]
    omega
  · have product : scaled ℚ quotient target * scaled ℚ second scale ≤ scaled ℚ first exponent := by
      have whole := scaled_div_mul_scaled_le first second shift target scale
      rwa [show shift + target + scale = exponent by omega] at whole
    have small : scaled ℚ quotient target < 2 ^ (53 : Int) := by
      rw [zpow_ofNat]
      exact lt_of_mul_lt_mul_right (product.trans_lt below) (scaled_pos ℚ secondPositive scale).le
    have exponents := (zpow_lt_zpow_iff_right₀ one_lt_two).1
      ((le_scaled_log2 more target).trans_lt small)
    rw [totalExponent]
    omega

/-! ### Decimals -/

/-- The powers of ten by which small numbers are divided are finite and at least one. -/
theorem one_le_powerOfTen (index : Fin Float.exactlyRepresentablePowersOfTen.size) :
    Float.exactlyRepresentablePowersOfTen[index].isFinite ∧
      1.0 ≤ Float.exactlyRepresentablePowersOfTen[index] := by
  revert index
  decide +kernel

theorem exists_unpack_eq_of_one_le {number : Float} (finite : number.isFinite)
    (large : 1.0 ≤ number) :
    ∃ mantissa exponent positive,
      number.toModel.unpack = .finite .positive mantissa exponent positive ∧
        1 ≤ scaled ℚ mantissa exponent := by
  have value : 1 ≤ exactValue ℚ number := by
    rw [← exactValue_one]
    exact (le_iff ℚ (by rfl) finite).1 large
  rw [exactValue] at value
  cases unpacked : number.toModel.unpack with
  | notANumber | infinity | zero =>
    rw [unpacked] at value
    exact absurd value (not_le.2 one_pos)
  | finite sign mantissa exponent positive =>
    rw [unpacked] at value
    cases sign with
    | positive => exact ⟨mantissa, exponent, positive, rfl, value⟩
    | negative =>
      have negative := neg_neg_of_pos (scaled_pos ℚ positive exponent)
      exact absurd value (not_le.2 (negative.trans one_pos))

/-- A decimal below 2^53 with digits behind the point is read as a modest number. -/
theorem isModest_ofScientific {digits places : Nat} (below : digits < 2 ^ 53 * 10 ^ places) :
    IsModest (Float.ofScientific digits true places).toModel.unpack := by
  by_cases exact : digits < 2 ^ 53 ∧ places ≤ 22
  · obtain ⟨small, few⟩ := exact
    have bound : places < Float.exactlyRepresentablePowersOfTen.size := Nat.lt_succ_of_le few
    have divided : Float.ofScientific digits true places =
        digits.toUInt64.toFloat / Float.exactlyRepresentablePowersOfTen[places] :=
      dif_pos ⟨small, few⟩
    obtain ⟨finite, large⟩ : Float.exactlyRepresentablePowersOfTen[places].isFinite ∧
        1.0 ≤ Float.exactlyRepresentablePowersOfTen[places] := one_le_powerOfTen ⟨places, bound⟩
    obtain ⟨mantissa, exponent, positive, unpacked, least⟩ :=
      exists_unpack_eq_of_one_le finite large
    rw [divided]
    show IsModest (Float.Model.pack (.div .binary64 digits.toUInt64.toFloat.toModel.unpack
      (Float.exactlyRepresentablePowersOfTen[places]).toModel.unpack)).unpack
    rw [unpacked]
    refine isModest_unpack_pack ?_
    rcases digits.eq_zero_or_pos with rfl | digitsPositive
    · trivial
    · obtain ⟨own, scale, ownPositive, ownUnpacked, -, -, -, -, value⟩ :=
        @denotes_toFloat ℚ _ _ _ digits digitsPositive small
      rw [ownUnpacked]
      refine isModest_div ownPositive positive ?_
      rw [value]
      calc (digits : ℚ) < 2 ^ 53 := by exact_mod_cast small
        _ ≤ 2 ^ 53 * scaled ℚ mantissa exponent := le_mul_of_one_le_right (by positivity) least
  · have rounded : Float.ofScientific digits true places =
        ⟨.pack (.ofScientific .binary64 digits (.negOfNat places))⟩ := dif_neg exact
    have fraction : 0 < places := by
      rcases places.eq_zero_or_pos with rfl | positive
      · exact absurd ⟨by omega, Nat.zero_le _⟩ exact
      · exact positive
    rw [rounded]
    refine isModest_unpack_pack ?_
    rw [Int.negOfNat_eq, Int.ofNat_eq_natCast, UnpackedFloat.ofScientific]
    split
    · trivial
    · rename_i nonzero
      rw [if_neg (by norm_num)]
      split
      · trivial
      · rw [if_neg (by omega)]
        refine isModest_div (Nat.pos_of_ne_zero nonzero) _ ?_
        rw [neg_neg, Int.toNat_natCast, scaled, scaled, zpow_zero, mul_one, mul_one]
        exact_mod_cast below

end Telemetry.Double
