/-
This file says which floating point number a whole number becomes. Up to 53 bits
it is kept exactly. Beyond that its last bits are dropped, and what it becomes
can lie above it, but by less than one step; so no floating point number below
the one that it becomes is as large as the whole number itself.
-/

import Mathlib
import Telemetry.Proofs.Arithmetic.Doubles

namespace Telemetry.Double

open Float.Model Float.Model.UnpackedFloat

/-! ### Packing -/

section Components

variable (sign : Sign) (exponent : BitVec 11) (mantissa : BitVec 52)

/-- Only the greatest exponent stands for what is no number. -/
theorem isNaN_unpack_packComponents (number : exponent = -1#11 → mantissa = 0#52) :
    (UnpackedFloat.unpack .binary64 (packComponents .binary64 sign exponent mantissa)).isNaN =
      false := by
  unfold UnpackedFloat.unpack
  simp only [unpackExponent_packComponents, unpackMantissa_packComponents]
  split
  · rename_i greatest
    rw [if_pos (number greatest)]
    rfl
  · split
    · split <;> rfl
    · rfl

/-- An exponent that is neither the greatest nor the least stands for a full mantissa. -/
theorem unpack_packComponents (notGreatest : exponent ≠ -1#11) (notLeast : exponent ≠ 0#11) :
    ∃ positive, UnpackedFloat.unpack .binary64 (packComponents .binary64 sign exponent mantissa) =
      .finite sign (2 ^ 52 + mantissa.toNat) (exponent.toNat - 1075) positive := by
  have leading := toNat_leading_append mantissa
  simp only [← leading]
  refine ⟨leading ▸ by omega, ?_⟩
  unfold UnpackedFloat.unpack
  simp only [unpackExponent_packComponents, unpackMantissa_packComponents,
    unpackSign_packComponents, Sign.ofBitVec_toBitVec, notGreatest, notLeast, if_false]
  rfl

end Components

/-- A full mantissa with an exponent in range comes back from its bits. -/
theorem unpack_pack {sign : Sign} {mantissa : Nat} {exponent : Int} (positive : 0 < mantissa)
    (full : 2 ^ 52 ≤ mantissa) (fits : mantissa < 2 ^ 53) (lower : -1074 ≤ exponent)
    (upper : exponent ≤ 971) :
    (Float.Model.pack (.finite sign mantissa exponent positive)).unpack =
      .finite sign mantissa exponent positive := by
  obtain ⟨biased, rfl⟩ : ∃ biased : Nat, exponent = biased - 1075 :=
    ⟨(exponent + 1075).toNat, by omega⟩
  obtain ⟨rest, rfl⟩ := Nat.exists_eq_add_of_le full
  have scale : (BitVec.ofNat 11 biased).toNat = biased := Nat.mod_eq_of_lt (by omega)
  have bits : (BitVec.ofNat 52 rest).toNat = rest := Nat.mod_eq_of_lt (by omega)
  have notGreatest : BitVec.ofNat 11 biased ≠ -1#11 := fun equal => by
    have : biased = 2047 := scale.symm.trans (congrArg BitVec.toNat equal)
    omega
  have notLeast : BitVec.ofNat 11 biased ≠ 0#11 := fun equal => by
    have : biased = 0 := scale.symm.trans (congrArg BitVec.toNat equal)
    omega
  obtain ⟨above, word⟩ := unpack_packComponents sign _ (BitVec.ofNat 52 rest) notGreatest notLeast
  simp only [scale, bits] at word
  have number : isNaNBits (packComponents .binary64 sign (BitVec.ofNat 11 biased)
      (BitVec.ofNat 52 rest)) = false := by
    rw [isNaNBits, unpackExponent_packComponents]
    exact decide_eq_false fun greatest => notGreatest greatest.1
  show UnpackedFloat.unpack .binary64 (UnpackedFloat.pack .binary64 _) = _
  rw [← word, pack_unpack, number, if_neg Bool.false_ne_true]

/-- A number remains a number when it is packed. -/
theorem isNaN_unpack_pack {number : UnpackedFloat} (real : number.isNaN = false) :
    (Float.Model.pack number).unpack.isNaN = false := by
  show (UnpackedFloat.unpack .binary64 (UnpackedFloat.pack .binary64 number)).isNaN = false
  fun_cases UnpackedFloat.pack Format.binary64 number with
  | case1 => exact absurd real nofun
  | case2 | case4 => exact isNaN_unpack_packComponents _ _ _ fun _ => rfl
  | case3 => exact isNaN_unpack_packComponents _ _ _ nofun
  | case5 sign mantissa exponent positive bits biased small =>
    refine isNaN_unpack_packComponents _ _ _ fun greatest => ?_
    have scale : (BitVec.ofNat 11 biased).toNat = biased :=
      Nat.mod_eq_of_lt (by have : ¬2 ^ 11 ≤ biased + 1 := small; omega)
    have : biased = 2047 := scale.symm.trans (congrArg BitVec.toNat greatest)
    exact absurd (show 2 ^ 11 ≤ biased + 1 by omega) small
  | case6 => exact isNaN_unpack_packComponents _ _ _ nofun

/-- What is no number gives none as a factor. -/
theorem unpack_mul_of_isNaN {number : Float} (notNumber : number.isNaN) (other : Float) :
    (number * other).toModel.unpack = .notANumber := by
  replace notNumber : number.toModel.unpack.isNaN := notNumber
  show (Float.Model.pack (.mul .binary64 number.toModel.unpack other.toModel.unpack)).unpack = _
  cases unpacked : number.toModel.unpack with
  | notANumber =>
    rw [UnpackedFloat.mul]
    exact unpack_packedNaN
  | infinity | zero | finite =>
    rw [unpacked] at notNumber
    cases notNumber

/-! ### Dropping bits -/

/-- A mantissa without residual bits, from which the last bits are dropped. -/
def kept (mantissa shift : Nat) : Nat :=
  ((⟨mantissa, false, false⟩ : ExtendedMantissa) >>> shift).roundedMantissa

theorem roundedMantissa_bounds (extended : ExtendedMantissa) :
    extended.mantissa ≤ extended.roundedMantissa ∧
      extended.roundedMantissa ≤ extended.mantissa + 1 := by
  obtain ⟨mantissa, roundBit, stickyBit⟩ := extended
  cases roundBit <;> cases stickyBit <;>
    simp only [ExtendedMantissa.roundedMantissa, ExtendedMantissa.accuracy,
      Accuracy.roundToNearestEven] <;> omega

theorem shiftRight_mul_two_pow (mantissa shift : Nat) :
    (⟨mantissa * 2 ^ shift, false, false⟩ : ExtendedMantissa) >>> shift =
      ⟨mantissa, false, false⟩ := by
  induction shift generalizing mantissa with
  | zero => rw [pow_zero, mul_one]; rfl
  | succ shift inductionHypothesis =>
    have next := inductionHypothesis (mantissa * 2)
    rw [mul_assoc, ← pow_succ'] at next
    show ((⟨mantissa * 2 ^ (shift + 1), false, false⟩ : ExtendedMantissa) >>> shift).shiftRightOne =
      _
    rw [next]
    simp [ExtendedMantissa.shiftRightOne]

theorem kept_mul_two_pow (mantissa shift : Nat) : kept (mantissa * 2 ^ shift) shift = mantissa :=
  congrArg ExtendedMantissa.roundedMantissa (shiftRight_mul_two_pow mantissa shift)

theorem div_le_kept (mantissa shift : Nat) : mantissa / 2 ^ shift ≤ kept mantissa shift :=
  (mantissa_shiftRight ⟨mantissa, false, false⟩ shift).ge.trans (roundedMantissa_bounds _).1

theorem kept_le_div_add_one (mantissa shift : Nat) :
    kept mantissa shift ≤ mantissa / 2 ^ shift + 1 :=
  (roundedMantissa_bounds _).2.trans
    (Nat.succ_le_succ (mantissa_shiftRight ⟨mantissa, false, false⟩ shift).le)

/-- What is kept is less than one step above the mantissa. -/
theorem kept_mul_two_pow_lt (mantissa shift : Nat) :
    kept mantissa shift * 2 ^ shift < mantissa + 2 ^ shift := by
  have step : 0 < 2 ^ shift := Nat.two_pow_pos shift
  rcases Nat.eq_zero_or_pos (mantissa % 2 ^ shift) with exact | rest
  · obtain ⟨whole, rfl⟩ := Nat.dvd_of_mod_eq_zero exact
    rw [mul_comm (2 ^ shift) whole, kept_mul_two_pow]
    omega
  · have below := Nat.mul_le_mul_right (2 ^ shift) (kept_le_div_add_one mantissa shift)
    have split := Nat.div_add_mod mantissa (2 ^ shift)
    rw [add_mul, one_mul, mul_comm (_ / _)] at below
    omega

/-! ### Rounding -/

theorem log2_mul_two_pow {mantissa : Nat} (nonzero : mantissa ≠ 0) (shift : Nat) :
    (mantissa * 2 ^ shift).log2 = mantissa.log2 + shift := by
  have step : 0 < 2 ^ shift := Nat.two_pow_pos shift
  refine (Nat.log2_eq_iff (mul_ne_zero nonzero step.ne')).2 ⟨?_, ?_⟩
  · rw [pow_add]
    exact Nat.mul_le_mul_right _ (Nat.log2_self_le nonzero)
  · rw [Nat.add_right_comm, pow_add]
    exact Nat.mul_lt_mul_of_pos_right Nat.lt_log2_self step

/-- Of a mantissa of at least 53 bits so many are kept, and one more after a carry. -/
theorem kept_bounds {mantissa : Nat} (full : 2 ^ 52 ≤ mantissa) :
    2 ^ 52 ≤ kept mantissa (mantissa.log2 - 52) ∧ kept mantissa (mantissa.log2 - 52) ≤ 2 ^ 53 := by
  have nonzero : mantissa ≠ 0 := by omega
  have enough : 52 ≤ mantissa.log2 := (Nat.le_log2 nonzero).2 full
  have step : 0 < 2 ^ (mantissa.log2 - 52) := Nat.two_pow_pos _
  have lower : 2 ^ 52 ≤ mantissa / 2 ^ (mantissa.log2 - 52) := by
    rw [Nat.le_div_iff_mul_le step, ← pow_add, Nat.add_sub_of_le enough]
    exact Nat.log2_self_le nonzero
  have upper : mantissa / 2 ^ (mantissa.log2 - 52) < 2 ^ 53 := by
    rw [Nat.div_lt_iff_lt_mul step, ← pow_add,
      show 53 + (mantissa.log2 - 52) = mantissa.log2 + 1 by omega]
    exact Nat.lt_log2_self
  exact ⟨lower.trans (div_le_kept _ _), (kept_le_div_add_one _ _).trans upper⟩

/-- A mantissa of at least 53 bits is shifted until it has 53. -/
theorem shiftToTargetExponent_eq {mantissa : Nat} {exponent : Int} (full : 2 ^ 52 ≤ mantissa)
    (lower : -1074 ≤ exponent + (mantissa.log2 - 52 : Nat)) :
    shiftToTargetExponent .binary64 mantissa exponent .exact =
      ((⟨mantissa, false, false⟩ : ExtendedMantissa) >>> (mantissa.log2 - 52),
        exponent + (mantissa.log2 - 52 : Nat)) := by
  have enough : 52 ≤ mantissa.log2 := (Nat.le_log2 (by omega)).2 full
  have target : Format.binary64.targetExponent (totalExponent mantissa exponent) =
      exponent + (mantissa.log2 - 52 : Nat) := by
    show max ((mantissa.log2 : Int) + 1 + exponent - (53 : Nat)) (-1074) = _
    omega
  have shift : (exponent + (mantissa.log2 - 52 : Nat) - exponent).toNat = mantissa.log2 - 52 := by
    omega
  rw [shiftToTargetExponent, target]
  simp only [shiftToExponent, shift]
  rfl

/-- Rounding shifts, drops the residual bits and shifts once more after a carry. -/
theorem roundWithAccuracy_eq {sign : Sign} {mantissa : Nat} {exponent shifted scale : Int}
    {accuracy : Accuracy} {extended last : ExtendedMantissa}
    (first : shiftToTargetExponent .binary64 mantissa exponent accuracy = (extended, shifted))
    (second : shiftToTargetExponent .binary64 extended.roundedMantissa shifted .exact =
      (last, scale)) (positive : 0 < last.mantissa) :
    roundWithAccuracy .binary64 sign mantissa exponent accuracy =
      .finite sign last.mantissa scale positive := by
  simp only [roundWithAccuracy, first, second, dif_neg positive.ne']

/-- A mantissa of at least 53 bits is rounded to the one that is kept of it; a carry moves one bit
to the exponent. -/
theorem exists_round_eq (Number : Type) [Field Number] [LinearOrder Number]
    [IsStrictOrderedRing Number] {mantissa : Nat} {exponent : Int} (full : 2 ^ 52 ≤ mantissa)
    (lower : -1074 ≤ exponent + (mantissa.log2 - 52 : Nat)) (sign : Sign) :
    let shift := mantissa.log2 - 52
    ∃ rounded scale positive,
      roundWithAccuracy .binary64 sign mantissa exponent .exact =
          .finite sign rounded scale positive ∧
        2 ^ 52 ≤ rounded ∧ rounded < 2 ^ 53 ∧
        scale = exponent + shift + (kept mantissa shift / 2 ^ 53 : Nat) ∧
        scaled Number rounded scale = scaled Number (kept mantissa shift) (exponent + shift) := by
  intro shift
  obtain ⟨lowerKept, upperKept⟩ : 2 ^ 52 ≤ kept mantissa shift ∧ kept mantissa shift ≤ 2 ^ 53 :=
    kept_bounds full
  have first := shiftToTargetExponent_eq full lower
  have deep : -1074 ≤ exponent + shift + ((kept mantissa shift).log2 - 52 : Nat) := by omega
  have second := shiftToTargetExponent_eq lowerKept deep
  -- the second shift is by nothing, or by one bit if dropping the last ones has carried
  rcases upperKept.lt_or_eq with fits | carry
  · have bits : (kept mantissa shift).log2 = 52 :=
      (Nat.log2_eq_iff (by omega)).2 ⟨lowerKept, fits⟩
    rw [bits] at second
    have positive : 0 < kept mantissa shift := by omega
    refine ⟨_, _, positive, roundWithAccuracy_eq first second positive, lowerKept, fits, ?_, ?_⟩
    · rw [Nat.div_eq_of_lt fits]
    · rw [Nat.sub_self, Nat.cast_zero, add_zero]
  · rw [carry, Nat.log2_two_pow] at second
    have halved : (⟨2 ^ 53, false, false⟩ : ExtendedMantissa) >>> (53 - 52) =
      ⟨2 ^ 52, false, false⟩ := shiftRight_mul_two_pow (2 ^ 52) 1
    rw [halved] at second
    have again : shiftToTargetExponent .binary64 (kept mantissa shift) (exponent + shift) .exact =
        (⟨2 ^ 52, false, false⟩, exponent + shift + 1) := by
      rw [carry, second]
      rfl
    refine ⟨_, _, _, roundWithAccuracy_eq first again (Nat.two_pow_pos 52), le_rfl, by decide,
      ?_, ?_⟩
    · rw [carry]
      rfl
    · rw [carry, scaled, scaled, zpow_add_one₀ two_ne_zero]
      push_cast
      ring

/-! ### Whole numbers -/

section Denotes

variable (Number : Type) [Field Number]

/-- Whether a number is positive and of a middling size, with a full mantissa, and has an exact
value. -/
def Denotes (number : Float) (value : Number) : Prop :=
  ∃ mantissa exponent positive,
    number.toModel.unpack = .finite .positive mantissa exponent positive ∧
      2 ^ 52 ≤ mantissa ∧ mantissa < 2 ^ 53 ∧ -52 ≤ exponent ∧ exponent ≤ 13 ∧
      scaled Number mantissa exponent = value

variable {Number} {number : Float} {value : Number} (denotes : Denotes Number number value)

include denotes

theorem Denotes.isFinite : number.isFinite := by
  obtain ⟨mantissa, exponent, positive, unpacked, -⟩ := denotes
  show number.toModel.unpack.isFinite
  rw [unpacked]
  rfl

theorem Denotes.exactValue_eq : exactValue Number number = value := by
  obtain ⟨mantissa, exponent, positive, unpacked, -, -, -, -, same⟩ := denotes
  rw [exactValue, unpacked, ← same]
  rfl

/-- A product with such a number is a number. -/
theorem Denotes.isNaN_mul {other : Float} (isNumber : other.isNaN = false) :
    (other * number).isNaN = false := by
  obtain ⟨mantissa, exponent, positive, unpacked, -⟩ := denotes
  refine isNaN_unpack_pack ?_
  replace isNumber : other.toModel.unpack.isNaN = false := isNumber
  rw [unpacked]
  generalize other.toModel.unpack = factor at isNumber ⊢
  cases factor with
  | notANumber => cases isNumber
  | infinity | zero => rfl
  | finite =>
    show (roundWithAccuracy _ _ _ _ _).isNaN = false
    unfold roundWithAccuracy
    dsimp only
    split <;> rfl

end Denotes

variable {Number : Type} [Field Number] [LinearOrder Number] [IsStrictOrderedRing Number]

/-- What is rounded from a mantissa of at least 53 bits. -/
theorem denotes_pack_round {mantissa : Nat} {exponent : Int} (full : 2 ^ 52 ≤ mantissa)
    (lower : -52 ≤ exponent + (mantissa.log2 - 52 : Nat))
    (upper : exponent + (mantissa.log2 - 52 : Nat) +
      (kept mantissa (mantissa.log2 - 52) / 2 ^ 53 : Nat) ≤ 13) :
    Denotes Number ⟨.pack (roundWithAccuracy .binary64 .positive mantissa exponent .exact)⟩
      (scaled Number (kept mantissa (mantissa.log2 - 52))
        (exponent + (mantissa.log2 - 52 : Nat))) := by
  have deep : -1074 ≤ exponent + (mantissa.log2 - 52 : Nat) := by omega
  obtain ⟨rounded, scale, positive, same, atLeast, atMost, moved, value⟩ :=
    exists_round_eq Number full deep .positive
  refine ⟨rounded, scale, positive, ?_, atLeast, atMost, by omega, by omega, value⟩
  rw [same]
  exact unpack_pack positive atLeast atMost (by omega) (by omega)

/-- What is rounded without losing a bit. -/
theorem denotes_pack_round_mul {mantissa shift : Nat} {exponent : Int} (full : 2 ^ 52 ≤ mantissa)
    (fits : mantissa < 2 ^ 53) (lower : -52 ≤ exponent + shift) (upper : exponent + shift ≤ 13) :
    Denotes Number
      ⟨.pack (roundWithAccuracy .binary64 .positive (mantissa * 2 ^ shift) exponent .exact)⟩
      (scaled Number mantissa (exponent + shift)) := by
  have nonzero : mantissa ≠ 0 := by omega
  have bits : (mantissa * 2 ^ shift).log2 - 52 = shift := by
    rw [log2_mul_two_pow nonzero, (Nat.log2_eq_iff nonzero).2 ⟨full, fits⟩, Nat.add_sub_cancel_left]
  have more := full.trans (Nat.le_mul_of_pos_right mantissa (Nat.two_pow_pos shift))
  have rounded := @denotes_pack_round Number _ _ _ _ exponent more
  rw [bits, kept_mul_two_pow, Nat.div_eq_of_lt fits, Nat.cast_zero, add_zero] at rounded
  exact rounded lower upper

theorem scaled_mul_two_pow (mantissa shift : Nat) (exponent : Int) :
    scaled Number (mantissa * 2 ^ shift) exponent = scaled Number mantissa (exponent + shift) := by
  rw [scaled, scaled, zpow_add₀ two_ne_zero, zpow_natCast]
  push_cast
  ring

theorem toFloat_eq {number : Nat} (positive : 0 < number) (small : number < 2 ^ 53) :
    number.toUInt64.toFloat = ⟨.pack (roundWithAccuracy .binary64 .positive
      (number * 2 ^ (52 - number.log2)) (-(52 - number.log2 : Nat)) .exact)⟩ := by
  have word : number.toUInt64.toNat = number := Nat.mod_eq_of_lt (by omega)
  have bits : number.log2 < 53 := (Nat.log2_lt positive.ne').2 small
  have positive : compare (number : Int) 0 = .gt := compare_gt_iff_gt.2 (by omega)
  have target : Format.binary64.targetExponent (totalExponent number 0) =
      -(52 - number.log2 : Nat) := by
    show max ((number.log2 : Int) + 1 + 0 - (53 : Nat)) (-1074) = _
    omega
  have shift : (- -((52 - number.log2 : Nat) : Int)).toNat = 52 - number.log2 := by omega
  show (⟨.pack (normalize .binary64 (number.toUInt64.toNat : Int) 0 .positive)⟩ : Float) = _
  rw [word, UnpackedFloat.normalize, positive]
  simp only [UnpackedFloat.round, Int.toNat_natCast, target, decreaseExponent, Nat.shiftLeft_eq,
    zero_sub, shift]

/-- A positive whole number of up to 53 bits is shifted until it has 53. -/
theorem denotes_toFloat {number : Nat} (positive : 0 < number) (small : number < 2 ^ 53) :
    Denotes Number number.toUInt64.toFloat (number : Number) := by
  have bits : number.log2 < 53 := (Nat.log2_lt positive.ne').2 small
  have moved := log2_mul_two_pow positive.ne' (52 - number.log2)
  have notZero : number * 2 ^ (52 - number.log2) ≠ 0 := by positivity
  have full : 2 ^ 52 ≤ number * 2 ^ (52 - number.log2) := (Nat.le_log2 notZero).1 (by omega)
  have fits : number * 2 ^ (52 - number.log2) < 2 ^ 53 := (Nat.log2_lt notZero).1 (by omega)
  have rounded := @denotes_pack_round_mul Number _ _ _ _ 0 (-(52 - number.log2 : Nat)) full fits
    (by omega) (by omega)
  rw [pow_zero, Nat.mul_one, Nat.cast_zero, add_zero, scaled_mul_two_pow, neg_add_cancel,
    scaled, zpow_zero, mul_one] at rounded
  rwa [toFloat_eq positive small]

/-- One loses nothing as a factor. -/
theorem Denotes.mul_one {number : Float} {value : Number} (denotes : Denotes Number number value) :
    Denotes Number (number * Float.exactlyRepresentablePowersOfTen[0]) value := by
  obtain ⟨mantissa, exponent, positive, unpacked, full, fits, lower, upper, same⟩ := denotes
  have one : Float.exactlyRepresentablePowersOfTen[0].toModel.unpack =
    .finite .positive (2 ^ 52) (-52) (by decide) := rfl
  have product : number * Float.exactlyRepresentablePowersOfTen[0] =
      ⟨.pack (roundWithAccuracy .binary64 .positive (mantissa * 2 ^ 52) (exponent + -52)
        .exact)⟩ := by
    show (⟨.pack (.mul .binary64 number.toModel.unpack _)⟩ : Float) = _
    rw [unpacked, one]
    rfl
  have rounded := @denotes_pack_round_mul Number _ _ _ _ 52 (exponent + -52) full fits
    (by omega) (by omega)
  rw [product, ← same]
  rwa [Nat.cast_ofNat, neg_add_cancel_right] at rounded

theorem ofNat_eq_of_lt {number : Nat} (small : number < 2 ^ 53) :
    Float.ofNat number = number.toUInt64.toFloat * Float.exactlyRepresentablePowersOfTen[0] :=
  dif_pos ⟨small, Nat.zero_le _⟩

theorem ofNat_eq_of_le {number : Nat} (large : 2 ^ 53 ≤ number) :
    Float.ofNat number =
      ⟨.pack (roundWithAccuracy .binary64 .positive (number * 2 ^ 53) (-53) .exact)⟩ := by
  have given : Float.ofNat number = ⟨.pack (.ofScientific .binary64 number 0)⟩ :=
    dif_neg fun small => (Nat.not_lt.2 large) small.1
  have notTiny : ¬(0 : Int) < -((2 ^ 11 : Int) + number.log2) := by omega
  have shifted : number <<< 53 * 10 ^ 0 = number * 2 ^ 53 := by
    rw [Nat.shiftLeft_eq, pow_zero, Nat.mul_one]
  rw [given, UnpackedFloat.ofScientific, dif_neg (by omega), if_neg (by decide), if_neg notTiny,
    if_pos le_rfl, ← shifted]
  rfl

/-- A positive whole number of up to 53 bits is kept exactly. -/
theorem denotes_ofNat {number : Nat} (positive : 0 < number) (small : number < 2 ^ 53) :
    Denotes Number (Float.ofNat number) (number : Number) := by
  rw [ofNat_eq_of_lt small]
  exact (denotes_toFloat positive small).mul_one

/-- A whole number of more bits becomes a multiple of a power of two, less than one step above. -/
theorem exists_denotes_ofNat {number : Nat} (large : 2 ^ 53 ≤ number) (word : number ≤ 2 ^ 64) :
    ∃ rounded shift, Denotes Number (Float.ofNat number) (scaled Number rounded (shift : Nat)) ∧
      2 ^ 52 * 2 ^ shift ≤ number ∧ rounded * 2 ^ shift < number + 2 ^ shift := by
  have nonzero : number ≠ 0 := by omega
  have enough : 53 ≤ number.log2 := (Nat.le_log2 nonzero).2 large
  have notMore : number.log2 < 65 := (Nat.log2_lt nonzero).2 (by omega)
  have bits : (number * 2 ^ 53).log2 - 52 = number.log2 - 52 + 53 := by
    rw [log2_mul_two_pow nonzero]
    omega
  have full : 2 ^ 52 ≤ number * 2 ^ 53 := by omega
  refine ⟨kept (number * 2 ^ 53) (number.log2 - 52 + 53), number.log2 - 52, ?_, ?_, ?_⟩
  · have rounded := @denotes_pack_round Number _ _ _ _ (-53) full
    have carry := Nat.div_le_div_right (kept_bounds full).2 (c := 2 ^ 53)
    have shift : (-53 : Int) + (number.log2 - 52 + 53 : Nat) = (number.log2 - 52 : Nat) := by omega
    rw [bits] at rounded carry
    rw [shift] at rounded
    rw [ofNat_eq_of_le large]
    exact rounded (by omega) (by omega)
  · rw [← pow_add, Nat.add_sub_of_le (by omega)]
    exact Nat.log2_self_le nonzero
  · have below := kept_mul_two_pow_lt (number * 2 ^ 53) (number.log2 - 52 + 53)
    rw [pow_add, ← mul_assoc, ← add_mul] at below
    exact Nat.lt_of_mul_lt_mul_right below

section Words

variable {number : Nat} (positive : 0 < number) (word : number ≤ 2 ^ 64)

include positive word

theorem exists_denotes : ∃ value, Denotes ℚ (Float.ofNat number) value := by
  rcases Nat.lt_or_ge number (2 ^ 53) with small | large
  · exact ⟨_, denotes_ofNat positive small⟩
  · obtain ⟨rounded, shift, denotes, -⟩ := @exists_denotes_ofNat ℚ _ _ _ _ large word
    exact ⟨_, denotes⟩

theorem isFinite_ofNat : (Float.ofNat number).isFinite := by
  obtain ⟨value, denotes⟩ := exists_denotes positive word
  exact denotes.isFinite

theorem isNaN_mul_ofNat {other : Float} (real : other.isNaN = false) :
    (other * Float.ofNat number).isNaN = false := by
  obtain ⟨value, denotes⟩ := exists_denotes positive word
  exact denotes.isNaN_mul real

end Words

/-- Nothing that has a form lies between a whole number and what is less than one step above. -/
theorem scaled_lt_of_scaled_lt {mantissa rounded shift number : Nat} {exponent : Int}
    (fits : mantissa < 2 ^ 53) (lower : 2 ^ 52 * 2 ^ shift ≤ number)
    (upper : rounded * 2 ^ shift < number + 2 ^ shift)
    (below : scaled Number mantissa exponent < scaled Number rounded (shift : Nat)) :
    scaled Number mantissa exponent < number := by
  -- with a smaller exponent the largest mantissa is too small; else both are multiples of the step
  rcases lt_or_ge exponent (shift : Int) with deeper | higher
  · calc scaled Number mantissa exponent
      _ < scaled Number (2 ^ 52) (shift : Nat) := scaled_lt_scaled_of_lt fits le_rfl deeper
      _ = (2 ^ 52 * 2 ^ shift : Nat) := scaled_natCast Number _ _
      _ ≤ number := Nat.cast_le.2 lower
  · obtain ⟨extra, rfl⟩ := Int.exists_add_of_le higher
    have same : scaled Number mantissa (shift + extra) =
        scaled Number (mantissa * 2 ^ extra) (shift : Nat) := (scaled_mul_two_pow _ _ _).symm
    rw [same, scaled_lt_scaled_iff] at below
    rw [same, scaled_natCast, Nat.cast_lt]
    have step := Nat.mul_le_mul_right (2 ^ shift) (Nat.succ_le_of_lt below)
    rw [Nat.succ_mul] at step
    omega

/-- No finite number below the one that a whole number becomes is as large as the whole number. -/
theorem exactValue_lt_of_lt_ofNat {number : Nat} (positive : 0 < number) (word : number ≤ 2 ^ 64)
    {other : Float} (finite : other.isFinite) (below : other < Float.ofNat number) :
    exactValue Number other < number := by
  rw [lt_iff Number finite (isFinite_ofNat positive word)] at below
  rcases Nat.lt_or_ge number (2 ^ 53) with small | large
  · rwa [(denotes_ofNat positive small).exactValue_eq] at below
  · obtain ⟨rounded, shift, denotes, lower, upper⟩ :=
      @exists_denotes_ofNat Number _ _ _ _ large word
    have aboveZero : (0 : Number) < number := Nat.cast_pos.2 positive
    have real := isReal_unpack finite
    rw [denotes.exactValue_eq] at below
    unfold exactValue at below ⊢
    generalize other.toModel.unpack = unpacked at below real ⊢
    cases unpacked with
    | infinity | notANumber => exact real.elim
    | zero => exact aboveZero
    | finite sign mantissa exponent above =>
      cases sign with
      | positive => exact scaled_lt_of_scaled_lt real.fits lower upper below
      | negative => exact (neg_neg_of_pos (scaled_pos Number above exponent)).trans aboveZero

end Telemetry.Double
