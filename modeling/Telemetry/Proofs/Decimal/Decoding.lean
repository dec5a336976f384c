/-
This file connects the two ways in which a 64-bit number is taken apart: by
dividing the number that its bits are, as the writers of numbers do, and by
unpacking the bits, as the arithmetic does. Both find the same sign, mantissa and
exponent.
-/

import Telemetry.Decimal.Shortest
import Telemetry.Proofs.Arithmetic.Doubles

namespace Telemetry.Decimal

open Double Float.Model Float.Model.UnpackedFloat

/-- Whether a sign is the minus sign. -/
def isMinus : Sign → Bool
  | .positive => false
  | .negative => true

/-- What an unpacked number is. -/
def Decoded.ofUnpacked : UnpackedFloat → Decoded
  | .notANumber => .notANumber
  | .infinity sign => .infinite (isMinus sign)
  | .zero sign => .zero (isMinus sign)
  | .finite sign mantissa exponent _ =>
    .finite (isMinus sign) ⟨mantissa, exponent, mantissa = 2 ^ 52 && exponent ≠ -1074⟩

/-! ### The parts of the bits -/

section Bits

variable (bits : BitVec Format.binary64.numBits)

theorem toNat_unpackMantissa : (unpackMantissa bits).toNat = bits.toNat % 2 ^ 52 := by
  rw [unpackMantissa, BitVec.toNat_cast, BitVec.extractLsb_toNat]
  rfl

theorem toNat_unpackExponent : (unpackExponent bits).toNat = bits.toNat / 2 ^ 52 % 2 ^ 11 := by
  rw [unpackExponent, BitVec.toNat_cast, BitVec.extractLsb_toNat, Nat.shiftRight_eq_div_pow]
  rfl

theorem isMinus_unpackSign :
    isMinus (.ofBitVec (unpackSign bits)) = decide (bits.toNat / 2 ^ 63 % 2 = 1) := by
  have value : (unpackSign bits).toNat = bits.toNat / 2 ^ 63 % 2 := by
    rw [unpackSign, BitVec.toNat_cast, BitVec.extractLsb_toNat, Nat.shiftRight_eq_div_pow]
    rfl
  rw [← value, Sign.ofBitVec]
  split
  · rename_i zero
    rw [zero]
    rfl
  · rename_i nonzero
    have := (unpackSign bits).isLt
    have positive : (unpackSign bits).toNat ≠ 0 := fun zero => nonzero (BitVec.eq_of_toNat_eq zero)
    exact (decide_eq_true (by omega)).symm

theorem decode_toNat :
    BinaryFormat.double.decode bits.toNat =
      if bits.toNat / 2 ^ 52 % 2 ^ 11 = 2047 then
        if bits.toNat % 2 ^ 52 = 0 then .infinite (decide (bits.toNat / 2 ^ 63 % 2 = 1))
        else .notANumber
      else if bits.toNat / 2 ^ 52 % 2 ^ 11 = 0 then
        if bits.toNat % 2 ^ 52 = 0 then .zero (decide (bits.toNat / 2 ^ 63 % 2 = 1))
        else .finite (decide (bits.toNat / 2 ^ 63 % 2 = 1)) ⟨bits.toNat % 2 ^ 52, -1074, false⟩
      else
        .finite (decide (bits.toNat / 2 ^ 63 % 2 = 1))
          ⟨2 ^ 52 + bits.toNat % 2 ^ 52, -1074 + (bits.toNat / 2 ^ 52 % 2 ^ 11 : Nat) - 1,
            bits.toNat % 2 ^ 52 = 0 && bits.toNat / 2 ^ 52 % 2 ^ 11 ≠ 1⟩ := by
  rfl

/-- Both ways find the same parts in the same bits. -/
theorem decode_eq_ofUnpacked :
    BinaryFormat.double.decode bits.toNat = .ofUnpacked (.unpack .binary64 bits) := by
  have stored := toNat_unpackMantissa bits
  have power := toNat_unpackExponent bits
  have stored_eq_zero_iff : bits.toNat % 2 ^ 52 = 0 ↔ unpackMantissa bits = 0#52 := by
    rw [BitVec.toNat_eq, stored]
    rfl
  have power_eq_zero_iff : bits.toNat / 2 ^ 52 % 2 ^ 11 = 0 ↔ unpackExponent bits = 0#11 := by
    rw [BitVec.toNat_eq, power]
    rfl
  have power_eq_greatest_iff :
      bits.toNat / 2 ^ 52 % 2 ^ 11 = 2047 ↔ unpackExponent bits = -1#11 := by
    rw [BitVec.toNat_eq, power]
    rfl
  rw [decode_toNat, ← isMinus_unpackSign]
  simp only [stored_eq_zero_iff, power_eq_zero_iff, power_eq_greatest_iff]
  fun_cases UnpackedFloat.unpack Format.binary64 bits with
  | case1 mantissa exponent signBits sign greatest zero =>
    rw [if_pos greatest, if_pos zero]
    rfl
  | case2 mantissa exponent greatest notZero =>
    rw [if_pos greatest, if_neg notZero]
    rfl
  | case3 mantissa exponent signBits sign finite least zero =>
    rw [if_neg finite, if_pos least, if_pos zero]
    rfl
  | case4 mantissa exponent scale signBits sign finite least notZero =>
    have bound : mantissa.toNat < 2 ^ 52 := mantissa.isLt
    have zero : exponent.toNat = 0 := by rw [least]; rfl
    have bias : scale = exponent.toNat - (1023 + 52) := rfl
    have scaled : scale + 1 = -1074 := by omega
    rw [if_neg finite, if_pos least, if_neg notZero, ← stored]
    simp [Decoded.ofUnpacked, scaled, mantissa, sign, signBits]
  | case5 mantissa exponent scale signBits sign finite normal =>
    have leading : (1#1 ++ mantissa).toNat = 2 ^ 52 + mantissa.toNat :=
      toNat_leading_append mantissa
    have bias : scale = exponent.toNat - (1023 + 52) := rfl
    have exact : -1074 + (exponent.toNat : Int) - 1 = scale := by omega
    have narrow : (1#1 ++ mantissa).toNat = 2 ^ 52 ↔ mantissa = 0#52 := by
      rw [leading, BitVec.toNat_eq]
      exact Nat.add_eq_left
    have lowest : scale = -1074 ↔ exponent.toNat = 1 := by omega
    rw [if_neg finite, if_neg normal, ← stored, ← power, Decoded.ofUnpacked]
    simp only [ne_eq, narrow, lowest]
    rw [leading, ← exact]

end Bits

/-! ### Numbers -/

theorem decodeFloat_eq_ofUnpacked (value : Float) :
    decodeFloat value = .ofUnpacked value.toModel.unpack :=
  decode_eq_ofUnpacked value.toBits.toBitVec

/-- A positive finite number has a magnitude and no minus sign. -/
theorem exists_decodeFloat_eq_finite {value : Float} (finite : value.isFinite)
    (positive : 0.0 < value) : ∃ magnitude, decodeFloat value = .finite false magnitude := by
  have above : 0 < exactValue ℚ value := (lt_iff ℚ (by rfl) finite).1 positive
  rw [exactValue] at above
  rw [decodeFloat_eq_ofUnpacked]
  cases unpacked : value.toModel.unpack with
  | notANumber | infinity | zero =>
    rw [unpacked] at above
    exact absurd above (lt_irrefl 0)
  | finite sign mantissa exponent positive =>
    cases sign with
    | positive => exact ⟨_, rfl⟩
    | negative =>
      rw [unpacked] at above
      exact absurd (neg_pos.1 above) (scaled_pos ℚ positive exponent).le.not_gt

end Telemetry.Decimal
