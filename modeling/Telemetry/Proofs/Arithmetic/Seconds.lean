/-
This file proves what numbers of seconds become lengths of time. A whole number
of seconds of up to 53 bits keeps its value, and every number that is zero or
positive and not too large becomes a length of time: its nanoseconds are rounded,
and its seconds fit into 64 bits.
-/

import Telemetry.Duration
import Telemetry.Proofs.Arithmetic.Quotients
import Telemetry.Proofs.Decimal.Decoding

namespace Telemetry.Duration

open Decimal Double

/-! ### Rounding to nanoseconds -/

/-- A quotient without a remainder is not rounded. -/
theorem roundedQuotient_mul {denominator : Nat} (positive : 0 < denominator) (quotient : Nat) :
    roundedQuotient (quotient * denominator) denominator = quotient := by
  simp only [roundedQuotient, Nat.mul_div_cancel _ positive, Nat.mul_mod_left]
  rw [if_pos positive]

theorem roundedQuotient_le (numerator denominator : Nat) :
    roundedQuotient numerator denominator ≤ numerator + 1 := by
  have whole := Nat.div_le_self numerator denominator
  unfold roundedQuotient
  dsimp only
  split
  · omega
  · split
    · omega
    · split <;> omega

/-! ### Seconds -/

/-- A whole number in the form of a mantissa and an exponent is the number of its seconds. -/
theorem ofMagnitude_eq_ofSeconds {number : Magnitude} {seconds : Nat}
    (same : scaled ℚ number.mantissa number.exponent = seconds) :
    ofMagnitude number = ofSeconds seconds := by
  have whole : number.mantissa * 2 ^ number.exponent.toNat =
      seconds * 2 ^ (-number.exponent).toNat := by
    have power : (2 : ℚ) ^ number.exponent.toNat =
        2 ^ number.exponent * 2 ^ (-number.exponent).toNat := by
      rw [← zpow_natCast, ← zpow_natCast, ← zpow_add₀ two_ne_zero]
      congr 1
      omega
    have exact : (number.mantissa : ℚ) * 2 ^ number.exponent.toNat =
        seconds * 2 ^ (-number.exponent).toNat := by
      rw [power, ← same, scaled, mul_assoc]
    exact_mod_cast exact
  have parts : number.mantissa * Nat.pow 2 number.exponent.toNat * perSecond =
      seconds * perSecond * Nat.pow 2 (-number.exponent).toNat := by
    show number.mantissa * 2 ^ number.exponent.toNat * perSecond =
      seconds * perSecond * 2 ^ (-number.exponent).toNat
    rw [whole, Nat.mul_right_comm]
  rw [ofMagnitude, parts]
  exact congrArg Duration.mk (roundedQuotient_mul (Nat.two_pow_pos _) _)

/-- Whole seconds of up to 53 bits keep their value. -/
theorem ofFloatSeconds_ofNat {seconds : Nat} (small : seconds < 2 ^ 53) :
    ofFloatSeconds (Float.ofNat seconds) = .ok (ofSeconds seconds) := by
  rcases seconds.eq_zero_or_pos with rfl | positive
  · rfl
  · obtain ⟨mantissa, exponent, positive, unpacked, -, -, -, -, value⟩ :=
      @denotes_ofNat ℚ _ _ _ seconds positive small
    have fits : (ofSeconds seconds).seconds < Nat.pow 2 64 := by
      have whole : (ofSeconds seconds).seconds = seconds :=
        Nat.mul_div_cancel seconds (by decide)
      exact whole.trans_lt (small.trans (by decide))
    have same : ofMagnitude ⟨mantissa, exponent, mantissa = 2 ^ 52 && exponent ≠ -1074⟩ =
        ofSeconds seconds := ofMagnitude_eq_ofSeconds value
    rw [ofFloatSeconds, decodeFloat_eq_ofUnpacked, unpacked]
    simp only [Decoded.ofUnpacked, isMinus, same]
    rw [if_pos fits]

/-- The seconds of a number below 2^54 fit into 64 bits. -/
theorem seconds_ofMagnitude_lt {number : Magnitude} (fits : number.mantissa < 2 ^ 53)
    (low : number.exponent ≤ 1) : (ofMagnitude number).seconds < Nat.pow 2 64 := by
  have scale : Nat.pow 2 number.exponent.toNat ≤ 2 ^ 1 :=
    Nat.pow_le_pow_right two_pos (by omega)
  have product : number.mantissa * Nat.pow 2 number.exponent.toNat ≤ 2 ^ 53 * 2 ^ 1 :=
    Nat.mul_le_mul fits.le scale
  have rounded := roundedQuotient_le
    (number.mantissa * Nat.pow 2 number.exponent.toNat * perSecond)
    (Nat.pow 2 (-number.exponent).toNat)
  have nanoseconds : (ofMagnitude number).nanoseconds < 2 ^ 64 * perSecond :=
    calc (ofMagnitude number).nanoseconds
        ≤ number.mantissa * Nat.pow 2 number.exponent.toNat * perSecond + 1 := rounded
      _ ≤ 2 ^ 53 * 2 ^ 1 * perSecond + 1 :=
          Nat.succ_le_succ (Nat.mul_le_mul_right perSecond product)
      _ < 2 ^ 64 * perSecond := by decide
  exact Nat.div_lt_of_lt_mul (nanoseconds.trans_eq (Nat.mul_comm _ _))

/-- A modest number of seconds is a length of time. -/
theorem exists_ofFloatSeconds_eq_ok {value : Float} (modest : IsModest value.toModel.unpack) :
    ∃ duration, ofFloatSeconds value = .ok duration := by
  rw [ofFloatSeconds, decodeFloat_eq_ofUnpacked]
  cases unpacked : value.toModel.unpack with
  | notANumber | infinity => exact (unpacked ▸ modest).elim
  | zero => exact ⟨_, rfl⟩
  | finite sign mantissa exponent positive =>
    rw [unpacked] at modest
    cases sign with
    | negative => exact modest.elim
    | positive =>
      have finite : value.isFinite := by
        show value.toModel.unpack.isFinite
        rw [unpacked]
        rfl
      have canonical := isReal_unpack finite
      rw [unpacked] at canonical
      let magnitude : Magnitude := ⟨mantissa, exponent, mantissa = 2 ^ 52 && exponent ≠ -1074⟩
      have fits : (ofMagnitude magnitude).seconds < Nat.pow 2 64 :=
        seconds_ofMagnitude_lt canonical.fits modest
      exact ⟨ofMagnitude magnitude, if_pos fits⟩

end Telemetry.Duration
