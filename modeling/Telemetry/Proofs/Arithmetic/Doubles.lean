/-
This file reads floating point numbers exactly. A finite one is a mantissa times
a power of two, and it has one form: its mantissa fills 53 bits unless the
exponent is the least one. Therefore comparing first the exponents and then the
mantissas compares the exact values, and the conversion to a word takes the
whole part of the exact value.
-/

import Mathlib
import Telemetry.Arithmetic

namespace Telemetry.Double

open Float.Model Float.Model.UnpackedFloat

/-! ### The form of finite numbers -/

/-- The form in which a finite number is unpacked: the mantissa fills its bits unless the exponent
is the least one. -/
structure IsCanonical (mantissa : Nat) (exponent : Int) : Prop where
  fits : mantissa < 2 ^ 53
  least : -1074 ≤ exponent
  full : 2 ^ 52 ≤ mantissa ∨ exponent = -1074

/-- What is unpacked from a finite number. -/
def IsReal : UnpackedFloat → Prop
  | .zero _ => True
  | .finite _ mantissa exponent _ => IsCanonical mantissa exponent
  | _ => False

/-- The leading bit stands before the bits of the mantissa. -/
theorem toNat_leading_append {size : Nat} (bits : BitVec size) :
    (1#1 ++ bits).toNat = 2 ^ size + bits.toNat := by
  rw [BitVec.toNat_append, ← Nat.shiftLeft_add_eq_or_of_lt bits.isLt, Nat.shiftLeft_eq]
  simp

theorem isReal_of_isFinite_unpack (bits : BitVec Format.binary64.numBits) :
    (UnpackedFloat.unpack .binary64 bits).isFinite → IsReal (.unpack .binary64 bits) := by
  fun_cases UnpackedFloat.unpack Format.binary64 bits with
  | case1 | case2 => exact nofun
  | case3 => exact fun _ => trivial
  | case4 mantissa exponent scale signBits sign finiteBits subnormal notZero =>
    have bound : mantissa.toNat < 2 ^ 52 := mantissa.isLt
    have zero : exponent.toNat = 0 := by rw [subnormal]; rfl
    have bias : scale = exponent.toNat - (1023 + 52) := rfl
    exact fun _ => ⟨by omega, by omega, Or.inr (by omega)⟩
  | case5 mantissa exponent scale signBits sign finiteBits normal =>
    have bound : mantissa.toNat < 2 ^ 52 := mantissa.isLt
    have leading : (1#1 ++ mantissa).toNat = 2 ^ 52 + mantissa.toNat :=
      toNat_leading_append mantissa
    have bias : scale = exponent.toNat - (1023 + 52) := rfl
    have positive : exponent.toNat ≠ 0 := fun zero => normal (BitVec.eq_of_toNat_eq zero)
    exact fun _ => ⟨by omega, by omega, Or.inl (by omega)⟩

theorem isReal_unpack {number : Float} (finite : number.isFinite) :
    IsReal number.toModel.unpack :=
  isReal_of_isFinite_unpack _ finite

theorem isNaN_eq_false_of_isFinite {number : Float} (finite : number.isFinite) :
    number.isNaN = false := by
  replace finite : number.toModel.unpack.isFinite := finite
  show number.toModel.unpack.isNaN = false
  generalize number.toModel.unpack = unpacked at finite ⊢
  cases unpacked with
  | notANumber => cases finite
  | infinity | zero | finite => rfl

/-! ### Exact values -/

variable (Number : Type) [Field Number]

/-- A mantissa times a power of two. -/
def scaled (mantissa : Nat) (exponent : Int) : Number :=
  mantissa * 2 ^ exponent

theorem scaled_natCast (mantissa shift : Nat) :
    scaled Number mantissa shift = (mantissa * 2 ^ shift : Nat) := by
  rw [scaled, zpow_natCast, Nat.cast_mul, Nat.cast_pow, Nat.cast_ofNat]

/-- The exact value of an unpacked number, and zero if it is not finite. -/
def valueOf : UnpackedFloat → Number
  | .finite .positive mantissa exponent _ => scaled Number mantissa exponent
  | .finite .negative mantissa exponent _ => -scaled Number mantissa exponent
  | _ => 0

/-- The exact value of a number, and zero if it is not finite. -/
def exactValue (number : Float) : Number :=
  valueOf Number number.toModel.unpack

/-! ### Comparing -/

variable [LinearOrder Number] [IsStrictOrderedRing Number]

theorem exactValue_one : exactValue Number 1.0 = 1 := by
  have form : exactValue Number 1.0 = (2 ^ 52 : Nat) * 2 ^ (-52 : Int) := rfl
  rw [form]
  norm_num

theorem scaled_pos {mantissa : Nat} (positive : 0 < mantissa) (exponent : Int) :
    0 < scaled Number mantissa exponent :=
  mul_pos (Nat.cast_pos.2 positive) (zpow_pos two_pos exponent)

variable {Number} {mantissa other : Nat} {exponent larger : Int}

theorem scaled_lt_scaled_iff :
    scaled Number mantissa exponent < scaled Number other exponent ↔ mantissa < other := by
  rw [scaled, scaled, mul_lt_mul_iff_left₀ (zpow_pos two_pos exponent), Nat.cast_lt]

/-- Below a full mantissa with a larger exponent lies everything with a smaller one. -/
theorem scaled_lt_scaled_of_lt (fits : mantissa < 2 ^ 53) (full : 2 ^ 52 ≤ other)
    (below : exponent < larger) : scaled Number mantissa exponent < scaled Number other larger := by
  have double : (2 : Number) ^ exponent * 2 ≤ 2 ^ larger := by
    rw [← zpow_add_one₀ two_ne_zero]
    exact zpow_le_zpow_right₀ one_le_two below
  calc scaled Number mantissa exponent
    _ < (2 ^ 53 : Nat) * 2 ^ exponent :=
        mul_lt_mul_of_pos_right (Nat.cast_lt.2 fits) (zpow_pos two_pos exponent)
    _ = (2 ^ 52 : Nat) * (2 ^ exponent * 2) := by
        rw [mul_comm (2 ^ exponent) 2, ← mul_assoc]
        norm_num
    _ ≤ other * 2 ^ larger :=
        mul_le_mul (Nat.cast_le.2 full) double (by positivity) (Nat.cast_nonneg other)

/-- First the exponents and then the mantissas decide which number is larger. -/
theorem compare_then_compare (first : IsCanonical mantissa exponent)
    (second : IsCanonical other larger) :
    (compare exponent larger).then (compare mantissa other) =
      compare (scaled Number mantissa exponent) (scaled Number other larger) := by
  rcases lt_trichotomy exponent larger with below | rfl | above
  · have full : 2 ^ 52 ≤ other := second.full.resolve_right (by have := first.least; omega)
    rw [compare_lt_iff_lt.2 below,
      compare_lt_iff_lt.2 (scaled_lt_scaled_of_lt first.fits full below)]
    rfl
  · rw [compare_eq_iff_eq.2 rfl]
    rcases lt_trichotomy mantissa other with below | rfl | above
    · rw [compare_lt_iff_lt.2 below, compare_lt_iff_lt.2 (scaled_lt_scaled_iff.2 below)]
      rfl
    · rw [compare_eq_iff_eq.2 rfl, compare_eq_iff_eq.2 rfl]
      rfl
    · rw [compare_gt_iff_gt.2 above, compare_gt_iff_gt.2 (scaled_lt_scaled_iff.2 above)]
      rfl
  · have full : 2 ^ 52 ≤ mantissa := first.full.resolve_right (by have := second.least; omega)
    rw [compare_gt_iff_gt.2 above,
      compare_gt_iff_gt.2 (scaled_lt_scaled_of_lt second.fits full above)]
    rfl

theorem compare_neg_neg (first second : Number) :
    compare (-first) (-second) = compare second first := by
  rcases lt_trichotomy first second with below | rfl | above
  · rw [compare_gt_iff_gt.2 below, compare_gt_iff_gt.2 (neg_lt_neg below)]
  · rw [compare_eq_iff_eq.2 rfl, compare_eq_iff_eq.2 rfl]
  · rw [compare_lt_iff_lt.2 above, compare_lt_iff_lt.2 (neg_lt_neg above)]

variable (Number)

theorem compare_eq_compare_valueOf {first second : UnpackedFloat} (real : IsReal first)
    (otherReal : IsReal second) :
    first.compare second = some (compare (valueOf Number first) (valueOf Number second)) := by
  cases first with
  | infinity | notANumber => exact real.elim
  | zero sign =>
    cases second with
    | infinity | notANumber => exact otherReal.elim
    | zero => exact congrArg Option.some (compare_eq_iff_eq.2 rfl).symm
    | finite sign mantissa exponent positive =>
      have above := scaled_pos Number positive exponent
      cases sign with
      | positive => exact congrArg Option.some (compare_lt_iff_lt.2 above).symm
      | negative => exact congrArg Option.some (compare_gt_iff_gt.2 (neg_neg_of_pos above)).symm
  | finite sign mantissa exponent positive =>
    have above := scaled_pos Number positive exponent
    cases second with
    | infinity | notANumber => exact otherReal.elim
    | zero =>
      cases sign with
      | positive => exact congrArg Option.some (compare_gt_iff_gt.2 above).symm
      | negative => exact congrArg Option.some (compare_lt_iff_lt.2 (neg_neg_of_pos above)).symm
    | finite otherSign other larger otherPositive =>
      have otherAbove := scaled_pos Number otherPositive larger
      have order := @compare_then_compare Number _ _ _ _ _ _ _ real otherReal
      cases sign with
      | positive =>
        cases otherSign with
        | positive => exact congrArg Option.some order
        | negative =>
          exact congrArg Option.some
            (compare_gt_iff_gt.2 ((neg_neg_of_pos otherAbove).trans above)).symm
      | negative =>
        cases otherSign with
        | positive =>
          exact congrArg Option.some
            (compare_lt_iff_lt.2 ((neg_neg_of_pos above).trans otherAbove)).symm
        | negative =>
          refine congrArg Option.some ?_
          rw [order, ← Std.OrientedOrd.eq_swap]
          exact (compare_neg_neg _ _).symm

theorem lt_iff_compare {first second : Float} :
    first < second ↔ first.toModel.unpack.compare second.toModel.unpack = some .lt :=
  decide_eq_true_iff.trans beq_iff_eq

theorem le_iff_compare {first second : Float} :
    first ≤ second ↔ (first.toModel.unpack.compare second.toModel.unpack).any (·.isLE) :=
  decide_eq_true_iff

section Order

variable {first second : Float} (finite : first.isFinite) (otherFinite : second.isFinite)

include finite otherFinite

theorem lt_iff : first < second ↔ exactValue Number first < exactValue Number second := by
  rw [lt_iff_compare, compare_eq_compare_valueOf Number (isReal_unpack finite)
    (isReal_unpack otherFinite), Option.some_inj, compare_lt_iff_lt]
  rfl

theorem le_iff : first ≤ second ↔ exactValue Number first ≤ exactValue Number second := by
  rw [le_iff_compare, compare_eq_compare_valueOf Number (isReal_unpack finite)
    (isReal_unpack otherFinite), Option.any_some, Ordering.isLE_iff_ne_gt, compare_gt_iff_gt,
    not_lt]
  rfl

end Order

theorem compare_infinity {other : UnpackedFloat} (finite : other.isFinite) :
    (infinity .positive).compare other = some .gt ∧
      other.compare (infinity .positive) = some .lt ∧
      (infinity .negative).compare other = some .lt ∧
      other.compare (infinity .negative) = some .gt := by
  cases other with
  | infinity | notANumber => cases finite
  | zero => exact ⟨rfl, rfl, rfl, rfl⟩
  | finite sign => cases sign <;> exact ⟨rfl, rfl, rfl, rfl⟩

section Between

variable {number lower upper : Float} (lowerFinite : lower.isFinite) (upperFinite : upper.isFinite)

include lowerFinite upperFinite

/-- What lies between two finite numbers is finite. -/
theorem isFinite_of_le_of_le (above : lower ≤ number) (below : number ≤ upper) :
    number.isFinite := by
  obtain ⟨-, -, -, notAbove⟩ := compare_infinity lowerFinite
  obtain ⟨notBelow, -⟩ := compare_infinity upperFinite
  rw [le_iff_compare] at above below
  show number.toModel.unpack.isFinite
  cases unpacked : number.toModel.unpack with
  | zero | finite => rfl
  | notANumber =>
    rw [unpacked] at below
    exact absurd below Bool.false_ne_true
  | infinity sign =>
    rw [unpacked] at above below
    cases sign with
    | positive => rw [notBelow] at below; exact absurd below Bool.false_ne_true
    | negative => rw [notAbove] at above; exact absurd above Bool.false_ne_true

/-- A number that is neither below one finite number nor from another one up is finite. -/
theorem isFinite_of_not_lt_of_not_le (isNumber : number.isNaN = false) (notBelow : ¬number < lower)
    (notAbove : ¬upper ≤ number) : number.isFinite := by
  obtain ⟨-, -, below, -⟩ := compare_infinity lowerFinite
  obtain ⟨-, above, -⟩ := compare_infinity upperFinite
  replace isNumber : number.toModel.unpack.isNaN = false := isNumber
  rw [lt_iff_compare] at notBelow
  rw [le_iff_compare] at notAbove
  show number.toModel.unpack.isFinite
  cases unpacked : number.toModel.unpack with
  | zero | finite => rfl
  | notANumber =>
    rw [unpacked] at isNumber
    cases isNumber
  | infinity sign =>
    rw [unpacked] at notBelow notAbove
    cases sign with
    | positive => exact absurd (above ▸ rfl) notAbove
    | negative => exact absurd below notBelow

end Between

/-! ### The whole part -/

section Whole

variable [FloorSemiring Number]

/-- The whole part of a mantissa times a power of two. -/
theorem floor_scaled (mantissa : Nat) (exponent : Int) :
    ⌊scaled Number mantissa exponent⌋₊ =
      (mantissa <<< exponent.toNat) / 2 ^ (-exponent).toNat := by
  rw [Nat.shiftLeft_eq]
  rcases exponent.le_total 0 with negative | positive
  · obtain ⟨shift, rfl⟩ := Int.exists_eq_neg_ofNat negative
    have whole : (mantissa : Number) / 2 ^ shift = mantissa / ((2 ^ shift : Nat) : Number) := by
      rw [Nat.cast_pow, Nat.cast_ofNat]
    rw [scaled, zpow_neg, zpow_natCast, ← div_eq_mul_inv, whole, Nat.floor_div_natCast,
      Nat.floor_natCast, neg_neg, Int.toNat_natCast, Int.toNat_neg_natCast, pow_zero, mul_one]
  · obtain ⟨shift, rfl⟩ := Int.eq_ofNat_of_zero_le positive
    rw [scaled_natCast, Nat.floor_natCast, Int.toNat_natCast, Int.toNat_neg_natCast, pow_zero,
      Nat.div_one]

theorem mantissa_shiftRight (extended : ExtendedMantissa) (shift : Nat) :
    (extended >>> shift).mantissa = extended.mantissa / 2 ^ shift := by
  induction shift with
  | zero => exact (Nat.div_one _).symm
  | succ shift inductionHypothesis =>
    rw [pow_succ, ← Nat.div_div_eq_div_mul, ← inductionHypothesis]
    rfl

/-- Conversion to a whole number takes the whole part of the magnitude and keeps the sign. -/
theorem roundToInt_eq (sign : Sign) (mantissa : Nat) (exponent : Int) :
    roundToInt sign mantissa exponent = sign.apply ⌊scaled Number mantissa exponent⌋₊ := by
  have shift : (0 - (exponent - (exponent.toNat : Int))).toNat = (-exponent).toNat := by omega
  simp only [roundToInt, decreaseExponent, shiftToExponent, mantissa_shiftRight, floor_scaled,
    sub_zero, shift]
  rfl

theorem toNat_toInt {unpacked : UnpackedFloat} (real : IsReal unpacked) (least greatest : Int) :
    (unpacked.toInt least greatest).toNat = ⌊valueOf Number unpacked⌋₊ := by
  cases unpacked with
  | infinity | notANumber => exact real.elim
  | zero => exact Nat.floor_zero.symm
  | finite sign mantissa exponent positive =>
    rw [UnpackedFloat.toInt, @roundToInt_eq Number]
    cases sign with
    | positive => rfl
    | negative =>
      have below := (neg_neg_of_pos (scaled_pos Number positive exponent)).le
      rw [valueOf, Nat.floor_of_nonpos below]
      exact Int.toNat_neg_natCast _

theorem toNat_ofNatClamp (whole : Nat) :
    (UInt64.ofNatClamp whole).toNat = min whole (2 ^ 64 - 1) := by
  have size : UInt64.size = 2 ^ 64 := rfl
  rcases Nat.lt_or_ge whole (2 ^ 64) with small | large
  · rw [UInt64.toNat_ofNatClamp_of_lt small]
    omega
  · rw [UInt64.toNat_ofNatClamp_of_le large]
    omega

/-- Conversion to a word takes the whole part of the exact value, up to the largest word. -/
theorem toNat_toUInt64 {number : Float} (finite : number.isFinite) :
    number.toUInt64.toNat = min ⌊exactValue Number number⌋₊ (2 ^ 64 - 1) :=
  (toNat_ofNatClamp _).trans (congrArg (min · _) (toNat_toInt Number (isReal_unpack finite) _ _))

end Whole

end Telemetry.Double
