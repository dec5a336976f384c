/-
This file says what becomes of a floating point number that is not finite, an
infinite one or none at all, when it is multiplied or divided: the result is not
finite either. What has overflowed cannot be scaled down again.
-/

import Telemetry.Arithmetic

namespace Telemetry.Overflow

open Float.Model (UnpackedFloat Format)

/-- Packing does not make a number finite. -/
theorem isFinite_of_isFinite_pack {number : UnpackedFloat}
    (finite : (Float.Model.pack number).isFinite) : number.isFinite := by
  cases number with
  | infinity sign => cases sign <;> revert finite <;> decide
  | notANumber => revert finite; decide
  | zero | finite => rfl

variable {first second : Float}

theorem isFinite_of_isFinite_mul (finite : (first * second).isFinite) : first.isFinite := by
  have product :
      (UnpackedFloat.mul .binary64 first.toModel.unpack second.toModel.unpack).isFinite :=
    isFinite_of_isFinite_pack finite
  show first.toModel.unpack.isFinite
  generalize first.toModel.unpack = factor at product ⊢
  generalize second.toModel.unpack = other at product
  cases factor with
  | zero | finite => rfl
  | infinity | notANumber => cases other <;> cases product

theorem isFinite_of_isFinite_div (finite : (first / second).isFinite) : first.isFinite := by
  have quotient :
      (UnpackedFloat.div .binary64 first.toModel.unpack second.toModel.unpack).isFinite :=
    isFinite_of_isFinite_pack finite
  show first.toModel.unpack.isFinite
  generalize first.toModel.unpack = dividend at quotient ⊢
  generalize second.toModel.unpack = divisor at quotient
  cases dividend with
  | zero | finite => rfl
  | infinity | notANumber => cases divisor <;> cases quotient

end Telemetry.Overflow
