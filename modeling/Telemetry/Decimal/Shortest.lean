/-
This file finds the shortest decimal that reads back as a given floating point
number. A finite number other than zero is `mantissa * 2 ^ exponent`; the reals
that round to it form an interval around it, whose ends belong to it when the
mantissa is even. Going from coarse powers of ten to fine ones, the first grid
on which a neighbour of the number lies in the interval gives the digits: of two
neighbours the nearer one, and of two equally near ones the one that the tie
rule names.
-/

namespace Telemetry.Decimal

/-- A binary floating point format: how many bits its mantissa and its exponent take. -/
structure BinaryFormat where
  mantissaBits : Nat
  exponentBits : Nat

/-- Floating point numbers of 64 bits. -/
def BinaryFormat.double : BinaryFormat :=
  ⟨52, 11⟩

/-- Floating point numbers of 32 bits. -/
def BinaryFormat.single : BinaryFormat :=
  ⟨23, 8⟩

/-- A finite number other than zero: `mantissa * 2 ^ exponent`. It is `narrowBelow` when the next
smaller number is only half as far away as the next larger one. -/
structure Magnitude where
  mantissa : Nat
  exponent : Int
  narrowBelow : Bool
deriving DecidableEq, Repr

/-- What the bits of a floating point number say. -/
inductive Decoded
  | notANumber
  | infinite (negative : Bool)
  | zero (negative : Bool)
  | finite (negative : Bool) (magnitude : Magnitude)
deriving DecidableEq, Repr

/-- Take the bits of a number apart. -/
def BinaryFormat.decode (format : BinaryFormat) (bits : Nat) : Decoded :=
  let mantissas := Nat.pow 2 format.mantissaBits
  let exponents := Nat.pow 2 format.exponentBits
  let stored := bits % mantissas
  let power := bits / mantissas % exponents
  let negative := bits / (mantissas * exponents) % 2 = 1
  let lowest : Int := 2 - Int.ofNat (exponents / 2) - format.mantissaBits
  if power = exponents - 1 then
    if stored = 0 then .infinite negative else .notANumber
  else if power = 0 then
    if stored = 0 then .zero negative else .finite negative ⟨stored, lowest, false⟩
  else
    .finite negative
      ⟨mantissas + stored, lowest + power - 1, stored = 0 && power ≠ 1⟩

/-- What the bits of a 64-bit number say. -/
def decodeFloat (value : Float) : Decoded :=
  BinaryFormat.double.decode value.toBits.toNat

/-- What the bits of a 32-bit number say. -/
def decodeFloat32 (value : Float32) : Decoded :=
  BinaryFormat.single.decode value.toBits.toNat

/-- Which of two equally near decimals is taken. -/
inductive Tie
  | up
  | toEven
deriving DecidableEq, Repr

/-- The decimal `coefficient * 10 ^ exponent`. -/
structure Scientific where
  coefficient : Nat
  exponent : Int
deriving DecidableEq, Repr

namespace Magnitude

/-- The multiple of `10 ^ grid` that stands for the number, if the grid is fine enough. All
quantities are scaled to whole numbers: the number is `4 * mantissa` in units of
`2 ^ (exponent - 2)`, and the ends of its interval are half a unit of the last place away. -/
def onGrid (tie : Tie) (number : Magnitude) (grid : Int) : Option Nat :=
  let value := 4 * number.mantissa
  let lower := value - if number.narrowBelow then 1 else 2
  let upper := value + 2
  let unit := number.exponent - 2
  let scale := Nat.pow 2 unit.toNat * Nat.pow 10 (-grid).toNat
  let step := Nat.pow 2 (-unit).toNat * Nat.pow 10 grid.toNat
  let below := value * scale / step
  let closed := number.mantissa % 2 = 0
  let fits (candidate : Nat) : Bool :=
    if closed then lower * scale ≤ candidate * step && candidate * step ≤ upper * scale
    else lower * scale < candidate * step && candidate * step < upper * scale
  let gapBelow := value * scale - below * step
  let gapAbove := (below + 1) * step - value * scale
  match fits below, fits (below + 1) with
  | true, true =>
    if gapBelow < gapAbove then some below
    else if gapAbove < gapBelow then some (below + 1)
    else match tie with
      | .up => some (below + 1)
      | .toEven => some (if below % 2 = 0 then below else below + 1)
  | true, false => some below
  | false, true => some (below + 1)
  | false, false => none

/-- A power of ten that is larger than the number, by at most a few powers. -/
def coarsestGrid (number : Magnitude) : Int :=
  let binaryDigits : Int := number.mantissa.log2 + 1 + number.exponent
  (binaryDigits * 30103).fdiv 100000 + 2

/-- Seventeen digits always tell a 64-bit number apart, so at most twenty grids are tried. -/
def gridCount : Nat :=
  24

/-- The coarsest grid that holds the number, with its multiple. -/
def firstGrid (tie : Tie) (number : Magnitude) : Scientific :=
  let found := (List.range gridCount).findSome? fun (finer : Nat) =>
    let grid := number.coarsestGrid - Int.ofNat finer
    (number.onGrid tie grid).map fun coefficient => (⟨coefficient, grid⟩ : Scientific)
  found.getD ⟨0, 0⟩

end Magnitude

/-- Move the zeros at the end of the coefficient into the exponent. -/
def Scientific.withoutTrailingZeros (number : Scientific) : Scientific :=
  if number.coefficient = 0 then ⟨0, 0⟩
  else if number.coefficient % 10 = 0 then
    Scientific.withoutTrailingZeros ⟨number.coefficient / 10, number.exponent + 1⟩
  else number
termination_by number.coefficient
decreasing_by
  rename_i positive _
  exact Nat.div_lt_self (Nat.pos_of_ne_zero positive) (by decide)

/-- The shortest decimal that reads back as the number. -/
def Magnitude.shortest (tie : Tie) (number : Magnitude) : Scientific :=
  (number.firstGrid tie).withoutTrailingZeros

end Telemetry.Decimal
