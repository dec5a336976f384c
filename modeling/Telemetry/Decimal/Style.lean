/-
This file lays out floating point numbers as text. What differs between the
outputs of the library is one record: which of two equally near decimals is
taken, how whole numbers end, between which powers of ten the number is written
in full rather than with an exponent, and the words for values that are not
finite.
-/

import Telemetry.Decimal.Shortest
import Telemetry.Decimal.Whole

namespace Telemetry.Decimal

/-- The range of numbers that are written in full. The first digit of such a number stands at most
`digitsBefore` places before the point, and fewer than `zerosAfter` zeros follow the point before
the first digit. -/
structure FullRange where
  digitsBefore : Int
  zerosAfter : Int

/-- How a number is written. Without a `fullRange` every number is written in full. -/
structure NumberStyle where
  tie : Tie
  wholeMark : List Char
  fullRange : Option FullRange
  notANumber : List Char
  infinity : List Char
  negativeInfinity : List Char

/-- Plain numbers: always in full, whole numbers without a point. -/
def NumberStyle.plain : NumberStyle where
  tie := .up
  wholeMark := []
  fullRange := none
  notANumber := ['N', 'a', 'N']
  infinity := ['i', 'n', 'f']
  negativeInfinity := ['-', 'i', 'n', 'f']

namespace NumberStyle

/-- Whether a number whose first digit stands at `place` is written in full; place 1 is that of
the units and place 0 the first one after the point. -/
def isFull (style : NumberStyle) (place : Int) : Bool :=
  match style.fullRange with
  | none => true
  | some range => place ≤ range.digitsBefore && -range.zerosAfter < place

/-- The digits of a decimal in full. -/
def full (style : NumberStyle) (number : Scientific) : List Char :=
  let coefficient := digits number.coefficient
  let place := coefficient.length + number.exponent
  if 0 ≤ number.exponent then
    coefficient ++ List.replicate number.exponent.toNat '0' ++ style.wholeMark
  else if 0 < place then
    coefficient.take place.toNat ++ '.' :: coefficient.drop place.toNat
  else '0' :: '.' :: List.replicate (-place).toNat '0' ++ coefficient

/-- The digits of a decimal with one digit before the point and an exponent. -/
def withExponent (number : Scientific) : List Char :=
  let coefficient := digits number.coefficient
  let exponent := writeInt (coefficient.length + number.exponent - 1)
  match coefficient with
  | [] => 'e' :: exponent
  | [digit] => digit :: 'e' :: exponent
  | digit :: more => digit :: '.' :: more ++ 'e' :: exponent

/-- The text of a positive finite number. -/
def writeMagnitude (style : NumberStyle) (number : Magnitude) : List Char :=
  let decimal := number.shortest style.tie
  let place := (digits decimal.coefficient).length + decimal.exponent
  if style.isFull place then style.full decimal else withExponent decimal

/-- The text of a number. -/
def write (style : NumberStyle) : Decoded → List Char
  | .notANumber => style.notANumber
  | .infinite negative => if negative then style.negativeInfinity else style.infinity
  | .zero negative => if negative then '-' :: '0' :: style.wholeMark else '0' :: style.wholeMark
  | .finite negative magnitude =>
    if negative then '-' :: style.writeMagnitude magnitude else style.writeMagnitude magnitude

end NumberStyle

/-- A 64-bit number in plain style. -/
def writePlain (value : Float) : String :=
  String.ofList (NumberStyle.plain.write (decodeFloat value))

end Telemetry.Decimal
