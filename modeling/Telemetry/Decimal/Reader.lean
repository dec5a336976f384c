/-
This file reads decimal numbers with a fraction and an exponent as 64-bit
floating point numbers. The text is taken apart into a sign, a whole number and
a power of ten, and the result is the floating point number nearest to the
exact value. Infinity and the values that are no number are written as words.
-/

import Telemetry.Decimal.Whole

namespace Telemetry.Decimal

open Text

/-- Why a text is not a decimal number. -/
inductive NumberError
  | empty
  | invalid
deriving DecidableEq, Repr

/-- The wording of the fault. -/
def NumberError.message : NumberError → String
  | .empty => "cannot parse float from empty string"
  | .invalid => "invalid float literal"

/-- A number as it is written: the whole number `digits` times ten to the power `exponent`. -/
structure Numeral where
  digits : Nat
  exponent : Int
deriving DecidableEq, Repr

/-- The number that a run of digits stands for. -/
def numberOfDigits (text : List Char) : Nat :=
  text.foldl (fun value c => 10 * value + digitValue c) 0

/-- An exponent without its letter: an optional sign and at least one digit. -/
def readExponent (text : List Char) : Option Int :=
  let negative := text.head? = some '-'
  let unsigned := if negative || text.head? = some '+' then text.drop 1 else text
  if unsigned.isEmpty || !unsigned.all isAsciiDigit then none
  else if negative then some (-(Int.ofNat (numberOfDigits unsigned)))
  else some (Int.ofNat (numberOfDigits unsigned))

/-- A numeral without a sign: digits with an optional point, at least one digit on some side of
it, and an optional exponent. -/
def readNumeral (text : List Char) : Option Numeral :=
  let whole := text.takeWhile isAsciiDigit
  let afterWhole := text.dropWhile isAsciiDigit
  let pointed := afterWhole.head? = some '.'
  let fraction := if pointed then (afterWhole.drop 1).takeWhile isAsciiDigit else []
  let rest := if pointed then (afterWhole.drop 1).dropWhile isAsciiDigit else afterWhole
  if whole.isEmpty && fraction.isEmpty then none
  else
    let digits := numberOfDigits (whole ++ fraction)
    match rest with
    | [] => some ⟨digits, -(Int.ofNat fraction.length)⟩
    | c :: exponentText =>
      if c = 'e' || c = 'E' then
        (readExponent exponentText).map fun exponent => ⟨digits, exponent - fraction.length⟩
      else none

/-- The floating point number nearest to the numeral. -/
def Numeral.toFloat (numeral : Numeral) : Float :=
  Float.ofScientific numeral.digits (decide (numeral.exponent < 0)) numeral.exponent.natAbs

/-- The value of a word that stands for no finite number. -/
def readWord (text : List Char) : Option Float :=
  let word := String.ofList (text.map fun c => if 'A' ≤ c && c ≤ 'Z' then
    Char.ofNat (c.toNat + 32) else c)
  if word = "inf" || word = "infinity" then some (1.0 / 0.0)
  else if word = "nan" then some (0.0 / 0.0)
  else none

/-- Read a number with an optional sign. -/
def readFloat (text : List Char) : Except NumberError Float :=
  if text.isEmpty then .error .empty
  else
    let negative := text.head? = some '-'
    let unsigned := if negative || text.head? = some '+' then text.drop 1 else text
    match ((readNumeral unsigned).map Numeral.toFloat).or (readWord unsigned) with
    | some value => .ok (if negative then -value else value)
    | none => .error .invalid

end Telemetry.Decimal
