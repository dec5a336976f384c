/-
This file reads sizes and lengths of time the way people write them: a number
with a unit, and for lengths of time also several of them in a row. A size
without a unit counts bytes; a bare number is a length of time in seconds.
-/

import Telemetry.Config.Node
import Telemetry.Text.Blank
import Telemetry.Text.Lowercase

namespace Telemetry.Config

open Text Decimal

/-! ### Sizes -/

/-- The bytes of a unit that is a power of a thousand. -/
def decimalUnit (power : Nat) : Nat :=
  Nat.pow 1000 power

/-- The bytes of a unit that is a power of 1024. -/
def binaryUnit (power : Nat) : Nat :=
  Nat.pow 1024 power

/-- The units of size and the bytes in them. -/
def sizeUnits : List (String × Nat) :=
  [("", 1), ("b", 1),
    ("k", decimalUnit 1), ("kb", decimalUnit 1), ("ki", binaryUnit 1), ("kib", binaryUnit 1),
    ("m", decimalUnit 2), ("mb", decimalUnit 2), ("mi", binaryUnit 2), ("mib", binaryUnit 2),
    ("g", decimalUnit 3), ("gb", decimalUnit 3), ("gi", binaryUnit 3), ("gib", binaryUnit 3),
    ("t", decimalUnit 4), ("tb", decimalUnit 4), ("ti", binaryUnit 4), ("tib", binaryUnit 4),
    ("p", decimalUnit 5), ("pb", decimalUnit 5), ("pi", binaryUnit 5), ("pib", binaryUnit 5),
    ("e", decimalUnit 6), ("eb", decimalUnit 6), ("ei", binaryUnit 6), ("eib", binaryUnit 6)]

/-- The factor of a unit in a table of units. -/
def unitFactor? (units : List (String × Nat)) (name : List Char) : Option Nat :=
  (units.find? fun unit => unit.1.toList = name).map (·.2)

/-- The factor of the unit that follows an amount. Only ASCII characters can stand in front of a
unit. -/
def sizeFactor? (value unit : List Char) : Option Nat :=
  if unit.isEmpty || value.all isAscii then unitFactor? sizeUnits (lowercase (trim unit)) else none

/-- Read a size. The unit starts at the first letter or blank. -/
def readSize (text : List Char) : Except QuantityError Nat :=
  let inner := trim text
  let startsUnit (c : Char) : Bool := isAlphabetic c || isBlank c
  let value := inner.takeWhile (!startsUnit ·)
  let unit := inner.dropWhile (!startsUnit ·)
  if inner.isEmpty then .error .empty
  else if value.isEmpty then .error .missingValue
  else
    match sizeFactor? value unit with
    | none => .error .invalidUnit
    | some factor =>
      match readWhole largestWord value with
      | .error _ => .error .invalidValue
      | .ok count =>
        if largestWord < count * factor then .error .overflow else .ok (count * factor)

/-! ### Lengths of time -/

/-- The units of time and the nanoseconds in them. -/
def timeUnits : List (String × Nat) :=
  [("ns", 1), ("us", 1000), ("ms", 1000000), ("s", Duration.perSecond),
    ("m", 60 * Duration.perSecond), ("h", 3600 * Duration.perSecond),
    ("d", 86400 * Duration.perSecond)]

/-- What is left after a non-empty start of a text is shorter than the text. -/
theorem length_dropWhile_lt {test : Char → Bool} {text : List Char}
    (starts : text.takeWhile test ≠ []) : (text.dropWhile test).length < text.length := by
  have parts := congrArg List.length (List.takeWhile_append_dropWhile (p := test) (l := text))
  have positive := List.length_pos_iff.2 starts
  rw [List.length_append] at parts
  omega

/-- Read amounts of time with their units, one after the other, on top of the nanoseconds read so
far. A unit reaches up to the next digit. -/
def readAmounts (total : Nat) (text : List Char) : Except QuantityError Nat :=
  if text = [] then .ok total
  else if text.takeWhile isAsciiDigit = [] then .error .missingValue
  else
    let amount := numberOfDigits (text.takeWhile isAsciiDigit)
    let unit := (text.dropWhile isAsciiDigit).takeWhile (!isAsciiDigit ·)
    let rest := (text.dropWhile isAsciiDigit).dropWhile (!isAsciiDigit ·)
    if largestWord < amount then .error .overflow
    else if unit = [] then .error .missingUnit
    else
      match unitFactor? timeUnits (trim unit) with
      | none => .error .invalidUnit
      | some factor =>
        let next := total + amount * factor
        if largestWord < next then .error .overflow else readAmounts next rest
termination_by text.length
decreasing_by
  exact Nat.lt_of_le_of_lt (List.dropWhile_sublist _).length_le
    (length_dropWhile_lt (by assumption))

/-- Read a length of time. -/
def readDuration (text : List Char) : Except QuantityError Duration :=
  let inner := trim text
  if inner.isEmpty then .error .empty
  else if inner = ['0'] then .ok ⟨0⟩
  else (readAmounts 0 inner).map Duration.mk

namespace Node

/-- A size in bytes. -/
def asSize : Node → Result Nat
  | .text value =>
    match readSize value.toList with
    | .ok size => .ok size
    | .error error => fail (.size error)
  | .int value => if value < 0 then fail .sizeTooSmall else .ok value.toInt.toNat
  | _ => fail (.expected .size)

/-- A number of seconds as a length of time. -/
def secondsAsDuration (seconds : Float) : Result Duration :=
  match Duration.ofFloatSeconds seconds with
  | .ok duration => .ok duration
  | .error error => fail (.durationRange error)

/-- A text as a length of time. A number without a unit is taken as seconds, in whole numbers if
possible. -/
def textAsDuration (text : String) : Result Duration :=
  match readDuration text.toList with
  | .ok duration => .ok duration
  | .error .missingUnit =>
    match readWhole largestWord text.toList with
    | .ok seconds => .ok (.ofSeconds seconds)
    | .error _ =>
      match readFloat text.toList with
      | .ok seconds => secondsAsDuration seconds
      | .error _ => fail .durationText
  | .error error => fail (.duration error)

/-- A length of time. -/
def asDuration : Node → Result Duration
  | .text value => textAsDuration value
  | .int value =>
    if value < 0 then fail .negativeDuration else .ok (.ofSeconds value.toInt.toNat)
  | .real value =>
    match readFloat value.toList with
    | .ok seconds => secondsAsDuration seconds
    | .error error => fail (.durationNumber error)
  | _ => fail (.expected .duration)

end Node

end Telemetry.Config
