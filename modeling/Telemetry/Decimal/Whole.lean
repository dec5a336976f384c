/-
This file reads and writes whole numbers in decimal. Reading takes an optional
plus sign and ASCII digits, and refuses a number above a limit; of two faults
the one that stands further to the left is reported.
-/

import Telemetry.Text.Alphanumeric

namespace Telemetry.Decimal

open Text

/-- Why a text is not a whole number within the limit. -/
inductive WholeError
  | empty
  | invalidDigit
  | tooLarge
deriving DecidableEq, Repr

/-- The wording of the fault. -/
def WholeError.message : WholeError → String
  | .empty => "cannot parse integer from empty string"
  | .invalidDigit => "invalid digit found in string"
  | .tooLarge => "number too large to fit in target type"

/-- The value of an ASCII digit. -/
def digitValue (c : Char) : Nat :=
  c.toNat - 48

/-- Read digits on top of the number read so far. -/
def readDigits (limit : Nat) (value : Nat) : List Char → Except WholeError Nat
  | [] => .ok value
  | c :: rest =>
    if !isAsciiDigit c then .error .invalidDigit
    else if limit < 10 * value + digitValue c then .error .tooLarge
    else readDigits limit (10 * value + digitValue c) rest

/-- Read a whole number that is at most the limit. -/
def readWhole (limit : Nat) : List Char → Except WholeError Nat
  | [] => .error .empty
  | ['+'] => .error .invalidDigit
  | '+' :: digits => readDigits limit 0 digits
  | digits => readDigits limit 0 digits

/-- The largest number of 64 bits without sign. -/
def largestWord : Nat :=
  Nat.pow 2 64 - 1

/-- The decimal digits of a natural number. -/
def digits (value : Nat) : List Char :=
  if value < 10 then [Char.ofNat (48 + value)]
  else digits (value / 10) ++ [Char.ofNat (48 + value % 10)]

/-- A whole number in decimal, with a minus sign below zero. -/
def writeInt (value : Int) : List Char :=
  if value < 0 then '-' :: digits value.natAbs else digits value.natAbs

/-- The text of a whole number. -/
def wholeText (value : Int) : String :=
  String.ofList (writeInt value)

/-- The text of a natural number. -/
def naturalText (value : Nat) : String :=
  String.ofList (digits value)

end Telemetry.Decimal
