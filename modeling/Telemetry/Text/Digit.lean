/-
This file holds the digits of bases up to sixteen: the value of a digit, which
may be a letter of either case, and the hexadecimal digits of a number.
-/

namespace Telemetry.Text

/-- The value of a digit in the given base, of at most sixteen. -/
def digitIn (base : Nat) (c : Char) : Option Nat :=
  let value :=
    if '0' ≤ c && c ≤ '9' then c.toNat - 48
    else if 'a' ≤ c && c ≤ 'f' then c.toNat - 87
    else if 'A' ≤ c && c ≤ 'F' then c.toNat - 55
    else 16
  if value < base then some value else none

/-- The value of hexadecimal digits, other characters left out. -/
def hexadecimal (digits : List Char) : Nat :=
  (digits.filterMap (digitIn 16)).foldl (fun value digit => 16 * value + digit) 0

/-- One hexadecimal digit, in lower case. -/
def hexDigit (value : Nat) : Char :=
  if value < 10 then Char.ofNat (48 + value) else Char.ofNat (87 + value)

/-- The hexadecimal digits of a number, in lower case and without leading zeros. -/
def hexDigits (value : Nat) : List Char :=
  if value < 16 then [hexDigit value] else hexDigits (value / 16) ++ [hexDigit (value % 16)]

end Telemetry.Text
