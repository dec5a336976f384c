/-
This file reads and writes internet addresses. An address of the fourth version
is four decimal numbers without leading zeros. One of the sixth version is eight
hexadecimal groups, of which a run of zeros may be left out once and the last
two may be written as an address of the fourth version. A socket address adds a
port, and for the sixth version brackets and an optional zone.
-/

import Telemetry.Decimal.Whole
import Telemetry.Text.Digit
import Telemetry.Text.Pieces

namespace Telemetry

/-- An internet address. -/
inductive IpAddress
  | v4 (a b c d : Nat)
  | v6 (groups : List Nat)
deriving DecidableEq, Repr

/-- An internet address with a port, and the zone of an address of the sixth version. -/
structure SocketAddress where
  ip : IpAddress
  zone : Nat
  port : Nat
deriving DecidableEq, Repr

namespace Address

/-! ### Reading

A reader takes what it can from the start of a text and returns it with the rest. -/

/-- A reader of something at the start of a text. -/
abbrev Reader (Value : Type) :=
  List Char → Option (Value × List Char)

/-- The given character. -/
def expect (c : Char) : Reader Unit
  | [] => none
  | first :: rest => if first = c then some ((), rest) else none

/-- The digits at the start of a text, and the rest. -/
def takeDigits (base : Nat) : List Char → List Nat × List Char
  | [] => ([], [])
  | c :: rest =>
    match Text.digitIn base c with
    | none => ([], c :: rest)
    | some value =>
      let (values, remaining) := takeDigits base rest
      (value :: values, remaining)

/-- A number of at least one and at most `most` digits below a limit. -/
def number (base : Nat) (most : Option Nat) (leadingZero : Bool) (limit : Nat) : Reader Nat :=
  fun text =>
    let (values, rest) := takeDigits base text
    let value := values.foldl (fun total digit => total * base + digit) 0
    let short := match most with
      | none => true
      | some most => decide (values.length ≤ most)
    let zeroFirst := values.head? = some 0 && 1 < values.length
    if values.isEmpty || !short || (zeroFirst && !leadingZero) || limit ≤ value then none
    else some (value, rest)

/-- One of the four numbers of an address of the fourth version. -/
def octet : Reader Nat :=
  number 10 (some 3) false 256

/-- A dot and one of the four numbers. -/
def dottedOctet : Reader Nat := fun text => do
  let (_, rest) ← expect '.' text
  octet rest

/-- The four numbers of an address of the fourth version. -/
def octets : Reader (Nat × Nat × Nat × Nat) := fun text => do
  let (a, rest) ← octet text
  let (b, rest) ← dottedOctet rest
  let (c, rest) ← dottedOctet rest
  let (d, rest) ← dottedOctet rest
  some ((a, b, c, d), rest)

/-- A reader behind a colon, unless it reads the first item. -/
def separated (first : Bool) (reader : Reader Value) : Reader Value := fun text =>
  if first then reader text
  else do
    let (_, rest) ← expect ':' text
    reader rest

/-- Up to `limit` groups with colons between them, and whether they ended with an address of the
fourth version, which stands for two groups. -/
def groups (first : Bool) : (limit : Nat) → List Char → (List Nat × Bool) × List Char
  | 0, text => (([], false), text)
  | limit + 1, text =>
    let embedded := if limit = 0 then none else separated first octets text
    match embedded with
    | some ((a, b, c, d), rest) => (([a * 256 + b, c * 256 + d], true), rest)
    | none =>
      match separated first (number 16 (some 4) true 65536) text with
      | none => (([], false), text)
      | some (group, rest) =>
        let ((more, ended), remaining) := groups false limit rest
        ((group :: more, ended), remaining)

/-- The groups of an address of the sixth version. -/
def sixthVersion : Reader (List Nat) := fun text =>
  let ((head, embedded), rest) := groups true 8 text
  if head.length = 8 then some (head, rest)
  else if embedded then none
  else do
    let (_, rest) ← expect ':' rest
    let (_, rest) ← expect ':' rest
    let ((tail, _), rest) := groups true (7 - head.length) rest
    some (head ++ List.replicate (8 - head.length - tail.length) 0 ++ tail, rest)

/-- An address of the fourth version. -/
def fourth : Reader IpAddress := fun text => do
  let ((a, b, c, d), rest) ← octets text
  some (.v4 a b c d, rest)

/-- An address of the sixth version. -/
def sixth : Reader IpAddress := fun text => do
  let (groups, rest) ← sixthVersion text
  some (.v6 groups, rest)

/-- A colon and a port. -/
def port : Reader Nat := fun text => do
  let (_, rest) ← expect ':' text
  number 10 none true 65536 rest

/-- A percent sign and a zone; without them the zone is zero. -/
def zone (text : List Char) : Nat × List Char :=
  let read : Option (Nat × List Char) := do
    let (_, rest) ← expect '%' text
    number 10 none true (Nat.pow 2 32) rest
  read.getD (0, text)

/-- A socket address of the fourth version. -/
def fourthSocket : Reader SocketAddress := fun text => do
  let (ip, rest) ← fourth text
  let (port, rest) ← port rest
  some (⟨ip, 0, port⟩, rest)

/-- A socket address of the sixth version. -/
def sixthSocket : Reader SocketAddress := fun text => do
  let (_, rest) ← expect '[' text
  let (ip, rest) ← sixth rest
  let (zone, rest) := zone rest
  let (_, rest) ← expect ']' rest
  let (port, rest) ← port rest
  some (⟨ip, zone, port⟩, rest)

/-- What a reader reads when it takes the whole text. -/
def whole (reader : Reader Value) (text : List Char) : Option Value :=
  match reader text with
  | some (value, []) => some value
  | _ => none

/-! ### Writing -/

/-- Where the longest run of at least two zeros starts, and its length; the first of several. -/
def longestZeros (groups : List Nat) : Nat × Nat :=
  let runAt (start : Nat) : Nat := ((groups.drop start).takeWhile (· = 0)).length
  (List.range groups.length).foldl
    (fun best start =>
      let length := runAt start
      if best.2 < length && 1 < length then (start, length) else best)
    (0, 0)

/-- Groups with colons between them. -/
def writeGroups (groups : List Nat) : List Char :=
  Text.glue ':' (groups.map Text.hexDigits)

/-- Four numbers with dots between them. -/
def writeOctets (a b c d : Nat) : List Char :=
  Text.glue '.' ([a, b, c, d].map Decimal.digits)

/-- The groups of an address of the sixth version. -/
def writeSixth (groups : List Nat) : List Char :=
  match groups with
  | [0, 0, 0, 0, 0, 0xffff, high, low] =>
    [':', ':', 'f', 'f', 'f', 'f', ':'] ++
      writeOctets (high / 256) (high % 256) (low / 256) (low % 256)
  | _ =>
    let (start, length) := longestZeros groups
    if length = 0 then writeGroups groups
    else writeGroups (groups.take start) ++ ':' :: ':' :: writeGroups (groups.drop (start + length))

end Address

namespace IpAddress

/-- Read an address. -/
def read? (text : String) : Option IpAddress :=
  (Address.whole Address.fourth text.toList).or (Address.whole Address.sixth text.toList)

/-- The written form of an address. -/
def written : IpAddress → String
  | .v4 a b c d => String.ofList (Address.writeOctets a b c d)
  | .v6 groups => String.ofList (Address.writeSixth groups)

end IpAddress

namespace SocketAddress

/-- Read a socket address. -/
def read? (text : String) : Option SocketAddress :=
  (Address.whole Address.fourthSocket text.toList).or
    (Address.whole Address.sixthSocket text.toList)

/-- The written form of a socket address. -/
def written (address : SocketAddress) : String :=
  let port := ":" ++ Decimal.naturalText address.port
  match address.ip with
  | .v4 _ _ _ _ => address.ip.written ++ port
  | .v6 _ =>
    let zone :=
      if address.zone = 0 then "" else "%" ++ Decimal.naturalText address.zone
    "[" ++ address.ip.written ++ zone ++ "]" ++ port

end SocketAddress

end Telemetry
