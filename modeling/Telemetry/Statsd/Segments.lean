/-
This file divides gathered lines into datagrams. A datagram holds whole lines
with line breaks between them, and takes in the next line as long as it stays
within the limit; a line that is longer than the limit goes alone. Lengths count
the bytes of the text in UTF-8.
-/

import Telemetry.Text.Pieces

namespace Telemetry.Statsd

/-- How many bytes a text takes. -/
def byteLength (text : List Char) : Nat :=
  text.foldr (fun c bytes => c.utf8Size + bytes) 0

/-- The lines of a text: what line breaks end, and what follows the last of them if that is not
empty. -/
def linesOf (text : List Char) : List (List Char) :=
  let parts := Text.pieces '\n' text
  if parts.getLast? = some [] then parts.dropLast else parts

/-- Lines packed into datagrams, of which the first begins with the given text. -/
def packOnto (limit : Nat) (datagram : List Char) : List (List Char) → List (List Char)
  | [] => [datagram]
  | line :: rest =>
    let longer := datagram ++ '\n' :: line
    if byteLength longer ≤ limit then packOnto limit longer rest
    else datagram :: packOnto limit line rest

/-- Lines packed into datagrams within a limit. -/
def pack (limit : Nat) : List (List Char) → List (List Char)
  | [] => []
  | line :: rest => packOnto limit line rest

/-- The datagrams of a text of lines. -/
def segments (limit : Nat) (text : List Char) : List (List Char) :=
  pack limit (linesOf text)

/-- A line without the carriage return that belongs to its line break. -/
def withoutReturn (line : List Char) : List Char :=
  (Text.stripLast '\r' line).getD line

/-- The lines that a reader of a datagram sees. A carriage return before a line break belongs to
the line break. -/
def readLines (datagram : List Char) : List (List Char) :=
  let parts := Text.pieces '\n' datagram
  let ended := parts.dropLast.map withoutReturn
  match parts.getLast? with
  | none | some [] => ended
  | some last => ended ++ [last]

end Telemetry.Statsd
