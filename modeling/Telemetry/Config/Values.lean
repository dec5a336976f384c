/-
This file reads values that mean something to the exporters: addresses, tags,
labels and quantiles. Tags that are accepted hold only letters and digits, and
of ASCII also dash, underscore, dot and slash, so they can stand in a line of
metrics without escaping.
-/

import Telemetry.Address
import Telemetry.Config.Node
import Telemetry.Dictionary
import Telemetry.Text.Pieces

namespace Telemetry.Config

open Text

/-! ### Tags -/

/-- The ASCII characters that tags may hold. -/
def isTagAscii (c : Char) : Bool :=
  isAsciiAlphanumeric c || c = '-' || c = '_' || c = '.' || c = '/'

/-- Check the characters of a tag. -/
def checkChars : List Char → Result Unit
  | [] => .ok ()
  | c :: rest =>
    if isAscii c then
      if isTagAscii c then checkChars rest else fail (.invalidChar c)
    else if isAlphanumeric c then checkChars rest
    else fail (.nonAlphanumericChar c)

/-- Check the name or the value of a tag. -/
def checkTag (text : List Char) : Result Unit :=
  if text.isEmpty then fail .emptyTag else checkChars text

/-- Add one entry of a map to the tags read so far. -/
def addStaticTag (tags : Dictionary String) (name : String) (node : Node) :
    Result (Dictionary String) := do
  let _ ← within .tagName (checkTag name.toList)
  let value ← within .tagNode node.asText
  let _ ← within .tagValue (checkTag value.toList)
  if tags.contains name then fail (.duplicateTag name) else .ok (tags.insert name value)

/-- A tag, either a name or a name and a value with a colon between them. -/
def asTag (node : Node) : Result String := do
  let tag ← node.asText
  match cut ':' tag.toList with
  | some (name, value) =>
    let _ ← within .tagName (checkTag name)
    let _ ← within .tagValue (checkTag value)
    .ok tag
  | none =>
    let _ ← within .tagName (checkTag tag.toList)
    .ok tag

namespace Node

/-- A map of names of tags to their values. -/
def asStaticTags : Node → Result (Dictionary String)
  | .map entries => foldEntries addStaticTag .empty entries
  | _ => fail (.expected .staticTags)

/-- A list of tags. -/
def asTagList (node : Node) : Result (List String) :=
  node.asList asTag

/-! ### Quantiles -/

/-- A number from zero to one. -/
def asQuantile (node : Node) : Result Float := do
  let value ← node.asFloat
  if decide (0.0 ≤ value) && decide (value ≤ 1.0) then .ok value
  else fail (.quantileRange value)

/-- A list of quantiles. -/
def asQuantileList (node : Node) : Result (List Float) :=
  node.asList asQuantile

/-! ### Addresses -/

/-- A socket address. -/
def asSocketAddress : Node → Result SocketAddress
  | .text value =>
    match SocketAddress.read? value with
    | some address => .ok address
    | none => fail .socketAddress
  | _ => fail (.expected .socketAddress)

/-- An internet address. -/
def asIpAddress : Node → Result IpAddress
  | .text value =>
    match IpAddress.read? value with
    | some address => .ok address
    | none => fail .ipAddress
  | _ => fail (.expected .ipAddress)

end Node

end Telemetry.Config
