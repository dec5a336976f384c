/-
This file holds the settings of a client that sends lines of metrics: where the
lines go, what stands before every name, which tags every line carries, and how
many bytes are gathered before they are sent.
-/

import Telemetry.Address
import Telemetry.Dictionary
import Telemetry.Duration

namespace Telemetry.Statsd

/-- Where lines are sent: to a socket address, perhaps from a given address, or to the path of a
local socket. -/
inductive Backend
  | udp (address : SocketAddress) (source : Option IpAddress)
  | unix (path : String)
deriving DecidableEq, Repr

/-- The settings of a client. -/
structure Settings where
  backend : Backend
  namePrefix : String
  tags : Dictionary String
  tagValues : List String
  cacheSize : Nat
  segmentLimit : Option Nat
  emitInterval : Duration

namespace Backend

/-- The backend that counts when none is given: port 8125 of this host. -/
def standard : Backend :=
  .udp ⟨.v4 127 0 0 1, 0, 8125⟩ none

/-- How many bytes a datagram may have when no limit is given. -/
def segmentLimit : Backend → Nat
  | .udp _ _ => 1432
  | .unix _ => 4096

end Backend

namespace Settings

/-- The settings that count when only a prefix is given. -/
def withPrefix (namePrefix : String) : Settings where
  backend := .standard
  namePrefix := namePrefix
  tags := .empty
  tagValues := []
  cacheSize := 1024
  segmentLimit := none
  emitInterval := .ofSeconds 10

/-- The settings that count when none are given. -/
def standard : Settings :=
  withPrefix ""

/-- Add a tag with a value for every line; a tag that is given again takes the later value. -/
def addTag (settings : Settings) (key value : String) : Settings :=
  { settings with tags := settings.tags.insert key value }

/-- Add a tag for every line as it stands. -/
def addTagValue (settings : Settings) (tag : String) : Settings :=
  { settings with tagValues := settings.tagValues ++ [tag] }

/-- How many bytes a datagram may have. -/
def datagramLimit (settings : Settings) : Nat :=
  settings.segmentLimit.getD settings.backend.segmentLimit

end Settings

end Telemetry.Statsd
