/-
This file reads the settings of a client from a configuration. Every entry of
the map changes the settings that count when none are given; what an entry
changes depends on its key and its value alone. An interval of zero is refused,
and so is a backend without an address or a path.
-/

import Telemetry.Config.Key
import Telemetry.Config.Quantity
import Telemetry.Config.Values
import Telemetry.Statsd.Settings

namespace Telemetry.Statsd

open Config

/-! ### Backends -/

/-- The parts of a backend that is reached by a socket address. -/
inductive UdpKey
  | address
  | source
deriving DecidableEq, Repr

/-- The keys of such a backend. -/
def udpKeys : List (String × UdpKey) :=
  [("address", .address), ("addr", .address), ("bind_ip", .source), ("bind", .source)]

/-- What has been read of such a backend. -/
structure UdpParts where
  address : Option SocketAddress
  source : Option IpAddress

/-- Read one part. -/
def UdpParts.read (parts : UdpParts) (key : String) (node : Node) : Result UdpParts :=
  match meaning? udpKeys key with
  | none => fail (.unknownKey key)
  | some .address => do
    let address ← within (.subject .peerAddress key) node.asSocketAddress
    .ok { parts with address := some address }
  | some .source => do
    let source ← within (.subject .value key) node.asIpAddress
    .ok { parts with source := some source }

/-- Read the path of a local socket. -/
def readPath (key : String) (node : Node) : Result (List String) :=
  match meaning? [("path", ())] key with
  | none => fail (.unknownKey key)
  | some () => do
    let path ← within (.subject .value key) node.asAbsolutePath
    .ok [path]

namespace Backend

/-- Read a backend that is reached by a socket address. -/
def udpOfNode : Node → Result Backend
  | .map entries => do
    let parts ← foldEntries UdpParts.read ⟨none, none⟩ entries
    match parts.address with
    | some address => .ok (.udp address parts.source)
    | none => fail .missingAddress
  | .text value =>
    match SocketAddress.read? value with
    | some address => .ok (.udp address none)
    | none => fail .udpAddress
  | _ => fail (.expected .udpBackend)

/-- Read a backend that is a local socket. -/
def unixOfNode : Node → Result Backend
  | .map entries => do
    let paths ← gatherEntries readPath entries
    match paths.getLast? with
    | some path => .ok (.unix path)
    | none => fail .missingPath
  | .text value => do
    let path ← (Node.text value).asAbsolutePath
    .ok (.unix path)
  | _ => fail (.expected .unixBackend)

end Backend

/-! ### Settings -/

/-- The ways to reach a backend. -/
inductive Transport
  | udp
  | unix
deriving DecidableEq, Repr

/-- The keys of the ways to reach a backend. -/
def transportKeys : List (String × Transport) :=
  [("udp", .udp), ("unix", .unix)]

/-- Read a backend that is reached in a given way. -/
def Transport.read : Transport → Node → Result Backend
  | .udp => Backend.udpOfNode
  | .unix => Backend.unixOfNode

/-- What an entry of a configuration is about. -/
inductive SettingsKey
  | reached (transport : Transport)
  | backend
  | namePrefix
  | tags
  | cacheSize
  | segmentLimit
  | emitInterval
deriving DecidableEq, Repr

/-- The keys of a configuration. -/
def settingsKeys : List (String × SettingsKey) :=
  [("target_udp", .reached .udp), ("backend_udp", .reached .udp),
    ("target_unix", .reached .unix), ("backend_unix", .reached .unix),
    ("target", .backend), ("backend", .backend),
    ("prefix", .namePrefix),
    ("tags", .tags), ("global_tags", .tags),
    ("cache_size", .cacheSize),
    ("max_segment_size", .segmentLimit),
    ("emit_interval", .emitInterval)]

/-- A change of the settings. -/
inductive SettingsChange
  | backend (backend : Backend)
  | namePrefix (text : String)
  | tags (tags : Dictionary String)
  | tagValues (tags : List String)
  | cacheSize (bytes : Nat)
  | segmentLimit (bytes : Nat)
  | emitInterval (interval : Duration)

namespace Settings

/-- The settings after a change. -/
def apply (settings : Settings) : SettingsChange → Settings
  | .backend backend => { settings with backend }
  | .namePrefix text => { settings with namePrefix := text }
  | .tags tags => { settings with tags }
  | .tagValues tags => { settings with tagValues := tags }
  | .cacheSize bytes => { settings with cacheSize := bytes }
  | .segmentLimit bytes => { settings with segmentLimit := some bytes }
  | .emitInterval interval => { settings with emitInterval := interval }

/-- The change that an entry under a transport's key makes. -/
def readTransport (transport : Transport) (key : String) (node : Node) :
    Result (List SettingsChange) := do
  let backend ← within (.subject .value key) (transport.read node)
  .ok [.backend backend]

/-- The change that an entry of the map of a backend makes. -/
def readBackend (key : String) (node : Node) : Result (List SettingsChange) :=
  match meaning? transportKeys key with
  | none => fail (.unknownKey key)
  | some transport => readTransport transport key node

/-- The tags of all lines: a map of names and values, or a list of tags as they stand. -/
def readTags (key : String) (node : Node) : Result (List SettingsChange) :=
  match node with
  | .map _ => do
    let tags ← within (.subject .staticTags key) node.asStaticTags
    .ok [.tags tags]
  | _ => do
    let tags ← within (.subject .tagList key) node.asTagList
    .ok [.tagValues tags]

/-- The changes that an entry makes. -/
def readChange (key : String) (node : Node) : Result (List SettingsChange) :=
  match meaning? settingsKeys key with
  | none => fail (.unknownKey key)
  | some (.reached transport) => readTransport transport key node
  | some .backend =>
    match node with
    | .map entries => within (.subject .value key) (gatherEntries readBackend entries)
    | _ => fail (.expected (.mapAt key))
  | some .namePrefix =>
    match node with
    | .text text => .ok [.namePrefix text]
    | _ => fail (.expected (.textAt key))
  | some .tags => readTags key node
  | some .cacheSize => do
    let bytes ← within (.subject .size key) node.asSize
    .ok [.cacheSize bytes]
  | some .segmentLimit => do
    let bytes ← within (.subject .size key) node.asSize
    .ok [.segmentLimit bytes]
  | some .emitInterval => do
    let interval ← within (.subject .duration key) node.asDuration
    if interval.nanoseconds = 0 then fail (.zeroInterval key)
    else .ok [.emitInterval interval]

/-- Read the settings of a client. -/
def ofNode : Node → Result Settings
  | .map entries => do
    let changes ← gatherEntries readChange entries
    .ok (changes.foldl apply standard)
  | _ => fail (.expected .clientSettings)

end Settings

end Telemetry.Statsd
