/-
This file holds the client, which writes lines with its prefix and its tags and
gives them to a sink. A failed send is counted, and reported at most once in
every slice of 64 seconds since the client began.
-/

import Telemetry.Notice
import Telemetry.Statsd.Line
import Telemetry.Statsd.Settings
import Telemetry.Statsd.Sink

namespace Telemetry.Statsd

/-- A client. Times are in nanoseconds. -/
structure Client where
  namePrefix : String
  sink : Sink
  tags : TagGroup
  began : Int
  lastReport : Nat
  sendErrors : Nat

namespace Client

/-- A client without tags that begins now. -/
def starting (namePrefix : String) (sink : Sink) (now : Int) : Client where
  namePrefix := namePrefix
  sink := sink
  tags := .empty
  began := now
  lastReport := 0
  sendErrors := 0

/-- Add a tag with a value for every line. -/
def withTag (client : Client) (key value : String) : Client :=
  { client with tags := client.tags.add key value }

/-- Add a tag for every line as it stands. -/
def withTagValue (client : Client) (tag : String) : Client :=
  { client with tags := client.tags.addValue tag }

/-- Add tags with values for every line. -/
def withStaticTags (client : Client) (tags : Dictionary String) : Client :=
  { client with tags := client.tags.addAll tags }

/-- Nanoseconds in a slice of time. -/
def slice : Nat :=
  64 * Duration.perSecond

/-- The number of the slice of time that `now` lies in. -/
def sliceAt (client : Client) (now : Int) : Nat :=
  (now - client.began).toNat / slice

/-- Count a failed send, and report it if it is the first of its slice. -/
def noteFailure (client : Client) (now : Int) : Client × List Notice :=
  let failed := { client with sendErrors := client.sendErrors + 1 }
  let current := client.sliceAt now
  if client.lastReport ≠ current ∨ failed.sendErrors = 1 then
    ({ failed with lastReport := current }, [.sendFailed])
  else (failed, [])

/-- The client after its sink has done something. -/
def afterSend (client : Client) (now : Int) (outcome : Bool × Sink) : Client × List Notice :=
  let sent := { client with sink := outcome.2 }
  if outcome.1 then (sent, []) else sent.noteFailure now

/-- Send a line with the given tags besides those of the client. -/
def send (client : Client) (now : Int) (groups : List TagGroup) (line : Line) :
    Client × List Notice :=
  client.afterSend now
    (client.sink.emit (line.written client.namePrefix (client.tags :: groups)))

/-- Send lines with the same tags. -/
def sendAll (client : Client) (now : Int) (groups : List TagGroup) :
    List Line → Client × List Notice
  | [] => (client, [])
  | line :: rest =>
    let (sent, notices) := client.send now groups line
    let (final, more) := sent.sendAll now groups rest
    (final, notices ++ more)

/-- Send what the sink has gathered. -/
def flush (client : Client) (now : Int) : Client × List Notice :=
  client.afterSend now client.sink.flush

/-- The datagrams delivered so far, which are forgotten. -/
def takeDelivered (client : Client) : List (List Char) × Client :=
  let (delivered, wire) := client.sink.wire.take
  (delivered, { client with sink := { client.sink with wire } })

end Client

/-- The client of the given settings over the way to its backend. -/
def Settings.client (settings : Settings) (wire : Wire) (now : Int) : Client :=
  let sink := Sink.starting settings.cacheSize settings.datagramLimit wire
  let plain := Client.starting settings.namePrefix sink now
  settings.tagValues.foldl Client.withTagValue (plain.withStaticTags settings.tags)

end Telemetry.Statsd
