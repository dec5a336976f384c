/-
This file holds the sink, which gathers written lines and sends them in
datagrams. Lines are sent as soon as the gathered text reaches the size of the
cache, and on request. When a datagram is refused, it and the rest of the
gathered text are lost; text is never kept for a second attempt, so a peer that
is away costs no memory.
-/

import Telemetry.Statsd.Segments

namespace Telemetry.Statsd

/-- The way to a peer. Whether it takes a datagram may depend on the datagram and on how many it
was offered before. It remembers the datagrams that it took. -/
structure Wire where
  accepts : Nat → List Char → Bool
  offered : Nat
  delivered : List (List Char)

namespace Wire

/-- A way that decides as given. -/
def starting (accepts : Nat → List Char → Bool) : Wire :=
  ⟨accepts, 0, []⟩

/-- A way that takes everything. -/
def accepting : Wire :=
  starting fun _ _ => true

/-- A way that takes nothing. -/
def refusing : Wire :=
  starting fun _ _ => false

/-- Offer a datagram; the answer tells whether it was taken. -/
def offer (wire : Wire) (datagram : List Char) : Bool × Wire :=
  let counted := { wire with offered := wire.offered + 1 }
  if wire.accepts wire.offered datagram then
    (true, { counted with delivered := wire.delivered ++ [datagram] })
  else (false, counted)

/-- Offer datagrams one after the other, up to the first that is refused. The answer tells whether
all were taken. -/
def offerAll (wire : Wire) : List (List Char) → Bool × Wire
  | [] => (true, wire)
  | datagram :: rest =>
    let (taken, next) := wire.offer datagram
    if taken then next.offerAll rest else (false, next)

/-- The datagrams taken so far, which are forgotten. -/
def take (wire : Wire) : List (List Char) × Wire :=
  (wire.delivered, { wire with delivered := [] })

end Wire

/-- Gathers written lines and sends them in datagrams. -/
structure Sink where
  cacheSize : Nat
  segmentLimit : Nat
  pending : List Char
  wire : Wire

namespace Sink

/-- A sink that has gathered nothing. -/
def starting (cacheSize segmentLimit : Nat) (wire : Wire) : Sink :=
  ⟨cacheSize, segmentLimit, [], wire⟩

/-- Send what is gathered, whatever comes of it. The answer tells whether all of it was taken. -/
def sendPending (sink : Sink) : Bool × Sink :=
  let (taken, wire) := sink.wire.offerAll (segments sink.segmentLimit sink.pending)
  (taken, { sink with pending := [], wire })

/-- Gather a written line. -/
def emit (sink : Sink) (line : List Char) : Bool × Sink :=
  let gathered := { sink with pending := sink.pending ++ line }
  if sink.cacheSize ≤ byteLength gathered.pending then gathered.sendPending else (true, gathered)

/-- Send what is gathered, if anything is. -/
def flush (sink : Sink) : Bool × Sink :=
  if sink.pending.isEmpty then (true, sink) else sink.sendPending

end Sink

end Telemetry.Statsd
