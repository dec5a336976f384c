/-
This file gives streams of draws, which samples use to decide which values they
keep. A stream is determined by its seed; its words are spread evenly by
multiplying and shifting the steps of a counter.
-/

namespace Telemetry.Draws

/-- The step of the counter. -/
def step : UInt64 :=
  0x9E3779B97F4A7C15

/-- Let the high bits of a word act on the low ones, and spread the result by a factor. -/
def scatter (word : UInt64) (shift : UInt64) (factor : UInt64) : UInt64 :=
  (word ^^^ (word >>> shift)) * factor

/-- The draw at a place of the stream of a seed. -/
def stream (seed : UInt64) (place : Nat) : UInt64 :=
  let counter := seed + (UInt64.ofNat place + 1) * step
  let spread := scatter (scatter counter 30 0xBF58476D1CE4E5B9) 27 0x94D049BB133111EB
  spread ^^^ (spread >>> 31)

end Telemetry.Draws
