/-
This file holds sources: places outside the metrics from which functional gauges
take their value when they are read. A source that nothing has been put into, or
whose owner has gone, gives zero. A source of whole numbers may advance by a
fixed step at every reading.
-/

import Telemetry.Text.Record

namespace Telemetry

/-- Names a source of a store. -/
structure SourceId where
  index : Nat
deriving DecidableEq, Repr

/-- What a source gives: whole numbers or floating point numbers. -/
inductive ValueType
  | int
  | float
deriving DecidableEq, Repr

/-- The name of the type of value. -/
def ValueType.word : ValueType → String
  | .int => "i64"
  | .float => "f64"

/-- A place that a functional gauge reads. -/
inductive Source
  | idle
  | int (value step : Int64)
  | float (value : Float)
deriving Repr

namespace Source

/-- Whether something has been put into the source. -/
def isSet : Source → Bool
  | .idle => false
  | _ => true

/-- A short text about the source. -/
def description (source : Source) : String :=
  Text.record "ComputeFn" [("set", Text.truth source.isSet)]

/-- Read a whole number: the value advances by the step, and the new value is read. -/
def readInt : Source → Int64 × Source
  | .int value step => (value + step, .int (value + step) step)
  | other => (0, other)

/-- Read a floating point number. -/
def readFloat : Source → Float
  | .float value => value
  | _ => 0.0

end Source

/-- A named way to compute a value: what it gives and where that comes from. -/
structure Accessor where
  returns : ValueType
  source : SourceId
deriving DecidableEq, Repr

/-- A short text about the accessor. -/
def Accessor.description (accessor : Accessor) : String :=
  "ComputeAccessor(" ++ accessor.returns.word ++ ")"

/-- The name of the accessor that a functional gauge in the given field needs. -/
def accessorName (field : String) : String :=
  "compute_" ++ field

end Telemetry
