/-
This file holds courses of a decaying reservoir: what becomes of it while values
arrive one after the other. Beside the course of the reservoir itself there is
that of one whose landmark never moves, where all priorities are measured from
one point in time.
-/

import Telemetry.Sample.Decaying

namespace Telemetry.Sample

/-- A value with the time at which it arrives and the draw that decides on its priority. -/
structure Arrival (Number : Type) where
  time : Int
  draw : Number
  value : Int64
deriving Repr

/-- Whether arrivals are in the order of time, none of them before `start`. -/
def Arrival.InOrder {Number : Type} (start : Int) : List (Arrival Number) → Prop
  | [] => True
  | arrival :: rest => start ≤ arrival.time ∧ InOrder arrival.time rest

namespace Decaying

variable {Number : Type} [Arithmetic Number]

/-- The reservoir after one arrival. -/
def receive (exp : Number → Number) (reservoir : Decaying Number) (arrival : Arrival Number) :
    Decaying Number :=
  reservoir.update exp arrival.draw arrival.time arrival.value

/-- The reservoir after arrivals. -/
def receiveAll (exp : Number → Number) (reservoir : Decaying Number)
    (arrivals : List (Arrival Number)) : Decaying Number :=
  arrivals.foldl (receive exp) reservoir

/-- The reservoir after one arrival if the landmark stays. -/
def receiveFixed (exp : Number → Number) (reservoir : Decaying Number)
    (arrival : Arrival Number) : Decaying Number :=
  reservoir.insert exp arrival.draw arrival.time arrival.value

/-- The reservoir after arrivals if the landmark stays. -/
def receiveAllFixed (exp : Number → Number) (reservoir : Decaying Number)
    (arrivals : List (Arrival Number)) : Decaying Number :=
  arrivals.foldl (receiveFixed exp) reservoir

/-- An arrival with its priority, measured from the landmark of the reservoir. -/
def weigh (exp : Number → Number) (reservoir : Decaying Number) (arrival : Arrival Number) :
    Weighted Number :=
  ⟨reservoir.priorityAt exp arrival.draw arrival.time, arrival.value⟩

end Decaying

end Telemetry.Sample
