/-
This file holds configuration trees and the readers of simple values in them:
numbers, texts, lists and maps. A reader either gives the value or says what is
wrong and where.
-/

import Telemetry.Config.Failure

namespace Telemetry.Config

/-- A node of a configuration tree. A number with a fraction is kept as its text. -/
inductive Node
  | text (value : String)
  | int (value : Int64)
  | real (value : String)
  | bool (value : Bool)
  | null
  | invalid
  | list (items : List Node)
  | map (entries : List (Node × Node))
deriving Repr, Inhabited

/-- Visit the entries of a map in order, up to the first failure. The answer holds what the visits
have gathered, also when one of them failed. -/
def walkEntries {State : Type} (visit : State → String → Node → Result State) (state : State) :
    List (Node × Node) → State × Option Failure
  | [] => (state, none)
  | (.text key, value) :: rest =>
    match within (.entry key) (visit state key value) with
    | .ok next => walkEntries visit next rest
    | .error failure => (state, some failure)
  | _ :: _ => (state, some ⟨[], .keyNotText⟩)

/-- What the visits to all entries of a map have gathered. -/
def foldEntries {State : Type} (visit : State → String → Node → Result State) (state : State)
    (entries : List (Node × Node)) : Result State :=
  match walkEntries visit state entries with
  | (final, none) => .ok final
  | (_, some failure) => .error failure

/-- The changes that the entries of a map make, in their order. -/
def gatherEntries {Change : Type} (read : String → Node → Result (List Change))
    (entries : List (Node × Node)) : Result (List Change) :=
  foldEntries
    (fun changes key node => do
      let more ← read key node
      .ok (changes ++ more))
    [] entries

namespace Node

/-- A text as a floating point number. -/
def textAsFloat (text : String) : Result Float :=
  match Decimal.readFloat text.toList with
  | .ok value => .ok value
  | .error error => fail (.number error)

/-- A floating point number. -/
def asFloat : Node → Result Float
  | .text value => textAsFloat value
  | .int value => .ok (Float.ofInt value.toInt)
  | .real value => textAsFloat value
  | _ => fail (.expected .number)

/-- A text; numbers are taken as they are written. -/
def asText : Node → Result String
  | .text value => .ok value
  | .int value => .ok (Decimal.wholeText value.toInt)
  | .real value => .ok value
  | _ => fail (.expected .text)

/-- The converted items of a list, which are counted from `index` in failures. -/
def convertFrom (convert : Node → Result Value) (index : Nat) : List Node → Result (List Value)
  | [] => .ok []
  | item :: rest => do
    let value ← within (.element index) (convert item)
    let values ← convertFrom convert (index + 1) rest
    .ok (value :: values)

/-- A list; a single value is a list of one. -/
def asList (convert : Node → Result Value) : Node → Result (List Value)
  | .list items => convertFrom convert 0 items
  | single => do
    let value ← convert single
    .ok [value]

/-- A path from the root of the file system. -/
def asAbsolutePath : Node → Result String
  | .text path =>
    if path.toList.head? = some '/' then .ok path else fail (.relativePath path)
  | _ => fail (.expected .absolutePath)

end Node

end Telemetry.Config
