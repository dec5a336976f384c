/-
This file reads and writes the description of a sample: `uniform` or `expdecay`,
optionally followed by the size of the reservoir and, for the decaying kind, by
the strength of the decay. Letter case and blanks around the parts do not
matter. A description that is accepted always has a positive size and a
positive, finite strength.
-/

import Telemetry.Decimal.Reader
import Telemetry.Decimal.Style
import Telemetry.Text.Blank
import Telemetry.Text.Lowercase
import Telemetry.Text.Pieces

namespace Telemetry.Sample

open Text Decimal

/-- How a sample chooses which values it keeps. -/
inductive Kind
  | uniform
  | decaying
deriving DecidableEq, Repr

/-- The name of the way of choosing. -/
def Kind.word : Kind → String
  | .uniform => "uniform"
  | .decaying => "expdecay"

/-- The description of a sample. -/
inductive Spec
  | uniform (size : Nat)
  | decaying (size : Nat) (alpha : Float)
deriving Repr

/-- What is wrong with the size of a reservoir. -/
inductive SizeFault
  | zero
  | number (error : WholeError)
deriving DecidableEq, Repr

/-- What is wrong with the strength of a decay. -/
inductive AlphaFault
  | notPositive
  | number (error : NumberError)
deriving DecidableEq, Repr

/-- Why a text describes no sample. -/
inductive SpecError
  | unknownKind (name : String)
  | arguments (kind : Kind)
  | size (kind : Kind) (fault : SizeFault)
  | alpha (fault : AlphaFault)
deriving DecidableEq, Repr

/-- The wording of a fault in a size. -/
def SizeFault.message : SizeFault → String
  | .zero => "should be greater than 0"
  | .number error => error.message

/-- The wording of a fault in a strength. -/
def AlphaFault.message : AlphaFault → String
  | .notPositive => "should be a finite number greater than 0"
  | .number error => error.message

/-- The wording of a fault in a description. -/
def SpecError.message : SpecError → String
  | .unknownKind name => "invalid sample type " ++ name
  | .arguments kind => "invalid " ++ kind.word ++ " sample: unexpected number of arguments"
  | .size kind fault => "invalid " ++ kind.word ++ " sample: reservoir: " ++ fault.message
  | .alpha fault => "invalid " ++ Kind.decaying.word ++ " sample: alpha: " ++ fault.message

namespace Spec

/-- The size of a reservoir when none is given. -/
def defaultSize : Nat :=
  1028

/-- The strength of a decay when none is given. -/
def defaultAlpha : Float :=
  0.015

/-- The description that counts when none is given. -/
def standard : Spec :=
  .decaying defaultSize defaultAlpha

/-- How the described sample chooses. -/
def kind : Spec → Kind
  | .uniform _ => .uniform
  | .decaying _ _ => .decaying

/-- How many values the described sample keeps. -/
def size : Spec → Nat
  | .uniform size => size
  | .decaying size _ => size

/-- Read the size of a reservoir. -/
def readSize (kind : Kind) (text : List Char) : Except SpecError Nat :=
  match readWhole largestWord text with
  | .ok 0 => .error (.size kind .zero)
  | .ok size => .ok size
  | .error error => .error (.size kind (.number error))

/-- Read the strength of a decay. -/
def readAlpha (text : List Char) : Except SpecError Float :=
  match readFloat text with
  | .ok alpha =>
    if alpha.isFinite && decide (0.0 < alpha) then .ok alpha
    else .error (.alpha .notPositive)
  | .error error => .error (.alpha (.number error))

/-- Read the parts of a description. -/
def ofParts (parts : List (List Char)) : Except SpecError Spec :=
  let name := parts.headD []
  if name = Kind.uniform.word.toList then
    match parts.tail with
    | [] => .ok (.uniform defaultSize)
    | [size] => do
      let size ← readSize .uniform size
      .ok (.uniform size)
    | _ => .error (.arguments .uniform)
  else if name = Kind.decaying.word.toList then
    match parts.tail with
    | [] => .ok standard
    | [size, alpha] => do
      let size ← readSize .decaying size
      let alpha ← readAlpha alpha
      .ok (.decaying size alpha)
    | _ => .error (.arguments .decaying)
  else .error (.unknownKind (String.ofList name))

/-- Read a description. -/
def read (text : String) : Except SpecError Spec :=
  ofParts ((pieces ',' (lowercase text.toList)).map trim)

/-- The written form of a description, with all its parts. -/
def written : Spec → String
  | .uniform size => "uniform," ++ naturalText size
  | .decaying size alpha =>
    "expdecay," ++ naturalText size ++ "," ++ writePlain alpha

end Spec

end Telemetry.Sample
