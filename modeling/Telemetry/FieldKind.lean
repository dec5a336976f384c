/-
This file reads the type of a declared field. A field is a plain metric, written
as the name of its kind, or a metric with tags, written `Tagged<Kind>`. Both
names may stand behind a path, of which only the last segment counts. A metric
with tags is made anew for every set of tags, so functional gauges, which need a
source for their value, cannot be tagged.
-/

import Telemetry.Kind
import Telemetry.Text.Blank
import Telemetry.Text.Pieces

namespace Telemetry

open Text

/-- What a declared field is. -/
inductive FieldKind
  | plain (kind : Kind)
  | tagged (kind : StoredKind)
deriving DecidableEq, Repr

/-- Why a text is not the type of a field. -/
inductive TypeError
  | unsupported (type : String)
  | taggedFunctional (kind : Kind)
deriving DecidableEq, Repr

/-- The wording of the fault. -/
def TypeError.message : TypeError → String
  | .unsupported type => "unsupported metric type " ++ type
  | .taggedFunctional kind => "functional gauge " ++ kind.word ++ " can not be tagged"

namespace FieldKind

/-- The kind of metric in the field. -/
def kind : FieldKind → Kind
  | .plain kind => kind
  | .tagged kind => kind.kind

/-- Whether the metric of the field has tags. -/
def isTagged : FieldKind → Bool
  | .plain _ => false
  | .tagged _ => true

/-- The written form of the type. -/
def written : FieldKind → String
  | .plain kind => kind.word
  | .tagged kind => "Tagged<" ++ kind.kind.word ++ ">"

/-- What stands before the first path mark `::`; on a reversed text this is the last segment,
reversed. -/
def untilPathMark : List Char → List Char
  | [] => []
  | [c] => [c]
  | c :: next :: rest =>
    if c = ':' && next = ':' then [] else c :: untilPathMark (next :: rest)

/-- The last segment of a path, without blanks at its ends. -/
def lastSegment (path : List Char) : List Char :=
  trim (untilPathMark path.reverse).reverse

/-- The outer and the inner part of a type with an argument in angle brackets. -/
def argument? (type : List Char) : Option (List Char × List Char) :=
  match stripLast '>' type with
  | none => none
  | some unclosed => cut '<' unclosed

/-- The kind that the last segment of a path names. -/
def ofPath? (path : List Char) : Option Kind :=
  Kind.ofWord? (String.ofList (lastSegment path))

/-- Read the type of a field. -/
def read (text : String) : Except TypeError FieldKind :=
  let type := trim text.toList
  let unsupported := TypeError.unsupported (String.ofList type)
  match argument? type with
  | some (outer, inner) =>
    if lastSegment outer ≠ "Tagged".toList then .error unsupported
    else
      match ofPath? inner with
      | none => .error unsupported
      | some kind =>
        match kind.stored? with
        | none => .error (.taggedFunctional kind)
        | some stored => .ok (.tagged stored)
  | none =>
    match ofPath? type with
    | none => .error unsupported
    | some kind => .ok (.plain kind)

end FieldKind

end Telemetry
