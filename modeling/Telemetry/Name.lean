/-
This file says how metrics are named. A name is a base with a list of tags, and
is written `base[tag,tag]`, or as the base alone when there are no tags. A tag
is free text, often of the form `key:value`. Tags that differ only in order, in
repetition or in blanks at their ends are the same set of tags, so the tags that
a caller gives are first brought into one form: trimmed, without empty ones,
ascending and each once.
-/

import Telemetry.Text.Blank
import Telemetry.Text.Pieces

namespace Telemetry

open Text

/-! ### Sets of tags -/

/-- The text without blanks at its ends. -/
def trimmed (text : String) : String :=
  String.ofList (trim text.toList)

/-- Put a text into a strictly ascending list, unless it is there. -/
def insertDistinct (text : String) : List String → List String
  | [] => [text]
  | head :: rest =>
    if text < head then text :: head :: rest
    else if text = head then head :: rest
    else head :: insertDistinct text rest

/-- The one form of a set of tags: trimmed, not empty, ascending, each once. -/
def cleanTags (tags : List String) : List String :=
  ((tags.map trimmed).filter (· ≠ "")).foldr insertDistinct []

/-- The key and the value of a tag that holds a colon; the first colon separates them. -/
def tagPair? (tag : String) : Option (String × String) :=
  (cut ':' tag.toList).map fun halves => (String.ofList halves.1, String.ofList halves.2)

/-! ### Names with tags -/

/-- A metric's name: what it measures, and the tags that set it apart. -/
structure Name where
  base : String
  tags : List String
deriving DecidableEq, Repr

namespace Name

/-- The written form: the tags follow the base between brackets, separated by commas. -/
def written (name : Name) : String :=
  if name.tags.isEmpty then name.base
  else
    String.ofList
      (name.base.toList ++ '[' :: glue ',' (name.tags.map String.toList) ++ [']'])

/-- The tags between the brackets of a written name: trimmed, not empty, ascending. -/
def readTags (inner : List Char) : List String :=
  let tags := ((pieces ',' inner).map fun piece => String.ofList (trim piece)).filter (· ≠ "")
  tags.mergeSort fun first second => decide (first ≤ second)

/-- Read a written name. The tags reach from the first opening bracket to a closing bracket at the
very end; a text without such a pair of brackets is a base without tags. -/
def read (text : String) : Name :=
  match cut '[' text.toList with
  | none => ⟨text, []⟩
  | some (base, rest) =>
    match stripLast ']' rest with
    | none => ⟨text, []⟩
    | some inner => ⟨String.ofList base, readTags inner⟩

/-- The name under which a metric with these tags is filed. -/
def tagged (base : String) (tags : List String) : Name :=
  ⟨base, cleanTags tags⟩

end Name

end Telemetry
