/-
This file holds the tags of lines in the form in which lines carry them: one
text with commas between the tags.
-/

import Telemetry.Dictionary

namespace Telemetry.Statsd

/-- Tags with commas between them. -/
structure TagGroup where
  text : List Char
deriving DecidableEq, Repr

namespace TagGroup

/-- The group without tags. -/
def empty : TagGroup :=
  ⟨[]⟩

instance : Inhabited TagGroup :=
  ⟨empty⟩

/-- Add text, after a comma unless the group has no text yet. -/
def append (group : TagGroup) (tag : List Char) : TagGroup :=
  if group.text.isEmpty then ⟨tag⟩ else ⟨group.text ++ ',' :: tag⟩

/-- Add a tag as it stands. -/
def addValue (group : TagGroup) (tag : String) : TagGroup :=
  group.append tag.toList

/-- A tag with a value, as one text. -/
def pairText (key value : String) : List Char :=
  key.toList ++ ':' :: value.toList

/-- Add a tag with a value. -/
def add (group : TagGroup) (key value : String) : TagGroup :=
  group.append (pairText key value)

/-- Add tags with values in the order of their keys. -/
def addAll (group : TagGroup) (tags : Dictionary String) : TagGroup :=
  tags.entries.foldl (fun group entry => group.add entry.1 entry.2) group

/-- The group of the given tags. -/
def ofTags (tags : List String) : TagGroup :=
  tags.foldl addValue empty

end TagGroup

end Telemetry.Statsd
