/-
This file writes families as text, one line for each fact. A family starts with
a line that gives its help and a line that gives its type; the lines that hold
its numbers follow. Label values are quoted; backslashes, quotes and line breaks
in them are escaped, so a value never ends a line.
-/

import Telemetry.Exposition.SampleLine
import Telemetry.Text.Pieces

namespace Telemetry.Exposition

/-- A character of a help text. -/
def escapeHelpChar (c : Char) : List Char :=
  if c = '\x5c' then ['\x5c', '\x5c'] else if c = '\n' then ['\x5c', 'n'] else [c]

/-- A character of a label value. -/
def escapeLabelChar (c : Char) : List Char :=
  if c = '\x22' then ['\x5c', '\x22'] else escapeHelpChar c

/-- A label with its quoted value. -/
def writeLabel (label : String × String) : List Char :=
  label.1.toList ++ '=' :: '\x22' :: label.2.toList.flatMap escapeLabelChar ++ ['\x22']

/-- Labels between braces; nothing when there are none. -/
def writeLabels (labels : Labels) : List Char :=
  if labels.isEmpty then [] else '\x7b' :: Text.glue ',' (labels.map writeLabel) ++ ['\x7d']

/-- The text of a line that holds a number. -/
def SampleLine.written (line : SampleLine) : List Char :=
  line.name.toList ++ writeLabels line.labels ++ ' ' :: line.value

/-- What the line with the help of a family starts with. -/
def helpMark : String :=
  "# HELP "

/-- What the line with the type of a family starts with. -/
def typeMark : String :=
  "# TYPE "

/-- The line with the help of a family. -/
def Family.helpLine (family : Family) : List Char :=
  helpMark.toList ++ family.name.toList ++ ' ' :: family.help.toList.flatMap escapeHelpChar

/-- The line with the type of a family. -/
def Family.typeLine (family : Family) : List Char :=
  typeMark.toList ++ family.name.toList ++ ' ' :: family.type.word.toList

/-- The lines of a family. -/
def Family.lines (family : Family) : List (List Char) :=
  family.helpLine :: family.typeLine :: family.sampleLines.map SampleLine.written

/-- The text of lines, each of which a line break ends. -/
def writeLines (lines : List (List Char)) : List Char :=
  lines.flatMap fun line => line ++ ['\n']

/-- The text of families. -/
def render (families : List Family) : String :=
  String.ofList (writeLines (families.flatMap Family.lines))

end Telemetry.Exposition
