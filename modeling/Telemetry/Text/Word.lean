/-
This file decides which characters make the words of a structure's description.
A word starts with a letter or an underscore and goes on with letters, digits
and underscores. From U+0080 on every character belongs to a word that does not
stand between words: whatever script a description is written in, outside of
quotation marks and comments it holds nothing else there.
-/

import Telemetry.Text.Alphanumeric
import Telemetry.Text.Blank

namespace Telemetry.Text

/-- The characters between words: blanks and the marks of writing direction. -/
def isSpace (c : Char) : Bool :=
  isBlank c || c = '\u200e' || c = '\u200f'

/-- A character that a word may hold. -/
def isWordPart (c : Char) : Bool :=
  if isAscii c then isAsciiAlphanumeric c || c = '_' else !isSpace c

/-- A character with which a word may start. -/
def isWordStart (c : Char) : Bool :=
  isWordPart c && !isAsciiDigit c

end Telemetry.Text
