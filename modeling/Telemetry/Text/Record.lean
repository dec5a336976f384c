/-
This file writes short texts about values for a reader of reports: a record with
its named parts between braces, a list between brackets, and a truth value.
-/

namespace Telemetry.Text

/-- The text of a truth value. -/
def truth (value : Bool) : String :=
  if value then "true" else "false"

/-- The text of a list, given the texts of its items. -/
def listing (items : List String) : String :=
  "[" ++ String.intercalate ", " items ++ "]"

/-- The text of a record: its name, and the parts that it shows with their names. -/
def record (name : String) (parts : List (String × String)) : String :=
  let shown := parts.map fun part => part.1 ++ ": " ++ part.2
  name ++ " \x7b " ++ String.intercalate ", " shown ++ " \x7d"

/-- The text of a record that has more parts than it shows. -/
def partialRecord (name : String) (parts : List (String × String)) : String :=
  let shown := parts.map fun part => part.1 ++ ": " ++ part.2
  name ++ " \x7b " ++ String.intercalate ", " (shown ++ [".."]) ++ " \x7d"

end Telemetry.Text
