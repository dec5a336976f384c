/-
This file reads the command line of an application. Options have a long name and
some also a letter; letters can stand together behind one dash. A value follows
its option as the next argument, or after an equals sign, or, for a letter, at
once. A value that is not attached cannot look like an option. The value of an
option is checked when the next option begins, so an unknown option is reported
before a faulty value that stands in front of it.
-/

import Telemetry.Decimal.Whole
import Telemetry.Text.Pieces

namespace Telemetry.Application

open Text

/-- The options. -/
inductive Parameter
  | config
  | time
  | printInterval
  | verbose
  | help
deriving DecidableEq, Repr

namespace Parameter

/-- All options. -/
def all : List Parameter :=
  [config, time, printInterval, verbose, help]

/-- The long name, which stands behind two dashes. -/
def longName : Parameter → String
  | config => "config"
  | time => "time"
  | printInterval => "print-interval"
  | verbose => "verbose"
  | help => "help"

/-- The letter, which stands behind one dash. -/
def letter? : Parameter → Option Char
  | config => some 'c'
  | time => some 't'
  | printInterval => none
  | verbose => some 'v'
  | help => some 'h'

/-- Whether a value belongs to the option. -/
def takesValue : Parameter → Bool
  | config | time | printInterval => true
  | verbose | help => false

/-- The option with a long name. -/
def ofLongName? (name : List Char) : Option Parameter :=
  all.find? fun parameter => parameter.longName.toList = name

/-- The option with a letter. -/
def ofLetter? (letter : Char) : Option Parameter :=
  all.find? fun parameter => parameter.letter? = some letter

/-- What the option does. -/
def purpose : Parameter → String
  | config => "read the settings from this file"
  | time => "how many seconds to run"
  | printInterval => "seconds between two expositions"
  | verbose => "show notices and datagrams"
  | help => "show this text"

/-- The line of the option in a help text. -/
def helpLine (parameter : Parameter) : String :=
  let letter := (parameter.letter?.map fun letter => "-" ++ letter.toString ++ ", ").getD ""
  let value := if parameter.takesValue then " VALUE" else ""
  "  " ++ letter ++ "--" ++ parameter.longName ++ value ++ "\n      " ++ parameter.purpose ++ "\n"

end Parameter

/-- The help text. -/
def helpText : String :=
  "Options:\n" ++ String.join (Parameter.all.map Parameter.helpLine)

/-- Why an application does not start. -/
inductive UsageError
  | unknownArgument
  | missingValue
  | invalidNumber
  | repeatedOption
  | unexpectedValue
  | helpRequested
deriving DecidableEq, Repr

/-- The wording of the reason. -/
def UsageError.message : UsageError → String
  | .unknownArgument => "unknown argument"
  | .missingValue => "an option lacks its value"
  | .invalidNumber => "a value is not a number of seconds that is allowed here"
  | .repeatedOption => "an option is given twice"
  | .unexpectedValue => "an option that takes no value is given one"
  | .helpRequested => "help is asked for"

/-- What the options say. The time to run and the interval are in seconds. -/
structure CommandLine where
  config : Option String
  time : Nat
  printInterval : Nat
  verbose : Bool
deriving DecidableEq, Repr

namespace CommandLine

/-- How long to run when nothing is said. -/
def defaultTime : Nat :=
  30

/-- How long to wait between two outputs when nothing is said. -/
def defaultPrintInterval : Nat :=
  10

/-- The options read so far. -/
structure Given where
  config : Option String
  time : Option Nat
  printInterval : Option Nat
  verbose : Bool
deriving DecidableEq, Repr

/-- No options. -/
def Given.nothing : Given :=
  ⟨none, none, none, false⟩

/-- An option that still waits for its value or whose value has not been checked. -/
structure Waiting where
  parameter : Parameter
  value : Option (List Char)
deriving DecidableEq, Repr

/-- The state between two arguments. -/
structure State where
  given : Given
  waiting : Option Waiting
deriving DecidableEq, Repr

/-- Read a number of seconds that is at least `least`. -/
def readSeconds (least : Nat) (value : List Char) : Except UsageError Nat :=
  match Decimal.readWhole Decimal.largestWord value with
  | .error _ => .error .invalidNumber
  | .ok seconds => if seconds < least then .error .invalidNumber else .ok seconds

/-- Whether an option has been given. -/
def Given.has (given : Given) : Parameter → Bool
  | .config => given.config.isSome
  | .time => given.time.isSome
  | .printInterval => given.printInterval.isSome
  | .verbose => given.verbose
  | .help => false

/-- Take in an option with its value. -/
def Given.setValue (given : Given) (parameter : Parameter) (value : List Char) :
    Except UsageError Given :=
  if given.has parameter then .error .repeatedOption
  else
    match parameter with
    | .config =>
      if value.isEmpty then .error .missingValue
      else .ok { given with config := some (String.ofList value) }
    | .time => do
      let seconds ← readSeconds 0 value
      .ok { given with time := some seconds }
    | .printInterval => do
      let seconds ← readSeconds 1 value
      .ok { given with printInterval := some seconds }
    | .verbose | .help => .error .unexpectedValue

/-- Take in an option without value. -/
def Given.setFlag (given : Given) (parameter : Parameter) : Except UsageError Given :=
  if given.has parameter then .error .repeatedOption
  else
    match parameter with
    | .verbose => .ok { given with verbose := true }
    | .help => .error .helpRequested
    | .config | .time | .printInterval => .error .missingValue

/-- Finish the option that waits. -/
def finish (state : State) : Except UsageError Given :=
  match state.waiting with
  | none => .ok state.given
  | some ⟨_, none⟩ => .error .missingValue
  | some ⟨parameter, some value⟩ => state.given.setValue parameter value

/-- Begin an option that waits for its value. -/
def beginOption (state : State) (parameter : Parameter) : Except UsageError State := do
  let given ← finish state
  .ok ⟨given, some ⟨parameter, none⟩⟩

/-- An option with an attached value. -/
def attach (state : State) (parameter : Parameter) (value : List Char) :
    Except UsageError State := do
  let given ← finish state
  let next ← given.setValue parameter value
  .ok ⟨next, none⟩

/-- An option without value. -/
def flag (state : State) (parameter : Parameter) : Except UsageError State := do
  let given ← finish state
  let next ← given.setFlag parameter
  .ok ⟨next, none⟩

/-- An argument behind two dashes. -/
def readLong (state : State) (argument : List Char) : Except UsageError State :=
  let (name, value) :=
    match cut '=' argument with
    | some (name, value) => (name, some value)
    | none => (argument, none)
  match Parameter.ofLongName? name with
  | none => .error .unknownArgument
  | some parameter =>
    match value with
    | some value =>
      if parameter.takesValue then attach state parameter value else .error .unexpectedValue
    | none => if parameter.takesValue then beginOption state parameter else flag state parameter

/-- The value attached to a letter; an equals sign in front of it is left out. -/
def attachedValue : List Char → List Char
  | '=' :: value => value
  | value => value

/-- The letters behind one dash. -/
def readLetters (state : State) : List Char → Except UsageError State
  | [] => .ok state
  | letter :: rest =>
    match Parameter.ofLetter? letter with
    | none => .error .unknownArgument
    | some parameter =>
      if parameter.takesValue then
        if rest.isEmpty then beginOption state parameter
        else attach state parameter (attachedValue rest)
      else do
        let next ← flag state parameter
        readLetters next rest

/-- An argument that is no option: the value that an option waits for. -/
def readValue (state : State) (value : List Char) : Except UsageError State :=
  match state.waiting with
  | some ⟨parameter, none⟩ => .ok { state with waiting := some ⟨parameter, some value⟩ }
  | _ => .error .unknownArgument

/-- Read arguments. Nothing may stand behind an argument of two dashes alone. -/
def readArguments (state : State) : List (List Char) → Except UsageError State
  | [] => .ok state
  | argument :: rest =>
    match argument with
    | ['-', '-'] => if rest.isEmpty then .ok state else .error .unknownArgument
    | '-' :: '-' :: long => do
      let next ← readLong state long
      readArguments next rest
    | '-' :: letter :: more => do
      let next ← readLetters state (letter :: more)
      readArguments next rest
    | value => do
      let next ← readValue state value
      readArguments next rest

/-- Read a command line, without the name of the program. -/
def read (arguments : List String) : Except UsageError CommandLine := do
  let state ← readArguments ⟨.nothing, none⟩ (arguments.map String.toList)
  let given ← finish state
  .ok
    { config := given.config
      time := given.time.getD defaultTime
      printInterval := given.printInterval.getD defaultPrintInterval
      verbose := given.verbose }

end CommandLine

end Telemetry.Application
