/-
This file says why a configuration cannot be read. A failure is a problem with
one value, together with the places that led to the value, from the outside in.
Its text names the places and then the problem.
-/

import Telemetry.Decimal.Reader
import Telemetry.Decimal.Style
import Telemetry.Duration
import Telemetry.Text.Quoted

namespace Telemetry.Config

/-- What is wrong with a quantity that is written with a unit. -/
inductive QuantityError
  | empty
  | missingValue
  | missingUnit
  | invalidUnit
  | invalidValue
  | overflow
deriving DecidableEq, Repr

/-- The wording of the fault. -/
def QuantityError.message : QuantityError → String
  | .empty => "empty input"
  | .missingValue => "missing value"
  | .missingUnit => "missing unit"
  | .invalidUnit => "invalid unit"
  | .invalidValue => "invalid value"
  | .overflow => "value overflow"

/-- What was expected of a value of another shape. -/
inductive Expected
  | number
  | text
  | socketAddress
  | ipAddress
  | absolutePath
  | staticTags
  | size
  | duration
  | collectorSettings
  | clientSettings
  | configFile
  | mapAt (key : String)
  | textAt (key : String)
  | udpBackend
  | unixBackend
deriving DecidableEq, Repr

/-- The wording of an expectation that is not met. -/
def Expected.message : Expected → String
  | .number => "yaml value type for 'f64' should be 'string', 'integer' or 'real'"
  | .text => "yaml value type for string should be 'string' / 'integer' / 'real'"
  | .socketAddress => "yaml value type for 'SocketAddr' should be 'string'"
  | .ipAddress => "yaml value type for 'IpAddr' should be 'string'"
  | .absolutePath => "yaml value type for absolute path should be string"
  | .staticTags => "the yaml value type for 'static metric tags' should be 'map'"
  | .size => "yaml value type for humanize usize should be 'string' or 'integer'"
  | .duration =>
    "yaml value type for humanize duration should be 'string' or 'integer' or 'real'"
  | .collectorSettings => "yaml value type for 'prometheus collector config' should be 'map'"
  | .clientSettings => "yaml value type for 'statsd client config' should be 'map'"
  | .configFile => "yaml value type for the config file should be 'map'"
  | .mapAt key => "yaml value type for key " ++ key ++ " should be 'map'"
  | .textAt key => "yaml value type for key " ++ key ++ " should be 'string'"
  | .udpBackend => "invalid yaml value for udp statsd backend"
  | .unixBackend => "invalid yaml value for unix statsd backend"

/-- What is wrong with a value. -/
inductive Problem
  | expected (shape : Expected)
  | keyNotText
  | unknownKey (key : String)
  | number (error : Decimal.NumberError)
  | size (error : QuantityError)
  | sizeTooSmall
  | duration (error : QuantityError)
  | durationText
  | durationNumber (error : Decimal.NumberError)
  | durationRange (error : Duration.OutOfRange)
  | negativeDuration
  | zeroInterval (key : String)
  | socketAddress
  | udpAddress
  | ipAddress
  | relativePath (path : String)
  | emptyTag
  | invalidChar (c : Char)
  | nonAlphanumericChar (c : Char)
  | duplicateTag (name : String)
  | quantileRange (quantile : Float)
  | missingAddress
  | missingPath
  | other (message : String)
deriving Repr

/-- The wording of a problem. -/
def Problem.message : Problem → String
  | .expected shape => shape.message
  | .keyNotText => "key in hash should be string"
  | .unknownKey key => "invalid key " ++ key
  | .number error => error.message
  | .size error => error.message
  | .sizeTooSmall => "number too small to fit in target type"
  | .duration error => "invalid humanize duration string: " ++ error.message
  | .durationText => "invalid duration string"
  | .durationNumber error => "invalid f64 value: " ++ error.message
  | .durationRange error => error.message
  | .negativeDuration => "negative duration value"
  | .zeroInterval key => "zero emit interval for key " ++ key
  | .socketAddress => "invalid socket address: invalid socket address syntax"
  | .udpAddress => "invalid SocketAddr: invalid socket address syntax"
  | .ipAddress => "invalid ip address: invalid IP address syntax"
  | .relativePath path => "invalid value: " ++ path ++ " is not an absolute path"
  | .emptyTag => "empty string"
  | .invalidChar c => "invalid char " ++ Text.quoteChar c
  | .nonAlphanumericChar c => "non alphanumeric char " ++ Text.quoteChar c
  | .duplicateTag name => "found duplicate value for tag name " ++ name
  | .quantileRange quantile =>
    "quantile " ++ Decimal.writePlain quantile ++ " is out of range [0, 1]"
  | .missingAddress => "no target address has been set"
  | .missingPath => "no path has been set"
  | .other message => message

/-- What the value of a key was to be. -/
inductive Subject
  | value
  | peerAddress
  | staticLabels
  | quantiles
  | staticTags
  | tagList
  | size
  | duration
  | clientSettings
  | collectorSettings
deriving DecidableEq, Repr

/-- How what the value was to be is called. -/
def Subject.phrase : Subject → String
  | .value => "value"
  | .peerAddress => "statsd udp peer socket address value"
  | .staticLabels => "static labels value"
  | .quantiles => "quantile list value"
  | .staticTags => "static tags value"
  | .tagList => "tag list value"
  | .size => "humanize usize value"
  | .duration => "humanize duration value"
  | .clientSettings => "statsd client config"
  | .collectorSettings => "prometheus collector config"

/-- A place on the way to a value. -/
inductive Place
  | entry (key : String)
  | element (index : Nat)
  | subject (what : Subject) (key : String)
  | tagName
  | tagNode
  | tagValue
deriving DecidableEq, Repr

/-- The wording of a place. -/
def Place.message : Place → String
  | .entry key => "failed to parse value of key " ++ key
  | .element index => "invalid value for list element #" ++ Decimal.naturalText index
  | .subject what key => "invalid " ++ what.phrase ++ " for key " ++ key
  | .tagName => "invalid metrics tag name"
  | .tagNode => "invalid metrics tag yaml value"
  | .tagValue => "invalid metrics tag value"

/-- Why a configuration cannot be read. -/
structure Failure where
  places : List Place
  problem : Problem
deriving Repr

namespace Failure

/-- The text of a failure. -/
def message (failure : Failure) : String :=
  ": ".intercalate (failure.places.map Place.message ++ [failure.problem.message])

end Failure

/-- The result of reading a configuration. -/
abbrev Result (Value : Type) :=
  Except Failure Value

/-- A problem as a failure. -/
def fail (problem : Problem) : Result Value :=
  .error ⟨[], problem⟩

/-- A result at a place: a failure is at this place too. -/
def within (place : Place) : Result Value → Result Value
  | .ok value => .ok value
  | .error failure => .error { failure with places := place :: failure.places }

end Telemetry.Config
