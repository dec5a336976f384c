import Telemetry.Blueprint.Populate
import Telemetry.Exposition.Reading
import Telemetry.Main
import Telemetry.Meter.Course
import Telemetry.Operation
import Telemetry.Proofs.Arithmetic.Exact
import Telemetry.Proofs.Exposition.Invisibility
import Telemetry.Proofs.Exposition.Repetition
import Telemetry.Proofs.Exposition.RoundTrip
import Telemetry.Proofs.Meter.OnTime
import Telemetry.Proofs.Meter.Ticks
import Telemetry.Proofs.Registry.TagSets
import Telemetry.Proofs.Registry.Teardown
import Telemetry.Proofs.Sample.Reservoirs
import Telemetry.Proofs.Statsd.Messages
import Telemetry.Proofs.Store.Totals
import Telemetry.Sample.Arrival
import Telemetry.Proofs.Arithmetic.Overflow
import Telemetry.Proofs.Meter.LongGaps
import Telemetry.Proofs.Sample.Landmark
import Telemetry.Proofs.Blueprint.Plans
import Telemetry.Proofs.Holder.Population
import Telemetry.Proofs.Blueprint.FrontEnds
import Telemetry.Proofs.Sample.HeapOrder
import Telemetry.Proofs.Sample.Rescaling
import Telemetry.Proofs.Sample.Priorities
import Telemetry.Proofs.Arithmetic.Doubles
import Telemetry.Proofs.Arithmetic.Rounding
import Telemetry.Proofs.Exposition.Quantiles
import Telemetry.Proofs.Sample.Mean
import Telemetry.Proofs.Sample.Percentiles
import Telemetry.Proofs.Store.Keeping
import Telemetry.Proofs.Store.Stopping
import Telemetry.Proofs.Holder.Binding
import Telemetry.Proofs.Exposition.Precedence
import Telemetry.Proofs.Blueprint.Paths
import Telemetry.Proofs.Blueprint.TypeTokens
import Telemetry.Proofs.Blueprint.TypeTexts
import Telemetry.Proofs.Statsd.GlobalTags
import Telemetry.Proofs.Config.KeyOrder
import Telemetry.Proofs.Sample.Descriptions
import Telemetry.Proofs.Config.BareNumbers
import Telemetry.Proofs.Exposition.Sanitizing
import Telemetry.Proofs.Statsd.FailureReports
import Telemetry.Proofs.Statsd.Turns
import Telemetry.Proofs.Statsd.Timekeeping
