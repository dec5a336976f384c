/-
This file collects the content of a registry into families of series. Entries
are taken in the order of their full names. Each contributes the series of its
kind under names that derive from its sanitized base, with labels from the
settings and from its tags. A family keeps the type that its first series gave
it; a series of another type, or with labels that the family already has, is
dropped with a notice.
-/

import Telemetry.Exposition.Sanitize
import Telemetry.Exposition.Settings
import Telemetry.Name
import Telemetry.Registry

namespace Telemetry.Exposition

/-! ### Labels -/

/-- The label that takes the place of a `quantile` label in a summary. -/
def exportedQuantileLabel : String :=
  "exported_quantile"

/-- Add a label under its valid name; without one it is left out. -/
def addLabel (labels : Dictionary String) (label : String × String) : Dictionary String :=
  let name := labelName label.1
  if name = "" then labels else labels.insert name label.2

/-- The labels in a summary: `quantile` is moved to the label that takes its place, unless that is
there already. -/
def reserveQuantile (labels : Dictionary String) : Dictionary String :=
  match labels.find? quantileLabel with
  | none => labels
  | some value => (labels.erase quantileLabel).insertIfNew exportedQuantileLabel value

/-- The labels of a series: those of the settings, then those of the tags that are pairs, where a
later label takes the place of an earlier one of the same name. -/
def seriesLabels (settings : Settings) (tags : List String) (summary : Bool) : Labels :=
  let fixed := settings.labels.entries.foldl addLabel .empty
  let all := (tags.filterMap tagPair?).foldl addLabel fixed
  (if summary then reserveQuantile all else all).entries

/-! ### Contributions of a metric -/

/-- A series together with the family that it belongs to. -/
structure Contribution where
  family : String
  help : String
  type : FamilyType
  labels : Labels
  value : SeriesValue
deriving Repr

/-- A whole number as the value of a series. -/
def number (value : Int64) : Float :=
  Sample.toNumber value

/-- Nanoseconds in a second, by which the values of timers are divided. -/
def nanosecondsPerSecond : Float :=
  1000000000.0

/-- A summary of a sample in units of `scale`. -/
def summary (values : Sample.Snapshot) (quantiles : List Float) (scale : Float) : SeriesValue :=
  .summary
    (quantiles.map fun quantile => (quantile, Sample.percentile values.values quantile / scale))
    (number values.sum / scale)
    values.count.toInt.toNat

/-- What a metric contributes, by what it shows when it is read. -/
def contributions (settings : Settings) (base : String) (kind : Kind) (labels : Labels)
    (reading : Reading) : List Contribution :=
  let series (suffix : String) (type : FamilyType) (value : SeriesValue) : Contribution :=
    ⟨base ++ suffix, kind.word, type, labels, value⟩
  match reading with
  | .count value => [series "" .untyped (.single (number value))]
  | .level value => [series "" .gauge (.single (number value))]
  | .floatLevel value => [series "" .gauge (.single value)]
  | .histogram values =>
    [series "_max" .untyped (.single (number values.greatest)),
      series "_min" .untyped (.single (number values.least)),
      series "" .summary (summary values settings.histogramQuantiles 1.0)]
  | .meter rates => [series "_count" .untyped (.single (number rates.count))]
  | .timer values _ =>
    [series "_max_seconds" .untyped (.single (number values.greatest / nanosecondsPerSecond)),
      series "_min_seconds" .untyped (.single (number values.least / nanosecondsPerSecond)),
      series "_seconds" .summary (summary values settings.timerQuantiles nanosecondsPerSecond)]

/-- Read a metric for an exposition. Of a meter only the count is shown, so no ticks are
applied. -/
def readForExposition (store : Store) (handle : Handle) : Option Reading × Store :=
  match store.metric? handle with
  | some (.meter rates) => (some (.meter (rates.readingAt store.now)), store)
  | _ => store.read handle

/-- What an entry of a registry contributes. An entry whose name holds no valid character
contributes nothing, with a notice. -/
def entryContributions (settings : Settings) (store : Store) (name : String) (handle : Handle) :
    List Contribution × Store :=
  let parsed := Name.read name
  let base := metricName parsed.base
  if base = "" then ([], store.note (.noValidChar name))
  else
    match store.kind? handle with
    | none => ([], store)
    | some kind =>
      let labels := seriesLabels settings parsed.tags kind.isSampled
      match readForExposition store handle with
      | (none, next) => ([], next)
      | (some reading, next) => (contributions settings base kind labels reading, next)

/-! ### Families -/

/-- Families by name. -/
abbrev Families :=
  Dictionary Family

/-- Add a contribution to its family, which it founds if there is none. It is dropped when the
family is of another type or has a series with the same labels. -/
def Families.add (families : Families) (item : Contribution) : Families × List Notice :=
  let family := (families.find? item.family).getD ⟨item.family, item.help, item.type, []⟩
  if family.type ≠ item.type then
    (families, [.typeConflict family.name family.type item.type item.help])
  else if family.hasLabels item.labels then
    (families, [.labelConflict family.name item.labels])
  else (families.insert item.family (family.add ⟨item.labels, item.value⟩), [])

/-- Add contributions one after the other. -/
def Families.addAll (families : Families) : List Contribution → Families × List Notice
  | [] => (families, [])
  | item :: rest =>
    let (added, notices) := families.add item
    let (all, more) := Families.addAll added rest
    (all, notices ++ more)

/-- Add the contributions of entries in their order. -/
def collectEntries (settings : Settings) (families : Families) (store : Store) :
    List (String × Handle) → Families × Store
  | [] => (families, store)
  | (name, handle) :: rest =>
    let (items, next) := entryContributions settings store name handle
    let (added, notices) := families.addAll items
    collectEntries settings added (next.noteAll notices) rest

/-- The families of a registry, by name, each with its series in the order of their labels. -/
def collect (settings : Settings) (store : Store) (id : RegistryId) : List Family × Store :=
  let (families, next) := collectEntries settings .empty store (store.registry id).entries
  (families.values.map Family.sorted, next)

end Telemetry.Exposition
