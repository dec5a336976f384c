/-
This file says when all metrics of some sort are kept: whatever is done to the
store, each of them is there afterwards as it was. Making a metric and filing
names keeps all metrics. Readings and removals of names can only touch a meter
that is running, so they keep whatever is at rest: metrics without a meter, and
metrics whose meter is stopped.
-/

import Telemetry.Proofs.Meter.Ticks
import Telemetry.Proofs.Registry.Filing

namespace Telemetry

/-! ### Metrics at rest -/

namespace Metric

/-- A metric that has no meter, or whose meter is stopped. -/
def IsAtRest (metric : Metric) : Prop :=
  ∀ rates, metric.rates? = some rates → rates.isStopped

theorem stop_of_isAtRest {metric : Metric} (rest : metric.IsAtRest) (now : Int) :
    metric.stop now = metric := by
  cases metric with
  | meter rates => exact congrArg Metric.meter (if_pos (rest rates rfl))
  | timer sample rates => exact congrArg (Metric.timer sample) (if_pos (rest rates rfl))
  | _ => rfl

end Metric

namespace Store

/-- Every metric of the first store that is of the given sort is in the second as it was. -/
def Keeps (sort : Metric → Prop) (before after : Store) : Prop :=
  ∀ handle metric, sort metric → before.metric? handle = some metric →
    after.metric? handle = some metric

namespace Keeps

variable {sort : Metric → Prop}

theorem refl (store : Store) : Keeps sort store store :=
  fun _ _ _ found => found

theorem trans {first second third : Store} (toSecond : Keeps sort first second)
    (toThird : Keeps sort second third) : Keeps sort first third :=
  fun handle metric own found => toThird handle metric own (toSecond handle metric own found)

/-- A change that leaves the metrics of the sort as they are may be made to any metric. -/
theorem change (store : Store) (handle : Handle) {update : Metric → Metric}
    (fixed : ∀ metric, sort metric → update metric = metric) :
    Keeps sort store (store.change handle update) := by
  intro other metric own found
  rw [metric?_change, found, Option.map_some, fixed metric own, ite_self]

theorem create (store : Store) (metric : Metric) : Keeps sort store (store.create metric).2 := by
  intro handle old _ found
  rw [metric?_create, if_neg, found]
  rintro rfl
  have dead := kind?_of_not_live store.not_live_nextHandle
  rw [kind?, found] at dead
  cases dead

/-- Filing names keeps all metrics. -/
theorem allowsRegistering : AllowsRegistering (Keeps sort) where
  refl := .refl
  trans := .trans
  notices store _ := .refl store
  setRegistry store _ _ := .refl store
  create := .create

section AtRest

variable (rest : ∀ metric, sort metric → metric.IsAtRest)
include rest

/-- Reading changes running meters and sources only. -/
theorem read (store : Store) (handle : Handle) : Keeps sort store (store.read handle).2 := by
  unfold Store.read
  cases found : store.metric? handle with
  | none => exact .refl store
  | some metric =>
    cases metric with
    | counter _ | gauge _ | floatGauge _ | functionalFloatGauge _ | histogram _ =>
      exact .refl store
    | functionalGauge source => exact fun _ _ _ known => known
    | meter rates | timer sample rates =>
      intro other metric own known
      rw [metric?_change]
      split
      · rename_i same
        subst same
        cases found.symm.trans known
        have stays : (rates.snapshot store.now).2 = rates :=
          Meter.use_of_isStopped (rest _ own rates rfl) store.now .read
        rw [found, Option.map_some, stays]
      · exact known

theorem allowsReading : AllowsReading (Keeps sort) where
  toAllowsNotices := allowsRegistering.toAllowsNotices
  read := .read rest

theorem allowsFiling : AllowsFiling (Keeps sort) where
  toAllowsNotices := allowsRegistering.toAllowsNotices
  setRegistry := allowsRegistering.setRegistry
  create := .create
  stop store handle :=
    .change store handle fun metric own => metric.stop_of_isAtRest (rest metric own) store.now

end AtRest

end Keeps

end Store

end Telemetry
