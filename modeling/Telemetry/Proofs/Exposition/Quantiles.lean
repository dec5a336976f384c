/-
This file says which quantiles an exposition can show: exactly the numbers from
zero to one. Quantiles come into its settings on two ways, by choosing them and
by reading a configuration. What is chosen is filtered, and a configuration with
a number out of range is refused. Neither way lets through a number that is none.
-/

import Telemetry.Exposition.Configuration
import Telemetry.Proofs.Arithmetic.Doubles
import Telemetry.Proofs.Config.Entries

namespace Telemetry.Exposition

open Config

/-! ### Quantiles -/

/-- A quantile lies between zero and one, read exactly. -/
theorem exactValue_bounds_of_isQuantile (Number : Type) [Field Number] [LinearOrder Number]
    [IsStrictOrderedRing Number] {value : Float} (quantile : isQuantile value) :
    value.isFinite ∧ 0 ≤ Double.exactValue Number value ∧ Double.exactValue Number value ≤ 1 := by
  obtain ⟨above, below⟩ := Bool.and_eq_true_iff.1 quantile
  replace above := of_decide_eq_true above
  replace below := of_decide_eq_true below
  have zero : Double.exactValue Number 0.0 = 0 := rfl
  have finite := Double.isFinite_of_le_of_le (by decide) (by decide) above below
  rw [Double.le_iff Number (by decide) finite, zero] at above
  rw [Double.le_iff Number finite (by decide), Double.exactValue_one] at below
  exact ⟨finite, above, below⟩

theorem isQuantile_of_asQuantile {node : Node} {value : Float}
    (read : node.asQuantile = .ok value) : isQuantile value := by
  obtain ⟨number, -, checked⟩ := bind_eq_ok_iff.1 read
  split at checked
  · rename_i quantile
    cases checked
    exact quantile
  · cases checked

/-- All numbers of a list are quantiles. -/
def AreQuantiles (values : List Float) : Prop :=
  ∀ value ∈ values, isQuantile value

theorem areQuantiles_filter (values : List Float) : AreQuantiles (values.filter isQuantile) :=
  fun _ member => (List.mem_filter.1 member).2

theorem areQuantiles_of_asQuantileList {node : Node} {values : List Float}
    (read : node.asQuantileList = .ok values) : AreQuantiles values :=
  holds_of_asList (fun _ _ => isQuantile_of_asQuantile) read

/-! ### Settings -/

/-- All numbers that a change brings are quantiles. -/
def SettingsChange.HoldsQuantiles : SettingsChange → Prop
  | .labels _ => True
  | .histogramQuantiles quantiles | .timerQuantiles quantiles => AreQuantiles quantiles

namespace Settings

/-- All numbers that the settings hold are quantiles. -/
structure HoldsQuantiles (settings : Settings) : Prop where
  histograms : AreQuantiles settings.histogramQuantiles
  timers : AreQuantiles settings.timerQuantiles

theorem holdsQuantiles_standard : standard.HoldsQuantiles := by
  have default : AreQuantiles defaultQuantiles := by
    unfold AreQuantiles
    decide +kernel
  exact ⟨default, default⟩

theorem HoldsQuantiles.apply {settings : Settings} (holds : settings.HoldsQuantiles)
    {change : SettingsChange} (holdsToo : change.HoldsQuantiles) :
    (settings.apply change).HoldsQuantiles := by
  cases change with
  | labels => exact ⟨holds.histograms, holds.timers⟩
  | histogramQuantiles => exact ⟨holdsToo, holds.timers⟩
  | timerQuantiles => exact ⟨holds.histograms, holdsToo⟩

theorem holdsQuantiles_of_readChange {key : String} {node : Node} {changes : List SettingsChange}
    (read : readChange key node = .ok changes) : ∀ change ∈ changes, change.HoldsQuantiles := by
  unfold readChange at read
  split at read
  · cases read
  · obtain ⟨labels, -, told⟩ := bind_eq_ok_iff.1 read
    cases told
    exact List.forall_mem_singleton.2 trivial
  · obtain ⟨quantiles, list, told⟩ := bind_eq_ok_iff.1 read
    cases told
    exact List.forall_mem_singleton.2 (areQuantiles_of_asQuantileList (within_eq_ok_iff.1 list))
  · obtain ⟨quantiles, list, told⟩ := bind_eq_ok_iff.1 read
    cases told
    exact List.forall_mem_singleton.2 (areQuantiles_of_asQuantileList (within_eq_ok_iff.1 list))

theorem HoldsQuantiles.foldl {changes : List SettingsChange}
    (each : ∀ change ∈ changes, change.HoldsQuantiles) {settings : Settings}
    (holds : settings.HoldsQuantiles) : (changes.foldl Settings.apply settings).HoldsQuantiles := by
  induction changes generalizing settings with
  | nil => exact holds
  | cons change rest inductionHypothesis =>
    obtain ⟨first, others⟩ := List.forall_mem_cons.1 each
    exact inductionHypothesis others (holds.apply first)

theorem holdsQuantiles_of_ofNode {node : Node} {settings : Settings}
    (read : ofNode node = .ok settings) : settings.HoldsQuantiles := by
  unfold ofNode at read
  split at read
  · obtain ⟨changes, gathered, told⟩ := bind_eq_ok_iff.1 read
    cases told
    exact holdsQuantiles_standard.foldl
      (holds_of_gatherEntries (fun _ _ _ => holdsQuantiles_of_readChange) gathered)
  · cases read

/-- The settings that can be made: the standard ones, those that are read from a configuration, and
what is chosen on top of settings that can be made. -/
inductive IsMade : Settings → Prop
  | standard : IsMade standard
  | read {node : Node} {settings : Settings} (read : ofNode node = .ok settings) : IsMade settings
  | labels {settings : Settings} (made : IsMade settings) (labels : List (String × String)) :
      IsMade (settings.withLabels labels)
  | histogramQuantiles {settings : Settings} (made : IsMade settings) (values : List Float) :
      IsMade (settings.withHistogramQuantiles values).1
  | timerQuantiles {settings : Settings} (made : IsMade settings) (values : List Float) :
      IsMade (settings.withTimerQuantiles values).1

theorem IsMade.holdsQuantiles {settings : Settings} (made : IsMade settings) :
    settings.HoldsQuantiles := by
  induction made with
  | standard => exact holdsQuantiles_standard
  | read read => exact holdsQuantiles_of_ofNode read
  | labels made labels inductionHypothesis =>
    exact ⟨inductionHypothesis.histograms, inductionHypothesis.timers⟩
  | histogramQuantiles made values inductionHypothesis =>
    exact ⟨areQuantiles_filter values, inductionHypothesis.timers⟩
  | timerQuantiles made values inductionHypothesis =>
    exact ⟨inductionHypothesis.histograms, areQuantiles_filter values⟩

end Settings

/-- Whether settings that can be made hold a number, for histograms or for timers. -/
def IsHeld (value : Float) : Prop :=
  ∃ settings, Settings.IsMade settings ∧
    (value ∈ settings.histogramQuantiles ∨ value ∈ settings.timerQuantiles)

/-- Settings can hold exactly the quantiles. -/
theorem isHeld_iff {value : Float} : IsHeld value ↔ isQuantile value := by
  constructor
  · rintro ⟨settings, made, histogram | timer⟩
    · exact made.holdsQuantiles.histograms value histogram
    · exact made.holdsQuantiles.timers value timer
  · intro quantile
    exact ⟨_, .histogramQuantiles .standard [value],
      Or.inl (List.mem_filter.2 ⟨List.mem_singleton_self value, quantile⟩)⟩

end Telemetry.Exposition
