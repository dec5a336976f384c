/-
This file proves that settings do not depend on the order in which a
configuration lists them. The settings of a client and those of an exposition
consist of fields that the entries set, so a map in which no two entries set the
same field is accepted in every order or in none, and always gives the same
settings. What no entry sets is as it is when nothing is given.
-/

import Telemetry.Exposition.Configuration
import Telemetry.Proofs.Config.Fields
import Telemetry.Statsd.Configuration

namespace Telemetry

open Config

/-! ### The settings of a client -/

namespace Statsd

/-- The fields of the settings of a client. -/
inductive SettingsField
  | backend
  | namePrefix
  | tags
  | tagValues
  | cacheSize
  | segmentLimit
  | emitInterval
deriving DecidableEq, Repr

/-- The type of a field. -/
def SettingsField.Value : SettingsField → Type
  | backend => Backend
  | namePrefix => String
  | tags => Dictionary String
  | tagValues => List String
  | cacheSize => Nat
  | segmentLimit => Option Nat
  | emitInterval => Duration

namespace SettingsChange

/-- The field that a change writes. -/
def field : SettingsChange → SettingsField
  | .backend _ => .backend
  | .namePrefix _ => .namePrefix
  | .tags _ => .tags
  | .tagValues _ => .tagValues
  | .cacheSize _ => .cacheSize
  | .segmentLimit _ => .segmentLimit
  | .emitInterval _ => .emitInterval

/-- What a change writes. -/
def value : (change : SettingsChange) → change.field.Value
  | .backend given => given
  | .namePrefix given => given
  | .tags given => given
  | .tagValues given => given
  | .cacheSize given => given
  | .segmentLimit given => some given
  | .emitInterval given => given

end SettingsChange

namespace Settings

/-- The value of a field. -/
def get (settings : Settings) : (field : SettingsField) → field.Value
  | .backend => settings.backend
  | .namePrefix => settings.namePrefix
  | .tags => settings.tags
  | .tagValues => settings.tagValues
  | .cacheSize => settings.cacheSize
  | .segmentLimit => settings.segmentLimit
  | .emitInterval => settings.emitInterval

theorem ext_get {first second : Settings} (same : ∀ field, first.get field = second.get field) :
    first = second := by
  cases first
  cases second
  exact (Settings.mk.injEq ..).mpr ⟨same .backend, same .namePrefix, same .tags, same .tagValues,
    same .cacheSize, same .segmentLimit, same .emitInterval⟩

/-- The settings of a client as fields that changes write. -/
def fields : Fields Settings SettingsChange SettingsField where
  apply := apply
  Value := SettingsField.Value
  get := get
  field := SettingsChange.field
  value := SettingsChange.value
  ext := ext_get
  get_written settings change := by cases change <;> rfl
  get_other settings change other different := by
    cases change <;> cases other <;> first | rfl | exact absurd rfl different

theorem ofNode_map (entries : List (Node × Node)) :
    ofNode (.map entries) = fields.settle readChange standard entries :=
  rfl

end Settings

end Statsd

/-! ### The settings of an exposition -/

namespace Exposition

/-- The fields of the settings of an exposition. -/
inductive SettingsField
  | labels
  | histogramQuantiles
  | timerQuantiles
deriving DecidableEq, Repr

/-- The type of a field. -/
def SettingsField.Value : SettingsField → Type
  | labels => Dictionary String
  | histogramQuantiles | timerQuantiles => List Float

namespace SettingsChange

/-- The field that a change writes. -/
def field : SettingsChange → SettingsField
  | .labels _ => .labels
  | .histogramQuantiles _ => .histogramQuantiles
  | .timerQuantiles _ => .timerQuantiles

/-- What a change writes. -/
def value : (change : SettingsChange) → change.field.Value
  | .labels given => given
  | .histogramQuantiles given => given
  | .timerQuantiles given => given

end SettingsChange

namespace Settings

/-- The value of a field. -/
def get (settings : Settings) : (field : SettingsField) → field.Value
  | .labels => settings.labels
  | .histogramQuantiles => settings.histogramQuantiles
  | .timerQuantiles => settings.timerQuantiles

theorem ext_get {first second : Settings} (same : ∀ field, first.get field = second.get field) :
    first = second := by
  cases first
  cases second
  exact (Settings.mk.injEq ..).mpr ⟨same .labels, same .histogramQuantiles, same .timerQuantiles⟩

/-- The settings of an exposition as fields that changes write. -/
def fields : Fields Settings SettingsChange SettingsField where
  apply := apply
  Value := SettingsField.Value
  get := get
  field := SettingsChange.field
  value := SettingsChange.value
  ext := ext_get
  get_written settings change := by cases change <;> rfl
  get_other settings change other different := by
    cases change <;> cases other <;> first | rfl | exact absurd rfl different

theorem ofNode_map (entries : List (Node × Node)) :
    ofNode (.map entries) = fields.settle readChange standard entries :=
  rfl

end Settings

end Exposition

/-! ### Order -/

/-- The order of keys does not matter. If no two entries of a map set the same field, every
reordering of the map is accepted exactly if the map itself is, and then gives the same settings;
and the fields that no entry of a map sets are as they are without a configuration. This holds of
the settings of a client and of those of an exposition, for all maps, also those with entries that
cannot be read. -/
theorem settings_do_not_depend_on_key_order :
    (∀ entries reordered : List (Node × Node), entries.Perm reordered →
      Statsd.Settings.fields.SetOnce Statsd.Settings.readChange entries → ∀ settings,
        (Statsd.Settings.ofNode (.map reordered) = .ok settings ↔
          Statsd.Settings.ofNode (.map entries) = .ok settings)) ∧
    (∀ entries reordered : List (Node × Node), entries.Perm reordered →
      Exposition.Settings.fields.SetOnce Exposition.Settings.readChange entries → ∀ settings,
        (Exposition.Settings.ofNode (.map reordered) = .ok settings ↔
          Exposition.Settings.ofNode (.map entries) = .ok settings)) ∧
    (∀ entries settings, Statsd.Settings.ofNode (.map entries) = .ok settings → ∀ field,
      (∀ entry ∈ entries, field ∉
        Statsd.Settings.fields.setBy Statsd.Settings.readChange entry) →
      settings.get field = Statsd.Settings.standard.get field) ∧
    (∀ entries settings, Exposition.Settings.ofNode (.map entries) = .ok settings → ∀ field,
      (∀ entry ∈ entries, field ∉
        Exposition.Settings.fields.setBy Exposition.Settings.readChange entry) →
      settings.get field = Exposition.Settings.standard.get field) := by
  refine ⟨fun entries reordered perm once settings => ?_,
    fun entries reordered perm once settings => ?_,
    fun entries settings read field unset => ?_, fun entries settings read field unset => ?_⟩
  · rw [Statsd.Settings.ofNode_map, Statsd.Settings.ofNode_map]
    exact Statsd.Settings.fields.settle_perm once perm
  · rw [Exposition.Settings.ofNode_map, Exposition.Settings.ofNode_map]
    exact Exposition.Settings.fields.settle_perm once perm
  · exact Statsd.Settings.fields.get_settle read unset
  · exact Exposition.Settings.fields.get_settle read unset

/-- Three entries of a client and two of an exposition, each also in the opposite order. -/
theorem settings_of_a_map_in_either_order :
    let backend : Node × Node := (.text "Backend", .map [(.text "unix", .text "/run/statsd")])
    let values : Node × Node := (.text "global-tags", .list [.text "canary"])
    let labels : Node × Node := (.text "labels", .map [(.text "env", .text "prod")])
    let quantiles : Node × Node := (.text "histogram_quantiles", .real "0.5")
    let tags : Node × Node := (.text "tags", .map [(.text "env", .text "prod")])
    let settings : Statsd.Settings :=
      { Statsd.Settings.standard with
        backend := .unix "/run/statsd"
        tagValues := ["canary"]
        tags := Dictionary.empty.insert "env" "prod" }
    let exposition : Exposition.Settings :=
      { Exposition.Settings.standard with
        labels := Dictionary.empty.insert "env" "prod"
        histogramQuantiles := [0.5] }
    Statsd.Settings.ofNode (.map [backend, values, tags]) = .ok settings ∧
      Statsd.Settings.ofNode (.map [tags, values, backend]) = .ok settings ∧
      settings.cacheSize = 1024 ∧
      Exposition.Settings.ofNode (.map [labels, quantiles]) = .ok exposition ∧
      Exposition.Settings.ofNode (.map [quantiles, labels]) = .ok exposition ∧
      exposition.timerQuantiles = Exposition.Settings.standard.timerQuantiles := by
  intro backend values labels quantiles tags settings exposition
  obtain ⟨clientOrder, expositionOrder, clientUnset, expositionUnset⟩ :=
    settings_do_not_depend_on_key_order
  have clientRead : Statsd.Settings.ofNode (.map [backend, values, tags]) = .ok settings := by rfl
  have clientFields : [backend, values, tags].map
      (Statsd.Settings.fields.setBy Statsd.Settings.readChange) =
        [[.backend], [.tagValues], [.tags]] := by rfl
  have expositionRead :
      Exposition.Settings.ofNode (.map [labels, quantiles]) = .ok exposition := by rfl
  have expositionFields : [labels, quantiles].map
      (Exposition.Settings.fields.setBy Exposition.Settings.readChange) =
        [[.labels], [.histogramQuantiles]] := by rfl
  refine ⟨clientRead, (clientOrder _ _ ?_ ?_ _).2 clientRead, ?_, expositionRead,
    (expositionOrder _ _ ?_ ?_ _).2 expositionRead, ?_⟩
  · exact (List.reverse_perm _).symm
  · rw [Fields.SetOnce, clientFields]
    simp
  · refine clientUnset _ _ clientRead .cacheSize ?_
    rw [← List.forall_mem_map (P := (Statsd.SettingsField.cacheSize ∉ ·)), clientFields]
    decide
  · exact .swap _ _ _
  · rw [Fields.SetOnce, expositionFields]
    simp
  · refine expositionUnset _ _ expositionRead .timerQuantiles ?_
    rw [← List.forall_mem_map (P := (Exposition.SettingsField.timerQuantiles ∉ ·)),
      expositionFields]
    decide

end Telemetry
