/-
This file proves which line breaks a written line holds. Behind its body stands
its own line break. The body takes its line breaks from the prefix, from the name
and from the tags, and all of them: neither the values nor what is put between
the parts holds one. The lines of an entry go under its base with a suffix that
holds none either, so that what a registry files under a name can only break its
own lines.
-/

import Telemetry.Proofs.Decimal.Digits
import Telemetry.Proofs.Text.Cutting
import Telemetry.Statsd.Emitter

namespace Telemetry.Statsd

open Decimal Text

/-! ### Values -/

theorem newline_not_mem_writeInt (value : Int) : '\n' ∉ writeInt value := by
  intro member
  rcases isAsciiDigit_of_mem_writeInt member with digit | minus
  · exact absurd digit (by decide)
  · exact absurd minus (by decide)

theorem newline_not_mem_numberStyle (value : Float) :
    '\n' ∉ Line.numberStyle.write (decodeFloat value) := by
  intro member
  rcases NumberStyle.mem_write member with finite | own
  · exact absurd finite (by decide)
  · exact absurd own (by decide)

/-! ### Tags -/

theorem TagGroup.count_append (group : TagGroup) (tag : List Char) :
    (group.append tag).text.count '\n' = group.text.count '\n' + tag.count '\n' := by
  unfold append
  split
  · rename_i empty
    rw [List.isEmpty_iff.1 empty, List.count_nil, Nat.zero_add]
  · rw [List.count_append, List.count_cons_of_ne (by decide)]

theorem TagGroup.count_ofTags (tags : List String) :
    (ofTags tags).text.count '\n' = (tags.map fun tag => tag.toList.count '\n').sum := by
  have grown (group : TagGroup) : (tags.foldl addValue group).text.count '\n' =
      group.text.count '\n' + (tags.map fun tag => tag.toList.count '\n').sum := by
    induction tags generalizing group with
    | nil => rfl
    | cons tag rest inductionHypothesis =>
      rw [List.foldl_cons, inductionHypothesis, addValue, count_append, List.map_cons,
        List.sum_cons, Nat.add_assoc]
  exact (grown empty).trans (Nat.zero_add _)

namespace Line

theorem count_tagsText (groups : List TagGroup) :
    (tagsText groups).count '\n' = (groups.map fun group => group.text.count '\n').sum := by
  have shown : (((groups.map TagGroup.text).filter (!·.isEmpty)).map (List.count '\n')).sum =
      (groups.map fun group => group.text.count '\n').sum := by
    induction groups with
    | nil => rfl
    | cons group rest inductionHypothesis =>
      rw [List.map_cons, List.map_cons, List.sum_cons, ← inductionHypothesis]
      cases text : group.text with
      | nil => exact (Nat.zero_add _).symm
      | cons c more => rfl
  rw [← shown]
  unfold tagsText
  dsimp only
  split
  · rename_i empty
    rw [List.isEmpty_iff.1 empty]
    rfl
  · rw [List.count_cons_of_ne (by decide), List.count_cons_of_ne (by decide),
      count_glue (by decide)]

/-! ### Whole lines -/

theorem count_prefixText (namePrefix : String) :
    (prefixText namePrefix).count '\n' = namePrefix.toList.count '\n' := by
  unfold prefixText
  split
  · rename_i empty
    rw [empty]
    rfl
  · rw [List.count_append, List.count_cons_of_ne (by decide), List.count_nil, Nat.add_zero]

/-- The written line without its line break. -/
def body (namePrefix : String) (groups : List TagGroup) (line : Line) : List Char :=
  prefixText namePrefix ++ line.name.toList ++ ':' :: line.value ++
    '|' :: line.type.letter :: tagsText groups

theorem count_body (namePrefix : String) (groups : List TagGroup) (line : Line) :
    (line.body namePrefix groups).count '\n' =
      namePrefix.toList.count '\n' + line.name.toList.count '\n' + line.value.count '\n' +
        (groups.map fun group => group.text.count '\n').sum := by
  have letter : line.type.letter ≠ '\n' := by cases line.type <;> decide
  rw [body, List.count_append, List.count_append, List.count_append,
    List.count_cons_of_ne (by decide), List.count_cons_of_ne (by decide),
    List.count_cons_of_ne letter, count_prefixText, count_tagsText]

/-- A line about what is measured under a base: its name holds no other line breaks than the base,
and its value holds none. -/
structure IsAbout (base : String) (line : Line) : Prop where
  name : line.name.toList.count '\n' = base.toList.count '\n'
  value : '\n' ∉ line.value

variable {base suffix : String} (free : '\n' ∉ suffix.toList)

include free

theorem count_suffixed : (base ++ suffix).toList.count '\n' = base.toList.count '\n' := by
  rw [String.toList_append, List.count_append, List.count_eq_zero.2 free, Nat.add_zero]

theorem isAbout_gauge (value : Int) : (gauge (base ++ suffix) value).IsAbout base :=
  ⟨count_suffixed free, newline_not_mem_writeInt value⟩

theorem isAbout_floatGauge (value : Float) : (floatGauge (base ++ suffix) value).IsAbout base :=
  ⟨count_suffixed free, newline_not_mem_numberStyle value⟩

end Line

/-! ### The lines of an entry -/

theorem isAbout_of_mem_sampleLines (base : String) (values : Sample.Snapshot) :
    ∀ line ∈ sampleLines base values, line.IsAbout base := by
  simp only [sampleLines, List.forall_mem_cons]
  exact ⟨Line.isAbout_floatGauge (by decide) _, Line.isAbout_gauge (by decide) _,
    Line.isAbout_gauge (by decide) _, Line.isAbout_floatGauge (by decide) _,
    Line.isAbout_gauge (by decide) _, Line.isAbout_gauge (by decide) _,
    Line.isAbout_floatGauge (by decide) _, nofun⟩

theorem isAbout_of_mem_meterLines (base : String) (rates : Meter.Snapshot Float) :
    ∀ line ∈ meterLines base rates, line.IsAbout base := by
  simp only [meterLines, List.forall_mem_cons]
  exact ⟨Line.isAbout_floatGauge (by decide) _, Line.isAbout_gauge (by decide) _,
    Line.isAbout_floatGauge (by decide) _, Line.isAbout_floatGauge (by decide) _,
    Line.isAbout_floatGauge (by decide) _, nofun⟩

theorem isAbout_of_mem_readingLines (base : String) (reading : Reading) :
    ∀ line ∈ readingLines base reading, line.IsAbout base := by
  cases reading with
  | count value | level value =>
    exact List.forall_mem_singleton.2 ⟨rfl, newline_not_mem_writeInt value.toInt⟩
  | floatLevel value => exact List.forall_mem_singleton.2 ⟨rfl, newline_not_mem_numberStyle value⟩
  | histogram values | timer values _ => exact isAbout_of_mem_sampleLines base values
  | meter rates => exact isAbout_of_mem_meterLines base rates

/-- How many lines a metric of the kind takes. -/
def linesOfKind : Kind → Nat
  | .counter | .gauge | .floatGauge | .functionalGauge | .functionalFloatGauge => 1
  | .meter => 5
  | .histogram | .timer => 7

end Telemetry.Statsd
