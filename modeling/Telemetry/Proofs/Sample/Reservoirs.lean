/-
This file proves what a sample keeps of the values offered to it. Offering a
value does one of three things: a reservoir with room keeps the value beside the
others, a full one keeps it in place of one of the others, or a full one leaves
it out, which only a uniform reservoir does. Whatever the draws and the times,
and also where the draw falls on no place and the priorities are no numbers, the
kept values are therefore some of those seen since the last clearing, each
counted once, and all of them as long as there is room.
-/

import Mathlib.Data.List.DropRight
import Mathlib.Data.List.Perm.Subperm
import Telemetry.Proofs.Sample.Heap
import Telemetry.Sample.Basic

namespace Telemetry.Sample

/-! ### Offering one value -/

/-- What can become of the kept values of a reservoir for `size` values when a value is offered. -/
inductive Intake (kind : Kind) (size : Nat) (new : Int64) (kept after : List Int64) : Prop
  | beside (room : kept.length < size) (perm : after.Perm (new :: kept))
      (appended : kind = .uniform → after = kept ++ [new])
  | instead (full : size ≤ kept.length) (gone : Int64) (others : List Int64)
      (before : kept.Perm (gone :: others)) (perm : after.Perm (new :: others))
  | leftOut (full : size ≤ kept.length) (lenient : kind = .decaying → size = 0)
      (perm : after.Perm kept)

/-- The order in which a decaying reservoir keeps its values does not matter. -/
theorem Intake.trans_perm {size : Nat} {new : Int64} {kept after later : List Int64}
    (intake : Intake .decaying size new kept after) (perm : later.Perm after) :
    Intake .decaying size new kept later := by
  cases intake with
  | beside room grown _ => exact .beside room (perm.trans grown) nofun
  | instead full gone others before grown =>
    exact .instead full gone others before (perm.trans grown)
  | leftOut full lenient same => exact .leftOut full lenient (perm.trans same)

theorem Uniform.size_count_update (draw : UInt64) (reservoir : Uniform) (new : Int64) :
    (reservoir.update draw new).size = reservoir.size ∧
      (reservoir.update draw new).count = reservoir.count + 1 := by
  unfold update
  split <;> exact ⟨rfl, rfl⟩

theorem Uniform.intake_update (draw : UInt64) (reservoir : Uniform) (new : Int64) :
    Intake .uniform reservoir.size new reservoir.values.toList
      (reservoir.update draw new).values.toList := by
  unfold update
  split
  · rename_i room
    have appended : (reservoir.values.push new).toList = reservoir.values.toList ++ [new] :=
      Array.toList_push
    refine .beside room ?_ fun _ => appended
    exact (List.Perm.of_eq appended).trans (List.perm_append_singleton new _)
  · rename_i noRoom
    have full : reservoir.size ≤ reservoir.values.toList.length := Nat.le_of_not_lt noRoom
    rw [Array.toList_setIfInBounds]
    generalize (draw % (reservoir.count + 1).toUInt64).toNat = place
    by_cases inside : place < reservoir.values.toList.length
    · exact .instead full _ _ (List.getElem_cons_eraseIdx_perm inside).symm
        (List.set_perm_cons_eraseIdx inside new)
    · exact .leftOut full nofun (.of_eq (List.set_eq_of_length_le (Nat.le_of_not_lt inside)))

namespace Decaying

variable {Number : Type}

/-- The kept values, without their priorities. -/
def values (reservoir : Decaying Number) : List Int64 :=
  reservoir.kept.toList.map (·.value)

theorem length_values (reservoir : Decaying Number) :
    reservoir.values.length = reservoir.kept.size := by
  rw [values, List.length_map, Heap.length_toList]

variable [Arithmetic Number]

/-- The values stay when the priorities are scaled. -/
theorem values_rescale_perm (exp : Number → Number) (reservoir : Decaying Number) (now : Int) :
    (reservoir.rescale exp now).values.Perm reservoir.values := by
  refine ((Heap.toList_map_perm _ _ reservoir.kept).map _).trans (.of_eq ?_)
  rw [List.map_map]
  rfl

theorem values_update_perm (exp : Number → Number) (draw : Number) (now : Int)
    (reservoir : Decaying Number) (new : Int64) :
    (reservoir.update exp draw now new).values.Perm
      (reservoir.insert exp draw now new).values := by
  unfold update
  dsimp only
  split
  · exact values_rescale_perm exp _ now
  · exact .refl _

theorem intake_insert (exp : Number → Number) (draw : Number) (now : Int)
    (reservoir : Decaying Number) (new : Int64) :
    Intake .decaying reservoir.size new reservoir.values
      (reservoir.insert exp draw now new).values := by
  unfold insert
  dsimp only
  split
  · rename_i noRoom
    exact .leftOut (noRoom ▸ Nat.zero_le _) (fun _ => noRoom) (.refl _)
  · rename_i room
    split
    · rename_i full
      rw [← length_values] at full
      have nonempty : reservoir.kept.toList ≠ [] := fun empty => by
        rw [values, empty] at full
        exact room (Nat.le_zero.mp full)
      obtain ⟨gone, popped⟩ := Heap.exists_perm_pop Weighted.ranksBelow _ nonempty
      exact .instead full gone.value _ (popped.map _)
        ((Heap.toList_push_perm Weighted.ranksBelow _ _).map _)
    · rename_i room
      rw [← length_values, Nat.not_le] at room
      exact .beside room ((Heap.toList_push_perm Weighted.ranksBelow _ _).map _) nofun

theorem size_count_update (exp : Number → Number) (draw : Number) (now : Int)
    (reservoir : Decaying Number) (new : Int64) :
    (reservoir.update exp draw now new).size = reservoir.size ∧
      (reservoir.update exp draw now new).count = reservoir.count + 1 := by
  grind only [update, insert, rescale]

theorem intake_update (exp : Number → Number) (draw : Number) (now : Int)
    (reservoir : Decaying Number) (new : Int64) :
    Intake .decaying reservoir.size new reservoir.values
      (reservoir.update exp draw now new).values :=
  (intake_insert exp draw now reservoir new).trans_perm
    (values_update_perm exp draw now reservoir new)

end Decaying

/-! ### What the kept values are -/

/-- What the kept values of a reservoir for `size` values have to do with the values it has seen. -/
structure Keeps (kind : Kind) (size : Nat) (seen kept : List Int64) : Prop where
  length : kept.length = min seen.length size
  matched : kept.Subperm seen
  ordered : kind = .uniform → seen.length ≤ size → kept = seen
  newest : kind = .decaying → 0 < size → ∀ earlier new, seen = earlier ++ [new] →
    ∃ others, kept.Perm (new :: others) ∧ others.Subperm earlier

namespace Keeps

variable {kind : Kind} {size : Nat} {seen kept : List Int64}

theorem nil : Keeps kind size [] [] where
  length := (Nat.zero_min size).symm
  matched := .refl []
  ordered _ _ := rfl
  newest _ _ _ _ empty := absurd empty.symm (List.append_ne_nil_of_right_ne_nil _ nofun)

/-- While there is room for all values, all are kept. -/
theorem perm (keeps : Keeps kind size seen kept) (room : seen.length ≤ size) : kept.Perm seen := by
  refine keeps.matched.perm_of_length_le ?_
  rw [keeps.length, Nat.min_eq_left room]

/-- A value that is kept together with some of the values kept so far is matched to itself. -/
theorem subperm_append {others after : List Int64} {new : Int64}
    (matched : others.Subperm seen) (perm : after.Perm (new :: others)) :
    after.Subperm (seen ++ [new]) :=
  (perm.trans (List.perm_append_singleton new others).symm).subperm.trans
    ((List.subperm_append_right [new]).mpr matched)

/-- A value that is kept together with some of the values kept so far is the newest. -/
theorem exists_newest {others after : List Int64} {new : Int64}
    (matched : others.Subperm seen) (perm : after.Perm (new :: others)) (earlier : List Int64)
    (last : Int64) (split : seen ++ [new] = earlier ++ [last]) :
    ∃ others, after.Perm (last :: others) ∧ others.Subperm earlier := by
  obtain ⟨rfl, same⟩ := List.append_inj' split rfl
  rw [List.singleton_inj] at same
  exact ⟨others, same ▸ perm, matched⟩

/-- Offering a value to a reservoir leaves a reservoir that has seen that value too. -/
theorem intake {new : Int64} {after : List Int64} (keeps : Keeps kind size seen kept)
    (intake : Intake kind size new kept after) : Keeps kind size (seen ++ [new]) after := by
  have long : (seen ++ [new]).length = seen.length + 1 := List.length_append
  have length := keeps.length
  cases intake with
  | beside room perm appended =>
    exact {
      length := by rw [perm.length_eq, List.length_cons, long]; omega
      matched := subperm_append keeps.matched perm
      ordered := fun uniform _ => by
        rw [appended uniform, keeps.ordered uniform (by omega)]
      newest := fun _ _ => exists_newest keeps.matched perm }
  | instead full gone others before perm =>
    have fewer : others.Subperm seen :=
      List.Subperm.cons_self.trans (before.symm.subperm.trans keeps.matched)
    have oneLess := before.length_eq
    rw [List.length_cons] at oneLess
    exact {
      length := by rw [perm.length_eq, List.length_cons, long]; omega
      matched := subperm_append fewer perm
      ordered := fun _ _ => by omega
      newest := fun _ _ => exists_newest fewer perm }
  | leftOut full lenient perm =>
    exact {
      length := by rw [perm.length_eq, long]; omega
      matched := perm.subperm.trans (keeps.matched.trans (List.sublist_append_left _ _).subperm)
      ordered := fun _ _ => by omega
      newest := fun decaying positive => absurd (lenient decaying) (Nat.ne_of_gt positive) }

end Keeps

end Telemetry.Sample

namespace Telemetry

/-! ### Using a sample -/

namespace Sample

/-- A use of a sample. -/
inductive Use
  | update (draw : UInt64) (time : Int) (value : Int64)
  | clear (time : Int)
deriving Repr

/-- The value that a use offers. -/
def Use.value? : Use → Option Int64
  | .update _ _ value => some value
  | .clear _ => none

/-- The sample after a use. -/
def use (sample : Sample) : Use → Sample
  | .update draw time value => sample.update draw time value
  | .clear time => sample.clear time

/-- The sample after uses. -/
def useAll (sample : Sample) (uses : List Use) : Sample :=
  uses.foldl use sample

/-- The values that uses offer after the last clearing, in order. -/
def seen (uses : List Use) : List Int64 :=
  (uses.rtakeWhile fun use => use.value?.isSome).filterMap Use.value?

theorem seen_concat_update (uses : List Use) (draw : UInt64) (time : Int) (value : Int64) :
    seen (uses ++ [.update draw time value]) = seen uses ++ [value] := by
  rw [seen, List.rtakeWhile_concat_pos _ _ _ rfl, List.filterMap_append]
  rfl

theorem seen_concat_clear (uses : List Use) (time : Int) :
    seen (uses ++ [.clear time]) = [] := by
  rw [seen, List.rtakeWhile_concat_neg _ _ _ Bool.false_ne_true]
  rfl

theorem useAll_concat (sample : Sample) (uses : List Use) (last : Use) :
    sample.useAll (uses ++ [last]) = (sample.useAll uses).use last :=
  List.foldl_concat use sample last uses

/-! ### What a sample keeps -/

theorem intake_update (draw : UInt64) (now : Int) (sample : Sample) (new : Int64) :
    Intake sample.kind sample.size new sample.values (sample.update draw now new).values := by
  cases sample with
  | uniform reservoir => exact reservoir.intake_update draw new
  | decaying reservoir => exact reservoir.intake_update Float.exp (fraction draw) now new

theorem kind_update (draw : UInt64) (now : Int) (sample : Sample) (new : Int64) :
    (sample.update draw now new).kind = sample.kind := by
  cases sample <;> rfl

theorem size_update (draw : UInt64) (now : Int) (sample : Sample) (new : Int64) :
    (sample.update draw now new).size = sample.size := by
  cases sample with
  | uniform reservoir => exact (reservoir.size_count_update draw new).1
  | decaying reservoir => exact (reservoir.size_count_update Float.exp (fraction draw) now new).1

theorem count_update (draw : UInt64) (now : Int) (sample : Sample) (new : Int64) :
    (sample.update draw now new).count = sample.count + 1 := by
  cases sample with
  | uniform reservoir => exact (reservoir.size_count_update draw new).2
  | decaying reservoir => exact (reservoir.size_count_update Float.exp (fraction draw) now new).2

/-- The sample of a description after it has seen values. -/
structure Follows (spec : Spec) (seen : List Int64) (sample : Sample) : Prop where
  kind : sample.kind = spec.kind
  size : sample.size = spec.size
  count : sample.count = Int64.ofNat seen.length
  keeps : Keeps spec.kind spec.size seen sample.values

namespace Follows

variable {spec : Spec} {values : List Int64} {sample : Sample}

theorem empty (spec : Spec) (start : Int) : Follows spec [] (Sample.empty spec start) := by
  cases spec <;> exact ⟨rfl, rfl, rfl, .nil⟩

theorem update (follows : Follows spec values sample) (draw : UInt64) (now : Int) (new : Int64) :
    Follows spec (values ++ [new]) (sample.update draw now new) where
  kind := (kind_update draw now sample new).trans follows.kind
  size := (size_update draw now sample new).trans follows.size
  count := by
    rw [count_update, follows.count, List.length_append, Int64.ofNat_add]
    rfl
  keeps := by
    have intake := intake_update draw now sample new
    rw [follows.kind, follows.size] at intake
    exact follows.keeps.intake intake

theorem clear (follows : Follows spec values sample) (now : Int) :
    Follows spec [] (sample.clear now) where
  kind := by rw [← follows.kind]; cases sample <;> rfl
  size := by rw [← follows.size]; cases sample <;> rfl
  count := by cases sample <;> rfl
  keeps := by
    have cleared : (sample.clear now).values = [] := by cases sample <;> rfl
    rw [cleared]
    exact .nil

/-- The sample follows its uses, whatever they are. -/
theorem useAll (spec : Spec) (start : Int) (uses : List Use) :
    Follows spec (seen uses) ((Sample.empty spec start).useAll uses) := by
  induction uses using List.reverseRecOn with
  | nil => exact .empty spec start
  | append_singleton uses last inductionHypothesis =>
    rw [useAll_concat]
    cases last with
    | update draw time value =>
      rw [seen_concat_update]
      exact inductionHypothesis.update draw time value
    | clear time =>
      rw [seen_concat_clear]
      exact inductionHypothesis.clear time

end Follows

/-! ### Snapshots -/

theorem ascending_values_ofValues (count : Int64) (values : List Int64) :
    (Snapshot.ofValues count values).values.Pairwise (· ≤ ·) := by
  have sorted : (Snapshot.ofValues count values).values.Pairwise
      fun first second => decide (first ≤ second) = true := by
    refine List.pairwise_mergeSort (fun first second third below above => ?_)
      (fun first second => ?_) values
    · rw [decide_eq_true_eq] at *
      exact Int64.le_trans below above
    · rw [Bool.or_eq_true, decide_eq_true_eq, decide_eq_true_eq]
      exact Int64.le_total first second
  exact sorted.imp of_decide_eq_true

/-- A snapshot does not depend on the order in which the values are stored. -/
theorem ofValues_eq_of_perm (count : Int64) {first second : List Int64}
    (perm : first.Perm second) :
    Snapshot.ofValues count first = Snapshot.ofValues count second := by
  have sorted : (Snapshot.ofValues count first).values = (Snapshot.ofValues count second).values :=
    List.Perm.eq_of_pairwise (fun _ _ _ _ => Int64.le_antisymm)
      (ascending_values_ofValues count first) (ascending_values_ofValues count second)
      ((List.mergeSort_perm first _).trans (perm.trans (List.mergeSort_perm second _).symm))
  exact congrArg (Snapshot.mk count) sorted

/-- A sample counts the values that it has seen since it was last cleared and keeps as many of them
as it can: each kept value is another one of those seen, all are kept while there is room, in a
uniform sample in the order in which they came, and a decaying sample always keeps the newest.
Its snapshot has the same count and the same values in ascending order, wherever the sample stores
them. -/
theorem sample_keeps_values_seen (spec : Spec) (start : Int) (uses : List Use) :
    let sample := (empty spec start).useAll uses
    let seen := seen uses
    sample.count = Int64.ofNat seen.length ∧
      (seen.length < Nat.pow 2 63 → sample.count.toInt = seen.length) ∧
      sample.values.length = min seen.length spec.size ∧
      sample.values.Subperm seen ∧
      (seen.length ≤ spec.size → sample.values.Perm seen ∧
        (spec.kind = .uniform → sample.values = seen)) ∧
      (spec.kind = .decaying → 0 < spec.size → ∀ earlier newest, seen = earlier ++ [newest] →
        ∃ others, sample.values.Perm (newest :: others) ∧ others.Subperm earlier) ∧
      sample.snapshot.count = sample.count ∧
      sample.snapshot.values.Perm sample.values ∧
      sample.snapshot.values.Pairwise (· ≤ ·) ∧
      ∀ stored, stored.Perm sample.values →
        Snapshot.ofValues sample.count stored = sample.snapshot := by
  intro sample seen
  have follows : Follows spec seen sample := .useAll spec start uses
  have keeps := follows.keeps
  refine ⟨follows.count, fun short => ?_, keeps.length, keeps.matched,
    fun room => ⟨keeps.perm room, fun uniform => keeps.ordered uniform room⟩, keeps.newest, rfl,
    List.mergeSort_perm _ _, ascending_values_ofValues _ _,
    fun stored perm => ofValues_eq_of_perm _ perm⟩
  rw [follows.count, Int64.toInt_ofNat_of_lt short]

/-- Of three values offered after a clearing a uniform sample of two keeps the two that the draw
says, and a decaying one the last and one of the others. -/
theorem sample_keeps_two_of_three :
    let uses : List Use :=
      [.update 0 0 5, .clear 1, .update 4 2 7, .update 1 3 8, .update 6 9000000000000 9]
    let even := (empty (.uniform 2) 0).useAll uses
    let fading := (empty (.decaying 2 0.015) 0).useAll uses
    even.values = [9, 8] ∧ even.count.toInt = 3 ∧
      Snapshot.ofValues even.count [8, 9] = even.snapshot ∧ fading.count.toInt = 3 ∧
      ∃ others, fading.values.Perm (9 :: others) ∧ others.Subperm [7, 8] := by
  intro uses even fading
  have evenKeeps := sample_keeps_values_seen (.uniform 2) 0 uses
  have fadingKeeps := sample_keeps_values_seen (.decaying 2 0.015) 0 uses
  obtain ⟨-, evenCount, -, -, -, -, -, -, -, anyOrder⟩ := evenKeeps
  obtain ⟨-, fadingCount, -, -, -, newest, -⟩ := fadingKeeps
  exact ⟨by decide, evenCount (by decide), anyOrder [8, 9] (.swap 9 8 []), fadingCount (by decide),
    newest rfl (by decide) [7, 8] 9 rfl⟩

end Sample

end Telemetry
