/-
This file proves that moving the landmark of a decaying reservoir cannot be
seen. Numbers are read exactly here, and in place of the exponential function
stands any positive function that turns sums into products. A reservoir whose
landmark moves then runs in step with one whose landmark stays: both have the
same values in the same places, and all priorities of the first are those of the
second times one positive factor. Such a factor changes no comparison, so it is
the same value that leaves, ties included.
-/

import Mathlib.Algebra.Order.Field.Basic
import Mathlib.Analysis.SpecialFunctions.Exp
import Mathlib.Data.List.Induction
import Telemetry.Proofs.Arithmetic.Exact
import Telemetry.Proofs.Sample.HeapOrder
import Telemetry.Proofs.Sample.Landmark
import Telemetry.Proofs.Sample.Reservoirs

namespace Telemetry.Sample

open Exact

variable {Number : Type} [Field Number] [LinearOrder Number] [FloorSemiring Number]

/-! ### Priorities in exact numbers -/

theorem Weighted.ranksBelow_eq (first second : Weighted Number) :
    first.ranksBelow second = decide (first.priority < second.priority) := by
  have number : Arithmetic.atMost first.priority first.priority = true := decide_eq_true le_rfl
  rw [ranksBelow, number, Bool.not_true, Bool.false_and, Bool.or_false]
  rfl

theorem Weighted.ranksBelow_iff {first second : Weighted Number} :
    first.ranksBelow second ↔ first.priority < second.priority := by
  rw [ranksBelow_eq, decide_eq_true_iff]

theorem ranks_weighted :
    Ranks (Weighted.ranksBelow : Weighted Number → Weighted Number → Bool) where
  asymm lower higher :=
    lt_asymm (Weighted.ranksBelow_iff.1 lower) (Weighted.ranksBelow_iff.1 higher)
  trans first second := by
    rw [Weighted.ranksBelow_iff, not_lt] at *
    exact first.trans second

/-- An entry with its priority multiplied. -/
def Weighted.scale (factor : Number) (entry : Weighted Number) : Weighted Number :=
  { entry with priority := entry.priority * factor }

theorem Weighted.scale_scale (first second : Number) :
    scale second ∘ scale first = scale (first * second) := by
  funext entry
  rw [Function.comp_apply, scale, scale, scale, mul_assoc]

theorem Weighted.scale_one : scale (1 : Number) = id := by
  funext entry
  rw [scale, mul_one]
  rfl

theorem Weighted.ranksBelow_scale [IsStrictOrderedRing Number] {factor : Number}
    (positive : 0 < factor) (first second : Weighted Number) :
    (first.scale factor).ranksBelow (second.scale factor) = first.ranksBelow second := by
  rw [ranksBelow_eq, ranksBelow_eq]
  exact decide_eq_decide.2 (mul_lt_mul_iff_left₀ positive)

/-- A function that is positive and turns sums into products, as the exponential function does. -/
structure IsExponential (exp : Number → Number) : Prop where
  positive (exponent : Number) : 0 < exp exponent
  add (first second : Number) : exp (first + second) = exp first * exp second

theorem IsExponential.zero {exp : Number → Number} (exponential : IsExponential exp) :
    exp 0 = 1 := by
  have squared := exponential.add 0 0
  rw [add_zero] at squared
  exact (mul_eq_left₀ (exponential.positive 0).ne').1 squared.symm

namespace Decaying

theorem secondsOf_eq (nanoseconds : Nat) :
    (Arithmetic.secondsOf nanoseconds : Number) = nanoseconds / 1000000000 := by
  have parts := congrArg (Nat.cast (R := Number)) (Nat.div_add_mod nanoseconds 1000000000)
  rw [Arithmetic.secondsOf, ofNat_eq, ofNat_eq, ofNat_eq, ← parts]
  push_cast
  field_simp

/-- The seconds up to a time in between and those from it on are the seconds altogether. -/
theorem secondsBetween_add {start middle finish : Int} (first : start ≤ middle)
    (second : middle ≤ finish) :
    (secondsBetween start middle + secondsBetween middle finish : Number) =
      secondsBetween start finish := by
  have parts : (middle - start).toNat + (finish - middle).toNat = (finish - start).toNat := by
    omega
  rw [secondsBetween, secondsBetween, secondsBetween, secondsOf_eq, secondsOf_eq, secondsOf_eq,
    ← parts, Nat.cast_add, add_div]

/-! ### The factor between two landmarks -/

variable (exp : Number → Number) (alpha : Number)

/-- By what priorities are multiplied when the landmark moves from one time to a later one. -/
def decay (start finish : Int) : Number :=
  exp (-alpha * secondsBetween start finish)

section Exponential

variable {exp} (exponential : IsExponential exp) {start middle finish : Int}
  (first : start ≤ middle) (second : middle ≤ finish)

include exponential first second

theorem decay_mul_decay :
    decay exp alpha start middle * decay exp alpha middle finish =
      decay exp alpha start finish := by
  rw [decay, decay, decay, ← exponential.add, ← mul_add, secondsBetween_add first second]

/-- What a priority is when it is measured from a later landmark. -/
theorem exp_mul_decay :
    exp (secondsBetween start finish * alpha) * decay exp alpha start middle =
      exp (secondsBetween middle finish * alpha) := by
  rw [decay, ← exponential.add, ← secondsBetween_add first second]
  congr 1
  ring

end Exponential

/-! ### Taking in a value -/

/-- The heap of a reservoir without the lowest entry if the reservoir is full. -/
def withRoom (reservoir : Decaying Number) : Heap (Weighted Number) :=
  if reservoir.size ≤ reservoir.kept.size then reservoir.kept.pop Weighted.ranksBelow
  else reservoir.kept

theorem kept_insert {reservoir : Decaying Number} (positive : 0 < reservoir.size) (draw : Number)
    (now : Int) (value : Int64) :
    (reservoir.insert exp draw now value).kept =
      reservoir.withRoom.push Weighted.ranksBelow ⟨reservoir.priorityAt exp draw now, value⟩ := by
  rw [insert]
  dsimp only
  rw [if_neg (Nat.ne_of_gt positive)]
  rfl

theorem kept_insert_of_no_room {reservoir : Decaying Number} (noRoom : reservoir.size = 0)
    (draw : Number) (now : Int) (value : Int64) :
    (reservoir.insert exp draw now value).kept = reservoir.kept := by
  rw [insert]
  dsimp only
  rw [if_pos noRoom]

/-- Taking in a value changes the count and the heap. -/
theorem insert_eq (reservoir : Decaying Number) (draw : Number) (now : Int) (value : Int64) :
    reservoir.insert exp draw now value =
      { reservoir with
        count := reservoir.count + 1
        kept := (reservoir.insert exp draw now value).kept } := by
  unfold insert
  dsimp only
  split <;> rfl

/-- A reservoir that never moves its landmark keeps its size, its strength and its landmark. -/
theorem settings_receiveAllFixed (reservoir : Decaying Number) (arrivals : List (Arrival Number)) :
    (reservoir.receiveAllFixed exp arrivals).size = reservoir.size ∧
      (reservoir.receiveAllFixed exp arrivals).alpha = reservoir.alpha ∧
      (reservoir.receiveAllFixed exp arrivals).landmark = reservoir.landmark := by
  induction arrivals generalizing reservoir with
  | nil => exact ⟨rfl, rfl, rfl⟩
  | cons arrival rest inductionHypothesis =>
    obtain ⟨size, alpha, landmark⟩ := inductionHypothesis (reservoir.receiveFixed exp arrival)
    refine ⟨size.trans ?_, alpha.trans ?_, landmark.trans ?_⟩ <;> rw [receiveFixed, insert_eq]

/-! ### Two reservoirs in step -/

/-- A reservoir whose landmark has moved runs in step with one whose landmark has stayed: it has
the same entries in the same places, with their priorities multiplied by the factor between the
two landmarks. -/
structure InStep (fixed moving : Decaying Number) (now : Int) : Prop where
  size : moving.size = fixed.size
  alpha : moving.alpha = fixed.alpha
  count : moving.count = fixed.count
  later : fixed.landmark ≤ moving.landmark
  past : moving.landmark ≤ now
  ordered : fixed.kept.IsOrdered Weighted.ranksBelow
  kept : Heap.IsImage (Weighted.scale (decay exp fixed.alpha fixed.landmark moving.landmark))
    fixed.kept moving.kept

theorem inStep_empty (size : Nat) (start : Int) :
    InStep exp (empty size alpha start) (empty size alpha start) start where
  size := rfl
  alpha := rfl
  count := rfl
  later := le_rfl
  past := le_rfl
  ordered := Heap.isOrdered_empty
  kept := rfl

theorem isOrdered_withRoom {reservoir : Decaying Number} (positive : 0 < reservoir.size)
    (ordered : reservoir.kept.IsOrdered Weighted.ranksBelow) :
    reservoir.withRoom.IsOrdered Weighted.ranksBelow := by
  rw [withRoom]
  split
  · rename_i full
    have nonempty : reservoir.kept.toList ≠ [] := by
      rw [← List.length_pos_iff, Heap.length_toList]
      exact lt_of_lt_of_le positive full
    exact (ordered.pop ranks_weighted nonempty).1
  · exact ordered

theorem isOrdered_insert {reservoir : Decaying Number}
    (ordered : reservoir.kept.IsOrdered Weighted.ranksBelow) (draw : Number) (now : Int)
    (value : Int64) :
    (reservoir.insert exp draw now value).kept.IsOrdered Weighted.ranksBelow := by
  rcases Nat.eq_zero_or_pos reservoir.size with noRoom | positive
  · rw [kept_insert_of_no_room exp noRoom]
    exact ordered
  · rw [kept_insert exp positive]
    exact (isOrdered_withRoom positive ordered).push ranks_weighted _

namespace InStep

variable {exp} [IsStrictOrderedRing Number] (exponential : IsExponential exp)
  {fixed moving : Decaying Number} {last now : Int}

include exponential

/-- The value that makes room is the same one in both reservoirs. -/
theorem withRoom (inStep : InStep exp fixed moving last) :
    Heap.IsImage (Weighted.scale (decay exp fixed.alpha fixed.landmark moving.landmark))
      fixed.withRoom moving.withRoom := by
  rw [Decaying.withRoom, Decaying.withRoom, inStep.size, inStep.kept.size]
  split
  · exact inStep.kept.pop (Weighted.ranksBelow_scale (exponential.positive _))
  · exact inStep.kept

theorem insert (inStep : InStep exp fixed moving last) (later : last ≤ now) (draw : Number)
    (value : Int64) :
    InStep exp (fixed.insert exp draw now value) (moving.insert exp draw now value) now := by
  have past : moving.landmark ≤ now := inStep.past.trans later
  have kept : Heap.IsImage
      (Weighted.scale (decay exp fixed.alpha fixed.landmark moving.landmark))
      (fixed.insert exp draw now value).kept (moving.insert exp draw now value).kept := by
    rcases Nat.eq_zero_or_pos fixed.size with noRoom | positive
    · rw [kept_insert_of_no_room exp noRoom, kept_insert_of_no_room exp (inStep.size.trans noRoom)]
      exact inStep.kept
    · have priority : moving.priorityAt exp draw now =
          fixed.priorityAt exp draw now *
            decay exp fixed.alpha fixed.landmark moving.landmark := by
        rw [priorityAt, priorityAt, div_mul_eq_mul_div,
          exp_mul_decay fixed.alpha exponential inStep.later past, inStep.alpha]
      rw [kept_insert exp positive, kept_insert exp (inStep.size.symm ▸ positive), priority]
      exact (inStep.withRoom exponential).push
        (Weighted.ranksBelow_scale (exponential.positive _)) _
  have ordered := isOrdered_insert exp inStep.ordered draw now value
  rw [insert_eq] at ordered ⊢
  rw [insert_eq exp moving]
  exact ⟨inStep.size, inStep.alpha, congrArg (· + 1) inStep.count, inStep.later, past, ordered,
    kept⟩

/-- Moving the landmark multiplies all priorities once more. -/
theorem rescale (inStep : InStep exp fixed moving now) :
    InStep exp fixed (moving.rescale exp now) now where
  size := inStep.size
  alpha := inStep.alpha
  count := inStep.count
  later := inStep.later.trans inStep.past
  past := le_rfl
  ordered := inStep.ordered
  kept := by
    have keeps (factor : Number) := Weighted.ranksBelow_scale (exponential.positive factor)
    have scaled : Heap.IsImage (Weighted.scale (decay exp fixed.alpha moving.landmark now))
        moving.kept (moving.rescale exp now).kept := by
      rw [← inStep.alpha]
      exact Heap.isImage_map (inStep.kept.isOrdered_tree (keeps _) inStep.ordered.tree) (keeps _)
    have both := inStep.kept.trans scaled
    rw [Weighted.scale_scale, decay_mul_decay fixed.alpha exponential inStep.later inStep.past]
      at both
    exact both

theorem receive (inStep : InStep exp fixed moving last) {arrival : Arrival Number}
    (later : last ≤ arrival.time) :
    InStep exp (fixed.receiveFixed exp arrival) (moving.receive exp arrival) arrival.time := by
  have inserted := inStep.insert exponential later arrival.draw arrival.value
  rw [receiveFixed, Decaying.receive, update]
  split
  · exact inserted.rescale exponential
  · exact inserted

theorem receiveAll (inStep : InStep exp fixed moving last) {arrivals : List (Arrival Number)}
    (ordered : Arrival.InOrder last arrivals) :
    ∃ now,
      InStep exp (fixed.receiveAllFixed exp arrivals) (moving.receiveAll exp arrivals) now := by
  induction arrivals generalizing fixed moving last with
  | nil => exact ⟨last, inStep⟩
  | cons arrival rest inductionHypothesis =>
    obtain ⟨later, orderedRest⟩ := ordered
    exact inductionHypothesis (inStep.receive exponential later) orderedRest

end InStep

/-! ### What a reservoir remembers -/

section Runs

variable {Number : Type}

/-- The values that have arrived since a reservoir was made or last cleared. -/
def arrivalsOf (uses : List (Use Number)) : List (Arrival Number) :=
  uses.foldl (fun arrivals use =>
    match use with
    | .receive arrival => arrivals ++ [arrival]
    | .clear _ => []) []

variable [Arithmetic Number] (exp : Number → Number)

/-- Of what was before it was last cleared a reservoir remembers nothing. -/
theorem useAll_eq_receiveAll (size : Nat) (alpha : Number) (start : Int)
    (uses : List (Use Number)) :
    (empty size alpha start).useAll exp uses =
      (empty size alpha (originOf start uses)).receiveAll exp (arrivalsOf uses) := by
  induction uses using List.reverseRecOn with
  | nil => rfl
  | append_singleton uses last inductionHypothesis =>
    rw [useAll, originOf, arrivalsOf, List.foldl_concat, List.foldl_concat, List.foldl_concat]
    cases last with
    | receive arrival =>
      show ((empty size alpha start).useAll exp uses).receive exp arrival =
        (empty size alpha (originOf start uses)).receiveAll exp (arrivalsOf uses ++ [arrival])
      rw [receiveAll, List.foldl_concat, inductionHypothesis]
      rfl
    | clear time =>
      have timed := (isTimed_empty size alpha start).useAll exp uses
      show ((empty size alpha start).useAll exp uses).clear time = empty size alpha time
      rw [clear, timed.size, timed.alpha]

end Runs

section Uses

variable [IsStrictOrderedRing Number] {exp : Number → Number} (exponential : IsExponential exp)
  (size : Nat) (alpha : Number) (start : Int) (uses : List (Use Number))
  (ordered : Arrival.InOrder (originOf start uses) (arrivalsOf uses))

include exponential ordered

/-- A reservoir runs in step with one that was made when it was last cleared and does not move its
landmark. -/
theorem exists_inStep_useAll :
    ∃ now, InStep exp
      ((empty size alpha (originOf start uses)).receiveAllFixed exp (arrivalsOf uses))
      ((empty size alpha start).useAll exp uses) now := by
  rw [useAll_eq_receiveAll]
  exact (inStep_empty exp alpha size _).receiveAll exponential ordered

theorem toList_kept_useAll :
    ((empty size alpha start).useAll exp uses).kept.toList =
      ((empty size alpha (originOf start uses)).receiveAllFixed exp
        (arrivalsOf uses)).kept.toList.map (Weighted.scale (decay exp alpha (originOf start uses)
          ((empty size alpha start).useAll exp uses).landmark)) := by
  obtain ⟨now, inStep⟩ := exists_inStep_useAll exponential size alpha start uses ordered
  obtain ⟨-, strength, landmark⟩ :=
    settings_receiveAllFixed exp (empty size alpha (originOf start uses)) (arrivalsOf uses)
  have entries := inStep.kept.toList
  rwa [strength, landmark] at entries

end Uses

/-- Moving the landmark cannot be seen, for every size and strength of a reservoir, every positive
function in place of the exponential one that turns sums into products, and every run in which the
values since the last clearing come in the order of time, whatever the draws. After any number of
uses the reservoir has counted and kept what one has that was made at the last clearing and never
moves its landmark. Each priority is the one that the other reservoir has, multiplied by the factor
from that time to the landmark. -/
theorem rescaling_is_invisible [IsStrictOrderedRing Number] {exp : Number → Number}
    (exponential : IsExponential exp) (size : Nat) (alpha : Number) (start : Int)
    (uses : List (Use Number))
    (ordered : Arrival.InOrder (originOf start uses) (arrivalsOf uses)) :
    let origin := originOf start uses
    let moving := (empty size alpha start).useAll exp uses
    let fixed := (empty size alpha origin).receiveAllFixed exp (arrivalsOf uses)
    moving.values = fixed.values ∧ moving.count = fixed.count ∧
      origin ≤ moving.landmark ∧ fixed.landmark = origin ∧
      moving.kept.toList = fixed.kept.toList.map fun entry =>
        { entry with
          priority := exp (-alpha * secondsBetween origin moving.landmark) * entry.priority } := by
  intro origin moving fixed
  obtain ⟨now, inStep⟩ := exists_inStep_useAll exponential size alpha start uses ordered
  have landmark : fixed.landmark = origin :=
    (settings_receiveAllFixed exp (empty size alpha origin) (arrivalsOf uses)).2.2
  have entries := toList_kept_useAll exponential size alpha start uses ordered
  refine ⟨?_, inStep.count, landmark.symm.trans_le inStep.later, landmark, ?_⟩
  · rw [values, values, entries, List.map_map]
    rfl
  · rw [entries]
    exact List.map_congr_left fun entry _ =>
      congrArg (Weighted.mk · entry.value) (mul_comm _ _)

/-- Of two values, of which the second comes after two hours and moves the landmark, both are kept,
with the priorities that they have without the move, multiplied by the factor for two hours. -/
theorem rescaling_after_two_hours :
    let uses : List (Use ℝ) := [.receive ⟨0, 1 / 2, 1⟩, .receive ⟨7200 * second, 1 / 4, 2⟩]
    let arrivals : List (Arrival ℝ) := [⟨0, 1 / 2, 1⟩, ⟨7200 * second, 1 / 4, 2⟩]
    let moving := (empty 2 (1 / 10) 0).useAll Real.exp uses
    let fixed := (empty 2 (1 / 10) 0).receiveAllFixed Real.exp arrivals
    IsExponential Real.exp ∧ Arrival.InOrder 0 arrivals ∧
      moving.landmark = 7200 * second ∧ fixed.landmark = 0 ∧
      moving.kept.toList = fixed.kept.toList.map fun entry =>
        { entry with
          priority :=
            Real.exp (-(1 / 10) * secondsBetween 0 (7200 * second)) * entry.priority } := by
  intro uses arrivals moving fixed
  have exponential : IsExponential Real.exp := ⟨Real.exp_pos, Real.exp_add⟩
  have ordered : Arrival.InOrder 0 arrivals := by
    simp only [arrivals, Arrival.InOrder]
    decide
  obtain ⟨-, -, -, origin, entries⟩ :=
    rescaling_is_invisible exponential 2 (1 / 10) 0 uses ordered
  exact ⟨exponential, ordered, rfl, origin, entries⟩

end Decaying

end Telemetry.Sample
