/-
This file says which of the values offered to it a decaying reservoir keeps.
Priorities are read exactly and compared at a common landmark. A reservoir that
is full lets the value of lowest priority go before the new one comes, so it
keeps the newest value and, of those before it, the ones of highest priority, as
many as there is room for beside the newest. These are the ones of highest
priority among all values exactly if the newest is one of those; if it ranks
below as many values as the reservoir can hold, it is kept in place of one of
them.
-/

import Mathlib.Data.List.Count
import Mathlib.Data.Rat.Floor
import Telemetry.Proofs.Sample.Rescaling

namespace Telemetry.Sample

open Exact

open scoped List

variable {Number : Type} [LinearOrder Number]

/-! ### The entries of highest priority -/

/-- Whether entries are those of highest priority among all entries, as many as there is room
for. -/
def IsHighest (size : Nat) (all kept : List (Weighted Number)) : Prop :=
  kept.length = min all.length size ∧
    ∃ leftOut, all.Perm (kept ++ leftOut) ∧
      ∀ entry ∈ kept, ∀ other ∈ leftOut, other.priority ≤ entry.priority

theorem isHighest_congr {size : Nat} {all kept other : List (Weighted Number)}
    (perm : kept.Perm other) : IsHighest size all kept ↔ IsHighest size all other := by
  simp only [IsHighest, perm.length_eq, perm.mem_iff]
  refine and_congr_right' (exists_congr fun leftOut => and_congr_left' ?_)
  exact ⟨fun parts => parts.trans (perm.append_right _),
    fun parts => parts.trans (perm.symm.append_right _)⟩

namespace IsHighest

variable {size : Nat} {all kept : List (Weighted Number)}

theorem of_room (room : all.length ≤ size) (perm : kept.Perm all) : IsHighest size all kept := by
  refine ⟨?_, [], ?_, fun _ _ => nofun⟩
  · rw [perm.length_eq, Nat.min_eq_left room]
  · rw [List.append_nil]
    exact perm.symm

theorem perm (highest : IsHighest size all kept) (room : all.length ≤ size) : kept.Perm all := by
  obtain ⟨length, leftOut, parts, -⟩ := highest
  have lengths := parts.length_eq
  rw [List.length_append, length, Nat.min_eq_left room] at lengths
  obtain rfl : leftOut = [] := List.eq_nil_of_length_eq_zero (by omega)
  rw [List.append_nil] at parts
  exact parts.symm

variable {earlier others : List (Weighted Number)} {newest : Weighted Number}

/-- If an entry joins the highest ones and a lowest one of them goes, the others are the highest
of all entries that have come. -/
theorem displace {gone : Weighted Number} {rest : List (Weighted Number)}
    (highest : IsHighest size earlier others) (full : size ≤ others.length)
    (perm : (newest :: others).Perm (gone :: rest))
    (lowest : ∀ entry ∈ rest, gone.priority ≤ entry.priority) :
    IsHighest size (earlier ++ [newest]) rest := by
  obtain ⟨length, leftOut, parts, higher⟩ := highest
  have lengths := perm.length_eq
  rw [List.length_cons, List.length_cons] at lengths
  refine ⟨?_, gone :: leftOut, ?_, fun entry member other out => ?_⟩
  · rw [List.length_append, List.length_singleton]
    omega
  · calc earlier ++ [newest]
      _ ~ newest :: earlier := List.perm_append_singleton newest earlier
      _ ~ newest :: others ++ leftOut := parts.cons newest
      _ ~ gone :: rest ++ leftOut := perm.append_right leftOut
      _ ~ rest ++ gone :: leftOut := List.perm_middle.symm
  · rcases List.mem_cons.1 out with rfl | out
    · exact lowest entry member
    -- the entry that goes is the newest, or it ranks no lower than what was left out before
    rcases List.mem_cons.1 (perm.symm.subset List.mem_cons_self) with rfl | old
    · exact higher entry (perm.cons_inv.symm.subset member) other out
    · exact (higher gone old other out).trans (lowest entry member)

/-- The newest entry and the highest of the earlier ones are the highest of all exactly if fewer
entries rank above the newest than there is room for. -/
theorem cons_iff (positive : 0 < size) (highest : IsHighest (size - 1) earlier others) :
    IsHighest size (earlier ++ [newest]) (newest :: others) ↔
      earlier.countP (newest.priority < ·.priority) < size := by
  obtain ⟨size, rfl⟩ := Nat.exists_eq_succ_of_ne_zero positive.ne'
  rw [Nat.succ_sub_one] at highest
  obtain ⟨length, leftOut, parts, higher⟩ := highest
  constructor
  · rintro ⟨-, outside, allParts, newestHigher⟩
    have split : earlier.Perm (others ++ outside) :=
      ((List.perm_append_singleton newest earlier).symm.trans allParts).cons_inv
    have noneOutside : outside.countP (newest.priority < ·.priority) = 0 :=
      List.countP_eq_zero.2 fun other out => by
        rw [decide_eq_true_iff, not_lt]
        exact newestHigher newest List.mem_cons_self other out
    rw [split.countP_eq, List.countP_append, noneOutside, Nat.add_zero, Nat.lt_succ_iff]
    exact List.countP_le_length.trans (length.trans_le (Nat.min_le_right _ _))
  · intro few
    have allParts : (earlier ++ [newest]).Perm (newest :: others ++ leftOut) :=
      (List.perm_append_singleton newest earlier).trans (parts.cons newest)
    refine ⟨?_, leftOut, allParts, fun entry member other out => ?_⟩
    · rw [List.length_cons, List.length_append, List.length_singleton, length,
        Nat.add_min_add_right]
    rcases List.mem_cons.1 member with rfl | old
    -- if what is left out ranked above the newest, so would all the entries beside that
    · by_contra above
      have lower : entry.priority < other.priority := not_le.1 above
      have everyHigher : others.countP (entry.priority < ·.priority) = others.length :=
        List.countP_eq_length.2 fun kept member =>
          decide_eq_true (lower.trans_le (higher kept member other out))
      have oneMore : 0 < leftOut.countP (entry.priority < ·.priority) :=
        List.countP_pos_iff.2 ⟨other, out, decide_eq_true lower⟩
      have lengths := parts.length_eq
      have positive := List.length_pos_of_mem out
      rw [parts.countP_eq, List.countP_append, everyHigher] at few
      rw [List.length_append] at lengths
      omega
    · exact higher entry old other out

end IsHighest

/-- Whether of all entries the newest is kept and, beside it, the highest of those before it. -/
inductive KeepsNewest (size : Nat) : (all kept : List (Weighted Number)) → Prop
  | nothing : KeepsNewest size [] []
  | newest {earlier others kept : List (Weighted Number)} {newest : Weighted Number}
      (highest : IsHighest (size - 1) earlier others) (perm : kept.Perm (newest :: others)) :
      KeepsNewest size (earlier ++ [newest]) kept

namespace KeepsNewest

variable {size : Nat} {all kept : List (Weighted Number)}

theorem exists_newest (keeps : KeepsNewest size all kept) {earlier : List (Weighted Number)}
    {newest : Weighted Number} (split : all = earlier ++ [newest]) :
    ∃ others, kept.Perm (newest :: others) ∧ IsHighest (size - 1) earlier others := by
  cases keeps with
  | nothing => exact absurd split.symm (List.append_ne_nil_of_right_ne_nil _ nofun)
  | newest highest perm =>
    obtain ⟨rfl, same⟩ := List.append_inj' split rfl
    obtain rfl := List.singleton_inj.1 same
    exact ⟨_, perm, highest⟩

/-- What is kept are the highest of all entries exactly if the newest is one of them. -/
theorem isHighest_iff (keeps : KeepsNewest size all kept) (positive : 0 < size) :
    IsHighest size all kept ↔ ∀ earlier newest, all = earlier ++ [newest] →
      earlier.countP (newest.priority < ·.priority) < size := by
  cases keeps with
  | nothing =>
    refine iff_of_true (.of_room (Nat.zero_le _) (.refl [])) fun earlier newest same => ?_
    exact absurd same.symm (List.append_ne_nil_of_right_ne_nil _ nofun)
  | newest highest perm =>
    rw [isHighest_congr perm, highest.cons_iff positive]
    constructor
    · intro few earlier newest split
      obtain ⟨rfl, same⟩ := List.append_inj' split rfl
      rwa [← List.singleton_inj.1 same]
    · exact fun few => few _ _ rfl

end KeepsNewest

/-! ### What a decaying reservoir keeps -/

namespace Decaying

variable {Number : Type} [Field Number] [LinearOrder Number] [FloorSemiring Number]

/-- What stays when room is made for a value are the highest of all entries so far, one fewer than
the reservoir can hold. -/
theorem isHighest_withRoom {reservoir : Decaying Number} {all : List (Weighted Number)}
    (positive : 0 < reservoir.size) (ordered : reservoir.kept.IsOrdered Weighted.ranksBelow)
    (keeps : KeepsNewest reservoir.size all reservoir.kept.toList) :
    IsHighest (reservoir.size - 1) all reservoir.withRoom.toList := by
  have length := reservoir.kept.length_toList
  generalize same : reservoir.kept.toList = kept at keeps length
  rw [withRoom]
  cases keeps with
  | nothing =>
    have zero : reservoir.kept.size = 0 := length.symm
    rw [if_neg (by omega), same]
    exact .of_room (Nat.zero_le _) (.refl [])
  | @newest earlier others _ newest highest perm =>
    rw [perm.length_eq, List.length_cons] at length
    have fits := highest.1
    split
    · rename_i full
      have nonempty : reservoir.kept.toList ≠ [] := fun empty => by
        rw [← same, empty] at perm
        cases perm.length_eq
      obtain ⟨gone, popped, lowest⟩ := (ordered.pop ranks_weighted nonempty).2
      rw [same] at popped
      refine highest.displace (by omega) (perm.symm.trans popped) fun entry member => ?_
      exact not_lt.1 fun lower => lowest entry member (Weighted.ranksBelow_iff.2 lower)
    · have room : earlier.length + 1 ≤ reservoir.size - 1 := by omega
      rw [same]
      refine .of_room (List.length_append.trans_le room) ?_
      calc kept
        _ ~ newest :: others := perm
        _ ~ newest :: earlier := (highest.perm (by omega)).cons newest
        _ ~ earlier ++ [newest] := (List.perm_append_singleton newest earlier).symm

variable (exp : Number → Number)

theorem isOrdered_receiveAllFixed {reservoir : Decaying Number}
    (ordered : reservoir.kept.IsOrdered Weighted.ranksBelow) (arrivals : List (Arrival Number)) :
    (reservoir.receiveAllFixed exp arrivals).kept.IsOrdered Weighted.ranksBelow := by
  induction arrivals generalizing reservoir with
  | nil => exact ordered
  | cons arrival rest inductionHypothesis =>
    exact inductionHypothesis (isOrdered_insert exp ordered _ _ _)

/-- A reservoir that never moves its landmark keeps the newest value and the highest of the
earlier ones. -/
theorem keepsNewest_receiveAllFixed {size : Nat} (positive : 0 < size) (alpha : Number)
    (origin : Int) (arrivals : List (Arrival Number)) :
    KeepsNewest size (arrivals.map ((empty size alpha origin).weigh exp))
      ((empty size alpha origin).receiveAllFixed exp arrivals).kept.toList := by
  induction arrivals using List.reverseRecOn with
  | nil => exact .nothing
  | append_singleton earlier newest inductionHypothesis =>
    rw [receiveAllFixed, List.foldl_concat, ← receiveAllFixed, List.map_append]
    have settings := settings_receiveAllFixed exp (empty size alpha origin) earlier
    have ordered := isOrdered_receiveAllFixed exp
      (show (empty size alpha origin).kept.IsOrdered _ from Heap.isOrdered_empty) earlier
    generalize (empty size alpha origin).receiveAllFixed exp earlier = before at *
    obtain ⟨rfl, strength, landmark⟩ := settings
    have priority : before.priorityAt exp newest.draw newest.time =
        (empty before.size alpha origin).priorityAt exp newest.draw newest.time := by
      rw [priorityAt, priorityAt, strength, landmark]
    refine .newest (isHighest_withRoom positive ordered inductionHypothesis) ?_
    rw [receiveFixed, kept_insert exp positive, priority]
    exact Heap.toList_push_perm _ _ _

/-- The kept entries with their priorities measured from an earlier landmark. -/
def entriesSince (reservoir : Decaying Number) (origin : Int) : List (Weighted Number) :=
  reservoir.kept.toList.map
    (Weighted.scale (exp (reservoir.alpha * secondsBetween origin reservoir.landmark)))

section Uses

variable [IsStrictOrderedRing Number] {exp} (exponential : IsExponential exp)
  (size : Nat) (alpha : Number) (start : Int) (uses : List (Use Number))
  (ordered : Arrival.InOrder (originOf start uses) (arrivalsOf uses))

include exponential ordered

/-- Measured from the last clearing the kept entries are those of a reservoir that never moves its
landmark. -/
theorem entriesSince_useAll :
    ((empty size alpha start).useAll exp uses).entriesSince exp (originOf start uses) =
      ((empty size alpha (originOf start uses)).receiveAllFixed exp
        (arrivalsOf uses)).kept.toList := by
  have strength := ((isTimed_empty size alpha start).useAll exp uses).alpha
  have undone (seconds : Number) : exp (-alpha * seconds) * exp (alpha * seconds) = 1 := by
    rw [← exponential.add, ← add_mul, neg_add_cancel, zero_mul, exponential.zero]
  rw [entriesSince, toList_kept_useAll exponential size alpha start uses ordered, List.map_map,
    Weighted.scale_scale, strength, decay, undone, Weighted.scale_one, List.map_id]

/-- A reservoir keeps the newest value and the highest of the earlier ones. -/
theorem keepsNewest_useAll {size : Nat} (positive : 0 < size) :
    KeepsNewest size
      ((arrivalsOf uses).map ((empty size alpha (originOf start uses)).weigh exp))
      (((empty size alpha start).useAll exp uses).entriesSince exp (originOf start uses)) := by
  rw [entriesSince_useAll exponential size alpha start uses ordered]
  exact keepsNewest_receiveAllFixed exp positive alpha _ (arrivalsOf uses)

end Uses

/-- Which values a decaying reservoir with room keeps, for every size and strength, every positive
function in place of the exponential one that turns sums into products, and every run in which the
values since the last clearing come in the order of time, whatever the draws. After any number of
uses it keeps the newest value and those of highest priority among the earlier ones, one fewer than
it can hold, where priorities are measured from the last clearing. The kept values are those of
highest priority among all values exactly if fewer earlier values have a higher priority than the
newest than the reservoir can hold. -/
theorem newest_and_highest_earlier_are_kept [IsStrictOrderedRing Number] {exp : Number → Number}
    (exponential : IsExponential exp) {size : Nat} (positive : 0 < size) (alpha : Number)
    (start : Int) (uses : List (Use Number))
    (ordered : Arrival.InOrder (originOf start uses) (arrivalsOf uses)) :
    let origin := originOf start uses
    let all := (arrivalsOf uses).map ((empty size alpha origin).weigh exp)
    let kept := ((empty size alpha start).useAll exp uses).entriesSince exp origin
    (∀ earlier newest, all = earlier ++ [newest] →
        ∃ others, kept.Perm (newest :: others) ∧ IsHighest (size - 1) earlier others) ∧
      (IsHighest size all kept ↔ ∀ earlier newest, all = earlier ++ [newest] →
        earlier.countP (newest.priority < ·.priority) < size) := by
  intro origin all kept
  have keeps := keepsNewest_useAll exponential alpha start uses ordered positive
  exact ⟨fun earlier newest => keeps.exists_newest, keeps.isHighest_iff positive⟩

/-- A value that comes at the landmark has the priority that its draw gives. -/
theorem weigh_at_landmark {exp : Number → Number} (exponential : IsExponential exp) (size : Nat)
    (alpha : Number) (origin : Int) (draw : Number) (value : Int64) :
    (empty size alpha origin).weigh exp ⟨origin, draw, value⟩ = ⟨1 / (1 - draw), value⟩ := by
  have atOrigin : (secondsBetween origin origin : Number) = 0 := by
    rw [secondsBetween, secondsOf_eq, Int.sub_self, Int.toNat_zero, Nat.cast_zero, zero_div]
  have one : (Arithmetic.ofNat 1 : Number) = 1 := (ofNat_eq 1).trans Nat.cast_one
  rw [weigh, priorityAt, empty, atOrigin, zero_mul, exponential.zero, one]

/-- Three values with priorities 2, 4 and 3: a reservoir for two of them keeps the last and the
higher one of the others, which are the highest of all. -/
theorem newest_of_middle_priority_is_kept :
    let uses : List (Use ℝ) :=
      [.receive ⟨0, 1 / 2, 1⟩, .receive ⟨0, 3 / 4, 2⟩, .receive ⟨0, 2 / 3, 3⟩]
    let kept := ((empty 2 (1 / 10) 0).useAll Real.exp uses).entriesSince Real.exp 0
    (IsExponential Real.exp ∧ 0 < 2 ∧ Arrival.InOrder 0 (arrivalsOf uses)) ∧
      (∃ others, kept.Perm (⟨3, 3⟩ :: others) ∧ IsHighest 1 [⟨2, 1⟩, ⟨4, 2⟩] others) ∧
      IsHighest 2 [⟨2, 1⟩, ⟨4, 2⟩, ⟨3, 3⟩] kept := by
  intro uses kept
  have exponential : IsExponential Real.exp := ⟨Real.exp_pos, Real.exp_add⟩
  have room : 0 < 2 := by decide
  have ordered : Arrival.InOrder 0 (arrivalsOf uses) := ⟨le_rfl, le_rfl, le_rfl, trivial⟩
  have all : (arrivalsOf uses).map ((empty 2 (1 / 10) 0).weigh Real.exp) =
      [⟨2, 1⟩, ⟨4, 2⟩, ⟨3, 3⟩] := by
    simp only [arrivalsOf, uses, List.foldl, List.nil_append, List.cons_append, List.map,
      weigh_at_landmark exponential]
    norm_num
  obtain ⟨newest, highest⟩ :=
    newest_and_highest_earlier_are_kept exponential room (1 / 10) 0 uses ordered
  refine ⟨⟨exponential, room, ordered⟩, newest [⟨2, 1⟩, ⟨4, 2⟩] ⟨3, 3⟩ all, all ▸ highest.2 ?_⟩
  intro earlier last split
  have parts : ([⟨2, 1⟩, ⟨4, 2⟩] ++ [⟨3, 3⟩] : List (Weighted ℝ)) = earlier ++ [last] :=
    all.symm.trans split
  obtain ⟨rfl, same⟩ := List.append_inj' parts rfl
  rw [← List.singleton_inj.1 same]
  norm_num [List.countP_cons]

/-- A reservoir for one value gives up a value of priority 2 for one of priority 1. -/
theorem lower_newest_displaces_higher :
    let uses : List (Use ℝ) := [.receive ⟨0, 1 / 2, 1⟩, .receive ⟨0, 0, 2⟩]
    let all := (arrivalsOf uses).map ((empty 1 (1 / 10) 0).weigh Real.exp)
    let kept := ((empty 1 (1 / 10) 0).useAll Real.exp uses).entriesSince Real.exp 0
    (IsExponential Real.exp ∧ Arrival.InOrder 0 (arrivalsOf uses)) ∧
      all = [⟨2, 1⟩, ⟨1, 2⟩] ∧ kept = [⟨1, 2⟩] ∧ ¬ IsHighest 1 all kept := by
  intro uses all kept
  have exponential : IsExponential Real.exp := ⟨Real.exp_pos, Real.exp_add⟩
  have ordered : Arrival.InOrder 0 (arrivalsOf uses) := ⟨le_rfl, le_rfl, trivial⟩
  have priorities : all = [⟨2, 1⟩, ⟨1, 2⟩] := by
    simp only [all, arrivalsOf, uses, List.foldl, List.nil_append, List.cons_append, List.map,
      weigh_at_landmark exponential]
    norm_num
  have keeps : KeepsNewest 1 all kept :=
    keepsNewest_useAll exponential (1 / 10) 0 uses ordered Nat.one_pos
  have parts : all = [⟨2, 1⟩] ++ [⟨1, 2⟩] := priorities
  obtain ⟨others, perm, length, -⟩ := keeps.exists_newest parts
  have alone : others = [] := List.eq_nil_of_length_eq_zero length
  refine ⟨⟨exponential, ordered⟩, priorities, ?_, fun highest => ?_⟩
  · rwa [alone, List.perm_singleton] at perm
  · have few := (keeps.isHighest_iff Nat.one_pos).1 highest _ _ parts
    norm_num at few

end Decaying

end Telemetry.Sample
