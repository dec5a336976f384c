/-
This file says how far the landmark of a decaying reservoir lies back when a new
value is given its priority. A value is given its priority first, and only then
the landmark moves if it lies more than an hour back. The time in which no value
came therefore counts in full, and there is no bound on what the exponential
function is asked for. The landmark lies at most an hour back at every value
exactly if no value comes more than an hour after the reservoir was made or last
cleared.
-/

import Mathlib.Data.List.Induction
import Mathlib.Logic.Basic
import Telemetry.Proofs.Arithmetic.Overflow
import Telemetry.Proofs.Sample.Heap
import Telemetry.Sample.Arrival

namespace Telemetry.Sample.Decaying

variable {Number : Type}

/-! ### Runs -/

/-- A use of a decaying reservoir. -/
inductive Use (Number : Type)
  | receive (arrival : Arrival Number)
  | clear (time : Int)
deriving Repr

/-- The time of a use. -/
def Use.time : Use Number → Int
  | .receive arrival => arrival.time
  | .clear time => time

/-- Whether uses are in the order of time, none of them before `start`. -/
def InOrder (start : Int) : List (Use Number) → Prop
  | [] => True
  | use :: rest => start ≤ use.time ∧ InOrder use.time rest

/-- When the last use was, of a reservoir that was made at `start`. -/
def lastOf (start : Int) (uses : List (Use Number)) : Int :=
  uses.foldl (fun _ use => use.time) start

/-- When the reservoir that was made at `start` was last cleared, or made. -/
def originOf (start : Int) (uses : List (Use Number)) : Int :=
  uses.foldl (fun origin use => match use with | .receive _ => origin | .clear time => time) start

theorem InOrder.append {start : Int} {before after : List (Use Number)}
    (ordered : InOrder start (before ++ after)) :
    InOrder start before ∧ InOrder (lastOf start before) after := by
  induction before generalizing start with
  | nil => exact ⟨trivial, ordered⟩
  | cons use rest inductionHypothesis =>
    obtain ⟨later, orderedRest⟩ := ordered
    obtain ⟨orderedBefore, orderedAfter⟩ := inductionHypothesis orderedRest
    exact ⟨⟨later, orderedBefore⟩, orderedAfter⟩

/-- How far the landmark lies back. -/
def age (reservoir : Decaying Number) (now : Int) : Int :=
  now - reservoir.landmark

/-- A reservoir of the given size and strength that is due to move its landmark after an hour. -/
structure IsTimed (size : Nat) (alpha : Number) (reservoir : Decaying Number) : Prop where
  size : reservoir.size = size
  alpha : reservoir.alpha = alpha
  timer : reservoir.rescaleAfter = reservoir.landmark + rescaleInterval

theorem isTimed_empty (size : Nat) (alpha : Number) (now : Int) :
    IsTimed size alpha (empty size alpha now) :=
  ⟨rfl, rfl, rfl⟩

/-- The landmark lies at most an hour before a time, and not after it. -/
structure IsRecent (reservoir : Decaying Number) (now : Int) : Prop where
  past : reservoir.landmark ≤ now
  recent : reservoir.age now ≤ rescaleInterval

theorem isRecent_empty (size : Nat) (alpha : Number) (now : Int) :
    (empty size alpha now).IsRecent now := by
  have age : (empty size alpha now).age now = 0 := Int.sub_self now
  exact ⟨Int.le_refl now, age ▸ by decide⟩

/-- Where the landmark lay at most an hour back at the last use, it lies as much further back as
time has passed since. -/
theorem IsRecent.age_mem {reservoir : Decaying Number} {last : Int}
    (recent : reservoir.IsRecent last) (now : Int) :
    now - last ≤ reservoir.age now ∧ reservoir.age now ≤ now - last + rescaleInterval := by
  obtain ⟨past, near⟩ := recent
  rw [age] at near ⊢
  omega

variable [Arithmetic Number] (exp : Number → Number)

/-- The reservoir after a use. -/
def use (reservoir : Decaying Number) : Use Number → Decaying Number
  | .receive arrival => reservoir.receive exp arrival
  | .clear time => reservoir.clear time

/-- The reservoir after uses. -/
def useAll (reservoir : Decaying Number) (uses : List (Use Number)) : Decaying Number :=
  uses.foldl (use exp) reservoir

/-! ### One arrival -/

namespace IsTimed

variable {size : Nat} {alpha : Number} {reservoir : Decaying Number}

variable (timed : IsTimed size alpha reservoir)

include timed

theorem insert (draw : Number) (now : Int) (value : Int64) :
    IsTimed size alpha (reservoir.insert exp draw now value) := by
  unfold Decaying.insert
  dsimp only
  split <;> exact ⟨timed.size, timed.alpha, timed.timer⟩

theorem rescale (now : Int) : IsTimed size alpha (reservoir.rescale exp now) :=
  ⟨timed.size, timed.alpha, rfl⟩

/-- The landmark moves after an arrival at which it lies more than an hour back. -/
theorem receive_eq (positive : 0 < size) (arrival : Arrival Number) :
    let inserted := reservoir.insert exp arrival.draw arrival.time arrival.value
    reservoir.receive exp arrival =
      if rescaleInterval < reservoir.age arrival.time then inserted.rescale exp arrival.time
      else inserted := by
  have due : 0 < reservoir.size ∧ reservoir.rescaleAfter < arrival.time ↔
      rescaleInterval < reservoir.age arrival.time := by
    rw [timed.size, timed.timer, age, and_iff_right positive]
    omega
  exact if_congr due rfl rfl

theorem receive (arrival : Arrival Number) :
    IsTimed size alpha (reservoir.receive exp arrival) := by
  unfold Decaying.receive update
  dsimp only
  split
  · exact (timed.insert exp _ _ _).rescale exp _
  · exact timed.insert exp _ _ _

theorem use (use : Use Number) : IsTimed size alpha (reservoir.use exp use) := by
  cases use with
  | receive arrival => exact timed.receive exp arrival
  | clear time =>
    rw [Decaying.use, clear, timed.size, timed.alpha]
    exact isTimed_empty size alpha time

theorem useAll (uses : List (Use Number)) : IsTimed size alpha (reservoir.useAll exp uses) := by
  induction uses generalizing reservoir with
  | nil => exact timed
  | cons use rest inductionHypothesis => exact inductionHypothesis (timed.use exp use)

end IsTimed

theorem landmark_insert (draw : Number) (now : Int) (reservoir : Decaying Number)
    (value : Int64) : (reservoir.insert exp draw now value).landmark = reservoir.landmark := by
  unfold insert
  dsimp only
  split <;> rfl

theorem landmark_receive {size : Nat} {alpha : Number} {reservoir : Decaying Number}
    (timed : IsTimed size alpha reservoir) (positive : 0 < size) (arrival : Arrival Number) :
    (reservoir.receive exp arrival).landmark =
      if rescaleInterval < reservoir.age arrival.time then arrival.time
      else reservoir.landmark := by
  rw [timed.receive_eq exp positive arrival]
  split
  · rfl
  · exact landmark_insert exp _ _ reservoir _

/-- The priority that a value gets when it arrives: it is computed from the landmark before that
moves, and then scaled like those of the others if the landmark moves. -/
def arrivalPriority (reservoir : Decaying Number) (arrival : Arrival Number) : Number :=
  let computed := reservoir.priorityAt exp arrival.draw arrival.time
  if rescaleInterval < reservoir.age arrival.time then
    computed * exp (-reservoir.alpha * secondsBetween reservoir.landmark arrival.time)
  else computed

/-- Moving the landmark scales the priorities. -/
theorem toList_rescale_perm (reservoir : Decaying Number) (now : Int) :
    (reservoir.rescale exp now).kept.toList.Perm
      (reservoir.kept.toList.map fun entry =>
        { entry with
          priority := entry.priority *
            exp (-reservoir.alpha * secondsBetween reservoir.landmark now) }) :=
  Heap.toList_map_perm Weighted.ranksBelow _ reservoir.kept

/-- A value that arrives is stored with its priority. -/
theorem exists_perm_receive {size : Nat} {alpha : Number} {reservoir : Decaying Number}
    (timed : IsTimed size alpha reservoir) (positive : 0 < size) (arrival : Arrival Number) :
    ∃ others, (reservoir.receive exp arrival).kept.toList.Perm
      (⟨reservoir.arrivalPriority exp arrival, arrival.value⟩ :: others) := by
  have nonzero : reservoir.size ≠ 0 := timed.size ▸ Nat.ne_of_gt positive
  obtain ⟨others, inserted⟩ : ∃ others,
      (reservoir.insert exp arrival.draw arrival.time arrival.value).kept.toList.Perm
        (⟨reservoir.priorityAt exp arrival.draw arrival.time, arrival.value⟩ :: others) := by
    rw [insert]
    dsimp only
    rw [if_neg nonzero]
    exact ⟨_, Heap.toList_push_perm Weighted.ranksBelow _ _⟩
  have alphaInserted := (timed.insert exp arrival.draw arrival.time arrival.value).alpha
  have landmark := landmark_insert exp arrival.draw arrival.time reservoir arrival.value
  rw [timed.receive_eq exp positive arrival, arrivalPriority]
  split
  · have scaled := (toList_rescale_perm exp _ arrival.time).trans (inserted.map _)
    rw [List.map_cons, alphaInserted, landmark, ← timed.alpha] at scaled
    exact ⟨_, scaled⟩
  · exact ⟨others, inserted⟩

/-! ### How far the landmark lies back -/

section Runs

variable {size : Nat} {alpha : Number} {reservoir : Decaying Number} {last : Int}

/-- After a use the landmark lies at most an hour back, however much time has passed before it. -/
theorem IsRecent.use (recent : reservoir.IsRecent last) (timed : IsTimed size alpha reservoir)
    (positive : 0 < size) (use : Use Number) (later : last ≤ use.time) :
    (reservoir.use exp use).IsRecent use.time := by
  cases use with
  | receive arrival =>
    have landmark := landmark_receive exp timed positive arrival
    have past := recent.past
    split at landmark
    · refine ⟨Int.le_of_eq landmark, ?_⟩
      rw [age, Decaying.use, landmark, Use.time, Int.sub_self]
      decide
    · rename_i young
      refine ⟨?_, ?_⟩
      · rw [Decaying.use, landmark]
        exact Int.le_trans past later
      · rw [age, Decaying.use, landmark]
        exact Int.not_lt.1 young
  | clear time => exact isRecent_empty _ _ time

theorem IsRecent.useAll (recent : reservoir.IsRecent last) (timed : IsTimed size alpha reservoir)
    (positive : 0 < size) {uses : List (Use Number)} (ordered : InOrder last uses) :
    (reservoir.useAll exp uses).IsRecent (lastOf last uses) := by
  induction uses generalizing reservoir last with
  | nil => exact recent
  | cons use rest inductionHypothesis =>
    obtain ⟨later, orderedRest⟩ := ordered
    exact inductionHypothesis (recent.use exp timed positive use later) (timed.use exp use)
      orderedRest

end Runs

/-! ### When the landmark stays -/

section Origin

variable {size : Nat} (positive : 0 < size) (alpha : Number) (start : Int)

include positive

/-- The landmark stays where the reservoir was made or last cleared as long as every value comes
within the next hour. -/
theorem landmark_useAll_empty (uses : List (Use Number))
    (near : ∀ before arrival after, uses = before ++ .receive arrival :: after →
      ((empty size alpha start).useAll exp before).landmark = originOf start before →
        arrival.time ≤ originOf start before + rescaleInterval)
    {before after : List (Use Number)} (split : uses = before ++ after) :
    ((empty size alpha start).useAll exp before).landmark = originOf start before := by
  induction before using List.reverseRecOn generalizing after with
  | nil => rfl
  | append_singleton earlier last inductionHypothesis =>
    rw [List.append_assoc, List.singleton_append] at split
    have landmark := inductionHypothesis split
    rw [useAll, List.foldl_append, originOf, List.foldl_append]
    cases last with
    | receive arrival =>
      have timed := (isTimed_empty size alpha start).useAll exp earlier
      have young := near earlier arrival after split landmark
      refine (landmark_receive exp timed positive arrival).trans ?_
      rw [if_neg, landmark]
      · rfl
      · rw [age, landmark]
        omega
    | clear time => rfl

/-- The landmark lies at most an hour back at every value exactly if every value comes at most an
hour after the reservoir was made or last cleared. -/
theorem age_le_iff (uses : List (Use Number)) :
    (∀ before arrival after, uses = before ++ .receive arrival :: after →
      ((empty size alpha start).useAll exp before).age arrival.time ≤ rescaleInterval) ↔
    ∀ before arrival after, uses = before ++ .receive arrival :: after →
      arrival.time ≤ originOf start before + rescaleInterval := by
  constructor
  · intro young before arrival after split
    have landmark := landmark_useAll_empty exp positive alpha start uses
      (fun earlier other later own landmark => by
        have age := young earlier other later own
        rw [Decaying.age, landmark] at age
        omega) split
    have age := young before arrival after split
    rw [Decaying.age, landmark] at age
    omega
  · intro near before arrival after split
    have landmark := landmark_useAll_empty exp positive alpha start uses
      (fun earlier other later own _ => near earlier other later own) split
    have early := near before arrival after split
    rw [age, landmark]
    omega

end Origin

/-! ### Idle time -/

theorem kept_receive_of_no_room {size : Nat} {alpha : Number} {reservoir : Decaying Number}
    (timed : IsTimed size alpha reservoir) (zero : size = 0) (arrival : Arrival Number) :
    (reservoir.receive exp arrival).kept = reservoir.kept := by
  have noRoom : reservoir.size = 0 := timed.size.trans zero
  have still : ¬ (0 < reservoir.size ∧ reservoir.rescaleAfter < arrival.time) := fun due => by
    omega
  rw [receive, update, insert]
  dsimp only
  rw [if_neg still, if_pos noRoom]

/-- A reservoir without room stores nothing. -/
theorem kept_useAll_of_no_room (alpha : Number) (start : Int) (uses : List (Use Number)) :
    ((empty 0 alpha start).useAll exp uses).kept.toList = [] := by
  induction uses using List.reverseRecOn with
  | nil => rfl
  | append_singleton uses last inductionHypothesis =>
    rw [useAll, List.foldl_append]
    cases last with
    | receive arrival =>
      have timed := (isTimed_empty 0 alpha start).useAll exp uses
      exact (congrArg Heap.toList (kept_receive_of_no_room exp timed rfl arrival)).trans
        inductionHypothesis
    | clear time => rfl

/-- A stored priority is finite only if the exponential function is finite where it is asked for
the priority. -/
theorem isFinite_of_isFinite_arrivalPriority {exp : Float → Float} {reservoir : Decaying Float}
    {arrival : Arrival Float} (finite : (reservoir.arrivalPriority exp arrival).isFinite) :
    (exp (Arithmetic.secondsOf (reservoir.age arrival.time).toNat * reservoir.alpha)).isFinite := by
  rw [arrivalPriority] at finite
  split at finite
  · exact Overflow.isFinite_of_isFinite_div (Overflow.isFinite_of_isFinite_mul finite)
  · exact Overflow.isFinite_of_isFinite_div finite

/-- How far the landmark lies back when a value is given its priority, for every size and strength
of a reservoir and every run in the order of time. It lies back at least as far as the last use,
and at most an hour more, so idle time counts in full. For so long the exponential function is
asked, and what it gives is stored as it is or scaled afterwards; once it has overflowed, the stored
priority is not finite either. The landmark lies at most an hour back at every value exactly if no
value comes more than an hour after the reservoir was made or last cleared. A reservoir without
room gives no priorities. -/
theorem landmark_lags_by_idle_time (exp : Float → Float) (size : Nat) (alpha : Float) {start : Int}
    {uses : List (Use Float)} (ordered : InOrder start uses) :
    let made := empty size alpha start
    (0 < size → ∀ before arrival after, uses = before ++ .receive arrival :: after →
      let reservoir := made.useAll exp before
      let age := reservoir.age arrival.time
      let idle := arrival.time - lastOf start before
      let exponential := exp (Arithmetic.secondsOf age.toNat * alpha)
      let stored := reservoir.arrivalPriority exp arrival
      idle ≤ age ∧ age ≤ idle + rescaleInterval ∧
        reservoir.priorityAt exp arrival.draw arrival.time =
          exponential / (Arithmetic.ofNat 1 - arrival.draw) ∧
        (∃ others, (reservoir.receive exp arrival).kept.toList.Perm
          (⟨stored, arrival.value⟩ :: others)) ∧
        (stored.isFinite → exponential.isFinite)) ∧
      (0 < size →
        ((∀ before arrival after, uses = before ++ .receive arrival :: after →
          (made.useAll exp before).age arrival.time ≤ rescaleInterval) ↔
        ∀ before arrival after, uses = before ++ .receive arrival :: after →
          arrival.time ≤ originOf start before + rescaleInterval)) ∧
      (size = 0 → (made.useAll exp uses).kept.toList = []) := by
  intro made
  refine ⟨fun positive before arrival after split => ?_,
    fun positive => age_le_iff exp positive alpha start uses, ?_⟩
  · intro reservoir age idle exponential stored
    have timed : IsTimed size alpha reservoir := (isTimed_empty size alpha start).useAll exp before
    obtain ⟨orderedBefore, later, -⟩ := (split ▸ ordered).append
    have recent : reservoir.IsRecent (lastOf start before) :=
      (isRecent_empty size alpha start).useAll exp (isTimed_empty size alpha start) positive
        orderedBefore
    obtain ⟨atLeast, atMost⟩ := recent.age_mem arrival.time
    have strength := timed.alpha
    refine ⟨atLeast, atMost, ?_, exists_perm_receive exp timed positive arrival, fun finite => ?_⟩
    · rw [priorityAt, strength]
      rfl
    · have asked := isFinite_of_isFinite_arrivalPriority finite
      rwa [strength] at asked
  · rintro rfl
    exact kept_useAll_of_no_room exp alpha start uses

/-- The exponential function at the exponents of the run below. The first result is too large for a
floating point number. -/
def tabulatedExp (exponent : Float) : Float :=
  if exponent = 720 then 1 / 0
  else if exponent = -720 then 2.0322308024e-313
  else if exponent = 300 then 1.9424263952412558e130
  else 1

/-- A second in nanoseconds. -/
def second : Int :=
  1000000000

/-- A value that comes two hours after the first is given its priority from a landmark that lies two
to three hours back. -/
theorem landmark_lags_by_two_hours :
    let first : Arrival Float := ⟨0, 0.5, 1⟩
    let late : Arrival Float := ⟨7200 * second, 0.5, 2⟩
    let age := ((empty 2 0.1 0).useAll tabulatedExp [.receive first]).age late.time
    (InOrder 0 [.receive first, .receive late] ∧ 0 < 2) ∧
      7200 * second ≤ age ∧ age ≤ 10800 * second := by
  intro first late age
  have ordered : InOrder 0 [.receive first, .receive late] := by
    simp only [InOrder, first, late, Use.time]
    decide
  obtain ⟨atLeast, atMost, -⟩ := (landmark_lags_by_idle_time tabulatedExp 2 0.1 ordered).1
    (by decide) [.receive first] late [] rfl
  exact ⟨⟨ordered, by decide⟩, atLeast, atMost⟩

/-- After two hours without values the landmark lies two hours back, and the priority of the next
value overflows. That value then stays in place of one that comes fifty minutes later. -/
theorem idle_hours_overflow_priority :
    let first : Arrival Float := ⟨0, 0.5, 1⟩
    let late : Arrival Float := ⟨7200 * second, 0.5, 2⟩
    let third : Arrival Float := ⟨10200 * second, 0.5, 3⟩
    let fourth : Arrival Float := ⟨10200 * second, 0.5, 4⟩
    let before := (empty 2 0.1 0).useAll tabulatedExp [.receive first]
    let final := before.useAll tabulatedExp [.receive late, .receive third, .receive fourth]
    rescaleInterval < before.age late.time ∧
      (before.receive tabulatedExp late).kept.toList.all (·.priority.isFinite) = false ∧
      final.kept.toList.map (·.value) = [4, 2] := by
  decide +kernel

end Telemetry.Sample.Decaying
