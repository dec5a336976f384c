/-
This file proves that failed sends are reported once in every slice of 64
seconds. A client remembers no more than the slice of its last failure and how
many there were: that slice is at first the number of a real slice, so only the
count tells a client that has not failed yet. As times do not go back, a failure
is the first of its slice exactly if the failure before it lies in another one.
-/

import Telemetry.Proofs.Statsd.Failures

namespace Telemetry.Statsd.Client

/-! ### Slices -/

/-- The number of the slice that a time lies in: the whole seconds since the beginning, divided by
64. -/
def sliceOf (began now : Int) : Nat :=
  (now - began).toNat / Duration.perSecond / 64

theorem sliceAt_eq (client : Client) (now : Int) :
    client.sliceAt now = sliceOf client.began now := by
  rw [sliceAt, sliceOf, Nat.div_div_eq_div_mul, slice, Nat.mul_comm]

theorem sliceOf_mono (began : Int) {first second : Int} (ordered : first ≤ second) :
    sliceOf began first ≤ sliceOf began second :=
  Nat.div_le_div_right (Nat.div_le_div_right (by omega))

/-- None of these failures lies in the slice of the given time. -/
def IsFirstOfSlice (began : Int) (failures : List Int) (now : Int) : Prop :=
  ∀ earlier ∈ failures, sliceOf began earlier ≠ sliceOf began now

instance (began : Int) (failures : List Int) (now : Int) :
    Decidable (IsFirstOfSlice began failures now) :=
  inferInstanceAs (Decidable (∀ earlier ∈ failures, _))

/-- Among failures in order it is enough to look at the last one. -/
theorem isFirstOfSlice_concat_iff {began : Int} {failures : List Int} {latest now : Int}
    (ordered : (failures ++ [latest, now]).Pairwise (· ≤ ·)) :
    IsFirstOfSlice began (failures ++ [latest]) now ↔ sliceOf began latest ≠ sliceOf began now := by
  obtain ⟨_, after, before⟩ := List.pairwise_append.1 ordered
  have latestFirst : latest ≤ now := List.rel_of_pairwise_cons after List.mem_cons_self
  refine ⟨fun first => first latest (List.mem_append_right _ List.mem_cons_self), ?_⟩
  intro other earlier member
  rcases List.mem_append.1 member with old | new
  · have upToLatest := sliceOf_mono began (before earlier old latest List.mem_cons_self)
    have upToNow := sliceOf_mono began latestFirst
    omega
  · cases List.mem_singleton.1 new
    exact other

/-! ### What a client remembers -/

/-- The client has failed at these times and remembers how many they are and the slice of the
last. -/
structure Remembers (client : Client) (failures : List Int) : Prop where
  count : client.sendErrors = failures.length
  latest : ∀ latest ∈ failures.getLast?, client.lastReport = sliceOf client.began latest

variable {client : Client} {past : List Int} {now : Int}

/-- The test for a report tells whether the failure is the first of its slice. -/
theorem Remembers.isFirstOfSlice_iff (remembers : client.Remembers past)
    (ordered : (past ++ [now]).Pairwise (· ≤ ·)) :
    (client.lastReport ≠ client.sliceAt now ∨ client.sendErrors + 1 = 1) ↔
      IsFirstOfSlice client.began past now := by
  have count := remembers.count
  rw [sliceAt_eq]
  rcases List.eq_nil_or_concat' past with rfl | ⟨earlier, latest, rfl⟩
  · exact iff_of_true (.inr (congrArg (· + 1) count)) nofun
  · rw [List.append_assoc] at ordered
    rw [isFirstOfSlice_concat_iff ordered, remembers.latest latest (by simp)]
    refine or_iff_left ?_
    rw [count, List.length_append, List.length_singleton]
    omega

/-- A failure is reported if it is the first of its slice, and remembered in any case. -/
theorem Remembers.noteFailure (remembers : client.Remembers past)
    (ordered : (past ++ [now]).Pairwise (· ≤ ·)) :
    (client.noteFailure now).2 =
        (if IsFirstOfSlice client.began past now then [.sendFailed] else []) ∧
      (client.noteFailure now).1.Remembers (past ++ [now]) := by
  have test := remembers.isFirstOfSlice_iff ordered
  have count : client.sendErrors + 1 = (past ++ [now]).length := by
    rw [remembers.count, List.length_append, List.length_singleton]
  unfold Client.noteFailure
  dsimp only
  split
  · rename_i reported
    rw [if_pos (test.1 reported)]
    refine ⟨rfl, count, fun latest last => ?_⟩
    rw [List.getLast?_concat] at last
    cases last
    exact client.sliceAt_eq now
  · rename_i silent
    rw [if_neg fun first => silent (test.2 first)]
    refine ⟨rfl, count, fun latest last => ?_⟩
    rw [List.getLast?_concat] at last
    cases last
    exact (not_not.1 (not_or.1 silent).1).trans (client.sliceAt_eq now)

/-! ### Uses of a client -/

/-- What a use of the client reports. -/
def reports (client : Client) (now : Int) : Use → List Notice
  | .send groups line => (client.send now groups line).2
  | .flush => (client.flush now).2

/-- Whether a use of the client sends something that is refused. -/
def fails (client : Client) (use : Use) : Bool :=
  !(client.sink.use (client.onSink use)).1

/-- The times of the uses that fail. -/
def failures (client : Client) : List (Int × Use) → List Int
  | [] => []
  | (now, use) :: rest =>
    (if client.fails use then [now] else []) ++ (client.use now use).failures rest

theorem failures_append (client : Client) (first second : List (Int × Use)) :
    client.failures (first ++ second) =
      client.failures first ++ (client.useAll first).failures second := by
  induction first generalizing client with
  | nil => rfl
  | cons timed rest inductionHypothesis =>
    rw [List.cons_append, failures, failures, inductionHypothesis, List.append_assoc]
    rfl

theorem began_use (client : Client) (now : Int) (use : Use) :
    (client.use now use).began = client.began := by
  have sent (outcome : Bool × Sink) : (client.afterSend now outcome).1.began = client.began := by
    unfold afterSend Client.noteFailure
    dsimp only
    split
    · rfl
    · split <;> rfl
  cases use <;> exact sent _

theorem began_useAll (client : Client) (uses : List (Int × Use)) :
    (client.useAll uses).began = client.began := by
  induction uses generalizing client with
  | nil => rfl
  | cons timed rest inductionHypothesis =>
    exact (inductionHypothesis _).trans (client.began_use timed.1 timed.2)

/-- A use that fails is reported as its failure is; one that does not fail reports nothing. -/
theorem Remembers.use (remembers : client.Remembers past) {use : Use}
    (ordered : (past ++ if client.fails use then [now] else []).Pairwise (· ≤ ·)) :
    client.reports now use =
        (if client.fails use ∧ IsFirstOfSlice client.began past now then [.sendFailed]
          else []) ∧
      (client.use now use).Remembers
        (past ++ if client.fails use then [now] else []) := by
  have outcome : (client.use now use, client.reports now use) =
      client.afterSend now (client.sink.use (client.onSink use)) := by
    cases use <;> rfl
  have same : ({ client with sink := (client.sink.use (client.onSink use)).2 } : Client).Remembers
      past := ⟨remembers.count, remembers.latest⟩
  rw [Prod.ext_iff] at outcome
  obtain ⟨used, reported⟩ := outcome
  dsimp only at used reported
  rw [used, reported, afterSend]
  cases taken : (client.sink.use (client.onSink use)).1 with
  | true =>
    have fine : client.fails use = false := by rw [fails, taken, Bool.not_true]
    simpa [fine] using same
  | false =>
    have refused : client.fails use = true := by rw [fails, taken, Bool.not_false]
    rw [refused, if_pos rfl] at ordered ⊢
    simpa using same.noteFailure ordered

/-- After a run a client remembers the failures of the run besides those before. -/
theorem Remembers.useAll (remembers : client.Remembers past) {uses : List (Int × Use)}
    (ordered : (past ++ client.failures uses).Pairwise (· ≤ ·)) :
    (client.useAll uses).Remembers (past ++ client.failures uses) := by
  induction uses generalizing client past with
  | nil =>
    rw [Client.failures, List.append_nil]
    exact remembers
  | cons timed rest inductionHypothesis =>
    obtain ⟨now, use⟩ := timed
    rw [Client.failures, ← List.append_assoc] at ordered ⊢
    exact inductionHypothesis (remembers.use (List.pairwise_append.1 ordered).1).2 ordered

/-- Failed sends are reported once in every slice of 64 seconds. Whatever is done with a client
that begins, over whatever wire, as long as its failures are in the order of time: a use reports
something if and only if it fails and no use before it has failed in the same slice, and then it
reports one failed send. The failures counted are all of them, whether they were reported or not. -/
theorem failures_are_reported_once_a_slice (namePrefix : String) (sink : Sink) (tags : TagGroup)
    (began : Int) (uses : List (Int × Use)) :
    let client := { starting namePrefix sink began with tags }
    (client.failures uses).Pairwise (· ≤ ·) →
      (∀ before now use after, uses = before ++ (now, use) :: after →
        (client.useAll before).reports now use =
          if (client.useAll before).fails use ∧
              ∀ earlier ∈ client.failures before, sliceOf began earlier ≠ sliceOf began now
            then [.sendFailed] else []) ∧
        (client.useAll uses).sendErrors = (client.failures uses).length := by
  intro client ordered
  have nothing : client.Remembers [] := ⟨rfl, nofun⟩
  refine ⟨fun before now use after parts => ?_, (nothing.useAll ordered).count⟩
  rw [parts, failures_append, Client.failures, ← List.append_assoc] at ordered
  have upToNow := (List.pairwise_append.1 ordered).1
  have reached := nothing.useAll (List.pairwise_append.1 upToNow).1
  have reported := (reached.use upToNow).1
  rw [began_useAll] at reported
  exact reported

/-- Two failures in the first slice bring one report, and so does one after a long silence; a flush
that finds nothing to send does not fail. -/
theorem three_failures_bring_two_reports :
    let sink := Sink.starting 0 16 .refusing
    let client := { starting "" sink 0 with tags := .empty }
    let send : Use := .send [] (.count "jobs" 1)
    let first : Int × Use := (3 * Duration.perSecond, send)
    let second : Int × Use := (63 * Duration.perSecond, send)
    let flush : Int × Use := (64 * Duration.perSecond, .flush)
    let last : Int × Use := (1000000 * Duration.perSecond, send)
    (client.failures [first, second, flush, last]).Pairwise (· ≤ ·) ∧
      client.reports first.1 first.2 = [.sendFailed] ∧
      (client.useAll [first]).reports second.1 second.2 = [] ∧
      (client.useAll [first, second]).reports flush.1 flush.2 = [] ∧
      (client.useAll [first, second, flush]).reports last.1 last.2 = [.sendFailed] ∧
      (client.useAll [first, second, flush, last]).sendErrors = 3 := by
  intro sink client send first second flush last
  have ordered : (client.failures [first, second, flush, last]).Pairwise (· ≤ ·) := by
    decide +kernel
  obtain ⟨reported, counted⟩ :=
    failures_are_reported_once_a_slice "" sink .empty 0 [first, second, flush, last] ordered
  refine ⟨ordered, ?_, ?_, ?_, ?_, counted.trans (by decide +kernel)⟩
  · exact (reported [] _ _ [second, flush, last] rfl).trans (if_pos (by decide +kernel))
  · exact (reported [first] _ _ [flush, last] rfl).trans (if_neg (by decide +kernel))
  · exact (reported [first, second] _ _ [last] rfl).trans (if_neg (by decide +kernel))
  · exact (reported [first, second, flush] _ _ [] rfl).trans (if_pos (by decide +kernel))

end Telemetry.Statsd.Client
