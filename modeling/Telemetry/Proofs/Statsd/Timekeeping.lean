/-
This file proves that the loop keeps its schedule, whatever happens between its
turns. Its deadlines are points one interval apart, each is served at most once
and not before it has come, so by any time there are at most as many sendings as
whole intervals since the start. A turn that comes a whole interval after the
last sending is never idle, unless somebody has asked for the end; after that
nothing is sent, even if a deadline has passed. Each sending is one of the store
as it is in that turn.
-/

import Telemetry.Proofs.Statsd.Messages
import Telemetry.Proofs.Statsd.Turns

namespace Telemetry.Statsd

open Text

/-! ### Sending from several stores -/

theorem Client.settings_useAll (client : Client) (uses : List (Int × Client.Use)) :
    (client.useAll uses).namePrefix = client.namePrefix ∧
      (client.useAll uses).tags = client.tags := by
  induction uses generalizing client with
  | nil => exact ⟨rfl, rfl⟩
  | cons timed rest inductionHypothesis =>
    obtain ⟨_, namePrefix, tags, _⟩ := client.use_spec timed.1 timed.2
    obtain ⟨samePrefix, sameTags⟩ := inductionHypothesis (client.use timed.1 timed.2)
    exact ⟨samePrefix.trans namePrefix, sameTags.trans tags⟩

namespace Emitter

/-- The emitter after it has sent from these stores, one after the other. -/
def emitAll (emitter : Emitter) (stores : List Store) : Emitter :=
  stores.foldl (fun current store => (current.emitOnce store).1) emitter

theorem isReady_emitOnce {emitter : Emitter} (ready : emitter.client.sink.IsReady)
    (store : Store) : (emitter.emitOnce store).1.client.sink.IsReady := by
  refine ⟨?_, (unlines_emitOnce emitter store ready).2⟩
  rw [sink_emitOnce, (emitter.client.sink.useAll_settings _).2.2]
  exact ready.reliable

/-- What is sent from several stores are their reports, one after the other. -/
theorem unlines_emitAll {emitter : Emitter} (ready : emitter.client.sink.IsReady)
    (stores : List Store) :
    let client := emitter.client
    ∃ datagrams,
      (emitter.emitAll stores).client.sink.wire.delivered =
          client.sink.wire.delivered ++ datagrams ∧
        unlines datagrams =
          stores.flatMap fun store =>
            report client.namePrefix client.tags store emitter.registry := by
  intro client
  induction stores generalizing emitter with
  | nil => exact ⟨[], (List.append_nil _).symm, rfl⟩
  | cons store rest inductionHypothesis =>
    obtain ⟨⟨first, sent, text⟩, _⟩ := unlines_emitOnce emitter store ready
    obtain ⟨later, sentLater, textLater⟩ := inductionHypothesis (isReady_emitOnce ready store)
    obtain ⟨samePrefix, sameTags⟩ : (emitter.emitOnce store).1.client.namePrefix =
        client.namePrefix ∧ (emitter.emitOnce store).1.client.tags = client.tags := by
      rw [client_emitOnce]
      exact client.settings_useAll _
    rw [samePrefix, sameTags] at textLater
    refine ⟨first ++ later, ?_, ?_⟩
    · rw [← List.append_assoc, ← sent]
      exact sentLater
    · rw [unlines_append, text, textLater]
      rfl

end Emitter

namespace Moment

/-! ### Sendings on a schedule -/

/-- The time of the last of these moments, or the start if there is none. -/
def lastTime (start : Nat) (sent : List Moment) : Nat :=
  (sent.getLast?.map time).getD start

/-- The loop started with this interval, has sent in these moments and has come to the given one.
Its deadline is one of the points that lie whole intervals after the start. There is one before it
for each moment in which it has sent, and by any time there were enough of them. -/
structure OnSchedule (interval : Interval) (start : Nat) (sent : List Moment)
    (moment : Moment) : Prop where
  pace : moment.loop.schedule.interval = interval
  deadline : ∃ passed, sent.length ≤ passed ∧
    moment.loop.schedule.deadline = start + (passed + 1) * interval.nanoseconds
  bound : ∀ limit, sent.countP (·.time ≤ limit) ≤ (limit - start) / interval.nanoseconds
  soon : moment.loop.schedule.deadline ≤ lastTime start sent + interval.nanoseconds

namespace OnSchedule

variable {rhythm : Rhythm} {interval : Interval} {start : Nat} {sent : List Moment}
  {moment : Moment}

theorem starting (interval : Interval) (start : Nat) (emitter : Emitter) (store : Store) :
    OnSchedule interval start [] ⟨⟨.starting interval start, emitter⟩, store⟩ where
  pace := rfl
  deadline := ⟨0, Nat.le_refl 0, by rw [Nat.zero_add, Nat.one_mul]; rfl⟩
  bound _ := Nat.zero_le _
  soon := Nat.le_refl _

/-- The deadline that is served has come, so there is one more interval since the start. -/
theorem send (kept : OnSchedule interval start sent moment)
    (due : moment.loop.schedule.deadline ≤ moment.time) :
    OnSchedule interval start (sent ++ [moment]) (moment.send rhythm) := by
  have positive := interval.positive
  have served : (moment.send rhythm).loop.schedule.deadline =
      rhythm.next interval moment.loop.schedule.deadline moment.time := by
    rw [← kept.pace]
    rfl
  obtain ⟨passed, few, deadline⟩ := kept.deadline
  refine ⟨kept.pace, ?_, fun limit => ?_, ?_⟩
  · obtain ⟨skipped, next⟩ := rhythm.inStep interval _ _ due
    refine ⟨passed + 1 + skipped, ?_, ?_⟩
    · rw [List.length_append, List.length_singleton]
      omega
    · rw [served, next, deadline, Nat.add_assoc, ← Nat.add_mul]
      rfl
  · rw [List.countP_append, List.countP_singleton]
    split
    · rename_i reached
      -- the deadline served has not passed before, so the limit leaves room for one more
      have inTime : moment.time ≤ limit := of_decide_eq_true reached
      have fewer : sent.countP (·.time ≤ limit) ≤ sent.length := List.countP_le_length
      have intervals : (passed + 1) * interval.nanoseconds ≤ limit - start := by omega
      refine (Nat.le_div_iff_mul_le positive).2 (le_trans ?_ intervals)
      exact Nat.mul_le_mul_right _ (by omega)
    · exact kept.bound limit
  · rw [served, lastTime, List.getLast?_concat]
    exact rhythm.soon interval _ _ due

theorem step (kept : OnSchedule interval start sent moment) (step : Step) :
    OnSchedule interval start (sent ++ (moment.step rhythm step).1)
      (moment.step rhythm step).2 := by
  rcases moment.step_cases rhythm step with ⟨_, _, due, sends⟩ | ⟨silent, samePace, same, _⟩
  · rw [sends]
    exact kept.send due
  · rw [silent, List.append_nil]
    refine ⟨samePace.trans kept.pace, ?_, kept.bound, ?_⟩
    · rw [same]
      exact kept.deadline
    · rw [same]
      exact kept.soon

theorem run (kept : OnSchedule interval start sent moment) (steps : List Step) :
    OnSchedule interval start (sent ++ (moment.run rhythm steps).1)
      (moment.run rhythm steps).2 := by
  induction steps generalizing sent moment with
  | nil =>
    rw [Moment.run, List.append_nil]
    exact kept
  | cons step rest inductionHypothesis =>
    rw [run_cons, ← List.append_assoc]
    exact inductionHypothesis (kept.step step)

theorem start_add_le (kept : OnSchedule interval start sent moment) {early : Moment}
    (member : early ∈ sent) : start + interval.nanoseconds ≤ early.time := by
  have positive := interval.positive
  have counted : 0 < sent.countP (·.time ≤ early.time) :=
    List.countP_pos_iff.2 ⟨early, member, decide_eq_true (Nat.le_refl _)⟩
  have whole := (Nat.le_div_iff_mul_le positive).1 (Nat.lt_of_lt_of_le counted (kept.bound _))
  omega

end OnSchedule

/-! ### Requests for the end -/

variable (rhythm : Rhythm) {moment : Moment}

/-- The loop stays live as long as nobody asks for its end. -/
theorem isLive_run (live : moment.loop.schedule.isLive) {steps : List Step}
    (unasked : .cancel ∉ steps) : (moment.run rhythm steps).2.loop.schedule.isLive := by
  induction steps generalizing moment with
  | nil => exact live
  | cons step rest inductionHypothesis =>
    obtain ⟨other, unaskedRest⟩ := not_or.1 (mt List.mem_cons.2 unasked)
    refine inductionHypothesis ?_ unaskedRest
    cases step with
    | wait _ | perform _ => exact live
    | cancel => exact absurd rfl other
    | turn =>
      show (moment.turn rhythm).2.loop.schedule.isLive
      by_cases due : moment.loop.schedule.isLive ∧ moment.loop.schedule.deadline ≤ moment.time
      · rw [moment.turn_of_due rhythm due.1 due.2]
        exact live
      · rw [moment.turn_of_not_due rhythm due]
        exact Bool.and_eq_true_iff.2 ⟨live, (Bool.and_eq_true_iff.1 live).2⟩

/-- A loop that was asked to end sends nothing more. -/
theorem run_of_cancelled (asked : moment.loop.schedule.cancelled) (steps : List Step) :
    (moment.run rhythm steps).1 = [] := by
  induction steps generalizing moment with
  | nil => rfl
  | cons step rest inductionHypothesis =>
    have dead : ¬ (moment.loop.schedule.isLive ∧
        moment.loop.schedule.deadline ≤ moment.time) := by
      rw [Schedule.isLive, asked, Bool.not_true, Bool.and_false]
      exact fun due => Bool.false_ne_true due.1
    rw [run_cons, List.append_eq_nil_iff]
    cases step with
    | wait _ | perform _ => exact ⟨rfl, inductionHypothesis asked⟩
    | cancel => exact ⟨rfl, inductionHypothesis rfl⟩
    | turn =>
      rw [Moment.step, moment.turn_of_not_due rhythm dead]
      exact ⟨rfl, inductionHypothesis asked⟩

/-! ### What is sent -/

/-- The emitter does nothing but send from the stores of the moments in which all metrics are
sent. -/
theorem emitter_run (rhythm : Rhythm) (moment : Moment) (steps : List Step) :
    (moment.run rhythm steps).2.loop.emitter =
      moment.loop.emitter.emitAll ((moment.run rhythm steps).1.map store) := by
  induction steps generalizing moment with
  | nil => rfl
  | cons step rest inductionHypothesis =>
    rw [run_cons, List.map_append]
    refine (inductionHypothesis _).trans ?_
    rcases moment.step_cases rhythm step with ⟨_, _, _, sends⟩ | ⟨silent, _, _, same⟩
    · rw [sends]
      rfl
    · rw [silent, same]
      rfl

/-- The loop keeps its schedule. Whatever steps follow on its start, in whatever order the clock
moves on, metrics are filed and used, the loop has its turns and somebody asks for its end, and
whichever deadlines the timer skips: nothing is sent within the first interval, by any time all
metrics were sent at most as often as whole intervals have passed since the start, and after a
request for the end nothing is sent. Before that a turn sends if it comes a whole interval after the
last one that did, or after the start. Each sending is of the store as the steps so far have left
it, so over a wire that takes everything the text that arrives are the reports of these stores. What
the loop does when it answers events, with operations on the store before each, are such steps. -/
theorem loop_keeps_schedule (rhythm : Rhythm) (emitter : Emitter) (interval : Duration)
    (start : Nat) (store : Store) (steps : List Step) :
    let length := max interval.nanoseconds perMillisecond
    let first : Moment := ⟨.starting emitter interval start, store⟩
    let sent := (first.run rhythm steps).1
    let last := (first.run rhythm steps).2
    (∀ moment ∈ sent, start + length ≤ moment.time) ∧
      (∀ limit, sent.countP (·.time ≤ limit) ≤ (limit - start) / length) ∧
      (∀ before after, steps = before ++ .cancel :: after → sent = (first.run rhythm before).1) ∧
      (∀ before after, steps = before ++ .turn :: after → .cancel ∉ before →
        lastTime start (first.run rhythm before).1 + length ≤ (first.run rhythm before).2.time →
        (first.run rhythm before).2 ∈ sent) ∧
      (∀ moment ∈ sent, ∃ before after,
        steps = before ++ .turn :: after ∧ (first.run rhythm before).2 = moment) ∧
      last.loop.emitter = emitter.emitAll (sent.map Moment.store) ∧
      (emitter.client.sink.IsReady → ∃ datagrams,
        last.loop.emitter.client.sink.wire.delivered =
            emitter.client.sink.wire.delivered ++ datagrams ∧
          unlines datagrams = sent.flatMap fun moment =>
            report emitter.client.namePrefix emitter.client.tags moment.store emitter.registry) ∧
      ∀ (moment : Moment) (doings : List (List Operation × Schedule.Event)),
        ∃ course : List Step, (moment.run .tolerant course).2 = moment.answerAll doings ∧
          (moment.run .tolerant course).1.map time =
            (moment.loop.schedule.run (doings.map Prod.snd)).1 ∧
          (.cancel ∈ course ↔ .cancel ∈ doings.map Prod.snd) := by
  intro length first sent last
  have begun : OnSchedule (.ofDuration interval) start [] first := .starting _ start emitter store
  have kept : OnSchedule (.ofDuration interval) start sent last := begun.run steps
  have sends : last.loop.emitter = emitter.emitAll (sent.map Moment.store) :=
    first.emitter_run rhythm steps
  refine ⟨fun moment => kept.start_add_le, kept.bound, ?_, ?_, fun moment member => ?_, sends,
    fun ready => ?_, exists_run_eq_answerAll⟩
  · rintro before after rfl
    have nothing : ((first.run rhythm before).2.run rhythm (.cancel :: after)).1 = [] :=
      run_of_cancelled rhythm rfl after
    show (first.run rhythm (before ++ .cancel :: after)).1 = _
    rw [run_append, nothing, List.append_nil]
  · rintro before after rfl unasked late
    have live : (first.run rhythm before).2.loop.schedule.isLive := isLive_run rhythm rfl unasked
    have due := (begun.run before).soon.trans late
    show _ ∈ (first.run rhythm (before ++ .turn :: after)).1
    rw [run_append, run_cons, Moment.step, turn_of_due _ _ live due]
    exact List.mem_append_right _ List.mem_cons_self
  · exact first.exists_turn_of_mem_run rhythm member
  · rw [sends]
    obtain ⟨datagrams, delivered, text⟩ := Emitter.unlines_emitAll ready (sent.map Moment.store)
    rw [List.flatMap_map] at text
    exact ⟨datagrams, delivered, text⟩

/-- The clock jumps over two deadlines, the counter is increased after it was sent, and the end is
asked for when the deadline at 50 milliseconds has come. -/
theorem loop_keeps_schedule_over_jump :
    let emitter : Emitter := ⟨"main", .starting "app" (.starting 512 1432 .accepting) 0⟩
    let first : Moment := ⟨.starting emitter (.ofMilliseconds 10) 0, .starting fun _ => 0⟩
    let wait (milliseconds : Nat) : Step := .wait (.ofMilliseconds milliseconds)
    let jump : List Step :=
      [.perform (.getOrRegister "main" "jobs" (.counter 7)), wait 9, .turn, wait 25]
    let more : List Step := [.turn, .perform (.change ⟨0⟩ (.increase 1)), wait 6, .turn, wait 10]
    let course := first.run .tolerant (jump ++ .turn :: more ++ [.cancel, .turn])
    (emitter.client.sink.IsReady ∧ .cancel ∉ jump ∧
        lastTime 0 (first.run .tolerant jump).1 + 10000000 ≤ (first.run .tolerant jump).2.time) ∧
      course.1.map time = [34000000, 40000000] ∧
      course.1 = (first.run .tolerant (jump ++ .turn :: more)).1 ∧
      (first.run .tolerant jump).2 ∈ course.1 ∧ 0 + 10000000 ≤ (first.run .tolerant jump).2.time ∧
      unlines course.2.loop.emitter.client.sink.wire.delivered =
        "app.jobs:7|c\napp.jobs:8|c\n".toList := by
  intro emitter first wait jump more course
  have ready : emitter.client.sink.IsReady := ⟨fun _ _ => rfl, rfl⟩
  have unasked : .cancel ∉ jump := by simp [jump, wait]
  have late : lastTime 0 (first.run .tolerant jump).1 + 10000000 ≤
      (first.run .tolerant jump).2.time := by
    decide +kernel
  obtain ⟨early, _, asked, prompt, _, _, texts, _⟩ :=
    loop_keeps_schedule .tolerant emitter (.ofMilliseconds 10) 0 (.starting fun _ => 0)
      (jump ++ .turn :: more ++ [.cancel, .turn])
  have member : (first.run .tolerant jump).2 ∈ course.1 :=
    prompt jump (more ++ [.cancel, .turn]) rfl unasked late
  obtain ⟨datagrams, delivered, text⟩ := texts ready
  refine ⟨⟨ready, unasked, late⟩, by decide +kernel, asked _ [.turn] rfl, member,
    early _ member, ?_⟩
  have nothing : emitter.client.sink.wire.delivered = [] := rfl
  rw [delivered, nothing, List.nil_append, text]
  decide +kernel

end Moment

end Telemetry.Statsd
