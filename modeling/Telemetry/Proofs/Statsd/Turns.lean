/-
This file takes the work of the loop apart into turns. A step sends only if it is
a turn at or after the deadline of a loop that has not been asked to end; any
other step leaves the deadline and the emitter alone. What the loop does in
answer to an event, all at once, is a course of turns with nothing in between but
waiting, so a run of events, with whatever is done to the store between them, is
a course of steps.
-/

import Telemetry.Statsd.Turn

namespace Telemetry.Statsd.Moment

variable (rhythm : Rhythm) (moment : Moment)

/-! ### One step -/

/-- A turn sends if the loop is live and its deadline has come. -/
theorem turn_of_due (live : moment.loop.schedule.isLive)
    (due : moment.loop.schedule.deadline ≤ moment.time) :
    moment.turn rhythm = ([moment], moment.send rhythm) := by
  obtain ⟨running, going⟩ := Bool.and_eq_true_iff.1 live
  rw [Bool.not_eq_true'] at going
  rw [turn, running, going]
  exact if_pos due

/-- Any other turn only notices that the loop shall end, if it shall. -/
theorem turn_of_not_due
    (waits : ¬ (moment.loop.schedule.isLive ∧ moment.loop.schedule.deadline ≤ moment.time)) :
    moment.turn rhythm = ([], ⟨⟨moment.loop.schedule.rest, moment.loop.emitter⟩,
      if moment.loop.schedule.running && !moment.loop.schedule.rest.running then
        moment.store.note .emitterStopped
      else moment.store⟩) := by
  obtain ⟨⟨⟨interval, deadline, now, cancelled, running⟩, emitter⟩, store⟩ := moment
  cases running with
  | false => rfl
  | true =>
    cases cancelled with
    | true => rfl
    | false => exact if_neg fun due => waits ⟨rfl, due⟩

/-- A step sends in a turn that is due, or leaves the deadline and the emitter alone. -/
theorem step_cases (step : Step) :
    (step = .turn ∧ moment.loop.schedule.isLive ∧ moment.loop.schedule.deadline ≤ moment.time ∧
      moment.step rhythm step = ([moment], moment.send rhythm)) ∨
    ((moment.step rhythm step).1 = [] ∧
      (moment.step rhythm step).2.loop.schedule.interval = moment.loop.schedule.interval ∧
      (moment.step rhythm step).2.loop.schedule.deadline = moment.loop.schedule.deadline ∧
      (moment.step rhythm step).2.loop.emitter = moment.loop.emitter) := by
  cases step with
  | wait _ | cancel | perform _ => exact .inr ⟨rfl, rfl, rfl, rfl⟩
  | turn =>
    by_cases due : moment.loop.schedule.isLive ∧ moment.loop.schedule.deadline ≤ moment.time
    · exact .inl ⟨rfl, due.1, due.2, moment.turn_of_due rhythm due.1 due.2⟩
    · rw [show moment.step rhythm .turn = moment.turn rhythm from rfl,
        moment.turn_of_not_due rhythm due]
      exact .inr ⟨rfl, rfl, rfl, rfl⟩

/-! ### Courses -/

theorem run_cons (step : Step) (rest : List Step) :
    moment.run rhythm (step :: rest) =
      ((moment.step rhythm step).1 ++ ((moment.step rhythm step).2.run rhythm rest).1,
        ((moment.step rhythm step).2.run rhythm rest).2) := rfl

theorem run_append (first second : List Step) :
    moment.run rhythm (first ++ second) =
      ((moment.run rhythm first).1 ++ ((moment.run rhythm first).2.run rhythm second).1,
        ((moment.run rhythm first).2.run rhythm second).2) := by
  induction first generalizing moment with
  | nil => rfl
  | cons step rest inductionHypothesis =>
    rw [List.cons_append, run_cons, run_cons, inductionHypothesis, List.append_assoc]

/-- Every moment in which metrics are sent is reached right before a turn. -/
theorem exists_turn_of_mem_run {steps : List Step} {sent : Moment}
    (member : sent ∈ (moment.run rhythm steps).1) :
    ∃ before after, steps = before ++ .turn :: after ∧ (moment.run rhythm before).2 = sent := by
  induction steps generalizing moment with
  | nil => cases member
  | cons step rest inductionHypothesis =>
    rw [run_cons] at member
    rcases List.mem_append.1 member with now | later
    · rcases moment.step_cases rhythm step with ⟨rfl, _, _, sends⟩ | ⟨silent, _⟩
      · rw [sends] at now
        cases List.mem_singleton.1 now
        exact ⟨[], rest, rfl, rfl⟩
      · rw [silent] at now
        cases now
    · obtain ⟨before, after, rfl, reached⟩ := inductionHypothesis _ later
      exact ⟨step :: before, after, rfl, reached⟩

/-! ### The answer to an event -/

/-- Steps that only let the clock run and give the loop its turns. -/
def Step.IsQuiet : Step → Prop
  | .wait _ | .turn => True
  | .cancel | .perform _ => False

/-- Quiet steps lead from the one moment to the other and send at these times. -/
def Leads (times : List Nat) (first last : Moment) : Prop :=
  ∃ steps : List Step, (∀ step ∈ steps, step.IsQuiet) ∧
    (first.run .tolerant steps).1.map time = times ∧ (first.run .tolerant steps).2 = last

theorem Leads.trans {earlier later : List Nat} {first second third : Moment}
    (toSecond : Leads earlier first second) (toThird : Leads later second third) :
    Leads (earlier ++ later) first third := by
  obtain ⟨steps, quiet, rfl, rfl⟩ := toSecond
  obtain ⟨more, stillQuiet, rfl, rfl⟩ := toThird
  refine ⟨steps ++ more, ?_, ?_, ?_⟩
  · exact List.forall_mem_append.2 ⟨quiet, stillQuiet⟩
  · rw [run_append, List.map_append]
  · rw [run_append]

theorem leads_step (step : Step) (quiet : step.IsQuiet) :
    Leads ((moment.step .tolerant step).1.map time) moment (moment.step .tolerant step).2 := by
  refine ⟨[step], List.forall_mem_singleton.2 quiet, ?_, rfl⟩
  rw [run_cons, run, List.append_nil]

/-- The clock may run up to any time that is not past. -/
theorem leads_setTime {target : Nat} (ahead : moment.time ≤ target) :
    Leads [] moment (moment.withSchedule (moment.loop.schedule.setTime target)) := by
  have waited := moment.leads_step (.wait ⟨target - moment.time⟩) trivial
  have reached : moment.time + (target - moment.time) = target := Nat.add_sub_cancel' ahead
  rwa [step, ← time, reached] at waited

/-- The moment after all metrics were sent at some times, with the schedule as it is then. -/
def after (outcome : List Nat × Schedule) : Moment :=
  let (emitter, sent) := Loop.emitAt moment.loop.emitter moment.store outcome.1
  let ended := moment.loop.isRunning && !outcome.2.running
  ⟨⟨outcome.2, emitter⟩, if ended then sent.note .emitterStopped else sent⟩

/-- If nothing is due, a last turn may notice that the loop shall end. -/
theorem leads_rest
    (waits : ¬ (moment.loop.schedule.isLive ∧ moment.loop.schedule.deadline ≤ moment.time)) :
    Leads [] moment (moment.after ([], moment.loop.schedule.rest)) := by
  have last := moment.leads_step .turn trivial
  rwa [step, turn_of_not_due _ _ waits] at last

/-- All work that is due is done turn by turn. -/
theorem leads_settle :
    Leads moment.loop.schedule.settle.1 moment (moment.after moment.loop.schedule.settle) := by
  obtain ⟨⟨schedule, emitter⟩, store⟩ := moment
  dsimp only
  induction schedule using Schedule.settle.induct generalizing emitter store with
  | case1 schedule due _ _ _ inductionHypothesis =>
    have first := leads_step ⟨⟨schedule, emitter⟩, store⟩ .turn trivial
    rw [step, turn_of_due _ _ due.1 due.2] at first
    have later := inductionHypothesis (emitter.emitOnce store).2 (emitter.emitOnce store).1
    rw [Schedule.settle, if_pos due]
    exact first.trans later
  | case2 schedule waits =>
    rw [Schedule.settle, if_neg waits]
    exact leads_rest _ waits

/-- Work that falls due while time passes is done turn by turn, each at its deadline. -/
theorem leads_passTo {target : Nat} (ahead : moment.time ≤ target) :
    Leads (moment.loop.schedule.passTo target).1 moment
      (moment.after (moment.loop.schedule.passTo target)) := by
  obtain ⟨⟨schedule, emitter⟩, store⟩ := moment
  dsimp only
  induction schedule using Schedule.passTo.induct target generalizing emitter store with
  | case1 schedule due reached _ _ _ inductionHypothesis =>
    have waited := leads_setTime ⟨⟨schedule, emitter⟩, store⟩
      (Nat.le_max_left schedule.now schedule.deadline)
    have first := leads_step ⟨⟨reached, emitter⟩, store⟩ .turn trivial
    rw [step, turn_of_due _ _ due.1 (Nat.le_max_right _ _)] at first
    have later := inductionHypothesis (emitter.emitOnce store).2 (emitter.emitOnce store).1
      (Nat.max_le.2 ⟨ahead, due.2⟩)
    rw [Schedule.passTo, if_pos due]
    exact waited.trans (first.trans later)
  | case2 schedule waits =>
    have now : max schedule.now target = target := Nat.max_eq_right ahead
    have waited := leads_setTime ⟨⟨schedule, emitter⟩, store⟩ ahead
    rw [Schedule.passTo, if_neg waits, now]
    exact waited.trans (leads_rest ⟨⟨schedule.setTime target, emitter⟩, store⟩ waits)

/-- What has to be done for an event before the loop has its turns. -/
def request : Schedule.Event → List Step
  | .pass _ | .jump _ => []
  | .cancel => [.cancel]

/-- The moment after the loop has answered an event. -/
def answer (event : Schedule.Event) : Moment :=
  let (loop, store) := moment.loop.respond moment.store event
  ⟨loop, store⟩

/-- The answer of the loop to an event is a course of turns. -/
theorem leads_answer (event : Schedule.Event) :
    Leads (moment.loop.schedule.respond event).1 (moment.run .tolerant (request event)).2
      (moment.answer event) := by
  cases event with
  | pass duration => exact moment.leads_passTo (Nat.le_add_right _ _)
  | jump duration =>
    have waited := moment.leads_setTime (Nat.le_add_right _ duration.nanoseconds)
    exact waited.trans (leads_settle _)
  | cancel => exact leads_settle _

/-! ### Answers to several events -/

/-- The moment after operations on the store. -/
def performAll (operations : List Operation) : Moment :=
  { moment with store := moment.store.performAll operations }

theorem run_perform (operations : List Operation) :
    moment.run rhythm (operations.map .perform) = ([], moment.performAll operations) := by
  induction operations generalizing moment with
  | nil => rfl
  | cons operation rest inductionHypothesis =>
    rw [List.map_cons, run_cons, inductionHypothesis]
    rfl

/-- The moment after the loop has answered events, with operations on the store before each. -/
def answerAll : List (List Operation × Schedule.Event) → Moment :=
  List.foldl (fun current doing => (current.performAll doing.1).answer doing.2) moment

/-- The answers of the loop are a course of steps in which all metrics are sent at the times of its
schedule, and nobody asks for its end but the events. -/
theorem exists_run_eq_answerAll (doings : List (List Operation × Schedule.Event)) :
    ∃ steps : List Step, (moment.run .tolerant steps).2 = moment.answerAll doings ∧
      (moment.run .tolerant steps).1.map time =
        (moment.loop.schedule.run (doings.map Prod.snd)).1 ∧
      (.cancel ∈ steps ↔ .cancel ∈ doings.map Prod.snd) := by
  induction doings generalizing moment with
  | nil => exact ⟨[], rfl, rfl, iff_of_false List.not_mem_nil List.not_mem_nil⟩
  | cons doing rest inductionHypothesis =>
    obtain ⟨operations, event⟩ := doing
    have performed := moment.run_perform .tolerant operations
    obtain ⟨turns, quiet, sent, answered⟩ := (moment.performAll operations).leads_answer event
    obtain ⟨steps, reached, later, asked⟩ :=
      inductionHypothesis ((moment.performAll operations).answer event)
    have requested : ((moment.performAll operations).run .tolerant (request event)).1 = [] := by
      cases event <;> rfl
    refine ⟨operations.map .perform ++ (request event ++ (turns ++ steps)), ?_, ?_, ?_⟩
    · rw [run_append, performed, run_append, run_append, answered]
      exact reached
    · rw [run_append, performed, run_append, requested, run_append, answered, List.nil_append,
        List.nil_append, List.map_append, sent, later]
      rfl
    · have unasked : .cancel ∉ turns := fun member => quiet .cancel member
      have inRequest : .cancel ∈ request event ↔ .cancel = event := by
        cases event <;> simp [request]
      simp [unasked, inRequest, asked]

end Telemetry.Statsd.Moment
