/-
**Periodic tasks do not drift.**

However late a task runs, what it is late by is taken off the next delay, so that the time it is next meant to run at
is one period after the time it was meant to run at (`due_rerun`). The delay turns negative after a stall. The
scheduler is then told not to wait, and the task runs once for each period that it has missed (`no_drift`).
-/

import Erizo.Model.PeriodicTask
import Mathlib.Tactic

namespace Erizo

open Library

namespace PeriodicTask

/-! ### A run -/

/-- The scheduler runs what is scheduled, and not before the delay it was given. -/
def NeverEarly (scheduled : Option PeriodicTask) (run : TaskRun) : Prop :=
  ∃ task ∈ scheduled, task.start + task.delayMs * nanosecondsPerMillisecond ≤ run.begins

/-- Between the two readings after a run no time passes. -/
def ReadsOnce (run : TaskRun) : Prop := run.skewReading = run.startReading

instance (scheduled : Option PeriodicTask) (run : TaskRun) : Decidable (NeverEarly scheduled run) :=
  inferInstanceAs (Decidable (∃ task ∈ scheduled, task.start + task.delayMs * nanosecondsPerMillisecond ≤ run.begins))

instance : DecidablePred ReadsOnce := fun run => inferInstanceAs (Decidable (run.skewReading = run.startReading))

theorem mem_rerun {task next : PeriodicTask} {run : TaskRun} :
    next ∈ task.rerun run ↔
      run.again = true ∧
        next = ⟨run.startReading, task.period, task.period - (run.skewReading - task.start - task.nextDelay)⟩ := by
  cases asked : run.again <;> simp [rerun, asked, scheduleEveryAfter, eq_comm]

/-- **The next due time** is a period on, and what passes between the two readings. -/
theorem due_rerun {task next : PeriodicTask} {run : TaskRun} (again : next ∈ task.rerun run) :
    next.due = task.due + task.period + (run.startReading - run.skewReading) := by
  obtain ⟨-, rfl⟩ := mem_rerun.mp again
  simp only [due]
  ring

theorem period_rerun {task next : PeriodicTask} {run : TaskRun} (again : next ∈ task.rerun run) :
    next.period = task.period := by
  obtain ⟨-, rfl⟩ := mem_rerun.mp again
  rfl

theorem start_rerun {task next : PeriodicTask} {run : TaskRun} (again : next ∈ task.rerun run) :
    next.start = run.startReading := by
  obtain ⟨-, rfl⟩ := mem_rerun.mp again
  rfl

/-- The milliseconds of a delay, in nanoseconds: they are less than a millisecond short of it. -/
theorem delayMs_bounds (task : PeriodicTask) :
    task.delay - nanosecondsPerMillisecond < task.delayMs * nanosecondsPerMillisecond ∧
      task.delayMs * nanosecondsPerMillisecond ≤ task.delay := by
  have unsigned : 0 ≤ task.delay := le_max_right _ _
  have positive : 0 < nanosecondsPerMillisecond := by decide
  rw [delayMs, Int.tdiv_eq_ediv_of_nonneg unsigned]
  have parts := Int.ediv_mul_add_emod task.delay nanosecondsPerMillisecond
  have rest := Int.emod_lt_of_pos task.delay positive
  have least := Int.emod_nonneg task.delay positive.ne'
  constructor <;> linarith

/-- A run that is not early begins less than a millisecond before it is due, or later. -/
theorem due_lt_begins {task : PeriodicTask} {run : TaskRun}
    (notEarly : task.start + task.delayMs * nanosecondsPerMillisecond ≤ run.begins) :
    task.due - nanosecondsPerMillisecond < run.begins := by
  have short := task.delayMs_bounds.1
  have clamped : task.nextDelay ≤ task.delay := le_max_left _ _
  rw [due]
  linarith

/-- There is no delay when the time a task is meant to run at has come. -/
theorem delay_eq_zero_iff (task : PeriodicTask) : task.delay = 0 ↔ task.due ≤ task.start := by
  rw [delay, max_eq_right_iff, due]
  omega

/-- What was due by a time may be run at that time. -/
theorem neverEarly_of_due {task : PeriodicTask} {run : TaskRun} (started : task.start ≤ run.begins)
    (passed : task.due ≤ run.begins) : NeverEarly (some task) run := by
  refine ⟨task, rfl, ?_⟩
  have short := task.delayMs_bounds.2
  have clamped : task.delay = task.nextDelay ∨ task.delay = 0 := max_choice _ _
  rw [due] at passed
  omega

/-! ### Runs -/

/-- The task after a number of runs: it is meant to run one period after the last of them. -/
def OnSchedule (origin period : ℤ) (runs : ℕ) (task : PeriodicTask) : Prop :=
  task.period = period ∧ task.due = origin + (runs + 1) * period

variable {origin period : ℤ} {task : PeriodicTask}

theorem onSchedule_first (origin period : ℤ) : OnSchedule origin period 0 (scheduleEvery origin period) := by
  refine ⟨rfl, ?_⟩
  simp [due, scheduleEvery, scheduleEveryAfter]

/-- **A run keeps the schedule.** -/
theorem OnSchedule.rerun {runs : ℕ} (schedule : OnSchedule origin period runs task) {run : TaskRun}
    (reads : ReadsOnce run) {next : PeriodicTask} (again : next ∈ task.rerun run) :
    OnSchedule origin period (runs + 1) next := by
  refine ⟨(period_rerun again).trans schedule.1, ?_⟩
  rw [due_rerun again, schedule.1, schedule.2, reads]
  push_cast
  ring

/-- What every run of a sequence is: meant for its multiple of the period, and less than a millisecond earlier or
late. -/
def RunsOnSchedule (origin period : ℤ) (runs : List TaskRun) (done : List (Option DueRun)) : Prop :=
  ∀ (number : ℕ) (inside : number < runs.length),
    done[number]? = some (some ⟨origin + (number + 1) * period, runs[number].begins⟩) ∧
      origin + (number + 1) * period - nanosecondsPerMillisecond < runs[number].begins

/-- What is not scheduled any more does not run. -/
theorem eq_nil_of_guarded_none {runs : List TaskRun} (allowed : Machine.Guarded step NeverEarly none runs) : runs = [] := by
  cases runs with
  | nil => rfl
  | cons run rest => exact absurd allowed.1 fun ⟨_, impossible, _⟩ => nomatch impossible

/-- **A sequence of runs keeps the schedule.** -/
theorem OnSchedule.runs {runs : List TaskRun} (reads : ∀ run ∈ runs, ReadsOnce run) :
    ∀ {before : ℕ} {task : PeriodicTask}, OnSchedule origin period before task →
      Machine.Guarded step NeverEarly (some task) runs →
      RunsOnSchedule (origin + before * period) period runs (Machine.outputs step (some task) runs) ∧
        ∀ next ∈ Machine.run step (some task) runs, OnSchedule origin period (before + runs.length) next := by
  induction runs with
  | nil =>
      intro before task schedule _
      exact ⟨fun number inside => absurd inside (Nat.not_lt_zero _), fun next last => Option.some.inj last ▸ schedule⟩
  | cons run rest ih =>
      intro before task schedule ⟨⟨_, same, notEarly⟩, onward⟩
      obtain rfl := Option.some.inj same
      obtain ⟨first, others⟩ := List.forall_mem_cons.mp reads
      have begins := due_lt_begins notEarly
      rw [schedule.2] at begins
      have here : origin + before * period + ((0 : ℕ) + 1) * period = origin + (before + 1) * period := by
        push_cast
        ring
      cases again : task.rerun run with
      | none =>
          rw [step, again] at onward
          obtain rfl := eq_nil_of_guarded_none onward
          refine ⟨fun number inside => ?_, fun next last => ?_⟩
          · obtain rfl : number = 0 := Nat.lt_one_iff.mp inside
            rw [here]
            exact ⟨by rw [← schedule.2]; rfl, begins⟩
          · rw [Machine.run_cons, step, again] at last
            exact nomatch last
      | some next =>
          rw [step, again] at onward
          obtain ⟨done, last⟩ := ih others (schedule.rerun first again) onward
          constructor
          · rw [Machine.outputs, step, again]
            rintro (_ | number) inside
            · rw [here]
              exact ⟨by rw [← schedule.2]; rfl, begins⟩
            · have later := done number (Nat.lt_of_succ_lt_succ inside)
              have shift : origin + before * period + ((number + 1 : ℕ) + 1) * period =
                  origin + (before + 1 : ℕ) * period + (number + 1) * period := by
                push_cast
                ring
              rw [shift]
              exact later
          · rw [Machine.run_cons, step, again, List.length_cons, ← Nat.add_assoc, Nat.add_right_comm]
            exact last

/-! ### After a stall -/

/-- A run that takes no time. -/
def atOnce (now : ℤ) : TaskRun := ⟨now, true, now, now⟩

theorem readsOnce_atOnce (now : ℤ) : ReadsOnce (atOnce now) := rfl

/-- Nothing is waited for while a run is missing, and all runs that were meant for a time before now, or for now, may
take place now. -/
def MakesUp (origin period : ℤ) (runs : ℕ) (task : PeriodicTask) : Prop :=
  (task.delay = 0 ↔ origin + (runs + 1) * period ≤ task.start) ∧
    ∀ (now : ℤ) (missed : ℕ), 0 ≤ period → task.start ≤ now → origin + (runs + missed) * period ≤ now →
      Machine.Guarded step NeverEarly (some task) (List.replicate missed (atOnce now))

/-- **Missed runs may take place at once.** -/
theorem OnSchedule.guarded_atOnce (forward : 0 ≤ period) {now : ℤ} (missed : ℕ) :
    ∀ {runs : ℕ} {task : PeriodicTask}, OnSchedule origin period runs task → task.start ≤ now →
      origin + (runs + missed) * period ≤ now →
      Machine.Guarded step NeverEarly (some task) (List.replicate missed (atOnce now)) := by
  induction missed with
  | zero => exact fun _ _ _ => trivial
  | succ missed ih =>
      intro runs task schedule started passed
      obtain ⟨next, again⟩ : ∃ next, next ∈ task.rerun (atOnce now) := ⟨_, mem_rerun.mpr ⟨rfl, rfl⟩⟩
      have others : 0 ≤ missed * period := mul_nonneg (Int.natCast_nonneg _) forward
      push_cast at passed
      refine ⟨neverEarly_of_due started ?_, ?_⟩
      · rw [schedule.2]
        show _ ≤ now
        linarith
      · rw [step, Option.mem_def.mp again]
        refine ih (schedule.rerun (readsOnce_atOnce now) again) (start_rerun again).le ?_
        push_cast
        linarith

theorem OnSchedule.makesUp {runs : ℕ} (schedule : OnSchedule origin period runs task) :
    MakesUp origin period runs task := by
  refine ⟨?_, fun now missed forward started passed => schedule.guarded_atOnce forward missed started passed⟩
  rw [delay_eq_zero_iff, schedule.2]

/-- **Periodic tasks do not drift**: in every sequence of runs that are not early, each is meant for its multiple of the
period, however late the others were, and what a stall makes a task miss is made up. -/
theorem no_drift {runs : List TaskRun}
    (allowed : Machine.Guarded step NeverEarly (some (scheduleEvery origin period)) runs)
    (reads : ∀ run ∈ runs, ReadsOnce run) :
    RunsOnSchedule origin period runs (Machine.outputs step (some (scheduleEvery origin period)) runs) ∧
      ∀ task ∈ Machine.run step (some (scheduleEvery origin period)) runs,
        MakesUp origin period runs.length task := by
  obtain ⟨done, last⟩ := (onSchedule_first origin period).runs reads allowed
  rw [Nat.cast_zero, zero_mul, add_zero] at done
  rw [Nat.zero_add] at last
  exact ⟨done, fun task scheduled => (last task scheduled).makesUp⟩

/-- Runs of a task with a period of a tenth of a second, which is stalled once for more than two of them. -/
def stalled : List TaskRun :=
  [⟨100000000, true, 100500000, 100500000⟩, ⟨450000000, true, 450000000, 450000000⟩,
    ⟨450000000, true, 450000000, 450000000⟩, ⟨450000000, true, 450000000, 450000000⟩]

theorem no_drift_stalled :
    RunsOnSchedule 0 100000000 stalled
        [some ⟨100000000, 100000000⟩, some ⟨200000000, 450000000⟩, some ⟨300000000, 450000000⟩,
          some ⟨400000000, 450000000⟩] ∧
      ∀ task ∈ Machine.run step (some (scheduleEvery 0 100000000)) stalled, MakesUp 0 100000000 4 task :=
  no_drift (by decide) (by decide)

end PeriodicTask

end Erizo
