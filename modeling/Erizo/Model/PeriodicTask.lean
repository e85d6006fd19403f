/-
**Periodic tasks** (`scheduleFromNow` and `scheduleEvery` of `thread/Worker.cpp`).

A task is scheduled again after each of its runs, for as long as it asks for that. Points in time and durations are
in nanoseconds, as those of the steady clock; a scheduler is told whole milliseconds. When it runs what it was given
is its own affair: a run says when it begins and what the clock shows when it is over.
-/

import Erizo.Library.Machine
import Mathlib.Algebra.Order.Ring.Int

namespace Erizo

/-- The nanoseconds of a millisecond. -/
def nanosecondsPerMillisecond : ℤ := 1000000

/-- A call of `scheduleEvery` with a next delay, as its lambda remembers it. -/
structure PeriodicTask where
  start : ℤ
  period : ℤ
  nextDelay : ℤ
  deriving DecidableEq, Repr

/-- A run of a periodic task: when it begins, whether it is to be run again, and the two readings of the clock after
that, of which the second is taken by the next call of `scheduleEvery`. -/
structure TaskRun where
  begins : ℤ
  again : Bool
  skewReading : ℤ
  startReading : ℤ
  deriving DecidableEq, Repr

/-- A run with the time that was meant for it. -/
structure DueRun where
  due : ℤ
  begins : ℤ
  deriving DecidableEq, Repr

namespace PeriodicTask

/-- `scheduleEvery` with a next delay. -/
def scheduleEveryAfter (now period nextDelay : ℤ) : PeriodicTask := ⟨now, period, nextDelay⟩

/-- `scheduleEvery`. -/
def scheduleEvery (now period : ℤ) : PeriodicTask := scheduleEveryAfter now period period

/-- When a task is meant to run. -/
def due (task : PeriodicTask) : ℤ := task.start + task.nextDelay

/-- The delay of `scheduleEvery` that is handed over to `scheduleFromNow`. -/
def delay (task : PeriodicTask) : ℤ := max task.nextDelay 0

/-- The delay that `scheduleFromNow` gives the scheduler: the whole milliseconds. -/
def delayMs (task : PeriodicTask) : ℤ := task.delay.tdiv nanosecondsPerMillisecond

/-- The lambda of `scheduleEvery`. -/
def rerun (task : PeriodicTask) (run : TaskRun) : Option PeriodicTask :=
  if run.again then
    let clockSkew := run.skewReading - task.start - task.nextDelay
    some (scheduleEveryAfter run.startReading task.period (task.period - clockSkew))
  else none

/-- A task that is still scheduled is run. -/
def step (scheduled : Option PeriodicTask) (run : TaskRun) : Option PeriodicTask × Option DueRun :=
  match scheduled with
  | some task => (task.rerun run, some ⟨task.due, run.begins⟩)
  | none => (none, none)

end PeriodicTask

end Erizo
