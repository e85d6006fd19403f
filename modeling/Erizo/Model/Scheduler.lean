/-
**The scheduler of a thread pool** (`Scheduler.cpp`).

`serviceQueue` holds the mutex except while it waits and while it runs a function. A step is what a thread does
from one of these points to the next; the threads, the calls of `schedule` and `stop`, the clock and the ends of
the waits interleave as they like. A wait may end at any time without a timeout, so the notifications are left
out. The points in time are those of any clock.
-/

import Mathlib.Data.List.Sort
import Mathlib.Logic.Function.Basic

namespace Erizo

variable {τ ι : Type} [LinearOrder τ] [DecidableEq ι]

/-- A function in `task_queue_`, known by the number of its call of `schedule`. -/
structure ScheduledFunction (τ : Type) where
  time : τ
  number : ℕ
  deriving DecidableEq, Repr

/-- Where a thread is in `serviceQueue`. -/
inductive ServiceThread (τ : Type)
  /-- About to take the mutex for the first time. -/
  | starting
  /-- In `wait`. -/
  | waiting
  /-- In `wait_until`. -/
  | waitingUntil (time : τ)
  /-- In `f()`. -/
  | running (f : ScheduledFunction τ)
  | stopped
  deriving DecidableEq, Repr

/-- A call of a function, with the time on the clock. -/
structure Execution (τ : Type) where
  f : ScheduledFunction τ
  now : τ
  deriving DecidableEq, Repr

/-- `Scheduler`, with its threads, the clock and the number of calls of `schedule` so far. -/
structure Scheduler (τ ι : Type) where
  taskQueue : List (ScheduledFunction τ)
  stopRequested : Bool
  stopWhenEmpty : Bool
  threads : ι → ServiceThread τ
  now : τ
  calls : ℕ

namespace Scheduler

/-- The constructor. -/
def create (now : τ) : Scheduler τ ι where
  taskQueue := []
  stopRequested := false
  stopWhenEmpty := false
  threads := fun _ => .starting
  now := now
  calls := 0

/-- The insertion into the multimap, behind what has the same time. -/
def insert (f : ScheduledFunction τ) (taskQueue : List (ScheduledFunction τ)) : List (ScheduledFunction τ) :=
  taskQueue.orderedInsert (fun one other => one.time < other.time) f

/-- `schedule`. -/
def schedule (scheduler : Scheduler τ ι) (time : τ) : Scheduler τ ι :=
  { scheduler with
    taskQueue := insert ⟨time, scheduler.calls⟩ scheduler.taskQueue
    calls := scheduler.calls + 1 }

/-- `stop`. -/
def stop (scheduler : Scheduler τ ι) (drain : Bool) : Scheduler τ ι :=
  if drain then { scheduler with stopWhenEmpty := true } else { scheduler with stopRequested := true }

/-- Where the outer loop leads from its top, with the mutex held. A wait that ends without a timeout leads there
too: both inner loops test again what the outer loop tests. -/
def serviceQueue (scheduler : Scheduler τ ι) : ServiceThread τ :=
  if scheduler.stopRequested || (scheduler.stopWhenEmpty && scheduler.taskQueue.isEmpty) then .stopped
  else
    match scheduler.taskQueue with
    | [] => .waiting
    | first :: _ => .waitingUntil first.time

/-- A thread comes to a point of `serviceQueue`. -/
def moveTo (scheduler : Scheduler τ ι) (thread : ι) (place : ServiceThread τ) : Scheduler τ ι :=
  { scheduler with threads := Function.update scheduler.threads thread place }

/-- What follows a timeout of `wait_until`, once the mutex is taken again. -/
def takeFirst (scheduler : Scheduler τ ι) (thread : ι) : Scheduler τ ι × Option (Execution τ) :=
  if scheduler.stopRequested then (scheduler.moveTo thread .stopped, none)
  else
    match scheduler.taskQueue with
    | [] => (scheduler.moveTo thread scheduler.serviceQueue, none)
    | f :: rest => ({ scheduler with taskQueue := rest }.moveTo thread (.running f), some ⟨f, scheduler.now⟩)

/-- What happens to a scheduler. -/
inductive Event (τ ι : Type)
  /-- The clock goes on, to a time if that is still to come. -/
  | tick (time : τ)
  | schedule (time : τ)
  | stop (drain : Bool)
  /-- A thread takes the mutex, at its start or when its function has returned. -/
  | lock (thread : ι)
  /-- A wait ends without a timeout. -/
  | wake (thread : ι)
  /-- A wait for a time ends with a timeout, which takes that the time has come. -/
  | timeout (thread : ι)
  deriving DecidableEq, Repr

/-- A step of a scheduler. An event that cannot happen changes nothing. -/
def step (scheduler : Scheduler τ ι) : Event τ ι → Scheduler τ ι × Option (Execution τ)
  | .tick time => ({ scheduler with now := max scheduler.now time }, none)
  | .schedule time => (scheduler.schedule time, none)
  | .stop drain => (scheduler.stop drain, none)
  | .lock thread =>
      match scheduler.threads thread with
      | .starting | .running _ => (scheduler.moveTo thread scheduler.serviceQueue, none)
      | _ => (scheduler, none)
  | .wake thread =>
      match scheduler.threads thread with
      | .waiting | .waitingUntil _ => (scheduler.moveTo thread scheduler.serviceQueue, none)
      | _ => (scheduler, none)
  | .timeout thread =>
      match scheduler.threads thread with
      | .waitingUntil time => if time ≤ scheduler.now then scheduler.takeFirst thread else (scheduler, none)
      | _ => (scheduler, none)

end Scheduler

end Erizo
