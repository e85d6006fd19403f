/-
**Each function once, and never early.**

A thread whose timed wait is over takes what is first in the queue, whatever it waited for.

* `executions_nodup`: no function is taken twice.
* `onceAndOnTime_of_awaited`: none is early where what is first when a wait is over is no later than what was waited
  for. Another thread may have taken that, and then something later may be first.
* `onceAndOnTime_of_subsingleton`: with one thread that cannot happen, since only a thread takes from the queue
  and what is inserted comes first only when it is earlier (`AwaitsFirst`).
-/

import Erizo.Library.Machine
import Erizo.Model.Scheduler
import Mathlib.Data.List.ReduceOption

namespace Erizo

open Library

namespace Scheduler

variable {τ ι : Type} [LinearOrder τ]

/-! ### The numbers of the functions -/

/-- What is queued has numbers of its own, given out before. -/
def Numbered (scheduler : Scheduler τ ι) : Prop :=
  (scheduler.taskQueue.map ScheduledFunction.number).Nodup ∧
    ∀ f ∈ scheduler.taskQueue, f.number < scheduler.calls

theorem schedule_taskQueue (scheduler : Scheduler τ ι) (time : τ) :
    (scheduler.schedule time).taskQueue.Perm (⟨time, scheduler.calls⟩ :: scheduler.taskQueue) :=
  List.perm_orderedInsert _ _ _

theorem Numbered.schedule {scheduler : Scheduler τ ι} (numbered : scheduler.Numbered) (time : τ) :
    (scheduler.schedule time).Numbered := by
  have queued := scheduler.schedule_taskQueue time
  obtain ⟨distinct, given⟩ := numbered
  constructor
  · rw [(queued.map _).nodup_iff, List.map_cons, List.nodup_cons]
    refine ⟨fun member => ?_, distinct⟩
    obtain ⟨f, present, same⟩ := List.mem_map.mp member
    exact absurd same (given f present).ne
  · intro f member
    rcases List.mem_cons.mp (queued.mem_iff.mp member) with rfl | old
    · exact Nat.lt_succ_self _
    · exact Nat.lt_succ_of_lt (given f old)

variable [DecidableEq ι]

/-! ### What is asked of a scheduler -/

/-- The calls of functions in a run. -/
def executions (scheduler : Scheduler τ ι) (events : List (Event τ ι)) : List (Execution τ) :=
  (Machine.outputs step scheduler events).reduceOption

/-- **No function is called twice, and none before its time.** -/
def OnceAndOnTime (executions : List (Execution τ)) : Prop :=
  (executions.map fun execution => execution.f.number).Nodup ∧
    ∀ execution ∈ executions, execution.f.time ≤ execution.now

instance : DecidablePred (OnceAndOnTime (τ := τ)) := fun executions =>
  inferInstanceAs (Decidable (_ ∧ ∀ execution ∈ executions, execution.f.time ≤ execution.now))

/-- Where the wait of a thread ends with a timeout and the thread goes on, what is then first in the queue is no later
than what the thread waited for. -/
def HeadAwaited (scheduler : Scheduler τ ι) : Event τ ι → Prop
  | .timeout thread =>
      match scheduler.threads thread with
      | .waitingUntil time =>
          time ≤ scheduler.now → scheduler.stopRequested = false → ∀ f ∈ scheduler.taskQueue.head?, f.time ≤ time
      | _ => True
  | _ => True

instance (scheduler : Scheduler τ ι) (event : Event τ ι) : Decidable (scheduler.HeadAwaited event) := by
  unfold HeadAwaited
  split
  · split <;> infer_instance
  · infer_instance

/-! ### What a step can do -/

/-- **A step executes nothing, except after a timeout**: then it takes what is first in the queue. -/
theorem step_cases (scheduler : Scheduler τ ι) (event : Event τ ι) :
    (step scheduler event).2 = none ∧
        ((step scheduler event).1.taskQueue = scheduler.taskQueue ∧
            (step scheduler event).1.calls = scheduler.calls ∨
          ∃ time, (step scheduler event).1 = scheduler.schedule time) ∨
      ∃ thread time f rest, event = .timeout thread ∧ scheduler.threads thread = .waitingUntil time ∧
        time ≤ scheduler.now ∧ scheduler.stopRequested = false ∧ scheduler.taskQueue = f :: rest ∧
        step scheduler event =
          ({ scheduler with taskQueue := rest }.moveTo thread (.running f), some ⟨f, scheduler.now⟩) := by
  cases event with
  | tick time => exact Or.inl ⟨rfl, Or.inl ⟨rfl, rfl⟩⟩
  | schedule time => exact Or.inl ⟨rfl, Or.inr ⟨time, rfl⟩⟩
  | stop drain => cases drain <;> exact Or.inl ⟨rfl, Or.inl ⟨rfl, rfl⟩⟩
  | lock thread =>
      rw [step]
      split <;> exact Or.inl ⟨rfl, Or.inl ⟨rfl, rfl⟩⟩
  | wake thread =>
      rw [step]
      split <;> exact Or.inl ⟨rfl, Or.inl ⟨rfl, rfl⟩⟩
  | timeout thread =>
      simp only [step, takeFirst]
      split
      · rename_i time waits
        split
        · rename_i timedOut
          split
          · exact Or.inl ⟨rfl, Or.inl ⟨rfl, rfl⟩⟩
          · rename_i goesOn
            split
            · exact Or.inl ⟨rfl, Or.inl ⟨rfl, rfl⟩⟩
            · rename_i f rest queued
              refine Or.inr ⟨thread, time, f, rest, rfl, waits, timedOut, ?_, queued, rfl⟩
              exact Bool.eq_false_iff.mpr goesOn
        · exact Or.inl ⟨rfl, Or.inl ⟨rfl, rfl⟩⟩
      · exact Or.inl ⟨rfl, Or.inl ⟨rfl, rfl⟩⟩

/-! ### Each function once -/

theorem executions_cons_idle {scheduler : Scheduler τ ι} {event : Event τ ι} (idle : (step scheduler event).2 = none)
    (rest : List (Event τ ι)) :
    executions scheduler (event :: rest) = executions (step scheduler event).1 rest := by
  rw [executions, Machine.outputs, idle, List.reduceOption_cons_of_none]
  rfl

/-- **What a run executes is queued at its start or scheduled later, and each but once.** -/
theorem executions_nodup {scheduler : Scheduler τ ι} (numbered : scheduler.Numbered) (events : List (Event τ ι)) :
    ((executions scheduler events).map fun execution => execution.f.number).Nodup ∧
      ∀ execution ∈ executions scheduler events,
        execution.f ∈ scheduler.taskQueue ∨ scheduler.calls ≤ execution.f.number := by
  induction events generalizing scheduler with
  | nil => exact ⟨List.nodup_nil, fun _ member => absurd member List.not_mem_nil⟩
  | cons event rest ih =>
      rcases step_cases scheduler event with ⟨idle, ⟨queue, calls⟩ | ⟨time, next⟩⟩ | stepped
      · rw [executions_cons_idle idle]
        have same : (step scheduler event).1.Numbered := by rwa [Numbered, queue, calls]
        have onward := ih same
        rwa [queue, calls] at onward
      · rw [executions_cons_idle idle]
        have onward := ih (next ▸ numbered.schedule time)
        refine ⟨onward.1, fun execution member => ?_⟩
        rcases onward.2 execution member with queued | later
        · rw [next, (scheduler.schedule_taskQueue time).mem_iff, List.mem_cons] at queued
          rcases queued with new | old
          · exact Or.inr (new ▸ le_rfl)
          · exact Or.inl old
        · rw [next] at later
          exact Or.inr (Nat.le_of_succ_le later)
      · obtain ⟨thread, time, f, queue, -, -, -, -, queued, next⟩ := stepped
        obtain ⟨distinct, given⟩ := numbered
        rw [queued, List.map_cons, List.nodup_cons] at distinct
        rw [queued, List.forall_mem_cons] at given
        rw [executions, Machine.outputs, next, List.reduceOption_cons_of_some]
        obtain ⟨once, known⟩ := @ih ({ scheduler with taskQueue := queue }.moveTo thread (.running f))
          ⟨distinct.2, given.2⟩
        refine ⟨List.nodup_cons.mpr ⟨fun again => ?_, once⟩, List.forall_mem_cons.mpr ⟨?_, fun execution member => ?_⟩⟩
        · obtain ⟨execution, member, same⟩ := List.mem_map.mp again
          change execution.f.number = f.number at same
          rcases known execution member with left | later
          · exact distinct.1 (same ▸ List.mem_map_of_mem left)
          · exact absurd (same ▸ later) (Nat.not_le.mpr given.1)
        · exact Or.inl (queued ▸ List.mem_cons_self)
        · exact (known execution member).imp_left fun left => queued ▸ List.mem_cons_of_mem _ left

/-! ### Never early -/

/-- **What was waited for is not early.** -/
theorem HeadAwaited.onTime {scheduler : Scheduler τ ι} {event : Event τ ι} (awaited : scheduler.HeadAwaited event) :
    ∀ execution ∈ (step scheduler event).2, execution.f.time ≤ execution.now := by
  intro execution executed
  rcases step_cases scheduler event with
    ⟨idle, -⟩ | ⟨thread, time, f, rest, rfl, waits, timedOut, goesOn, queued, next⟩
  · rw [idle] at executed
    exact absurd executed (Option.not_mem_none execution)
  · rw [next] at executed
    cases executed
    rw [HeadAwaited, waits] at awaited
    have earlier := awaited timedOut goesOn f (by rw [queued]; rfl)
    exact earlier.trans timedOut

/-- **Every function is executed at most once, and none early, in the runs in which after every timeout what is first
was waited for.** -/
theorem onceAndOnTime_of_awaited (now : τ) (events : List (Event τ ι))
    (awaited : Machine.Guarded step HeadAwaited (create now) events) : OnceAndOnTime (executions (create now) events) := by
  have numbered : (create now : Scheduler τ ι).Numbered :=
    ⟨List.nodup_nil, fun _ member => absurd member List.not_mem_nil⟩
  have onTime : ∀ output ∈ Machine.outputs step (create now : Scheduler τ ι) events,
      ∀ execution ∈ output, execution.f.time ≤ execution.now :=
    @Machine.Guarded.forall_outputs _ _ _ _ _ (fun _ => True) _ (fun _ _ _ _ => trivial)
      (fun _ _ meets _ => HeadAwaited.onTime meets) _ _ awaited trivial
  refine ⟨(executions_nodup numbered events).1, fun execution member => ?_⟩
  exact onTime _ (List.reduceOption_mem_iff.mp member) execution rfl

/-- Two threads wait, one for the first of two functions and then one for the second. -/
theorem onceAndOnTime_of_awaited_twoThreads :
    OnceAndOnTime (executions (create 0 : Scheduler ℕ (Fin 2))
      [.schedule 1, .schedule 5, .lock 0, .tick 1, .timeout 0, .lock 1, .lock 0, .tick 6, .timeout 1]) :=
  onceAndOnTime_of_awaited 0 _ (by decide)

/-- Two threads wait for the first of two functions; the second to take the mutex executes the other one, four
units early. -/
theorem not_onceAndOnTime_twoThreads :
    ¬ OnceAndOnTime (executions (create 0 : Scheduler ℕ (Fin 2))
      [.schedule 1, .schedule 5, .lock 0, .lock 1, .tick 1, .timeout 0, .timeout 1]) := by
  decide

/-! ### One thread -/

/-- What a thread waits for is still first in the queue, or something earlier is. -/
def AwaitsFirst (scheduler : Scheduler τ ι) : Prop :=
  ∀ thread time, scheduler.threads thread = .waitingUntil time →
    ∃ f rest, scheduler.taskQueue = f :: rest ∧ f.time ≤ time

omit [LinearOrder τ] in
theorem moveTo_self (scheduler : Scheduler τ ι) (thread : ι) (place : ServiceThread τ) :
    (scheduler.moveTo thread place).threads thread = place := by
  simp only [moveTo, Function.update_self]

omit [LinearOrder τ] in
theorem moveTo_of_ne {scheduler : Scheduler τ ι} {thread other : ι} (different : other ≠ thread)
    (place : ServiceThread τ) : (scheduler.moveTo thread place).threads other = scheduler.threads other := by
  simp only [moveTo, Function.update_of_ne different]

theorem AwaitsFirst.moveTo {scheduler : Scheduler τ ι} (awaits : scheduler.AwaitsFirst) (thread : ι)
    {place : ServiceThread τ} (first : ∀ time, place = .waitingUntil time →
      ∃ f rest, scheduler.taskQueue = f :: rest ∧ f.time ≤ time) :
    (scheduler.moveTo thread place).AwaitsFirst := by
  intro other time waits
  by_cases same : other = thread
  · rw [same, moveTo_self] at waits
    exact first time waits
  · rw [moveTo_of_ne same] at waits
    exact awaits other time waits

/-- A thread that comes to wait waits for what is first. -/
theorem AwaitsFirst.serviceQueue {scheduler : Scheduler τ ι} (awaits : scheduler.AwaitsFirst) (thread : ι) :
    (scheduler.moveTo thread scheduler.serviceQueue).AwaitsFirst := by
  refine awaits.moveTo thread fun time waits => ?_
  unfold Scheduler.serviceQueue at waits
  split at waits
  · cases waits
  · split at waits
    · cases waits
    · rename_i f rest queued
      cases waits
      exact ⟨f, rest, queued, le_rfl⟩

omit [DecidableEq ι] in
/-- What is inserted comes first only when it is earlier. -/
theorem AwaitsFirst.schedule {scheduler : Scheduler τ ι} (awaits : scheduler.AwaitsFirst) (later : τ) :
    (scheduler.schedule later).AwaitsFirst := by
  intro thread time waits
  obtain ⟨f, rest, queued, earlier⟩ := awaits thread time waits
  rw [Scheduler.schedule, queued, insert, List.orderedInsert_cons]
  split
  · rename_i before
    exact ⟨_, _, rfl, before.le.trans earlier⟩
  · exact ⟨_, _, rfl, earlier⟩

/-- Only a thread takes something from the queue, and the only one does not wait then. -/
theorem awaitsFirst_step [Subsingleton ι] (scheduler : Scheduler τ ι) (event : Event τ ι)
    (awaits : scheduler.AwaitsFirst) : (step scheduler event).1.AwaitsFirst := by
  cases event with
  | tick time => exact awaits
  | schedule time => exact awaits.schedule time
  | stop drain => cases drain <;> exact awaits
  | lock thread | wake thread =>
      simp only [step]
      split
      · exact awaits.serviceQueue thread
      · exact awaits.serviceQueue thread
      · exact awaits
  | timeout thread =>
      simp only [step, takeFirst]
      split
      · split
        · split
          · exact awaits.moveTo thread fun _ waits => by cases waits
          · split
            · exact awaits.serviceQueue thread
            · intro other time waits
              rw [Subsingleton.elim other thread, moveTo_self] at waits
              cases waits
        · exact awaits
      · exact awaits

/-- **With one thread no function is early.** -/
theorem onceAndOnTime_of_subsingleton [Subsingleton ι] (now : τ) (events : List (Event τ ι)) :
    OnceAndOnTime (executions (create now) events) := by
  have start : (create now : Scheduler τ ι).AwaitsFirst := fun _ _ waits => by cases waits
  refine onceAndOnTime_of_awaited now events (Machine.guarded_of_invariant awaitsFirst_step ?_ start events)
  intro scheduler event awaits
  unfold HeadAwaited
  split
  · split
    · rename_i thread _ time waits
      intro _ _ f first
      obtain ⟨other, rest, queued, earlier⟩ := awaits thread time waits
      rw [queued] at first
      cases first
      exact earlier
    · trivial
  · trivial

end Scheduler

end Erizo
