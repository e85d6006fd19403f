/-
**The pools of workers** (`thread/ThreadPool.cpp`, `thread/IOThreadPool.cpp`).

A worker is shared by pointer, and the pool goes by the number of its owners. These are the pool itself, whoever was given
the worker and has not let go of it, and within the loop the two variables that point to a worker. The pointers that the
tasks of a worker hold while they run are left out. The pool of I/O workers chooses in the same way.
-/

import Mathlib.Data.List.FinRange
import Mathlib.Logic.Function.Basic
import Mathlib.Tactic.Common

namespace Erizo

/-- `ThreadPool`, with so many workers: who was given each of them. -/
structure ThreadPool (workers : ℕ) where
  users : Fin workers → ℕ

namespace ThreadPool

variable {workers : ℕ}

/-- The constructor. -/
def create (workers : ℕ) : ThreadPool workers := ⟨fun _ => 0⟩

/-- `use_count` of a worker in the loop, where `chosen` and `current` are pointed to. -/
def useCount (pool : ThreadPool workers) (chosen current worker : Fin workers) : ℕ :=
  1 + pool.users worker + (if worker = chosen then 1 else 0) + (if worker = current then 1 else 0)

/-- `getLessUsedWorker`. There is no front in an empty pool. -/
def getLessUsedWorker (pool : ThreadPool workers) : Option (Fin workers) :=
  match List.finRange workers with
  | [] => none
  | front :: _ =>
      some ((List.finRange workers).foldl (fun chosen worker =>
        if pool.useCount chosen worker chosen > pool.useCount chosen worker worker then worker else chosen) front)

/-- A worker is asked for and kept, or let go of. -/
inductive Event (workers : ℕ)
  | getLessUsedWorker
  | letGo (worker : Fin workers)

/-- An event, and the worker that is given. -/
def step (pool : ThreadPool workers) : Event workers → ThreadPool workers × Option (Fin workers)
  | .getLessUsedWorker =>
      match pool.getLessUsedWorker with
      | none => (pool, none)
      | some worker => (⟨Function.update pool.users worker (pool.users worker + 1)⟩, some worker)
  | .letGo worker => (⟨Function.update pool.users worker (pool.users worker - 1)⟩, none)

end ThreadPool

end Erizo
