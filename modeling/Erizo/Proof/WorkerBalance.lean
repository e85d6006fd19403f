/-
**The workers share the work.**

The pointers of the loop count for both workers that are compared, so that it compares the users of the two, and ends at
the first worker that has the fewest (`getLessUsedWorker_spec`).

* `users_le_share`: in every run no worker has more users than its share of the most there were at once, rounded up, and
  the loop ends at one with the fewest.
* `users_level`: as long as no worker is let go of, no two workers differ by more than one user.
-/

import Erizo.Library.LeastLoaded
import Erizo.Library.Machine
import Erizo.Model.ThreadPool

namespace Erizo

open Library Library.LeastLoaded

namespace ThreadPool

variable {workers : ℕ}

/-! ### The choice -/

/-- The loop compares users. -/
theorem useCount_lt_iff (pool : ThreadPool workers) (chosen worker : Fin workers) :
    pool.useCount chosen worker chosen > pool.useCount chosen worker worker ↔
      pool.users worker < pool.users chosen := by
  unfold useCount
  by_cases same : worker = chosen
  · subst same
    simp only [if_true]
    omega
  · simp only [if_true, if_neg same, if_neg (Ne.symm same)]
    omega

/-- The loop over some workers ends at one of them, or at the worker it started with, with no more users than any. -/
theorem foldl_least (pool : ThreadPool workers) (rest : List (Fin workers)) (front : Fin workers) :
    let chosen := rest.foldl (fun chosen worker =>
      if pool.useCount chosen worker chosen > pool.useCount chosen worker worker then worker else chosen) front
    pool.users chosen ≤ pool.users front ∧ ∀ worker ∈ rest, pool.users chosen ≤ pool.users worker := by
  induction rest generalizing front with
  | nil => exact ⟨le_rfl, fun _ absent => absurd absent List.not_mem_nil⟩
  | cons worker rest ih =>
      rw [List.foldl_cons]
      by_cases fewer : pool.useCount front worker front > pool.useCount front worker worker
      · rw [if_pos fewer]
        have below := (useCount_lt_iff pool front worker).mp fewer
        obtain ⟨least, others⟩ := ih worker
        exact ⟨le_trans least (Nat.le_of_lt below), List.forall_mem_cons.mpr ⟨least, others⟩⟩
      · rw [if_neg fewer]
        have above := Nat.not_lt.mp (fun below => fewer ((useCount_lt_iff pool front worker).mpr below))
        obtain ⟨least, others⟩ := ih front
        exact ⟨least, List.forall_mem_cons.mpr ⟨le_trans least above, others⟩⟩

/-- **The worker that is given has the fewest users.** -/
theorem getLessUsedWorker_least (pool : ThreadPool workers) {worker : Fin workers}
    (given : pool.getLessUsedWorker = some worker) : Least pool.users worker := by
  unfold getLessUsedWorker at given
  split at given
  · exact (nomatch given)
  · obtain rfl := Option.some.inj given
    exact fun other => (foldl_least pool _ _).2 other (List.mem_finRange other)

/-! ### Runs -/

/-- The most users that there were at once. -/
def peak : ThreadPool workers → List (Event workers) → ℕ
  | pool, [] => total pool.users
  | pool, event :: rest => max (total pool.users) (peak (step pool event).1 rest)

theorem total_le_peak (pool : ThreadPool workers) (events : List (Event workers)) :
    total pool.users ≤ peak pool events := by
  cases events with
  | nil => exact le_rfl
  | cons event rest => exact Nat.le_max_left _ _

/-- A step puts a user on a worker with the fewest, takes one away, or changes nothing. -/
theorem step_cases (pool : ThreadPool workers) (event : Event workers) :
    (∃ worker, event = .getLessUsedWorker ∧ Least pool.users worker ∧ (step pool event).1.users = put pool.users worker) ∨
      (∃ worker, event = .letGo worker ∧ (step pool event).1.users = take pool.users worker) ∨
      (step pool event).1 = pool := by
  cases event with
  | getLessUsedWorker =>
      unfold step
      cases given : pool.getLessUsedWorker with
      | none => exact Or.inr (Or.inr rfl)
      | some worker => exact Or.inl ⟨worker, rfl, getLessUsedWorker_least pool given, rfl⟩
  | letGo worker => exact Or.inr (Or.inl ⟨worker, rfl, rfl⟩)

theorem reached_run (events : List (Event workers)) (pool : ThreadPool workers) {most : ℕ}
    (reached : Reached most pool.users) :
    Reached (max most (peak pool events)) (Machine.run step pool events).users := by
  induction events generalizing pool most with
  | nil =>
      show Reached (max most (total pool.users)) pool.users
      rwa [Nat.max_eq_left reached.balanced.total_le]
  | cons event rest ih =>
      have before := reached.balanced.total_le
      show Reached (max most (max (total pool.users) (peak (step pool event).1 rest)))
        (Machine.run step (step pool event).1 rest).users
      have after := total_le_peak (step pool event).1 rest
      rcases step_cases pool event with ⟨worker, -, least, put⟩ | ⟨worker, -, taken⟩ | same
      · have more := @ih (step pool event).1 (max most (total pool.users + 1)) (put ▸ reached.put least)
        rw [put, total_put] at after
        have peaks : max most (max (total pool.users) (peak (step pool event).1 rest)) =
            max (max most (total pool.users + 1)) (peak (step pool event).1 rest) := by omega
        rwa [peaks]
      · rw [← Nat.max_assoc, Nat.max_eq_left before]
        exact @ih (step pool event).1 most (taken ▸ reached.take)
      · rw [← Nat.max_assoc, Nat.max_eq_left before]
        exact ih (step pool event).1 (same.symm ▸ reached)

/-- **No worker ever has more users than its share**, and the one that is given next has the fewest. -/
theorem users_le_share (events : List (Event workers)) :
    let pool := Machine.run step (create workers) events
    (∀ worker, pool.users worker ≤ (peak (create workers) events + workers - 1) / workers) ∧
      ∀ worker ∈ pool.getLessUsedWorker, ∀ other, pool.users worker ≤ pool.users other := by
  refine ⟨fun worker => ?_, fun worker given => getLessUsedWorker_least _ given⟩
  have share := (reached_run events (create workers) Reached.start).load_le worker
  rwa [Nat.zero_max, Fintype.card_fin] at share

/-- **Without letting go, the workers stay even.** -/
theorem users_level {events : List (Event workers)} (kept : ∀ event ∈ events, event = .getLessUsedWorker) :
    Level (Machine.run step (create workers) events).users := by
  refine @Machine.run_invariant _ _ _ step (fun pool => Level pool.users) _ ?_ _ (fun _ _ => Nat.zero_le 1) _ kept
  rintro pool event rfl level
  rcases step_cases pool .getLessUsedWorker with ⟨worker, -, least, put⟩ | ⟨worker, given, -⟩ | same
  · exact put ▸ level.put least
  · exact (nomatch given)
  · rw [same]
    exact level

end ThreadPool

end Erizo
