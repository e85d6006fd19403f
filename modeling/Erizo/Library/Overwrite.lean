/-
**Inputs that are read again.**

A state is overwritten piece by piece. `foldl_getD`: what a piece is set to last stands there.
`foldl_replay`: where a step undoes what the same step did before other steps, going through the inputs
again changes nothing. `foldl_gather`: what is only added to is what was added.
-/

import Mathlib.Tactic

namespace Library

namespace Overwrite

universe u v

variable {σ : Type u} {ι : Type v}

/-- The last value that is written. -/
def lastOf (write : ι → Option σ) (inputs : List ι) : Option σ := (inputs.filterMap write).getLast?

theorem lastOf_append (write : ι → Option σ) (first second : List ι) :
    lastOf write (first ++ second) = (lastOf write second).or (lastOf write first) := by
  rw [lastOf, List.filterMap_append, List.getLast?_append]
  rfl

theorem lastOf_cons (write : ι → Option σ) (input : ι) (inputs : List ι) :
    lastOf write (input :: inputs) = (lastOf write inputs).or (write input) := by
  rw [← List.singleton_append, lastOf_append]
  refine congrArg (Option.or _) ?_
  rw [lastOf]
  cases written : write input with
  | none => rw [List.filterMap_cons_none written, List.filterMap_nil, List.getLast?_nil]
  | some value => rw [List.filterMap_cons_some written, List.filterMap_nil, List.getLast?_singleton]

theorem lastOf_singleton (write : ι → Option σ) (input : ι) : lastOf write [input] = write input :=
  lastOf_cons write input []

/-- What is written last stands. -/
theorem foldl_getD (write : ι → Option σ) (inputs : List ι) (value : σ) :
    inputs.foldl (fun value input => (write input).getD value) value = (lastOf write inputs).getD value := by
  induction inputs generalizing value with
  | nil => rfl
  | cons input inputs ih =>
      rw [List.foldl_cons, ih, lastOf_cons]
      cases lastOf write inputs <;> rfl

/-- What is only added to is what was added. -/
theorem foldl_gather (added : ι → List σ) (inputs : List ι) (list : List σ) :
    inputs.foldl (fun list input => list ++ added input) list = list ++ inputs.flatMap added := by
  induction inputs generalizing list with
  | nil => rw [List.foldl_nil, List.flatMap_nil, List.append_nil]
  | cons input inputs ih => rw [List.foldl_cons, ih, List.flatMap_cons, List.append_assoc]

section Replay

variable {step : σ → ι → σ}

/-- A step after others, without what the same step did before them. -/
theorem step_foldl
    (overwrites : ∀ state input other, step (step (step state input) other) input = step (step state other) input)
    (idempotent : ∀ state input, step (step state input) input = step state input) (inputs : List ι)
    (state : σ) (input : ι) :
    step (inputs.foldl step (step state input)) input = step (inputs.foldl step state) input := by
  induction inputs using List.reverseRecOn with
  | nil => exact idempotent state input
  | append_singleton inputs other ih =>
      rw [List.foldl_concat, List.foldl_concat, ← overwrites, ih, overwrites]

/-- **Going through the inputs again changes nothing.** -/
theorem foldl_replay
    (overwrites : ∀ state input other, step (step (step state input) other) input = step (step state other) input)
    (idempotent : ∀ state input, step (step state input) input = step state input) (inputs : List ι) (state : σ) :
    inputs.foldl step (inputs.foldl step state) = inputs.foldl step state := by
  induction inputs using List.reverseRecOn generalizing state with
  | nil => rfl
  | append_singleton inputs input ih =>
      rw [List.foldl_concat, List.foldl_concat, step_foldl overwrites idempotent, ih]

end Replay

end Overwrite

end Library
