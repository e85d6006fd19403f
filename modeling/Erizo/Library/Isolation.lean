/-
**What part of a state depends on.**

A view of a machine's state that the irrelevant inputs leave alone, and that with a relevant input determines what it
becomes and what the step gives out, is determined in a run by the relevant inputs: the others might as well not have
come (`Unwinding.run_filter`).
-/

import Erizo.Library.Machine

namespace Library

namespace Machine

variable {σ ι ο τ : Type*}

/-- The outputs of the relevant inputs of a run. -/
def relevantOutputs (step : σ → ι → σ × ο) (relevant : ι → Bool) : σ → List ι → List ο
  | _, [] => []
  | state, input :: rest =>
      if relevant input then (step state input).2 :: relevantOutputs step relevant (step state input).1 rest
      else relevantOutputs step relevant (step state input).1 rest

/-- What has to be shown of the steps. -/
structure Unwinding (step : σ → ι → σ × ο) (view : σ → τ) (relevant : ι → Bool) : Prop where
  consistent : ∀ {state other : σ} {input : ι}, relevant input = true → view state = view other →
    view (step state input).1 = view (step other input).1 ∧ (step state input).2 = (step other input).2
  respects : ∀ {state : σ} {input : ι}, relevant input = false → view (step state input).1 = view state

variable {step : σ → ι → σ × ο} {view : σ → τ} {relevant : ι → Bool}

/-- **Only the relevant inputs count.** -/
theorem Unwinding.run_filter (unwinding : Unwinding step view relevant) {state other : σ}
    (same : view state = view other) (inputs : List ι) :
    view (run step state inputs) = view (run step other (inputs.filter relevant)) ∧
      relevantOutputs step relevant state inputs = outputs step other (inputs.filter relevant) := by
  induction inputs generalizing state other with
  | nil => exact ⟨same, rfl⟩
  | cons input rest ih =>
      cases counts : relevant input with
      | true =>
          obtain ⟨after, output⟩ := unwinding.consistent counts same
          obtain ⟨onward, outputs⟩ := ih after
          rw [List.filter_cons_of_pos counts, relevantOutputs, if_pos counts, output, outputs]
          exact ⟨onward, rfl⟩
      | false =>
          have left := (@unwinding.respects state input counts).trans same
          have idle : ¬relevant input = true := Bool.eq_false_iff.mp counts
          rw [List.filter_cons_of_neg idle, relevantOutputs, if_neg idle]
          exact ih left

end Machine

end Library
