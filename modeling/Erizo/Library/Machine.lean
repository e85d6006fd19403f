/-
**Runs of a deterministic machine.**

A machine is a function `step : σ → ι → σ × ο` from a state and an input to the next state and an
output. `run` is the state after a list of inputs, `outputs` the outputs in call order.

* `run_invariant`: what holds initially and is kept by every step holds after every run.
* `Guarded guard s inputs`: along the run from `s`, every step meets `guard` in the state before
  it. `Guarded.run_invariant` is the same rule for such runs, `Guarded.forall_outputs` that for what they put out.
* `remembering`: the machine with the value it gave out last, for guards that speak of it.
* `Guarded.simulates`: a relation to an abstract machine that the guarded steps keep holds after every
  guarded run of both. `Guarded.outputs_eq`: where the outputs of the steps agree, so do those of the runs.
-/

import Mathlib.Data.List.Basic
import Mathlib.Data.List.ReduceOption
import Mathlib.Tactic.Common

namespace Library

namespace Machine

universe u v w

variable {σ : Type u} {ι : Type v} {ο : Type w} (step : σ → ι → σ × ο)

/-- The state after a list of inputs. -/
def run : σ → List ι → σ
  | state, [] => state
  | state, input :: rest => run (step state input).1 rest

/-- The outputs along a list of inputs. -/
def outputs : σ → List ι → List ο
  | _, [] => []
  | state, input :: rest => (step state input).2 :: outputs (step state input).1 rest

@[simp] theorem run_nil (state : σ) : run step state [] = state := rfl

@[simp] theorem run_cons (state : σ) (input : ι) (rest : List ι) :
    run step state (input :: rest) = run step (step state input).1 rest := rfl

theorem run_append (state : σ) (first second : List ι) :
    run step state (first ++ second) = run step (run step state first) second := by
  induction first generalizing state with
  | nil => rfl
  | cons input rest ih => exact ih (step state input).1

theorem outputs_append (state : σ) (first second : List ι) :
    outputs step state (first ++ second) =
      outputs step state first ++ outputs step (run step state first) second := by
  induction first generalizing state with
  | nil => rfl
  | cons input rest ih => exact congrArg ((step state input).2 :: ·) (ih (step state input).1)

/-- What every output of a step has, the outputs of a run have. -/
theorem forall_outputs {property : ο → Prop} (each : ∀ state input, property (step state input).2) (state : σ)
    (inputs : List ι) : ∀ output ∈ outputs step state inputs, property output := by
  induction inputs generalizing state with
  | nil => exact fun _ member => absurd member List.not_mem_nil
  | cons input rest ih => exact List.forall_mem_cons.mpr ⟨each state input, ih (step state input).1⟩

/-- Where a step's input can be told from its output, so can those of a run. -/
theorem map_outputs {read : ο → ι} (reads : ∀ state input, read (step state input).2 = input) (state : σ)
    (inputs : List ι) : (outputs step state inputs).map read = inputs := by
  induction inputs generalizing state with
  | nil => rfl
  | cons input rest ih => rw [outputs, List.map_cons, reads, ih]

/-- **An invariant of the steps is an invariant of the runs.** -/
theorem run_invariant {invariant : σ → Prop} {allowed : ι → Prop}
    (keeps : ∀ state input, allowed input → invariant state → invariant (step state input).1)
    {state : σ} (holds : invariant state) {inputs : List ι} (each : ∀ input ∈ inputs, allowed input) :
    invariant (run step state inputs) := by
  induction inputs generalizing state with
  | nil => exact holds
  | cons input rest ih =>
      refine ih (keeps state input (each input List.mem_cons_self) holds) fun other member => ?_
      exact each other (List.mem_cons_of_mem _ member)

/-- Along the run from a state, every step meets a guard on the state before it. -/
def Guarded (guard : σ → ι → Prop) : σ → List ι → Prop
  | _, [] => True
  | state, input :: rest => guard state input ∧ Guarded guard (step state input).1 rest

instance Guarded.decidable (guard : σ → ι → Prop) [∀ state input, Decidable (guard state input)] :
    ∀ (state : σ) (inputs : List ι), Decidable (Guarded step guard state inputs)
  | _, [] => isTrue trivial
  | state, input :: rest =>
      have := Guarded.decidable guard (step state input).1 rest
      inferInstanceAs (Decidable (guard state input ∧ Guarded step guard (step state input).1 rest))

variable {step}

theorem guarded_append {guard : σ → ι → Prop} {state : σ} {first second : List ι} :
    Guarded step guard state (first ++ second) ↔
      Guarded step guard state first ∧ Guarded step guard (run step state first) second := by
  induction first generalizing state with
  | nil => simp [Guarded]
  | cons input rest ih => simp only [List.cons_append, Guarded, run_cons, ih, and_assoc]

/-- A guard on the inputs alone is met where the inputs meet it. -/
theorem guarded_of_forall {allowed : ι → Prop} {inputs : List ι} (each : ∀ input ∈ inputs, allowed input) (state : σ) :
    Guarded step (fun _ input => allowed input) state inputs := by
  induction inputs generalizing state with
  | nil => trivial
  | cons input rest ih =>
      obtain ⟨first, others⟩ := List.forall_mem_cons.mp each
      exact ⟨first, ih others _⟩

/-- A guard that an invariant gives is met along every run. -/
theorem guarded_of_invariant {guard : σ → ι → Prop} {invariant : σ → Prop}
    (keeps : ∀ state input, invariant state → invariant (step state input).1)
    (meets : ∀ state input, invariant state → guard state input) {state : σ} (holds : invariant state)
    (inputs : List ι) : Guarded step guard state inputs := by
  induction inputs generalizing state with
  | nil => trivial
  | cons input rest ih => exact ⟨meets state input holds, ih (keeps state input holds)⟩

/-- Where a guard says what a step puts out, it says so of the runs. -/
theorem guarded_iff_outputs_of_invariant {guard : σ → ι → Prop} {property : ο → Prop} {invariant : σ → Prop}
    (keeps : ∀ state input, invariant state → invariant (step state input).1)
    (each : ∀ state input, invariant state → (guard state input ↔ property (step state input).2)) {state : σ}
    (holds : invariant state) (inputs : List ι) :
    Guarded step guard state inputs ↔ ∀ output ∈ outputs step state inputs, property output := by
  induction inputs generalizing state with
  | nil => exact ⟨fun _ _ member => absurd member List.not_mem_nil, fun _ => trivial⟩
  | cons input rest ih =>
      rw [Guarded, outputs, List.forall_mem_cons, each state input holds, ih (keeps state input holds)]

/-- The same, where the invariant may speak of the inputs that are still to come. -/
theorem guarded_iff_outputs_of_remaining {guard : σ → ι → Prop} {property : ο → Prop} {invariant : σ → List ι → Prop}
    (keeps : ∀ state input rest, invariant state (input :: rest) → invariant (step state input).1 rest)
    (each : ∀ state input rest, invariant state (input :: rest) → (guard state input ↔ property (step state input).2))
    {state : σ} {inputs : List ι} (holds : invariant state inputs) :
    Guarded step guard state inputs ↔ ∀ output ∈ outputs step state inputs, property output := by
  induction inputs generalizing state with
  | nil => exact ⟨fun _ _ member => absurd member List.not_mem_nil, fun _ => trivial⟩
  | cons input rest ih =>
      rw [Guarded, outputs, List.forall_mem_cons, each state input rest holds, ih (keeps state input rest holds)]

theorem guarded_iff_outputs {guard : σ → ι → Prop} {property : ο → Prop}
    (each : ∀ state input, guard state input ↔ property (step state input).2) (state : σ) (inputs : List ι) :
    Guarded step guard state inputs ↔ ∀ output ∈ outputs step state inputs, property output :=
  @guarded_iff_outputs_of_invariant _ _ _ _ _ _ (fun _ => True) (fun _ _ _ => trivial)
    (fun state input _ => each state input) _ trivial inputs

/-- Two guards that an invariant makes the same guard the same runs. -/
theorem guarded_congr {guard other : σ → ι → Prop} {invariant : σ → Prop} {allowed : ι → Prop}
    (keeps : ∀ state input, allowed input → invariant state → invariant (step state input).1)
    (same : ∀ state input, allowed input → invariant state → (guard state input ↔ other state input)) {state : σ}
    (holds : invariant state) {inputs : List ι} (each : ∀ input ∈ inputs, allowed input) :
    Guarded step guard state inputs ↔ Guarded step other state inputs := by
  induction inputs generalizing state with
  | nil => exact Iff.rfl
  | cons input rest ih =>
      obtain ⟨first, others⟩ := List.forall_mem_cons.mp each
      rw [Guarded, Guarded, same state input first holds, ih (keeps state input first holds) others]

/-- Two guards that are met are met together. -/
theorem Guarded.and {guard other : σ → ι → Prop} {state : σ} {inputs : List ι} (first : Guarded step guard state inputs)
    (second : Guarded step other state inputs) :
    Guarded step (fun state input => guard state input ∧ other state input) state inputs := by
  induction inputs generalizing state with
  | nil => trivial
  | cons input rest ih => exact ⟨⟨first.1, second.1⟩, ih first.2 second.2⟩

/-- A weaker guard guards as well. -/
theorem Guarded.imp {guard weaker : σ → ι → Prop} (weakens : ∀ state input, guard state input → weaker state input)
    {state : σ} {inputs : List ι} (guarded : Guarded step guard state inputs) : Guarded step weaker state inputs := by
  induction inputs generalizing state with
  | nil => trivial
  | cons input rest ih => exact ⟨weakens state input guarded.1, ih guarded.2⟩

/-- The invariant rule for guarded runs. -/
theorem Guarded.run_invariant {guard : σ → ι → Prop} {invariant : σ → Prop}
    (keeps : ∀ state input, guard state input → invariant state → invariant (step state input).1)
    {state : σ} {inputs : List ι} (guarded : Guarded step guard state inputs)
    (holds : invariant state) : invariant (run step state inputs) := by
  induction inputs generalizing state with
  | nil => exact holds
  | cons input rest ih => exact ih guarded.2 (keeps state input guarded.1 holds)

/-- Along a guarded run, what the invariant makes every output have, every output has. -/
theorem Guarded.forall_outputs {guard : σ → ι → Prop} {invariant : σ → Prop} {property : ο → Prop}
    (keeps : ∀ state input, guard state input → invariant state → invariant (step state input).1)
    (each : ∀ state input, guard state input → invariant state → property (step state input).2)
    {state : σ} {inputs : List ι} (guarded : Guarded step guard state inputs) (holds : invariant state) :
    ∀ output ∈ outputs step state inputs, property output := by
  induction inputs generalizing state with
  | nil => exact fun _ member => absurd member List.not_mem_nil
  | cons input rest ih =>
      have first := each state input guarded.1 holds
      exact List.forall_mem_cons.mpr ⟨first, ih guarded.2 (keeps state input guarded.1 holds)⟩

/-- Along a guarded run, where the invariant makes every output tell by its input, those of the run do. -/
theorem Guarded.outputs_eq_map {guard : σ → ι → Prop} {invariant : σ → Prop} {gives : ι → ο}
    (keeps : ∀ state input, guard state input → invariant state → invariant (step state input).1)
    (each : ∀ state input, guard state input → invariant state → (step state input).2 = gives input)
    {state : σ} {inputs : List ι} (guarded : Guarded step guard state inputs) (holds : invariant state) :
    outputs step state inputs = inputs.map gives := by
  induction inputs generalizing state with
  | nil => rfl
  | cons input rest ih =>
      rw [outputs, List.map_cons, each state input guarded.1 holds,
        ih guarded.2 (keeps state input guarded.1 holds)]

/-- **What a machine gives out follows what it gave out last.** The state remembers the last value, and a step
that gives out another one relates it to that. -/
theorem Guarded.isChain_outputs {α : Type*} {guard : σ → ι → Prop} {invariant : σ → Prop} {last : σ → Option α}
    {gives : ο → Option α} {relation : α → α → Prop}
    (keeps : ∀ state input, guard state input → invariant state → invariant (step state input).1)
    (each : ∀ state input, guard state input → invariant state →
      gives (step state input).2 = none ∧ last (step state input).1 = last state ∨
        ∃ value, gives (step state input).2 = some value ∧ last (step state input).1 = some value ∧
          ∀ previous ∈ last state, relation previous value)
    {state : σ} {inputs : List ι} (guarded : Guarded step guard state inputs) (holds : invariant state) :
    ((last state).toList ++ ((outputs step state inputs).map gives).reduceOption).IsChain relation := by
  induction inputs generalizing state with
  | nil =>
      rw [outputs, List.map_nil, List.reduceOption_nil, List.append_nil]
      cases last state with
      | none => exact List.IsChain.nil
      | some value => exact List.IsChain.singleton value
  | cons input rest ih =>
      have onward := ih guarded.2 (keeps state input guarded.1 holds)
      rw [outputs, List.map_cons]
      rcases each state input guarded.1 holds with ⟨silent, same⟩ | ⟨value, given, remembered, follows⟩
      · rw [silent, List.reduceOption_cons_of_none, ← same]
        exact onward
      · rw [given, List.reduceOption_cons_of_some]
        rw [remembered] at onward
        cases previous : last state with
        | none => exact onward
        | some before => exact List.IsChain.cons_cons (follows before previous) onward

/-! ### What was given out last -/

section Remembering

variable {α : Type*}

/-- A machine together with the value it gave out last. -/
def remembering (step : σ → ι → σ × ο) (gives : ο → Option α) (state : σ × Option α) (input : ι) :
    (σ × Option α) × ο :=
  (((step state.1 input).1, (gives (step state.1 input).2).or state.2), (step state.1 input).2)

theorem outputs_remembering (gives : ο → Option α) (state : σ) (last : Option α) (inputs : List ι) :
    outputs (remembering step gives) (state, last) inputs = outputs step state inputs := by
  induction inputs generalizing state last with
  | nil => rfl
  | cons input rest ih => exact congrArg ((step state input).2 :: ·) (ih (step state input).1 _)

/-- **What a machine gives out follows what it gave out last**, where the guard and the invariant may speak of
that. -/
theorem Guarded.isChain_gives {gives : ο → Option α} {relation : α → α → Prop} {guard : σ × Option α → ι → Prop}
    {invariant : σ × Option α → Prop}
    (keeps : ∀ state input, guard state input → invariant state → invariant (remembering step gives state input).1)
    (follows : ∀ state input, guard state input → invariant state →
      ∀ value ∈ gives (step state.1 input).2, ∀ previous ∈ state.2, relation previous value)
    {state : σ} {inputs : List ι} (guarded : Guarded (remembering step gives) guard (state, none) inputs)
    (holds : invariant (state, none)) : ((outputs step state inputs).map gives).reduceOption.IsChain relation := by
  have chain := @Guarded.isChain_outputs _ _ _ _ _ guard invariant Prod.snd gives relation keeps
    (fun state input guarded holds => ?_) (state, none) inputs guarded holds
  · rwa [Option.toList_none, List.nil_append, outputs_remembering] at chain
  · unfold remembering
    cases given : gives (step state.1 input).2 with
    | none => exact Or.inl ⟨rfl, Option.none_or⟩
    | some value => exact Or.inr ⟨value, rfl, rfl, follows state input guarded holds value given⟩

end Remembering

/-- **A relation the steps of two machines keep is kept by their runs.** The guard is on the states of
the abstract machine, whose inputs may say more than those of the concrete one. -/
theorem Guarded.simulates {τ : Type*} {κ : Type*} {π : Type*} {abstractStep : τ → κ → τ × π} {guard : τ → κ → Prop}
    {input : κ → ι} {related : σ → τ → Prop}
    (keeps : ∀ state abstract next, guard abstract next → related state abstract →
      related (step state (input next)).1 (abstractStep abstract next).1)
    {state : σ} {abstract : τ} {inputs : List κ} (guarded : Guarded abstractStep guard abstract inputs)
    (start : related state abstract) :
    related (run step state (inputs.map input)) (run abstractStep abstract inputs) := by
  induction inputs generalizing state abstract with
  | nil => exact start
  | cons next rest ih => exact ih guarded.2 (keeps state abstract next guarded.1 start)

/-- **What a machine gives out along a guarded run, an abstract one gives out as well**, where the steps of the two
agree and keep a relation of their states. -/
theorem Guarded.outputs_eq {τ : Type*} {κ : Type*} {π : Type*} {abstractStep : τ → κ → τ × π} {guard : σ → ι → Prop}
    {input : ι → κ} {output : ο → π} {related : σ → τ → Prop}
    (agrees : ∀ state abstract next, guard state next → related state abstract →
      related (step state next).1 (abstractStep abstract (input next)).1 ∧
        output (step state next).2 = (abstractStep abstract (input next)).2)
    {state : σ} {abstract : τ} {inputs : List ι} (guarded : Guarded step guard state inputs)
    (start : related state abstract) :
    (outputs step state inputs).map output = outputs abstractStep abstract (inputs.map input) := by
  induction inputs generalizing state abstract with
  | nil => rfl
  | cons next rest ih =>
      obtain ⟨onward, same⟩ := agrees state abstract next guarded.1 start
      rw [outputs, List.map_cons, List.map_cons, outputs, same, ih guarded.2 onward]

end Machine

end Library
