/-
**Sweeps and places.**

* `sweep_spec`: a sweep through items whose keys increase keeps the key of the last item that it accepts, and that is
  the greatest one.
* `place_eq_length`: in a list in order, the place of an item is the number of items that come before it.
-/

import Mathlib.Data.List.Induction
import Mathlib.Data.List.Nodup
import Mathlib.Data.List.Perm.Basic
import Mathlib.Order.Bounds.Basic
import Mathlib.Tactic.Common

namespace Library

namespace Sweep

section Greatest

variable {ε κ : Type*} (key : ε → κ) (accept : ε → Prop)

/-- The keys of the items accepted. -/
def accepted (items : List ε) : Set κ := {found | ∃ item ∈ items, accept item ∧ key item = found}

theorem accepted_concat (items : List ε) (item : ε) :
    accepted key accept (items ++ [item]) = accepted key accept items ∪ {found | accept item ∧ key item = found} := by
  ext found
  simp only [accepted, List.mem_append, List.mem_singleton, Set.mem_ofPred_eq, Set.mem_union]
  constructor
  · rintro ⟨other, here | rfl, rest⟩
    · exact Or.inl ⟨other, here, rest⟩
    · exact Or.inr rest
  · rintro (⟨other, here, rest⟩ | rest)
    · exact ⟨other, Or.inl here, rest⟩
    · exact ⟨item, Or.inr rfl, rest⟩

variable [DecidablePred accept]

/-- The key of an item is kept if the item is accepted. -/
def keep (best : Option κ) (item : ε) : Option κ := if accept item then some (key item) else best

/-- The key of the last item accepted. -/
def sweep (items : List ε) : Option κ := items.foldl (keep key accept) none

theorem sweep_concat (items : List ε) (item : ε) :
    sweep key accept (items ++ [item]) = keep key accept (sweep key accept items) item := List.foldl_append

variable {key accept}

/-- **A sweep through items whose keys increase finds the greatest key accepted.** -/
theorem sweep_spec [Preorder κ] {items : List ε} (increases : items.Pairwise fun first second => key first < key second) :
    (sweep key accept items = none ∧ accepted key accept items = ∅) ∨
      ∃ best, sweep key accept items = some best ∧ IsGreatest (accepted key accept items) best := by
  induction items using List.reverseRecOn with
  | nil =>
      refine Or.inl ⟨rfl, ?_⟩
      simp [accepted]
  | append_singleton items item ih =>
      obtain ⟨ordered, -, last⟩ := List.pairwise_append.mp increases
      rw [sweep_concat, accepted_concat key accept, keep]
      by_cases accepts : accept item
      · rw [if_pos accepts]
        refine Or.inr ⟨key item, rfl, Or.inr ⟨accepts, rfl⟩, ?_⟩
        rintro found (⟨earlier, member, -, rfl⟩ | ⟨-, rfl⟩)
        · exact (last earlier member item (List.mem_singleton_self item)).le
        · exact le_rfl
      · have nothing : {found | accept item ∧ key item = found} = (∅ : Set κ) :=
          Set.eq_empty_of_forall_notMem fun _ here => accepts here.1
        rw [if_neg accepts, nothing, Set.union_empty]
        exact ih ordered

end Greatest

section Places

variable {κ : Type*} {before : κ → κ → Prop}

/-- What stands in front of a place is what comes before it. -/
theorem mem_take_iff (asymmetric : ∀ first second, before first second → ¬before second first) {keys : List κ}
    (ordered : keys.Pairwise before) {place : ℕ} {key : κ} (here : keys[place]? = some key) (other : κ) :
    other ∈ keys.take place ↔ other ∈ keys ∧ before other key := by
  obtain ⟨inside, rfl⟩ := List.getElem?_eq_some_iff.mp here
  have parts : keys.take place ++ keys[place] :: keys.drop (place + 1) = keys := by
    rw [← List.drop_eq_getElem_cons inside, List.take_append_drop]
  obtain ⟨-, tail, across⟩ := List.pairwise_append.mp (parts.symm ▸ ordered)
  constructor
  · exact fun member => ⟨List.mem_of_mem_take member, across other member _ List.mem_cons_self⟩
  · rintro ⟨member, earlier⟩
    rw [← parts, List.mem_append, List.mem_cons] at member
    rcases member with front | rfl | back
    · exact front
    · exact absurd earlier (asymmetric _ _ earlier)
    · exact absurd earlier (asymmetric _ _ ((List.pairwise_cons.mp tail).1 other back))

/-- **A place is the number of items before it.** -/
theorem place_eq_length (asymmetric : ∀ first second, before first second → ¬before second first) {keys : List κ}
    (ordered : keys.Pairwise before) {place : ℕ} {key : κ} (here : keys[place]? = some key) {earlier : List κ}
    (distinct : earlier.Nodup) (same : ∀ other, other ∈ earlier ↔ other ∈ keys ∧ before other key) :
    place = earlier.length := by
  have different : keys.Nodup := ordered.imp fun relation equal => by
    rw [equal] at relation
    exact asymmetric _ _ relation relation
  have listed := (List.perm_ext_iff_of_nodup (different.sublist (List.take_sublist place keys)) distinct).mpr fun other =>
    (mem_take_iff asymmetric ordered here other).trans (same other).symm
  rw [← listed.length_eq, List.length_take]
  exact (Nat.min_eq_left (List.getElem?_eq_some_iff.mp here).1.le).symm

end Places

end Sweep

end Library
