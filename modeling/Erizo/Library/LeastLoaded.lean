/-
**Loads that are put where they are least.**

A load is put on one of finitely many places where there are fewest, or taken from any place. What can be come to in this
way is `Reached`, with the most that there were at once.

* `Reached.load_le`: no place ever has more than its share of that, rounded up.
* `Level.put`: while nothing is taken away, no two places differ by more than one.
-/

import Mathlib.Algebra.BigOperators.Group.Finset.Piecewise
import Mathlib.Algebra.Order.BigOperators.Group.Finset
import Mathlib.Tactic

namespace Library

namespace LeastLoaded

variable {ι : Type*} {loads : ι → ℕ} {place : ι} {peak : ℕ}

/-- There are fewest on a place. -/
def Least (loads : ι → ℕ) (place : ι) : Prop := ∀ other, loads place ≤ loads other

/-- No two places differ by more than one. -/
def Level (loads : ι → ℕ) : Prop := ∀ first second, loads first ≤ loads second + 1

section Places

variable [DecidableEq ι]

/-- One more on a place. -/
def put (loads : ι → ℕ) (place : ι) : ι → ℕ := Function.update loads place (loads place + 1)

/-- One less on a place. -/
def take (loads : ι → ℕ) (place : ι) : ι → ℕ := Function.update loads place (loads place - 1)

theorem take_le (loads : ι → ℕ) (place other : ι) : take loads place other ≤ loads other := by
  unfold take
  by_cases same : other = place
  · subst same
    rw [Function.update_self]
    exact Nat.sub_le _ _
  · rw [Function.update_of_ne same]

/-- **While nothing is taken away, the places stay even.** -/
theorem Level.put (level : Level loads) (least : Least loads place) : Level (put loads place) := by
  intro first second
  unfold LeastLoaded.put
  have base := level first second
  have low := least second
  by_cases here : first = place
  · subst here
    by_cases there : second = first
    · subst there
      omega
    · rw [Function.update_self, Function.update_of_ne there]
      omega
  · by_cases there : second = place
    · subst there
      rw [Function.update_of_ne here, Function.update_self]
      omega
    · rw [Function.update_of_ne here, Function.update_of_ne there]
      exact base

end Places

/-! ### Shares -/

section Shares

variable [Fintype ι]

/-- The loads on all places. -/
def total (loads : ι → ℕ) : ℕ := ∑ place, loads place

/-- All places have at least as many as the one with fewest. -/
theorem Least.card_mul_le (least : Least loads place) : Fintype.card ι * loads place ≤ total loads := by
  have bound := Finset.card_nsmul_le_sum Finset.univ loads (loads place) fun other _ => least other
  rwa [Finset.card_univ, smul_eq_mul] at bound

variable [DecidableEq ι]

theorem total_put (loads : ι → ℕ) (place : ι) : total (put loads place) = total loads + 1 := by
  unfold total put
  rw [Finset.sum_update_of_mem (Finset.mem_univ place), ← Finset.add_sum_erase _ _ (Finset.mem_univ place),
    Finset.sdiff_singleton_eq_erase]
  omega

theorem total_take_le (loads : ι → ℕ) (place : ι) : total (take loads place) ≤ total loads :=
  Finset.sum_le_sum fun other _ => take_le loads place other

/-- What can be come to, with the most there were at once. -/
inductive Reached : ℕ → (ι → ℕ) → Prop
  | start : Reached 0 fun _ => 0
  | put {most : ℕ} {before : ι → ℕ} {chosen : ι} : Reached most before → Least before chosen →
      Reached (max most (total before + 1)) (put before chosen)
  | take {most : ℕ} {before : ι → ℕ} {chosen : ι} : Reached most before → Reached most (take before chosen)

/-- When a load was put on a place, all had as many as it had before. -/
structure Balanced (peak : ℕ) (loads : ι → ℕ) : Prop where
  total_le : total loads ≤ peak
  share : ∀ place, loads place = 0 ∨ Fintype.card ι * (loads place - 1) < peak

theorem Balanced.put (balanced : Balanced peak loads) (least : Least loads place) :
    Balanced (max peak (total loads + 1)) (put loads place) where
  total_le := by
    rw [total_put]
    exact Nat.le_max_right _ _
  share := by
    intro other
    unfold LeastLoaded.put
    by_cases same : other = place
    · subst same
      have all := least.card_mul_le
      rw [Function.update_self, Nat.add_sub_cancel]
      exact Or.inr (lt_of_lt_of_le (Nat.lt_succ_of_le all) (Nat.le_max_right _ _))
    · rw [Function.update_of_ne same]
      exact (balanced.share other).imp_right fun below => lt_of_lt_of_le below (Nat.le_max_left _ _)

theorem Balanced.take (balanced : Balanced peak loads) (place : ι) : Balanced peak (take loads place) where
  total_le := le_trans (total_take_le loads place) balanced.total_le
  share := by
    intro other
    have fewer := take_le loads place other
    rcases balanced.share other with none | below
    · exact Or.inl (Nat.le_zero.mp (none ▸ fewer))
    · refine Or.inr (lt_of_le_of_lt (Nat.mul_le_mul_left _ ?_) below)
      omega

theorem Reached.balanced (reached : Reached peak loads) : Balanced peak loads := by
  induction reached with
  | start => exact ⟨le_of_eq Finset.sum_const_zero, fun _ => Or.inl rfl⟩
  | put _ least ih => exact ih.put least
  | take _ ih => exact ih.take _

/-- **No place ever has more than its share, rounded up.** -/
theorem Reached.load_le (reached : Reached peak loads) (place : ι) :
    loads place ≤ (peak + Fintype.card ι - 1) / Fintype.card ι := by
  have places : 0 < Fintype.card ι := Fintype.card_pos_iff.mpr ⟨place⟩
  rw [Nat.le_div_iff_mul_le places]
  rcases Nat.eq_zero_or_pos (loads place) with none | some
  · rw [none]
    omega
  · have below := (reached.balanced.share place).resolve_left (Nat.ne_of_gt some)
    obtain ⟨fewer, more⟩ : ∃ fewer, loads place = fewer + 1 := ⟨loads place - 1, by omega⟩
    rw [more, Nat.add_sub_cancel] at below
    rw [more, Nat.mul_comm, Nat.mul_succ]
    omega

end Shares

end LeastLoaded

end Library
