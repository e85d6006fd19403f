/-
**A ring of the last values.**

A ring of `n` slots follows a sequence `value 0, value 1, …`: the slot `index % n` has the value of each of the last
`n` indices up to the current one (`Holds`). The ring goes on with the sequence when the next slot is overwritten
(`Holds.advance`), and may be cleared when all of them are gone (`holds_replicate`).

A walk around the ring comes to each of its slots once (`count_walk`). What a list of slots adds up to is counted by
the items that are in them (`sum_visits`).
-/

import Mathlib.Algebra.BigOperators.Group.List.Basic
import Mathlib.Algebra.Order.Ring.Rat
import Mathlib.Data.List.Basic
import Mathlib.Data.List.Nodup
import Mathlib.Tactic

namespace Library

namespace Sliding

variable {α : Type*} {slots : List α} {value : ℕ → α} {current : ℕ}

/-- The slots have the last values up to the current index. -/
def Holds (slots : List α) (value : ℕ → α) (current : ℕ) : Prop :=
  ∀ index ≤ current, current < index + slots.length → slots[index % slots.length]? = some (value index)

/-- Two indices at hand do not share a slot. -/
theorem mod_ne_of_near {index size : ℕ} (before : index < current) (near : current < index + size) :
    index % size ≠ current % size := by
  intro same
  have apart : (current - index) % size = 0 := Nat.sub_mod_eq_zero_of_mod_eq same.symm
  rw [Nat.mod_eq_of_lt (by omega)] at apart
  omega

/-- The next value takes the slot of the oldest one. -/
theorem Holds.advance (holds : Holds slots value current) {next : α} (same : value (current + 1) = next)
    (positive : 0 < slots.length) : Holds (slots.set ((current + 1) % slots.length) next) value (current + 1) := by
  intro index reached near
  rw [List.length_set] at near ⊢
  rcases Nat.lt_or_eq_of_le reached with before | rfl
  · rw [List.getElem?_set_ne (mod_ne_of_near before near).symm]
    exact holds index (Nat.le_of_lt_succ before) (by omega)
  · rw [List.getElem?_set_self (Nat.mod_lt _ positive), same]

/-- What a ring holds depends on the values so far. -/
theorem Holds.congr (holds : Holds slots value current) {other : ℕ → α}
    (same : ∀ index ≤ current, other index = value index) : Holds slots other current := by
  intro index reached near
  rw [same index reached]
  exact holds index reached near

/-- The first value. -/
theorem holds_first (positive : 0 < slots.length) : Holds (slots.set 0 (value 0)) value 0 := by
  intro index reached _
  rw [Nat.le_zero.mp reached, Nat.zero_mod, List.getElem?_set_self positive]

/-- The current value changes. -/
theorem Holds.modify (holds : Holds slots value current) (change : α → α) {other : ℕ → α}
    (here : other current = change (value current)) (before : ∀ index < current, other index = value index) :
    Holds (slots.modify (current % slots.length) change) other current := by
  intro index reached near
  rw [List.length_modify] at near ⊢
  rw [List.getElem?_modify, holds index reached near, Option.map_eq_map, Option.map_some]
  rcases Nat.lt_or_eq_of_le reached with less | rfl
  · rw [if_neg (mod_ne_of_near less near).symm, before index less]
  · rw [if_pos rfl, here]

/-- A ring that is cleared. -/
theorem holds_replicate {size : ℕ} {blank : α}
    (gone : ∀ index ≤ current, current < index + size → value index = blank) :
    Holds (List.replicate size blank) value current := by
  intro index reached near
  rw [List.length_replicate] at near ⊢
  rw [List.getElem?_replicate_of_lt (Nat.mod_lt _ (by omega)), gone index reached near]

/-! ### Walks -/

/-- Two of the last indices that share a slot are the same. -/
theorem eq_of_mod_eq {first second size : ℕ} (before : first ≤ current) (early : second ≤ current)
    (near : current < first + size) (close : current < second + size) (same : first % size = second % size) :
    first = second := by
  rcases Nat.lt_trichotomy first second with less | equal | more
  · exact absurd same (mod_ne_of_near less (by omega))
  · exact equal
  · exact absurd same.symm (mod_ne_of_near more (by omega))

/-- A slot that has been in use has one of the last indices. -/
theorem exists_index {slot size : ℕ} (inside : slot < size) (used : slot ≤ current) :
    ∃ index ≤ current, current < index + size ∧ index % size = slot := by
  have parts := Nat.div_add_mod (current - slot) size
  have rest := Nat.mod_lt (current - slot) (Nat.zero_lt_of_lt inside)
  refine ⟨slot + size * ((current - slot) / size), by omega, by omega, ?_⟩
  rw [Nat.add_mul_mod_self_left, Nat.mod_eq_of_lt inside]

/-- A walk around the ring: so many slots from one on. -/
def walk (size start length : ℕ) : List ℕ := (List.range length).map fun steps => (start + steps) % size

theorem walk_succ (size start length : ℕ) :
    walk size start (length + 1) = start % size :: walk size (start + 1) length := by
  rw [walk, List.range_succ_eq_map, List.map_cons, List.map_map]
  refine congrArg (_ :: ·) (List.map_congr_left fun steps _ => ?_)
  show (start + (steps + 1)) % size = (start + 1 + steps) % size
  rw [Nat.add_assoc, Nat.add_comm 1]

theorem mem_walk {size start length slot : ℕ} :
    slot ∈ walk size start length ↔ ∃ steps < length, (start + steps) % size = slot := by
  simp only [walk, List.mem_map, List.mem_range]

/-- **A walk that is no longer than the ring** comes to a slot once or not at all. -/
theorem count_walk {size start length : ℕ} (short : length ≤ size) (slot : ℕ) :
    (walk size start length).count slot = if ∃ steps < length, (start + steps) % size = slot then 1 else 0 := by
  have apart : (walk size start length).Nodup := by
    refine List.Nodup.map_on (fun first less second fewer same => ?_) List.nodup_range
    rw [List.mem_range] at less fewer
    have := @eq_of_mod_eq (start + length - 1) (start + first) (start + second) size (by omega) (by omega) (by omega)
      (by omega) same
    omega
  rw [apart.count]
  exact if_congr mem_walk rfl rfl

/-- **What the slots of a list add up to**, when a slot has the sum of its items: each item counts as often as its
slot is in the list. -/
theorem sum_visits {β : Type*} (slots : List ℕ) (items : List β) (place : β → ℕ) (weight : β → ℚ) :
    (slots.map fun slot => (items.map fun item => if place item = slot then weight item else 0).sum).sum =
      (items.map fun item => slots.count (place item) * weight item).sum := by
  induction slots with
  | nil => simp
  | cons slot rest ih =>
      rw [List.map_cons, List.sum_cons, ih, ← List.sum_map_add]
      refine congrArg List.sum (List.map_congr_left fun item _ => ?_)
      rw [List.count_cons]
      by_cases here : place item = slot
      · rw [if_pos here, here, beq_self_eq_true, if_pos rfl]
        push_cast
        ring
      · rw [if_neg here, if_neg (by rw [beq_iff_eq]; exact fun same => here same.symm), zero_add, add_zero]

end Sliding

end Library
