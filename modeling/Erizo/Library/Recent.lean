/-
**The last entries of a history.**

`recent capacity history` is what a list of bounded length has of a history when the oldest entry makes room for a new
one (`recent_snoc`). A fold that overwrites a value at every entry that is asked for ends with the last one
(`foldl_overwrite`).
-/

import Mathlib.Data.List.Basic
import Mathlib.Data.List.Induction
import Mathlib.Tactic.Common

namespace Library

variable {α β : Type*}

/-- The last entries, at most `capacity` of them. -/
def recent (capacity : ℕ) (history : List α) : List α := history.drop (history.length - capacity)

@[simp] theorem recent_nil (capacity : ℕ) : recent capacity ([] : List α) = [] := List.drop_nil

theorem length_recent (capacity : ℕ) (history : List α) :
    (recent capacity history).length = min capacity history.length := by
  rw [recent, List.length_drop]
  omega

/-- A history that is not longer than the list is kept whole. -/
theorem recent_of_length_le {capacity : ℕ} {history : List α} (short : history.length ≤ capacity) :
    recent capacity history = history := by
  rw [recent, Nat.sub_eq_zero_of_le short, List.drop_zero]

/-- The entries with the one before them. -/
theorem recent_succ {capacity : ℕ} {history : List α} (more : capacity < history.length) :
    recent (capacity + 1) history = history[history.length - 1 - capacity] :: recent capacity history := by
  rw [recent, show history.length - (capacity + 1) = history.length - 1 - capacity by omega,
    List.drop_eq_getElem_cons (by omega), recent]
  congr 2
  omega

theorem map_recent (f : α → β) (capacity : ℕ) (history : List α) :
    (recent capacity history).map f = recent capacity (history.map f) := by
  rw [recent, recent, List.map_drop, List.length_map]

/-- **A new entry**: the oldest one goes if there is no room. -/
theorem recent_snoc (capacity : ℕ) (history : List α) (entry : α) :
    recent capacity (history ++ [entry]) =
      if (recent capacity history ++ [entry]).length > capacity then (recent capacity history ++ [entry]).tail
      else recent capacity history ++ [entry] := by
  rw [List.length_append, List.length_singleton, length_recent]
  split
  · rename_i full
    have some : 1 ≤ (history ++ [entry]).length - capacity := by
      rw [List.length_append, List.length_singleton]
      omega
    have shorter : history.length - capacity ≤ history.length := Nat.sub_le _ _
    rw [recent, recent, ← List.drop_append_of_le_length shorter, List.tail_drop, List.length_append,
      List.length_singleton]
    congr 1
    omega
  · rename_i room
    have few : (history ++ [entry]).length - capacity = 0 := by
      rw [List.length_append, List.length_singleton]
      omega
    have fewer : history.length - capacity = 0 := by omega
    rw [recent, recent, few, fewer, List.drop_zero, List.drop_zero]

/-- A value that is overwritten at every entry that is asked for. -/
theorem foldl_overwrite (asked : α → Bool) (value : α → β) (list : List α) (start : β) :
    list.foldl (fun current entry => if asked entry = true then value entry else current) start =
      ((list.reverse.find? asked).map value).getD start := by
  induction list using List.reverseRecOn with
  | nil => rfl
  | append_singleton rest entry ih =>
      rw [List.foldl_concat, List.reverse_concat, List.find?_cons]
      cases asked entry with
      | true => rfl
      | false => exact ih

end Library
