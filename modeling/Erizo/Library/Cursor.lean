/-
**A cursor that moves over a list.**

A cursor has the items from its place on, and how far it has moved. `read` has no value at the end of the list; `skip`
may go behind it.

`Goes` says of a part of a parser that it moves the cursor by a given count, or finds the list too short for that. The
rules `Goes.read`, `Goes.skip` and `Goes.bind` put such parts together.
-/

import Mathlib.Data.List.Basic
import Mathlib.Tactic.Common

namespace Library

universe u

/-- The items from a place on, and how far it is from the start. -/
structure Cursor (α : Type u) where
  rest : List α
  position : ℕ

namespace Cursor

variable {α β γ : Type u}

/-- The item at the cursor. -/
def read (cursor : Cursor α) : Option α := cursor.rest.head?

/-- The cursor, moved by some items. -/
def skip (cursor : Cursor α) (count : ℕ) : Cursor α := ⟨cursor.rest.drop count, cursor.position + count⟩

@[simp] theorem skip_zero (cursor : Cursor α) : cursor.skip 0 = cursor := rfl

@[simp] theorem skip_skip (cursor : Cursor α) (first second : ℕ) :
    (cursor.skip first).skip second = cursor.skip (first + second) := by
  simp only [skip, List.drop_drop, Nat.add_assoc]

@[simp] theorem rest_skip (cursor : Cursor α) (count : ℕ) : (cursor.skip count).rest = cursor.rest.drop count := rfl

/-- A part of a parser moves the cursor by a count, with a result of a kind, or there are not so many items. -/
def Goes (result : Option (β × Cursor α)) (cursor : Cursor α) (kept : β → Prop) (count : ℕ) : Prop :=
  (∃ value, result = some (value, cursor.skip count) ∧ kept value) ∨ (result = none ∧ cursor.rest.length < count)

variable {cursor : Cursor α} {kept : β → Prop} {count : ℕ}

theorem goes_some {value : β} (keeps : kept value) : Goes (some (value, cursor)) cursor kept 0 :=
  Or.inl ⟨value, rfl, keeps⟩

/-- The item at the cursor is read first. -/
theorem Goes.read {next : α → Option (β × Cursor α)} (positive : 0 < count) (fallback : α)
    (goes : Goes (next (cursor.rest.headD fallback)) cursor kept count) :
    Goes (cursor.read >>= next) cursor kept count := by
  obtain ⟨rest, position⟩ := cursor
  cases rest with
  | nil => exact Or.inr ⟨rfl, positive⟩
  | cons item rest => exact goes

/-- Items are skipped first. -/
theorem Goes.skip {result : Option (β × Cursor α)} {first : ℕ} (goes : Goes result (cursor.skip first) kept count) :
    Goes result cursor kept (first + count) := by
  rcases goes with ⟨value, same, keeps⟩ | ⟨none, short⟩
  · exact Or.inl ⟨value, by rw [same, skip_skip], keeps⟩
  · refine Or.inr ⟨none, ?_⟩
    rw [rest_skip, List.length_drop] at short
    omega

/-- One part after the other. -/
theorem Goes.bind (kept : β → Prop) {result : Option (β × Cursor α)}
    {next : β × Cursor α → Option (γ × Cursor α)} {last : γ → Prop}
    {more : ℕ} (goes : Goes result cursor kept count)
    (then_goes : ∀ value, kept value → Goes (next (value, cursor.skip count)) (cursor.skip count) last more) :
    Goes (result >>= next) cursor last (count + more) := by
  rcases goes with ⟨value, same, keeps⟩ | ⟨none, short⟩
  · rw [same]
    exact (then_goes value keeps).skip
  · rw [none]
    exact Or.inr ⟨rfl, by omega⟩

theorem Goes.imp {result : Option (β × Cursor α)} {other : β → Prop} (goes : Goes result cursor kept count)
    (weaker : ∀ value, kept value → other value) : Goes result cursor other count :=
  goes.imp_left fun ⟨value, same, keeps⟩ => ⟨value, same, weaker value keeps⟩

end Cursor

end Library
