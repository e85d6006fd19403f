/-
**Lines that tell their kind by how they begin.**

A pattern has a mark in its second place. Where the only marks of a line that a pattern could begin at are its own one,
in its second place too, searching for the pattern is comparing it with the beginning of the line (`infix_iff_prefix`).
A beginning that is known settles the comparison (`not_prefix_of_differ`).
-/

import Mathlib.Tactic

namespace Library

namespace Marked

variable {α : Type*}

/-- No element of a list stands before a mark. -/
def Clean (before : List α) (mark : α) (text : List α) : Prop := ∀ element ∈ before, ¬ [element, mark] <:+: text

instance [DecidableEq α] (before : List α) (mark : α) (text : List α) : Decidable (Clean before mark text) :=
  inferInstanceAs (Decidable (∀ element ∈ before, ¬ [element, mark] <:+: text))

section Clean

variable {before : List α} {mark : α} {text first second : List α}

theorem clean_of_notMem (absent : mark ∉ text) : Clean before mark text :=
  fun _ _ inside => absent (inside.subset (by simp))

theorem Clean.of_infix (clean : Clean before mark text) (inside : first <:+: text) : Clean before mark first :=
  fun element member here => clean element member (here.trans inside)

/-- Two texts, where the second does not begin with a mark. -/
theorem Clean.append (one : Clean before mark first) (two : Clean before mark second) (begins : second.head? ≠ some mark) :
    Clean before mark (first ++ second) := by
  intro element member inside
  rcases List.infix_append_iff.mp inside with left | right | ⟨early, late, same, ends, starts⟩
  · exact one element member left
  · exact two element member right
  · rcases early with - | ⟨head, early⟩
    · exact two element member (same ▸ starts.isInfix)
    rcases early with - | ⟨next, early⟩
    · obtain ⟨rest, rfl⟩ := starts
      obtain ⟨-, rfl⟩ := List.cons_eq_cons.mp same
      exact begins rfl
    · obtain ⟨rfl, tail⟩ := List.cons_eq_cons.mp same
      obtain ⟨rfl, nothing⟩ := List.cons_eq_cons.mp tail
      rw [(List.append_eq_nil_iff.mp nothing.symm).1] at ends
      exact one _ member ends.isInfix

/-- A text behind an element that may stand before a mark. -/
theorem Clean.cons (clean : Clean before mark text) {element : α} (allowed : element ∉ before) :
    Clean before mark (element :: text) := by
  intro other member inside
  rcases List.infix_cons_iff.mp inside with begins | later
  · obtain ⟨rfl, -⟩ := List.cons_prefix_cons.mp begins
    exact allowed member
  · exact clean other member later

/-- The same, where the second has no mark at all. -/
theorem Clean.append_of_notMem (one : Clean before mark first) (absent : mark ∉ second) :
    Clean before mark (first ++ second) :=
  one.append (clean_of_notMem absent) fun begins => absent (List.mem_of_head? begins)

end Clean

/-! ### Beginnings -/

/-- **Searching is comparing with the beginning.** -/
theorem infix_iff_prefix {element mark other : α} {pattern text : List α} (differs : element ≠ mark)
    (clean : ¬ [element, mark] <:+: text) :
    (element :: mark :: pattern) <:+: (other :: mark :: text) ↔ (element :: mark :: pattern) <+:
      (other :: mark :: text) := by
  refine ⟨fun inside => ?_, List.IsPrefix.isInfix⟩
  have marked : [element, mark] <+: element :: mark :: pattern := ⟨pattern, rfl⟩
  rcases List.infix_cons_iff.mp inside with begins | inside
  · exact begins
  rcases List.infix_cons_iff.mp inside with begins | inside
  · exact absurd (List.cons_prefix_cons.mp begins).1 differs
  · exact absurd (marked.isInfix.trans inside) clean

/-- Two texts differ in a place that both have. -/
def differ [DecidableEq α] : List α → List α → Bool
  | first :: firsts, second :: seconds => first ≠ second || differ firsts seconds
  | _, _ => false

/-- A text that differs from a beginning does not begin what has that beginning. -/
theorem not_prefix_of_differ [DecidableEq α] {pattern header : List α} (differs : differ pattern header = true)
    (text : List α) : ¬ pattern <+: header ++ text := by
  induction pattern generalizing header with
  | nil => exact absurd differs Bool.false_ne_true
  | cons first firsts ih =>
      cases header with
      | nil => exact absurd differs Bool.false_ne_true
      | cons second seconds =>
          intro begins
          obtain ⟨same, rest⟩ := List.cons_prefix_cons.mp begins
          rw [differ, Bool.or_eq_true, decide_eq_true_eq] at differs
          rcases differs with here | later
          · exact here same
          · exact ih later rest

end Marked

end Library
