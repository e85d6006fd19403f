/-
**Blocks of elements and padding.**

A block up to `stop` consists of elements, which have a size at their first position, and of positions that are blank
(`Parses`). A walk that does not know of blanks takes each of them for an element of size two and goes on to the last but
one position (`headersFrom`). It finds exactly the elements if and only if an even number of blanks stands before each of
them (`filter_headersFrom_iff`).
-/

import Mathlib.Data.List.Basic
import Mathlib.Tactic

namespace Library

namespace Elements

variable (size : ℕ → ℕ) (blank : ℕ → Prop) (stop : ℕ)

/-- **A block**, from a position on, with the positions of its elements. -/
inductive Parses : ℕ → List ℕ → Prop
  | done : Parses stop []
  | padding {position : ℕ} {elements : List ℕ} (inside : position < stop) (isBlank : blank position)
      (rest : Parses (position + 1) elements) : Parses position elements
  | element {position : ℕ} {elements : List ℕ} (inside : position + size position ≤ stop) (isElement : ¬blank position)
      (rest : Parses (position + size position) elements) : Parses position (position :: elements)

/-- The number of positions before each element is even. -/
def EvenGaps : ℕ → List ℕ → Prop
  | _, [] => True
  | position, element :: elements => (element - position) % 2 = 0 ∧ EvenGaps (element + size element) elements

/-- The walk over the headers, for so many rounds at most. -/
def headersFrom : ℕ → ℕ → List ℕ
  | 0, _ => []
  | rounds + 1, position =>
      if position + 1 < stop then position :: headersFrom rounds (position + size position) else []

variable {size blank stop} {position : ℕ} {elements : List ℕ}

/-! ### Elements -/

theorem Parses.le (parses : Parses size blank stop position elements) : position ≤ stop := by
  cases parses with
  | done => exact le_rfl
  | padding inside => exact inside.le
  | element inside => exact le_trans (Nat.le_add_right _ _) inside

/-- An element is inside the block. -/
theorem Parses.mem (parses : Parses size blank stop position elements) :
    ∀ element ∈ elements, position ≤ element ∧ element + size element ≤ stop ∧ ¬blank element := by
  induction parses with
  | done => exact fun _ absent => absurd absent List.not_mem_nil
  | padding inside isBlank rest ih =>
      intro element member
      obtain ⟨after, within⟩ := ih element member
      exact ⟨by omega, within⟩
  | element inside isElement rest ih =>
      refine List.forall_mem_cons.mpr ⟨⟨le_rfl, inside, isElement⟩, fun element member => ?_⟩
      obtain ⟨after, within⟩ := ih element member
      exact ⟨by omega, within⟩

/-- Elements have their room in the block. -/
theorem Parses.sum_le (parses : Parses size blank stop position elements) :
    position + (elements.map size).sum ≤ stop := by
  induction parses with
  | done => exact le_rfl
  | padding inside isBlank rest ih => omega
  | element inside isElement rest ih =>
      rw [List.map_cons, List.sum_cons]
      omega

/-- A gap without elements. -/
theorem evenGaps_add_two (parses : Parses size blank stop (position + 2) elements) :
    EvenGaps size (position + 2) elements ↔ EvenGaps size position elements := by
  cases elements with
  | nil => exact Iff.rfl
  | cons element rest =>
      have after := (parses.mem element List.mem_cons_self).1
      refine and_congr_left' ?_
      omega

/-! ### Headers -/

theorem headersFrom_of_le (short : stop ≤ position + 1) (rounds : ℕ) : headersFrom size stop rounds position = [] := by
  cases rounds with
  | zero => rfl
  | succ rounds => exact if_neg (by omega)

theorem headersFrom_of_lt {rounds : ℕ} (inside : position + 1 < stop) :
    headersFrom size stop (rounds + 1) position =
      position :: headersFrom size stop rounds (position + size position) := if_pos inside

/-- Headers follow one another. -/
theorem mem_headersFrom : ∀ {rounds position : ℕ}, ∀ header ∈ headersFrom size stop rounds position,
    position ≤ header ∧ header + 1 < stop
  | 0, _, _, member => absurd member List.not_mem_nil
  | rounds + 1, position, header, member => by
      unfold headersFrom at member
      split at member
      · rename_i inside
        rcases List.mem_cons.mp member with rfl | later
        · exact ⟨le_rfl, inside⟩
        · obtain ⟨after, within⟩ := mem_headersFrom header later
          exact ⟨by omega, within⟩
      · exact absurd member List.not_mem_nil

theorem pairwise_headersFrom : ∀ (rounds position : ℕ),
    (headersFrom size stop rounds position).Pairwise fun first second => first + size first ≤ second
  | 0, _ => List.Pairwise.nil
  | rounds + 1, position => by
      unfold headersFrom
      split
      · exact List.pairwise_cons.mpr ⟨fun header member => (mem_headersFrom header member).1,
          pairwise_headersFrom rounds (position + size position)⟩
      · exact List.Pairwise.nil

/-- The sizes at the headers only matter. -/
theorem headersFrom_congr {other : ℕ → ℕ} : ∀ {rounds position : ℕ},
    (∀ header ∈ headersFrom size stop rounds position, other header = size header) →
      headersFrom other stop rounds position = headersFrom size stop rounds position
  | 0, _, _ => rfl
  | rounds + 1, position, same => by
      unfold headersFrom at same ⊢
      split
      · next inside =>
          rw [if_pos inside] at same
          obtain ⟨first, rest⟩ := List.forall_mem_cons.mp same
          rw [first, headersFrom_congr rest]
      · rfl

/-- **Without padding** the walk comes to the elements. -/
theorem headersFrom_of_full (two : ∀ position, 2 ≤ size position) (parses : Parses size blank stop position elements)
    (full : position + (elements.map size).sum = stop) :
    ∀ {rounds : ℕ}, stop ≤ position + rounds → headersFrom size stop rounds position = elements := by
  induction parses with
  | done => exact fun _ => headersFrom_of_le (Nat.le_succ _) _
  | padding inside isBlank rest ih =>
      have short := rest.sum_le
      omega
  | @element position elements inside isElement rest ih =>
      intro rounds enough
      have long := two position
      rw [List.map_cons, List.sum_cons, ← Nat.add_assoc] at full
      obtain ⟨fewer, rfl⟩ : ∃ fewer, rounds = fewer + 1 := ⟨rounds - 1, by omega⟩
      rw [headersFrom_of_lt (by omega), ih full (by omega)]

/-! ### The elements among the headers -/

variable [DecidablePred blank]

/-- **The walk finds the elements** if and only if the padding before each of them is even. -/
theorem filter_headersFrom_iff (two : ∀ position, 2 ≤ size position)
    (blanks : ∀ position, blank position → size position = 2)
    {rounds : ℕ} (enough : stop ≤ position + rounds) (parses : Parses size blank stop position elements) :
    ((headersFrom size stop rounds position).filter fun header => ¬blank header) = elements ↔
      EvenGaps size position elements := by
  induction rounds using Nat.strong_induction_on generalizing position elements with
  | _ rounds ih =>
      cases parses with
      | done =>
          rw [headersFrom_of_le (Nat.le_succ _)]
          exact iff_of_true rfl trivial
      | element inside isElement rest =>
          have long := two position
          obtain ⟨fewer, rfl⟩ : ∃ fewer, rounds = fewer + 1 := ⟨rounds - 1, by omega⟩
          have kept : (decide (¬blank position)) = true := decide_eq_true isElement
          rw [headersFrom_of_lt (by omega), List.filter_cons, if_pos kept, List.cons_inj_right,
            ih fewer (Nat.lt_succ_self _) (by omega) rest, EvenGaps, Nat.sub_self]
          exact (and_iff_right rfl).symm
      | padding inside isBlank rest =>
          obtain ⟨fewer, rfl⟩ : ∃ fewer, rounds = fewer + 1 := ⟨rounds - 1, by omega⟩
          by_cases last : stop ≤ position + 1
          · rw [headersFrom_of_le last]
            cases rest with
            | done => exact iff_of_true rfl trivial
            | padding within => omega
            | element within =>
                have long := two (position + 1)
                omega
          · have dropped : ¬(decide (¬blank position)) = true := fun kept => of_decide_eq_true kept isBlank
            rw [headersFrom_of_lt (by omega), List.filter_cons, if_neg dropped, blanks position isBlank]
            cases rest with
            | done => omega
            | padding _ _ rest =>
                rw [ih fewer (Nat.lt_succ_self _) (by omega) rest]
                exact evenGaps_add_two rest
            | element _ _ rest =>
                refine iff_of_false (fun same => ?_) fun even => ?_
                · have found := List.mem_of_mem_filter (same.symm ▸ List.mem_cons_self)
                  have after := (mem_headersFrom _ found).1
                  omega
                · have odd := even.1
                  omega

end Elements

end Library
