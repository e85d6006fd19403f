/-
**Loops whose index is a narrow word.**

A loop counts a word of a few bits up from zero and compares it with the size of what it goes through. Where the size
is one that the word has, the loop visits every place once; where it is not, the word wraps around and the loop goes on.
`loop` has a number of rounds to spend and no result when they are not enough.

* `ends_loop_iff`: a loop ends, with some number of rounds, exactly when the word has the size.
* `loop_zero_eq`, `each_eq`, `modifyEach_eq`: what it does then.
-/

import Mathlib.Data.BitVec
import Mathlib.Tactic

namespace Library

namespace NarrowIndex

universe u v

variable {σ : Type u} {α : Type v} {width : ℕ}

/-- `for (index = 0; index < size(state); index++) state = body(index, state)`, from an index on. -/
def loop (size : σ → ℕ) (body : ℕ → σ → σ) : ℕ → BitVec width → σ → Option σ
  | 0, _, _ => none
  | rounds + 1, index, state =>
      if index.toNat < size state then loop size body rounds (index + 1) (body index.toNat state) else some state

/-- With enough rounds there is a result. -/
def Ends (run : ℕ → Option α) : Prop := ∃ rounds, (run rounds).isSome

section Loop

variable {size : σ → ℕ} {body : ℕ → σ → σ}

/-- The next index, where it does not wrap around. -/
theorem toNat_succ {index : BitVec width} (room : index.toNat + 1 < 2 ^ width) : (index + 1).toNat = index.toNat + 1 := by
  have wide : 1 < 2 ^ width := by omega
  have one : (1 : BitVec width).toNat = 1 := Nat.mod_eq_of_lt wide
  rw [BitVec.toNat_add, one, Nat.mod_eq_of_lt room]

/-- **How many rounds a loop needs**: one more than there are places left, and it does not end at all when the index does
not have the size. -/
theorem loop_isSome_iff (kept : ∀ index state, size (body index state) = size state) :
    ∀ (rounds : ℕ) (index : BitVec width) (state : σ), index.toNat ≤ size state →
      ((loop size body rounds index state).isSome ↔ size state < 2 ^ width ∧ size state < index.toNat + rounds)
  | 0, _, _, reached => iff_of_false Bool.false_ne_true fun both => absurd both.2 (not_lt.mpr reached)
  | rounds + 1, index, state, reached => by
      have word := index.isLt
      rw [loop]
      split_ifs with more
      · by_cases room : index.toNat + 1 < 2 ^ width
        · rw [loop_isSome_iff kept rounds (index + 1) _ (by rw [kept, toNat_succ room]; omega), kept, toNat_succ room]
          omega
        · -- the index wraps around, and the size is out of its reach
          have wraps : (index + 1).toNat ≤ size (body index.toNat state) := by
            rw [kept]
            exact (index + 1).isLt.le.trans (by omega)
          rw [loop_isSome_iff kept rounds (index + 1) _ wraps, kept]
          omega
      · exact iff_of_true rfl ⟨by omega, by omega⟩

/-- **What a loop does**: the places from the index on are visited. -/
theorem loop_eq (kept : ∀ index state, size (body index state) = size state) :
    ∀ (left rounds : ℕ) (index : BitVec width) (state : σ), left < rounds → index.toNat + left = size state →
      size state < 2 ^ width →
      loop size body rounds index state =
        some ((List.range' index.toNat left).foldl (fun state index => body index state) state)
  | 0, rounds + 1, index, state, _, reached, _ => by
      rw [loop, if_neg (by omega)]
      rfl
  | left + 1, rounds + 1, index, state, enough, reached, small => by
      have next : (index + 1).toNat = index.toNat + 1 := toNat_succ (by omega)
      rw [loop, if_pos (by omega), loop_eq kept left rounds (index + 1) _ (by omega) (by rw [kept, next]; omega)
        (by rwa [kept]), next, List.range'_succ, List.foldl_cons]

/-- The loop from zero on. -/
theorem loop_zero_eq (kept : ∀ index state, size (body index state) = size state) {rounds : ℕ} {state : σ}
    (small : size state < 2 ^ width) (enough : size state < rounds) :
    loop size body rounds (0 : BitVec width) state =
      some ((List.range (size state)).foldl (fun state index => body index state) state) := by
  rw [loop_eq kept (size state) rounds 0 state enough (by simp) small, List.range_eq_range']
  simp

/-- **When a loop ends.** -/
theorem ends_loop_iff (kept : ∀ index state, size (body index state) = size state) (state : σ) :
    Ends (fun rounds => loop size body rounds (0 : BitVec width) state) ↔ size state < 2 ^ width := by
  have zero : (0 : BitVec width).toNat ≤ size state := by simp
  constructor
  · rintro ⟨rounds, ended⟩
    exact ((loop_isSome_iff kept rounds 0 state zero).mp ended).1
  · intro small
    exact ⟨size state + 1, (loop_isSome_iff kept _ 0 state zero).mpr ⟨small, by simp⟩⟩

end Loop

/-! ### Loops through a list -/

/-- `for (index = 0; index < list.size(); index++) state = body(state, list[index])`. -/
def each (width : ℕ) (list : List α) (body : σ → α → σ) (rounds : ℕ) (state : σ) : Option σ :=
  loop (fun _ => list.length) (fun index state => (list[index]?).elim state (body state)) rounds (0 : BitVec width) state

/-- `for (index = 0; index < list.size(); index++) list[index] = change(list[index])`. -/
def modifyEach (width : ℕ) (change : α → α) (rounds : ℕ) (list : List α) : Option (List α) :=
  loop List.length (fun index list => list.modify index change) rounds (0 : BitVec width) list

/-- Visiting the places of a list is visiting its elements. -/
theorem foldl_range_getElem? (list : List α) (body : σ → α → σ) (state : σ) :
    (List.range list.length).foldl (fun state index => (list[index]?).elim state (body state)) state =
      list.foldl body state := by
  have elements : (List.range list.length).map (list[·]?) = list.map some := by
    refine List.ext_getElem (by simp) fun index _ _ => ?_
    simp
  calc (List.range list.length).foldl (fun state index => (list[index]?).elim state (body state)) state
      = ((List.range list.length).map (list[·]?)).foldl (fun state element => element.elim state (body state)) state := by
        rw [List.foldl_map]
    _ = list.foldl body state := by
        rw [elements, List.foldl_map]
        rfl

/-- Changing the elements in the first places. -/
theorem getElem?_foldl_modify (change : α → α) (list : List α) (places asked : ℕ) :
    ((List.range places).foldl (fun list index => list.modify index change) list)[asked]? =
      if asked < places then (list[asked]?).map change else list[asked]? := by
  induction places with
  | zero => rfl
  | succ places ih =>
      rw [List.range_succ, List.foldl_concat, List.getElem?_modify, ih]
      rcases Nat.lt_trichotomy asked places with before | here | behind
      · simp [before, before.ne', Nat.lt_succ_of_lt before]
      · simp [here]
      · simp [behind.ne, not_lt.mpr behind.le, not_lt.mpr (Nat.succ_le_of_lt behind)]

/-- **When a loop through a list has a result.** -/
theorem each_isSome_iff (list : List α) (body : σ → α → σ) (rounds : ℕ) (state : σ) :
    (each width list body rounds state).isSome ↔ list.length < 2 ^ width ∧ list.length < rounds := by
  have zero : (0 : BitVec width).toNat = 0 := BitVec.toNat_zero
  have ended := @loop_isSome_iff σ width (fun _ => list.length)
    (fun index state => (list[index]?).elim state (body state)) (fun _ _ => rfl) rounds 0 state (by simp)
  rwa [zero, Nat.zero_add] at ended

/-- **A list whose size the index has** is gone through once. -/
theorem each_eq {list : List α} {rounds : ℕ} (small : list.length < 2 ^ width) (enough : list.length < rounds)
    (body : σ → α → σ) (state : σ) : each width list body rounds state = some (list.foldl body state) := by
  have visited := @loop_zero_eq σ width (fun _ => list.length)
    (fun index state => (list[index]?).elim state (body state)) (fun _ _ => rfl) rounds state small enough
  rw [each, visited, foldl_range_getElem?]

/-- **A list whose size the index has** is changed everywhere. -/
theorem modifyEach_eq {list : List α} {rounds : ℕ} (small : list.length < 2 ^ width) (enough : list.length < rounds)
    (change : α → α) : modifyEach width change rounds list = some (list.map change) := by
  rw [modifyEach, loop_zero_eq (fun index list => List.length_modify change list index) small enough]
  refine congrArg some (List.ext_getElem? fun asked => ?_)
  rw [getElem?_foldl_modify, List.getElem?_map]
  split_ifs with inside
  · rfl
  · rw [List.getElem?_eq_none (not_lt.mp inside)]
    rfl

/-- When every element is changed. -/
theorem ends_modifyEach_iff (change : α → α) (list : List α) :
    Ends (fun rounds => modifyEach width change rounds list) ↔ list.length < 2 ^ width :=
  ends_loop_iff (fun index list => List.length_modify change list index) list

/-- What the index does not have the size of is never changed everywhere. -/
theorem modifyEach_eq_none {list : List α} (large : 2 ^ width ≤ list.length) (change : α → α) (rounds : ℕ) :
    modifyEach width change rounds list = none := by
  refine Option.not_isSome_iff_eq_none.mp fun ended => ?_
  exact absurd ((ends_modifyEach_iff change list).mp ⟨rounds, ended⟩) (not_lt.mpr large)

end NarrowIndex

end Library
