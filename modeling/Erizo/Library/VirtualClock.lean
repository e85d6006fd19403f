/-
**A bucket of tokens as a clock that runs behind.**

A token takes `cost` units of time, and the bucket holds `burst` units at most. All there is to remember is a
mark. A request moves the mark to `burst` units before its time, unless it stands later, and on by the time its
tokens take; it is granted when the mark does not pass its time (`request`).

What is granted between two times is paid for by the way of the mark, from `burst` units before the first of them to
the second (`between_spent`), whatever was asked before and in any order of the times.
-/

import Erizo.Library.Machine
import Mathlib.Algebra.BigOperators.Group.List.Basic
import Mathlib.Algebra.Order.Ring.Nat
import Mathlib.Data.Nat.Basic

namespace Library

namespace VirtualClock

variable (cost burst : ℕ)

/-- Where a request for some tokens wants the mark. -/
def target (mark now tokens : ℕ) : ℕ := max mark (now - burst) + tokens * cost

/-- A request, as its time and its tokens: the mark after it, and how many tokens are granted when. -/
def request (mark : ℕ) (call : ℕ × ℕ) : ℕ × ℕ × ℕ :=
  if target cost burst mark call.1 call.2 ≤ call.1 then (target cost burst mark call.1 call.2, call) else (mark, call.1, 0)

/-- What is granted from a time until another. -/
def between (start finish : ℕ) (grants : List (ℕ × ℕ)) : ℕ :=
  ((grants.filter fun grant => start ≤ grant.1 ∧ grant.1 ≤ finish).map Prod.snd).sum

@[simp] theorem between_nil (start finish : ℕ) : between start finish [] = 0 := rfl

theorem between_cons_of_mem {start finish : ℕ} {grant : ℕ × ℕ} (inside : start ≤ grant.1 ∧ grant.1 ≤ finish)
    (grants : List (ℕ × ℕ)) : between start finish (grant :: grants) = grant.2 + between start finish grants := by
  simp only [between, List.filter_cons, inside, and_self, decide_true, if_true, List.map_cons, List.sum_cons]

theorem between_cons_of_not_mem {start finish : ℕ} {grant : ℕ × ℕ} (outside : ¬(start ≤ grant.1 ∧ grant.1 ≤ finish))
    (grants : List (ℕ × ℕ)) : between start finish (grant :: grants) = between start finish grants := by
  simp only [between, List.filter_cons, outside, decide_false, Bool.false_eq_true, if_false]

/-- A grant of nothing does not count. -/
theorem between_cons_zero (start finish time : ℕ) (grants : List (ℕ × ℕ)) :
    between start finish ((time, 0) :: grants) = between start finish grants := by
  by_cases inside : start ≤ time ∧ time ≤ finish
  · rw [between_cons_of_mem inside, Nat.zero_add]
  · exact between_cons_of_not_mem inside grants

variable {cost burst}

/-- **What is granted is paid for**: from `burst` units before the start, or from the mark, time passes for each
token. -/
theorem between_spent (start finish mark : ℕ) (calls : List (ℕ × ℕ)) :
    between start finish (Machine.outputs (request cost burst) mark calls) = 0 ∨
      max mark (start - burst) + between start finish (Machine.outputs (request cost burst) mark calls) * cost ≤
        finish := by
  induction calls generalizing mark with
  | nil => exact Or.inl rfl
  | cons call rest ih =>
      rw [Machine.outputs]
      by_cases granted : target cost burst mark call.1 call.2 ≤ call.1
      · rw [request, if_pos granted]
        have moved : target cost burst mark call.1 call.2 = max mark (call.1 - burst) + call.2 * cost := rfl
        have onward := ih (target cost burst mark call.1 call.2)
        dsimp only at onward ⊢
        by_cases inside : start ≤ call.1 ∧ call.1 ≤ finish
        · -- the mark has moved past this grant's tokens before the rest is paid
          rw [between_cons_of_mem inside, Nat.add_mul]
          refine Or.inr ?_
          rcases onward with nothing | paid
          · rw [nothing]
            omega
          · omega
        · rw [between_cons_of_not_mem inside]
          exact onward.imp_right fun paid => by omega
      · rw [request, if_neg granted, between_cons_zero]
        exact ih mark

/-- **The rate of a bucket**: in a span of time at most the burst is granted, and a token for each `cost` units. -/
theorem between_le {tokens : ℕ} (positive : 0 < cost) (start span mark : ℕ) (calls : List (ℕ × ℕ)) :
    between start (start + span) (Machine.outputs (request cost (tokens * cost)) mark calls) ≤ tokens + span / cost := by
  rcases @between_spent cost (tokens * cost) start (start + span) mark calls with nothing | paid
  · exact nothing ▸ Nat.zero_le _
  · have whole : tokens + span / cost = (tokens * cost + span) / cost := by
      rw [Nat.add_comm (tokens * cost), Nat.add_mul_div_right _ _ positive, Nat.add_comm]
    rw [whole, Nat.le_div_iff_mul_le positive]
    omega

/-- A bucket without a burst grants nothing. -/
theorem between_eq_zero (positive : 0 < cost) (start finish mark : ℕ) (calls : List (ℕ × ℕ)) :
    between start finish (Machine.outputs (request cost 0) mark calls) = 0 := by
  induction calls generalizing mark with
  | nil => rfl
  | cons call rest ih =>
      rw [Machine.outputs, request]
      split
      · next granted =>
          have free : call.2 * cost = 0 := by
            rw [target] at granted
            omega
          have nothing : call = (call.1, 0) := Prod.ext rfl ((Nat.mul_eq_zero.mp free).resolve_right positive.ne')
          rw [nothing, between_cons_zero]
          exact ih _
      · rw [between_cons_zero]
        exact ih mark

/-- A bucket whose mark is at the beginning grants a request within its burst, once the clock is past the burst. -/
theorem granted_of_le {tokens now asked : ℕ} (late : tokens * cost ≤ now) (few : asked ≤ tokens) :
    target cost (tokens * cost) 0 now asked ≤ now := by
  have less := Nat.mul_le_mul_right cost few
  rw [target]
  omega

/-- The whole burst, once the clock is past it. -/
theorem request_burst (tokens : ℕ) :
    request cost (tokens * cost) 0 (tokens * cost, tokens) = (tokens * cost, tokens * cost, tokens) := by
  have reached : target cost (tokens * cost) 0 (tokens * cost) tokens = tokens * cost := by
    rw [target]
    omega
  rw [request, reached, if_pos le_rfl]

/-- One more token, a token's time after the burst. -/
theorem request_next {tokens : ℕ} (bursts : cost ≤ tokens * cost) :
    request cost (tokens * cost) (tokens * cost) (tokens * cost + cost, 1) =
      (tokens * cost + cost, tokens * cost + cost, 1) := by
  have reached : target cost (tokens * cost) (tokens * cost) (tokens * cost + cost) 1 = tokens * cost + cost := by
    rw [target]
    omega
  rw [request, reached, if_pos le_rfl]

end VirtualClock

end Library
