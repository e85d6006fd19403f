/-
**Serial numbers in sixteen-bit words.**

Counters of `bits ≤ 16` bits are kept in sixteen-bit words and wrap around. `ahead bits from to` is
how far one has to count up from `from` to meet `to` modulo `2 ^ bits`. Distances add up to one
wrap (`ahead_triangle`), which is all that arguments about windows of serial numbers need. Within half a wrap
the serial order (`precedes`) is a linear one (`precedes_iff`).
-/

import Mathlib.Data.UInt
import Mathlib.Tactic

namespace Library

namespace Serial

/-- The number of steps up from `start` to `stop`, modulo `2 ^ bits`. -/
def ahead (bits : ℕ) (start stop : UInt16) : ℕ := (stop - start).toNat % 2 ^ bits

variable {bits : ℕ}

theorem ahead_lt (bits : ℕ) (start stop : UInt16) : ahead bits start stop < 2 ^ bits :=
  Nat.mod_lt _ (Nat.two_pow_pos bits)

@[simp] theorem ahead_self (word : UInt16) : ahead bits word word = 0 := by
  simp [ahead]

/-- Reducing a word's value modulo `2 ^ bits` does not see the wrap at `2 ^ 16`. -/
theorem mod_mod_word (narrow : bits ≤ 16) (value : ℕ) : value % 2 ^ 16 % 2 ^ bits = value % 2 ^ bits :=
  Nat.mod_mod_of_dvd value (Nat.pow_dvd_pow 2 narrow)

theorem toNat_add_mod (narrow : bits ≤ 16) (first second : UInt16) :
    (first + second).toNat % 2 ^ bits = (first.toNat + second.toNat) % 2 ^ bits := by
  rw [UInt16.toNat_add, mod_mod_word narrow]

theorem toNat_ofNat_mod (narrow : bits ≤ 16) (value : ℕ) :
    (UInt16.ofNat value).toNat % 2 ^ bits = value % 2 ^ bits := by
  rw [UInt16.toNat_ofNat', mod_mod_word narrow]

/-- **Distances add up, to one wrap.** -/
theorem ahead_triangle (narrow : bits ≤ 16) (first second third : UInt16) :
    ahead bits first second + ahead bits second third = ahead bits first third ∨
      ahead bits first second + ahead bits second third = ahead bits first third + 2 ^ bits := by
  have split : third - first = (second - first) + (third - second) := by abel
  have sum : ahead bits first third =
      (ahead bits first second + ahead bits second third) % 2 ^ bits := by
    rw [ahead, split, toNat_add_mod narrow, Nat.add_mod]
    rfl
  have left := ahead_lt bits first second
  have right := ahead_lt bits second third
  by_cases small : ahead bits first second + ahead bits second third < 2 ^ bits
  · rw [Nat.mod_eq_of_lt small] at sum
    exact Or.inl sum.symm
  · rw [Nat.mod_eq_sub_mod (by omega), Nat.mod_eq_of_lt (by omega)] at sum
    exact Or.inr (by omega)

/-- There and back is one wrap. -/
theorem ahead_swap (narrow : bits ≤ 16) (first second : UInt16) (apart : ahead bits first second ≠ 0) :
    ahead bits second first = 2 ^ bits - ahead bits first second := by
  have round := ahead_triangle narrow first second first
  have here := ahead_lt bits first second
  rw [ahead_self] at round
  omega

theorem ahead_add (narrow : bits ≤ 16) (word : UInt16) {steps : ℕ} (short : steps < 2 ^ bits) :
    ahead bits word (word + UInt16.ofNat steps) = steps := by
  rw [ahead, add_sub_cancel_left, toNat_ofNat_mod narrow, Nat.mod_eq_of_lt short]

theorem ahead_sub (narrow : bits ≤ 16) (word : UInt16) {steps : ℕ} (short : steps < 2 ^ bits) :
    ahead bits (word - UInt16.ofNat steps) word = steps := by
  rw [ahead, sub_sub_cancel, toNat_ofNat_mod narrow, Nat.mod_eq_of_lt short]

/-- One step up takes one off the distance. -/
theorem ahead_succ (narrow : bits ≤ 16) {start stop : UInt16} (apart : 0 < ahead bits start stop) :
    ahead bits (start + 1) stop + 1 = ahead bits start stop := by
  have below := ahead_lt bits start stop
  have one : ahead bits start (start + UInt16.ofNat 1) = 1 := ahead_add narrow start (by omega)
  change ahead bits start (start + 1) = 1 at one
  have split := ahead_triangle narrow start (start + 1) stop
  have := ahead_lt bits (start + 1) stop
  omega

/-- Counting up the distance leads from one word to the other. -/
theorem ahead_balance (narrow : bits ≤ 16) (first second : UInt16) :
    ahead bits first second + first.toNat ≡ second.toNat [MOD 2 ^ bits] := by
  have split : second = (second - first) + first := by abel
  have sum := toNat_add_mod narrow (second - first) first
  rw [← split] at sum
  show (ahead bits first second + first.toNat) % 2 ^ bits = second.toNat % 2 ^ bits
  rw [ahead, Nat.mod_add_mod, sum]

theorem add_congr (narrow : bits ≤ 16) {first second : UInt16} (step : UInt16)
    (same : first.toNat % 2 ^ bits = second.toNat % 2 ^ bits) :
    (first + step).toNat % 2 ^ bits = (second + step).toNat % 2 ^ bits := by
  rw [toNat_add_mod narrow, toNat_add_mod narrow, Nat.add_mod, same, ← Nat.add_mod]

theorem sub_congr (narrow : bits ≤ 16) {first second : UInt16} (step : UInt16)
    (same : first.toNat % 2 ^ bits = second.toNat % 2 ^ bits) :
    (first - step).toNat % 2 ^ bits = (second - step).toNat % 2 ^ bits := by
  rw [sub_eq_add_neg, sub_eq_add_neg]
  exact add_congr narrow (-step) same

/-- A word is its distance above another one. -/
theorem add_ahead (narrow : bits ≤ 16) (start stop : UInt16) :
    (start + UInt16.ofNat (ahead bits start stop)).toNat % 2 ^ bits = stop.toNat % 2 ^ bits := by
  rw [toNat_add_mod narrow, Nat.add_mod, toNat_ofNat_mod narrow, ← Nat.add_mod, add_comm]
  exact ahead_balance narrow start stop

/-- At full width the distance leads to the word itself. -/
theorem add_ahead_full (start stop : UInt16) : start + UInt16.ofNat (ahead 16 start stop) = stop := by
  have same := add_ahead (le_refl 16) start stop
  rwa [Nat.mod_eq_of_lt (UInt16.toNat_lt _), Nat.mod_eq_of_lt (UInt16.toNat_lt _), UInt16.toNat_inj] at same

/-- The distance between the words of two numbers less than a range apart. -/
theorem ahead_ofNat {low high : ℕ} (order : low ≤ high) (short : high - low < 2 ^ 16) :
    ahead 16 (UInt16.ofNat low) (UInt16.ofNat high) = high - low := by
  have split : UInt16.ofNat high = UInt16.ofNat low + UInt16.ofNat (high - low) := by
    rw [← UInt16.ofNat_add, Nat.add_sub_cancel' order]
  rw [split]
  exact ahead_add (le_refl 16) _ short

/-- Distances do not see a common shift. -/
theorem ahead_add_right (start stop shift : UInt16) :
    ahead bits (start + shift) (stop + shift) = ahead bits start stop := by
  rw [ahead, ahead, add_sub_add_right_eq_sub]

/-- Steps back from a word, counted from another one below it. -/
theorem sub_eq_sub (narrow : bits ≤ 16) {start stop : UInt16} {back : ℕ} (enough : ahead bits start stop ≤ back) :
    (stop - UInt16.ofNat back).toNat % 2 ^ bits =
      (start - UInt16.ofNat (back - ahead bits start stop)).toNat % 2 ^ bits := by
  rw [← sub_congr narrow (UInt16.ofNat back) (add_ahead narrow start stop)]
  have split : UInt16.ofNat back =
      UInt16.ofNat (back - ahead bits start stop) + UInt16.ofNat (ahead bits start stop) := by
    rw [← UInt16.ofNat_add, Nat.sub_add_cancel enough]
  rw [split]
  congr 2
  abel

/-- The distance between two reduced words. -/
theorem ahead_reduced (narrow : bits ≤ 16) (first second : UInt16) (left : first.toNat < 2 ^ bits)
    (right : second.toNat < 2 ^ bits) :
    ahead bits first second + first.toNat = second.toNat ∨
      ahead bits first second + first.toNat = second.toNat + 2 ^ bits := by
  have balance : (ahead bits first second + first.toNat) % 2 ^ bits = second.toNat := by
    rw [← Nat.mod_eq_of_lt right]
    exact ahead_balance narrow first second
  have below := ahead_lt bits first second
  by_cases small : ahead bits first second + first.toNat < 2 ^ bits
  · rw [Nat.mod_eq_of_lt small] at balance
    exact Or.inl balance
  · rw [Nat.mod_eq_sub_mod (by omega), Nat.mod_eq_of_lt (by omega)] at balance
    exact Or.inr (by omega)

/-- The distance depends on the two words modulo `2 ^ bits` only. -/
theorem ahead_congr (narrow : bits ≤ 16) {start start' stop stop' : UInt16}
    (sameStart : start.toNat % 2 ^ bits = start'.toNat % 2 ^ bits)
    (sameStop : stop.toNat % 2 ^ bits = stop'.toNat % 2 ^ bits) :
    ahead bits start stop = ahead bits start' stop' := by
  have chain : ahead bits start stop + start.toNat ≡ ahead bits start' stop' + start.toNat [MOD 2 ^ bits] :=
    calc ahead bits start stop + start.toNat ≡ stop.toNat [MOD 2 ^ bits] := ahead_balance narrow start stop
      _ ≡ stop'.toNat [MOD 2 ^ bits] := sameStop
      _ ≡ ahead bits start' stop' + start'.toNat [MOD 2 ^ bits] := (ahead_balance narrow start' stop').symm
      _ ≡ ahead bits start' stop' + start.toNat [MOD 2 ^ bits] := Nat.ModEq.add_left _ sameStart.symm
  have same := Nat.ModEq.add_right_cancel' _ chain
  exact same.eq_of_lt_of_lt (ahead_lt bits start stop) (ahead_lt bits start' stop')

/-- From zero to a reduced word. -/
theorem ahead_zero {word : UInt16} (reduced : word.toNat < 2 ^ bits) : ahead bits 0 word = word.toNat := by
  rw [ahead, sub_zero, Nat.mod_eq_of_lt reduced]

/-- From a reduced word to the last number before the wrap. -/
theorem ahead_top (narrow : bits ≤ 16) {word : UInt16} (reduced : word.toNat < 2 ^ bits) :
    ahead bits word 65535 + word.toNat = 2 ^ bits - 1 := by
  have onwards : ahead bits word 65535 + ahead bits 65535 0 = ahead bits word 0 ∨
      ahead bits word 65535 + ahead bits 65535 0 = ahead bits word 0 + 2 ^ bits :=
    ahead_triangle narrow word 65535 0
  have one : ahead bits 65535 0 = 1 % 2 ^ bits := rfl
  have back : ahead bits word 0 + word.toNat = 0 ∨ ahead bits word 0 + word.toNat = 2 ^ bits := by
    simpa using ahead_reduced narrow word 0 reduced (by simp)
  have below := ahead_lt bits word 65535
  by_cases trivial : bits = 0
  · subst trivial
    simp at reduced below ⊢
    omega
  · rw [Nat.mod_eq_of_lt (Nat.one_lt_two_pow trivial)] at one
    omega

/-! ### Serial order -/

/-- `first` comes before `second`: it is less than half a wrap behind. -/
def precedes (bits : ℕ) (first second : UInt16) : Prop :=
  0 < ahead bits first second ∧ ahead bits first second < 2 ^ (bits - 1)

instance : DecidableRel (precedes bits) := fun _ _ => inferInstanceAs (Decidable (_ ∧ _))

/-- Among words that lie within half a wrap of each other the serial order is that of their distances. -/
theorem precedes_iff (positive : 0 < bits) (narrow : bits ≤ 16) {base first second : UInt16}
    (nearFirst : ahead bits base first < 2 ^ (bits - 1)) (nearSecond : ahead bits base second < 2 ^ (bits - 1)) :
    precedes bits first second ↔ ahead bits base first < ahead bits base second := by
  have whole : 2 ^ bits = 2 ^ (bits - 1) + 2 ^ (bits - 1) := by
    conv_lhs => rw [← Nat.sub_add_cancel positive, pow_succ, mul_two]
  have triangle := ahead_triangle narrow base first second
  have below := ahead_lt bits first second
  unfold precedes
  omega

end Serial

end Library
