/-
**Rounding down to a short mantissa.**

A value is kept as a mantissa below a limit and the least exponent that allows it; the bits below the
exponent are lost. Rounding so is sound: it loses at most two parts in the limit (`error_le`), it is
idempotent (`rounded_rounded`) and monotone (`rounded_le_rounded`). The last needs an argument at a
boundary: the mantissa that follows a new exponent is half the limit.
-/

import Mathlib.Data.Nat.Size
import Mathlib.Tactic

namespace Library

namespace ShortFloat

/-- The least exponent that brings a value below the limit. -/
structure IsExponent (limit value exponent : ℕ) : Prop where
  below : value < limit * 2 ^ exponent
  least : ∀ smaller < exponent, limit * 2 ^ smaller ≤ value

/-- A value without the bits below an exponent. -/
def rounded (value exponent : ℕ) : ℕ := value / 2 ^ exponent * 2 ^ exponent

variable {limit value small large exponent other : ℕ}

theorem rounded_le (value exponent : ℕ) : rounded value exponent ≤ value := Nat.div_mul_le_self value _

/-- The mantissa is below the limit. -/
theorem IsExponent.mantissa_lt (is_exponent : IsExponent limit value exponent) : value / 2 ^ exponent < limit :=
  Nat.div_lt_of_lt_mul ((Nat.mul_comm limit _) ▸ is_exponent.below)

/-- A larger value has no smaller exponent. -/
theorem IsExponent.mono (first : IsExponent limit small exponent) (second : IsExponent limit large other)
    (order : small ≤ large) : exponent ≤ other := by
  by_contra less
  have lower := first.least other (Nat.lt_of_not_le less)
  exact absurd (lt_of_le_of_lt (le_trans lower order) second.below) (lt_irrefl _)

/-- What is lost is at most two parts in the limit. -/
theorem error_le (is_exponent : IsExponent limit value exponent) :
    (value - rounded value exponent) * limit ≤ 2 * value := by
  have parts := Nat.div_add_mod' value (2 ^ exponent)
  have lost : value - rounded value exponent = value % 2 ^ exponent := by
    rw [rounded]
    omega
  rw [lost]
  cases exponent with
  | zero => simp [Nat.mod_one]
  | succ exponent =>
      have small : value % 2 ^ (exponent + 1) ≤ 2 ^ (exponent + 1) := (Nat.mod_lt _ (Nat.two_pow_pos _)).le
      calc value % 2 ^ (exponent + 1) * limit
          ≤ 2 ^ (exponent + 1) * limit := Nat.mul_le_mul_right limit small
        _ = 2 * (limit * 2 ^ exponent) := by ring
        _ ≤ 2 * value := Nat.mul_le_mul_left 2 (is_exponent.least exponent (Nat.lt_succ_self exponent))

/-- **Rounding again changes nothing.** -/
theorem rounded_rounded (first : IsExponent limit value exponent)
    (second : IsExponent limit (rounded value exponent) other) :
    rounded (rounded value exponent) other = rounded value exponent := by
  have order : other ≤ exponent := second.mono first (rounded_le value exponent)
  refine Nat.div_mul_cancel ?_
  exact Dvd.dvd.mul_left (Nat.pow_dvd_pow 2 order) _

/-- **Rounding keeps the order.** -/
theorem rounded_le_rounded (first : IsExponent limit small exponent) (second : IsExponent limit large other)
    (order : small ≤ large) : rounded small exponent ≤ rounded large other := by
  rcases Nat.lt_or_eq_of_le (first.mono second order) with less | rfl
  · -- across a boundary: the larger mantissa is at least half the limit
    obtain ⟨between, rfl⟩ : ∃ between, other = between + 1 := ⟨other - 1, by omega⟩
    have mantissa : small / 2 ^ exponent ≤ limit / 2 * 2 := by
      have below := first.mantissa_lt
      omega
    have half : limit / 2 ≤ large / 2 ^ (between + 1) := by
      have lower := second.least between (Nat.lt_succ_self between)
      rw [pow_succ, ← Nat.div_div_eq_div_mul]
      exact Nat.div_le_div_right ((Nat.le_div_iff_mul_le (Nat.two_pow_pos between)).mpr lower)
    calc rounded small exponent
        ≤ limit / 2 * 2 * 2 ^ exponent := Nat.mul_le_mul_right _ mantissa
      _ ≤ limit / 2 * 2 * 2 ^ between :=
          Nat.mul_le_mul_left _ (Nat.pow_le_pow_right (by decide) (Nat.le_of_lt_succ less))
      _ = limit / 2 * 2 ^ (between + 1) := by ring
      _ ≤ rounded large (between + 1) := Nat.mul_le_mul_right _ half
  · exact Nat.mul_le_mul_right _ (Nat.div_le_div_right order)

/-- Every value has an exponent. -/
theorem exists_isExponent (positive : 0 < limit) (value : ℕ) : ∃ exponent, IsExponent limit value exponent := by
  have enough : ∃ exponent, value < limit * 2 ^ exponent :=
    ⟨value, lt_of_lt_of_le Nat.lt_two_pow_self (Nat.le_mul_of_pos_left _ positive)⟩
  exact ⟨Nat.find enough, Nat.find_spec enough, fun smaller less => Nat.not_lt.mp (Nat.find_min enough less)⟩

/-- **A smaller value is rounded to the same one** exactly if it is not below that. -/
theorem rounded_eq_rounded_iff (positive : 0 < limit) (first : IsExponent limit small exponent)
    (second : IsExponent limit large other) (order : small ≤ large) :
    rounded small exponent = rounded large other ↔ rounded large other ≤ small := by
  refine ⟨fun same => same ▸ rounded_le small exponent, fun reached => ?_⟩
  obtain ⟨third, is_exponent⟩ := exists_isExponent positive (rounded large other)
  refine le_antisymm (rounded_le_rounded first second order) ?_
  calc rounded large other = rounded (rounded large other) third := (rounded_rounded second is_exponent).symm
    _ ≤ rounded small exponent := rounded_le_rounded is_exponent first reached

/-- A number of `size` bits, without all but the first `width` of them. -/
def leading (width value : ℕ) : ℕ := rounded value (value.size - width)

/-- The first `width` bits of a number are all set. -/
def AllOnes (width value : ℕ) : Prop := value / 2 ^ (value.size - width) = 2 ^ width - 1

instance (width value : ℕ) : Decidable (AllOnes width value) := inferInstanceAs (Decidable (_ = _))

/-- What exceeds the width is the exponent. -/
theorem isExponent_leading (width value : ℕ) : IsExponent (2 ^ width) value (value.size - width) where
  below := by
    rw [← pow_add]
    exact lt_of_lt_of_le (Nat.lt_size_self value) (Nat.pow_le_pow_right Nat.two_pos (by omega))
  least smaller less := by
    rw [← pow_add]
    exact Nat.lt_size.mp (by omega)

/-- A larger exponent rounds further down. -/
theorem rounded_le_rounded_of_le (value : ℕ) (order : exponent ≤ other) : rounded value other ≤ rounded value exponent := by
  have divides : 2 ^ exponent ∣ rounded value other := Dvd.dvd.mul_left (Nat.pow_dvd_pow 2 order) _
  obtain ⟨mantissa, product⟩ := divides
  rw [product, Nat.mul_comm]
  refine Nat.mul_le_mul_right _ ((Nat.le_div_iff_mul_le (Nat.two_pow_pos exponent)).mpr ?_)
  calc mantissa * 2 ^ exponent = rounded value other := by rw [product, Nat.mul_comm]
    _ ≤ value := rounded_le value other

/-- Without the largest mantissa, no smaller exponent will do. -/
theorem IsExponent.size_sub_le {width : ℕ} (is_exponent : IsExponent (2 ^ width - 1) value exponent) :
    value.size - width ≤ exponent := by
  by_contra less
  have lower := (isExponent_leading width value).least exponent (Nat.lt_of_not_le less)
  have upper := lt_of_lt_of_le is_exponent.below (Nat.mul_le_mul_right (2 ^ exponent) (Nat.sub_le (2 ^ width) 1))
  exact absurd (lt_of_le_of_lt lower upper) (lt_irrefl _)

/-- **Where the largest mantissa is not used**: a value is rounded further down exactly if its first bits are all set. -/
theorem rounded_eq_leading_iff {width : ℕ} (positive : 0 < width) (value : ℕ)
    (is_exponent : IsExponent (2 ^ width - 1) value exponent) :
    rounded value exponent = leading width value ↔ ¬AllOnes width value := by
  have full := isExponent_leading width value
  have power : 0 < 2 ^ width := Nat.two_pow_pos width
  have order := is_exponent.size_sub_le
  unfold leading AllOnes
  constructor
  · -- The next exponent leaves out the last of the set bits.
    intro same ones
    have further : value.size - width < exponent := by
      refine lt_of_le_of_ne order fun equal => ?_
      have below := is_exponent.mantissa_lt
      rw [← equal, ones] at below
      exact absurd below (lt_irrefl _)
    have divides : 2 * 2 ^ (value.size - width) ∣ (2 ^ width - 1) * 2 ^ (value.size - width) := by
      rw [← ones, ← pow_succ']
      have multiple : 2 ^ exponent ∣ rounded value exponent := Nat.dvd_mul_left _ _
      rw [same] at multiple
      exact (Nat.pow_dvd_pow 2 further).trans multiple
    have even := Nat.dvd_of_mul_dvd_mul_right (Nat.two_pow_pos _) divides
    have odd : 2 ∣ 2 ^ width := dvd_pow_self 2 (Nat.pos_iff_ne_zero.mp positive)
    omega
  · intro other
    have mantissa := full.mantissa_lt
    have below : value < (2 ^ width - 1) * 2 ^ (value.size - width) := by
      rw [← Nat.div_lt_iff_lt_mul (Nat.two_pow_pos _)]
      omega
    have equal : exponent = value.size - width := by
      refine le_antisymm (not_lt.mp fun less => ?_) order
      exact absurd (is_exponent.least _ less) (not_le.mpr below)
    rw [equal]

end ShortFloat

end Library
