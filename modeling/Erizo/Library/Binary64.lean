/-
**Numbers with the precision of a double.**

A number is rounded to 53 binary digits, to the nearest such number and to the even one of two that are as near
(`toDouble`). Exponents have no bounds: it is meant for numbers that stay far from those of a double.

Rounding keeps the whole numbers up to 2^53 (`toDouble_natCast`) and is off by one part in 2^53 at most
(`abs_toDouble_sub_le`). A quotient of doubles that is cut to a whole number (`quotient`) is right for what is below 2^53
(`quotient_eq_div`), and too large by little for every word (`quotient_mul_le`).
-/

import Mathlib.Algebra.Order.Floor.Semifield
import Mathlib.Data.Int.Log
import Mathlib.Data.Rat.Floor
import Mathlib.Tactic

namespace Library

namespace Binary64

/-- The nearest whole number, the even one of two. -/
def roundHalfEven (number : ℚ) : ℤ :=
  if Int.fract number < 1 / 2 ∨ Int.fract number = 1 / 2 ∧ ⌊number⌋ % 2 = 0 then ⌊number⌋ else ⌊number⌋ + 1

/-- The last of 53 binary digits. -/
def lastDigit (number : ℚ) : ℚ := 2 ^ (Int.log 2 |number| - 52)

/-- The nearest number of 53 binary digits. -/
def toDouble (number : ℚ) : ℚ := roundHalfEven (number / lastDigit number) * lastDigit number

/-! ### Rounding -/

theorem roundHalfEven_intCast (number : ℤ) : roundHalfEven number = number := by
  rw [roundHalfEven, if_pos, Int.floor_intCast]
  exact Or.inl (by rw [Int.fract_intCast]; norm_num)

/-- Rounding is off by a half at most. -/
theorem abs_roundHalfEven_sub_le (number : ℚ) : |(roundHalfEven number : ℚ) - number| ≤ 1 / 2 := by
  have parts := Int.floor_add_fract number
  have unsigned := Int.fract_nonneg number
  have less := Int.fract_lt_one number
  rw [roundHalfEven]
  split_ifs with lower
  · have half : Int.fract number ≤ 1 / 2 := lower.elim le_of_lt fun both => both.1.le
    rw [abs_le]
    constructor <;> linarith
  · have half : 1 / 2 ≤ Int.fract number := not_lt.mp fun below => lower (Or.inl below)
    push_cast
    rw [abs_le]
    constructor <;> linarith

theorem lastDigit_pos (number : ℚ) : 0 < lastDigit number := zpow_pos (by norm_num) _

/-- A number has at least 53 digits. -/
theorem lastDigit_mul_le {number : ℚ} (nonzero : number ≠ 0) : lastDigit number * 2 ^ 52 ≤ |number| := by
  have same : lastDigit number * 2 ^ 52 = (2 : ℚ) ^ Int.log 2 |number| := by
    rw [lastDigit, ← zpow_natCast, ← zpow_add₀ (by norm_num)]
    congr 1
    push_cast
    omega
  rw [same]
  exact_mod_cast Int.zpow_log_le_self one_lt_two (abs_pos.mpr nonzero)

theorem toDouble_zero : toDouble 0 = 0 := by
  have none : roundHalfEven ((0 : ℤ) : ℚ) = 0 := roundHalfEven_intCast 0
  rw [toDouble, zero_div, ← Int.cast_zero, none, Int.cast_zero, zero_mul]

/-- **A number is rounded by one part in 2^53 at most.** -/
theorem abs_toDouble_sub_le (number : ℚ) : |toDouble number - number| ≤ |number| / 2 ^ 53 := by
  rcases eq_or_ne number 0 with rfl | nonzero
  · rw [toDouble_zero, sub_zero, abs_zero, zero_div]
  · have digit := lastDigit_pos number
    have scaled : toDouble number - number =
        (roundHalfEven (number / lastDigit number) - number / lastDigit number) * lastDigit number := by
      rw [toDouble, sub_mul, div_mul_cancel₀ _ digit.ne']
    have half := abs_roundHalfEven_sub_le (number / lastDigit number)
    have digits := lastDigit_mul_le nonzero
    rw [scaled, abs_mul, abs_of_pos digit]
    calc |(roundHalfEven (number / lastDigit number) : ℚ) - number / lastDigit number| * lastDigit number
        ≤ 1 / 2 * lastDigit number := by gcongr
      _ ≤ |number| / 2 ^ 53 := by
        rw [le_div_iff₀ (by norm_num)]
        linarith

/-- A number that is a whole number of last digits is a double. -/
theorem toDouble_eq_self {number : ℚ} {digits : ℤ} (whole : number / lastDigit number = digits) :
    toDouble number = number := by
  rw [toDouble, whole, roundHalfEven_intCast, ← whole, div_mul_cancel₀ _ (lastDigit_pos number).ne']

/-- **Whole numbers up to 2^53 are doubles.** -/
theorem toDouble_natCast {number : ℕ} (small : number ≤ 2 ^ 53) : toDouble number = number := by
  rcases Nat.eq_zero_or_pos number with rfl | positive
  · rw [Nat.cast_zero, toDouble_zero]
  have digit : lastDigit (number : ℚ) = 2 ^ ((Nat.log 2 number : ℤ) - 52) := by
    rw [lastDigit, Nat.abs_cast, Int.log_natCast]
  rcases small.lt_or_eq with less | rfl
  · have digits : Nat.log 2 number ≤ 52 := Nat.lt_succ_iff.mp (Nat.log_lt_of_lt_pow positive.ne' less)
    have exponent : (Nat.log 2 number : ℤ) - 52 = -((52 - Nat.log 2 number : ℕ) : ℤ) := by omega
    refine @toDouble_eq_self _ ((number * 2 ^ (52 - Nat.log 2 number) : ℕ) : ℤ) ?_
    rw [digit, exponent, zpow_neg, div_inv_eq_mul, zpow_natCast]
    push_cast
    rfl
  · refine @toDouble_eq_self _ (2 ^ 52) ?_
    rw [digit, Nat.log_pow one_lt_two]
    norm_num

/-! ### Quotients -/

/-- A quotient of doubles, cut to a whole number. -/
def quotient (sum number : ℕ) : ℕ := ⌊toDouble (toDouble sum / number)⌋₊

variable {sum number : ℕ}

/-- **A quotient of a number below 2^53 is not rounded past a whole number.** -/
theorem quotient_eq_div (exact : sum < 2 ^ 53) (positive : 0 < number) : quotient sum number = sum / number := by
  rw [quotient, toDouble_natCast exact.le]
  have parts := Nat.div_add_mod sum number
  have rest := Nat.mod_lt sum positive
  have size : (0 : ℚ) < number := Nat.cast_pos.mpr positive
  generalize sum / number = whole at *
  generalize sum % number = remainder at *
  have value : (sum : ℚ) / number = whole + remainder / number := by
    rw [← parts]
    push_cast
    field_simp
  rcases Nat.eq_zero_or_pos remainder with none | between
  · subst none
    have small : whole ≤ 2 ^ 53 := by nlinarith
    rw [value, Nat.cast_zero, zero_div, add_zero, toDouble_natCast small, Nat.floor_natCast]
  · have more : (1 : ℚ) / number ≤ remainder / number := by
      gcongr
      exact_mod_cast between
    have less : (remainder : ℚ) / number ≤ 1 - 1 / number := by
      rw [le_sub_iff_add_le, ← add_div, div_le_one size]
      exact_mod_cast rest
    have error : (sum : ℚ) / number / 2 ^ 53 < 1 / number := by
      rw [div_right_comm]
      gcongr
      rw [div_lt_one (by positivity)]
      exact_mod_cast exact
    have unsigned : (0 : ℚ) ≤ whole := Nat.cast_nonneg _
    have bounds := abs_le.mp (abs_toDouble_sub_le ((sum : ℚ) / number))
    rw [abs_of_nonneg (by positivity : (0 : ℚ) ≤ sum / number)] at bounds
    rw [Nat.floor_eq_iff (by linarith)]
    constructor <;> linarith

/-- **A quotient of a word is too large by little.** -/
theorem quotient_mul_le (word : sum < 2 ^ 64) (positive : 0 < number) :
    quotient sum number * number ≤ sum + 2 ^ 13 := by
  have size : (0 : ℚ) < number := Nat.cast_pos.mpr positive
  have below : (sum : ℚ) ≤ 2 ^ 64 := by exact_mod_cast word.le
  have first := abs_le.mp (abs_toDouble_sub_le (sum : ℚ))
  rw [Nat.abs_cast] at first
  have unsigned : (0 : ℚ) ≤ sum := Nat.cast_nonneg _
  have dividend : 0 ≤ toDouble (sum : ℚ) := by linarith
  have second := abs_le.mp (abs_toDouble_sub_le (toDouble sum / number))
  rw [abs_of_nonneg (by positivity)] at second
  have product : toDouble (toDouble sum / number) * number ≤ toDouble sum + toDouble sum / 2 ^ 53 := by
    have scaled := mul_le_mul_of_nonneg_right second.2 size.le
    rw [sub_mul, div_right_comm, div_mul_cancel₀ _ size.ne', div_mul_cancel₀ _ size.ne'] at scaled
    linarith
  have positive' : 0 ≤ toDouble (toDouble (sum : ℚ) / number) := by
    have part : toDouble (sum : ℚ) / number / 2 ^ 53 ≤ toDouble (sum : ℚ) / number :=
      div_le_self (by positivity) (by norm_num)
    linarith
  have cut := mul_le_mul_of_nonneg_right (Nat.floor_le positive') size.le
  have total : ((quotient sum number * number : ℕ) : ℚ) ≤ ((sum + 2 ^ 13 : ℕ) : ℚ) := by
    rw [quotient]
    push_cast
    linarith
  exact_mod_cast total

end Binary64

end Library
