/-
**The averages of a statistic of the last values.**

After any values the vector holds the last ones and the running average is their mean (`Keeps`): until the window is
full a value is added to all of them, and then it takes the place of the oldest one, whose slot it overwrites.

* `average_exact`: the running average is the mean of the values in the window.
* `averagesLast_averaged`: the average that is worked out on request is that of the last values, as long as fewer are
  asked for than were added: the position of the last value, one less than their number, is taken for their number. The
  sum of the values that are taken has to be one that doubles hold exactly.
-/

import Erizo.Library.Recent
import Erizo.Library.Sliding
import Erizo.Model.MovingAverageStat
import Mathlib.Algebra.Order.Floor.Semifield
import Mathlib.Data.List.GetD

namespace Erizo

open Library Library.Binary64

namespace MovingAverageStat

/-! ### Means -/

/-- The sum of values. -/
def total (values : List UInt64) : ℕ := (values.map UInt64.toNat).sum

/-- The mean of values. -/
def mean (values : List UInt64) : ℚ := total values / values.length

theorem total_cons (value : UInt64) (values : List UInt64) : total (value :: values) = value.toNat + total values := by
  rw [total, List.map_cons, List.sum_cons, total]

theorem total_snoc (values : List UInt64) (value : UInt64) : total (values ++ [value]) = total values + value.toNat := by
  simp [total]

/-- A mean and the number of values give their sum. -/
theorem mean_mul_length (values : List UInt64) : mean values * values.length = total values := by
  cases values with
  | nil => simp [mean, total]
  | cons value values =>
      have several : ((value :: values).length : ℚ) ≠ 0 := Nat.cast_ne_zero.mpr (Nat.succ_ne_zero _)
      exact div_mul_cancel₀ _ several

/-- The mean of one more value. -/
theorem mean_snoc (values : List UInt64) (value : UInt64) :
    mean (values ++ [value]) = (mean values * values.length + value.toNat) / (values.length + 1) := by
  rw [mean_mul_length, mean, total_snoc, List.length_append, List.length_singleton]
  push_cast
  rfl

/-- The mean when a value takes the place of the oldest one. -/
theorem mean_slide (oldValue : UInt64) (values : List UInt64) (value : UInt64) :
    mean (values ++ [value]) =
      mean (oldValue :: values) + ((value.toNat : ℚ) - oldValue.toNat) / (oldValue :: values).length := by
  rw [mean, mean, total_snoc, total_cons, List.length_append, List.length_singleton, List.length_cons, ← add_div]
  congr 1
  push_cast
  ring

/-! ### The window -/

/-- What a statistic is after values. -/
structure Keeps (windowSize : UInt32) (values : List UInt64) (stat : MovingAverageStat) : Prop where
  window : stat.windowSize = windowSize
  size : stat.sampleVector.length = windowSize.toNat
  position : stat.nextSamplePosition = values.length
  samples : values ≠ [] → Sliding.Holds stat.sampleVector (fun index => values.getD index 0) (values.length - 1)
  average : stat.currentAverage = mean (recent windowSize.toNat values)

variable {windowSize : UInt32} {values : List UInt64} {stat : MovingAverageStat}

theorem keeps_create (windowSize : UInt32) : Keeps windowSize [] (create windowSize) where
  window := rfl
  size := List.length_replicate
  position := rfl
  samples := fun added => absurd rfl added
  average := by simp [create, mean, total]

/-- The last values are found at their positions. -/
theorem Keeps.sample_eq (keeps : Keeps windowSize values stat) {index : ℕ} (reached : index < values.length)
    (near : values.length ≤ index + windowSize.toNat) : stat.sample index = values[index] := by
  have holds := keeps.samples (List.ne_nil_of_length_pos (Nat.zero_lt_of_lt reached)) index (by omega)
    (by rw [keeps.size]; omega)
  rw [sample, keeps.window, ← keeps.size, holds, Option.getD_some]
  exact (List.getElem_eq_getD 0).symm

/-- The position of the next value is that of the oldest one in a full window. -/
theorem Keeps.sample_oldest (keeps : Keeps windowSize values stat) (positive : 0 < windowSize.toNat)
    (full : windowSize.toNat ≤ values.length) :
    stat.sample values.length = values[values.length - windowSize.toNat] := by
  rw [← keeps.sample_eq (by omega) (by omega), sample, sample, keeps.window]
  congr 2
  exact (Nat.mod_eq_sub_mod full)

/-- Unsigned differences, by which is the larger value. -/
theorem average_slide (average : ℚ) (oldValue value : UInt64) (size : ℚ) :
    (if oldValue < value then average + (value - oldValue).toNat / size else average - (oldValue - value).toNat / size) =
      average + ((value.toNat : ℚ) - oldValue.toNat) / size := by
  split_ifs with larger
  · have less : oldValue.toNat ≤ value.toNat := (UInt64.lt_iff_toNat_lt.mp larger).le
    rw [UInt64.toNat_sub_of_le _ _ less, Nat.cast_sub less]
  · have least : value.toNat ≤ oldValue.toNat := UInt64.le_iff_toNat_le.mp (UInt64.not_lt.mp larger)
    rw [UInt64.toNat_sub_of_le _ _ least, Nat.cast_sub least]
    ring

/-- **The average with one more value.** -/
theorem Keeps.nextAverage_eq (keeps : Keeps windowSize values stat) (positive : 0 < windowSize.toNat) (value : UInt64) :
    stat.nextAverage value = mean (recent windowSize.toNat (values ++ [value])) := by
  unfold nextAverage
  rw [keeps.window, keeps.position, keeps.average]
  split_ifs with growing
  · rw [recent_of_length_le growing.le, recent_of_length_le, mean_snoc]
    rw [List.length_append, List.length_singleton]
    exact growing
  · have full : windowSize.toNat ≤ values.length := not_lt.mp growing
    obtain ⟨others, size⟩ : ∃ others, windowSize.toNat = others + 1 := ⟨windowSize.toNat - 1, by omega⟩
    have window : recent windowSize.toNat values =
        values[values.length - windowSize.toNat] :: recent others values := by
      simp only [size]
      rw [recent_succ (by omega)]
      congr 2
      omega
    have slid : recent windowSize.toNat (values ++ [value]) = recent others values ++ [value] := by
      rw [recent_snoc, if_pos, window]
      · rfl
      · rw [List.length_append, length_recent, List.length_singleton]
        omega
    have length : (recent windowSize.toNat values).length = windowSize.toNat := by
      rw [length_recent, Nat.min_eq_left full]
    rw [slid, mean_slide values[values.length - windowSize.toNat], ← window, length]
    simp only [keeps.sample_oldest positive full, average_slide]

/-- The slots with one more value. -/
theorem Keeps.samples_add (keeps : Keeps windowSize values stat) (positive : 0 < windowSize.toNat) (value : UInt64) :
    Sliding.Holds (stat.sampleVector.set (values.length % stat.sampleVector.length) value)
      (fun index => (values ++ [value]).getD index 0) values.length := by
  have slots : 0 < stat.sampleVector.length := keeps.size ▸ positive
  have here : (values ++ [value]).getD values.length 0 = value := by simp
  by_cases first : values = []
  · subst first
    exact @Sliding.holds_first _ stat.sampleVector (fun index => ([] ++ [value]).getD index 0) slots
  · have added := List.length_pos_of_ne_nil first
    have earlier := (keeps.samples first).congr fun index reached =>
      List.getD_append values [value] 0 index (by omega)
    have next : (values ++ [value]).getD (values.length - 1 + 1) 0 = value := by rwa [Nat.sub_add_cancel added]
    have advanced := earlier.advance next slots
    rwa [Nat.sub_add_cancel added] at advanced

/-- **A value is added.** -/
theorem Keeps.add (keeps : Keeps windowSize values stat) (positive : 0 < windowSize.toNat) (value : UInt64) :
    Keeps windowSize (values ++ [value]) (stat.add value) where
  window := keeps.window
  size := by rw [MovingAverageStat.add, List.length_set, keeps.size]
  position := by rw [MovingAverageStat.add, keeps.position, List.length_append, List.length_singleton]
  samples := by
    intro _
    rw [MovingAverageStat.add, keeps.window, keeps.position, List.length_append, List.length_singleton,
      Nat.add_sub_cancel, ← keeps.size]
    exact keeps.samples_add positive value
  average := keeps.nextAverage_eq positive value

/-- **The statistic after values.** -/
theorem keeps_after (positive : 0 < windowSize.toNat) (values : List UInt64) :
    Keeps windowSize values (after windowSize values) := by
  induction values using List.reverseRecOn with
  | nil => exact keeps_create windowSize
  | append_singleton values value ih =>
      rw [after, List.foldl_concat]
      exact ih.add positive value

/-- **The running average is the mean of the values in the window**: for every window and all values. -/
theorem average_exact (positive : 1 ≤ windowSize) (values : List UInt64) :
    (after windowSize values).currentAverage = mean (recent windowSize.toNat values) :=
  (keeps_after (UInt32.le_iff_toNat_le.mp positive) values).average

/-- The window has moved on by one value. -/
theorem average_exact_slid : (after 2 [5, 6, 9]).currentAverage = mean [6, 9] :=
  average_exact (by decide) [5, 6, 9]

/-! ### Averages on request -/

/-- The words that `getAverage` adds up are those of the last values. -/
theorem Keeps.calculatedSum_eq (keeps : Keeps windowSize values stat) {number : ℕ} (within : number ≤ windowSize.toNat)
    (reached : number ≤ values.length) :
    (stat.calculatedSum number).toNat = total (recent number values) % 2 ^ 64 := by
  induction number with
  | zero => simp [calculatedSum, recent, total]
  | succ number ih =>
      have position : stat.currentSamplePosition = values.length - 1 := by
        rw [currentSamplePosition, keeps.position, if_neg (by omega)]
      have last : stat.sample (stat.currentSamplePosition - number) = values[values.length - 1 - number] := by
        rw [position]
        exact keeps.sample_eq (by omega) (by omega)
      have before := ih (by omega) (by omega)
      rw [calculatedSum] at before ⊢
      rw [List.range_succ, List.foldl_concat, UInt64.toNat_add, before, last, recent_succ (by omega), total_cons,
        Nat.mod_add_mod, add_comm]

/-- `value(n)` is the mean of the last `n` values, of those in the window and of those there are, cut to a whole
number. -/
def AveragesLast (windowSize sampleNumber : UInt32) (values : List UInt64) : Prop :=
  ∃ average, (after windowSize values).valueOf sampleNumber = some average ∧
    (average.toNat : ℤ) = ⌊mean (recent (min sampleNumber.toNat windowSize.toNat) values)⌋

/-- How many values are averaged. -/
def averaged (windowSize sampleNumber : UInt32) (values : List UInt64) : ℕ :=
  min (min sampleNumber.toNat windowSize.toNat) (values.length - 1)

/-- **What is averaged on request**: the last values, of which there is one less than were added. -/
theorem getAverage_eq (positive : 0 < windowSize.toNat) (sampleNumber : UInt32) (added : values ≠ []) :
    (after windowSize values).getAverage sampleNumber =
      if averaged windowSize sampleNumber values = 0 then none
      else some (toDouble (toDouble (total (recent (averaged windowSize sampleNumber values) values) % 2 ^ 64 : ℕ) /
        averaged windowSize sampleNumber values)) := by
  have keeps := keeps_after positive values
  have length := List.length_pos_of_ne_nil added
  have taken : (after windowSize values).samplesTaken sampleNumber = averaged windowSize sampleNumber values := by
    rw [samplesTaken, averaged, currentSamplePosition, keeps.window, keeps.position, if_neg length.ne']
  have within : averaged windowSize sampleNumber values ≤ windowSize.toNat :=
    (min_le_left _ _).trans (min_le_right _ _)
  have reached : averaged windowSize sampleNumber values ≤ values.length :=
    (min_le_right _ _).trans (Nat.sub_le _ _)
  rw [getAverage]
  simp only [taken]
  rw [keeps.calculatedSum_eq within reached]

/-- Sums of words, by how many there are. -/
theorem total_le (values : List UInt64) : total values ≤ (2 ^ 64 - 1) * values.length := by
  induction values with
  | nil => rfl
  | cons value values ih =>
      have word := value.toNat_lt
      rw [total_cons, List.length_cons]
      omega

/-- A mean of words is a word. -/
theorem total_div_lt (values : List UInt64) : total values / values.length < 2 ^ 64 :=
  (Nat.div_le_of_le_mul ((total_le values).trans_eq (Nat.mul_comm _ _))).trans_lt (by norm_num)

/-- The average in whole numbers. -/
theorem averagesLast_iff_quotient (positive : 0 < windowSize.toNat) (sampleNumber : UInt32) (added : values ≠ []) :
    AveragesLast windowSize sampleNumber values ↔
      averaged windowSize sampleNumber values ≠ 0 ∧
        quotient (total (recent (averaged windowSize sampleNumber values) values) % 2 ^ 64)
            (averaged windowSize sampleNumber values) =
          total (recent (min sampleNumber.toNat windowSize.toNat) values) /
            (recent (min sampleNumber.toNat windowSize.toNat) values).length := by
  rw [AveragesLast, valueOf, getAverage_eq positive sampleNumber added, mean, Rat.floor_natCast_div_natCast]
  split_ifs with none
  · exact iff_of_false (fun ⟨_, impossible, _⟩ => nomatch impossible) fun both => both.1 none
  · rw [and_iff_right none, Option.bind_some, ← quotient]
    have word := total_div_lt (recent (min sampleNumber.toNat windowSize.toNat) values)
    constructor
    · rintro ⟨average, value, same⟩
      split_ifs at value with fits
      obtain rfl := Option.some.inj value
      rw [UInt64.toNat_ofNat', Nat.mod_eq_of_lt fits] at same
      exact_mod_cast same
    · intro same
      rw [same, if_pos word]
      refine ⟨_, rfl, ?_⟩
      rw [UInt64.toNat_ofNat', Nat.mod_eq_of_lt word]
      norm_cast

/-! ### When the right values are averaged -/

/-- **A sum that wraps gives a quotient that is much too small**, however it is rounded. -/
theorem quotient_wraps {sum number : ℕ} (positive : 0 < number) (wraps : 2 ^ 64 ≤ sum) :
    quotient (sum % 2 ^ 64) number * number + (2 ^ 64 - 2 ^ 13) ≤ sum := by
  have close := quotient_mul_le (Nat.mod_lt sum (by norm_num)) positive
  omega

/-- The quotient of a sum that wraps is wrong. -/
theorem quotient_ne {sum number : ℕ} (positive : 0 < number) (few : number < 2 ^ 32) (wraps : 2 ^ 64 ≤ sum) :
    quotient (sum % 2 ^ 64) number ≠ sum / number := by
  intro same
  have below := quotient_wraps positive wraps
  have above := Nat.lt_mul_div_succ sum positive
  rw [← same, Nat.mul_succ, Nat.mul_comm] at above
  omega

/-- The quotient of a sum that wraps is wrong, also when one less number is divided by. -/
theorem quotient_ne_succ {sum number first : ℕ} (several : 2 ≤ number) (few : number < 2 ^ 32)
    (wraps : 2 ^ 64 ≤ sum) : quotient (sum % 2 ^ 64) number ≠ (first + sum) / (number + 1) := by
  intro same
  have positive : 0 < number := by omega
  have close := quotient_mul_le (Nat.mod_lt sum (by norm_num)) positive
  have below := quotient_wraps positive wraps
  have above := Nat.lt_mul_div_succ (first + sum) (Nat.succ_pos number)
  rw [Nat.succ_eq_add_one, ← same] at above
  have word : sum % 2 ^ 64 < 2 ^ 64 := Nat.mod_lt _ (by norm_num)
  generalize quotient (sum % 2 ^ 64) number = quotient at *
  have half : quotient * 2 ≤ quotient * number := Nat.mul_le_mul_left quotient several
  have product : (number + 1) * (quotient + 1) = quotient * number + number + quotient + 1 := by ring
  omega

/-- One more number changes the quotient of a sum by how many there are, or does not. -/
theorem div_eq_add_div_iff {number : ℕ} (positive : 0 < number) (sum first : ℕ) :
    sum / number = (first + sum) / (number + 1) ↔
      sum / number ≤ first + sum % number ∧ first + sum % number ≤ sum / number + number := by
  have parts := Nat.div_add_mod sum number
  generalize sum / number = quotient at *
  generalize sum % number = rest at *
  rw [eq_comm, Nat.div_eq_iff (Nat.succ_pos number), Nat.mul_succ, Nat.mul_comm quotient]
  generalize number * quotient = product at *
  omega

/-- The mean of the values is cut to the same number with the first one and without it. -/
structure FirstFits (first : UInt64) (others : List UInt64) : Prop where
  several : others ≠ []
  exact : total others < 2 ^ 53
  lower : total others / others.length ≤ first.toNat + total others % others.length
  upper : first.toNat + total others % others.length ≤ total others / others.length + others.length

/-- When the right values are averaged: fewer are asked for than there are, or the first one makes no difference. All
sums up to that of the values which are taken are doubles. -/
def Averaged (windowSize sampleNumber : UInt32) (values : List UInt64) : Prop :=
  if (min sampleNumber.toNat windowSize.toNat) < values.length then
    total (recent (min sampleNumber.toNat windowSize.toNat) values) < 2 ^ 53
  else ∃ first others, values = first :: others ∧ FirstFits first others

/-- A sum that a word holds and that is more than doubles hold exactly. -/
def Rounded (sum : ℕ) : Prop := 2 ^ 53 ≤ sum ∧ sum < 2 ^ 64

/-- A right average is one of an exact sum, or of one that is rounded. -/
theorem exact_or_rounded {sum : ℕ} (fits : ¬ 2 ^ 64 ≤ sum) : sum < 2 ^ 53 ∨ Rounded sum :=
  (lt_or_ge sum (2 ^ 53)).imp_right fun large => ⟨large, not_le.mp fits⟩

/-- The quotient of a sum that is exact. -/
theorem quotient_exact {sum number : ℕ} (exact : sum < 2 ^ 53) (positive : 0 < number) :
    quotient (sum % 2 ^ 64) number = sum / number := by
  rw [Nat.mod_eq_of_lt (exact.trans (by norm_num)), quotient_eq_div exact positive]

/-- **Without the first value** the quotient is right when the first one makes no difference. -/
theorem FirstFits.quotient_eq {first : UInt64} {others : List UInt64} (fits : FirstFits first others) :
    quotient (total others % 2 ^ 64) others.length = total (first :: others) / (others.length + 1) := by
  have positive := List.length_pos_of_ne_nil fits.several
  rw [total_cons, quotient_exact fits.exact positive, div_eq_add_div_iff positive]
  exact ⟨fits.lower, fits.upper⟩

/-- **A right quotient without the first value**: it makes no difference, or the sum is rounded. -/
theorem firstFits_or_rounded {first : UInt64} {others : List UInt64} (few : others.length < 2 ^ 32)
    (several : others.length ≠ 0)
    (same : quotient (total others % 2 ^ 64) others.length = total (first :: others) / (others.length + 1)) :
    FirstFits first others ∨ Rounded (total others) := by
  have positive : 0 < others.length := Nat.pos_of_ne_zero several
  have words := total_le others
  rw [total_cons] at same
  have fits : ¬ 2 ^ 64 ≤ total others := fun wraps => quotient_ne_succ (by omega) few wraps same
  refine (exact_or_rounded fits).imp_left fun exact => ?_
  rw [quotient_exact exact positive, div_eq_add_div_iff positive] at same
  exact ⟨List.ne_nil_of_length_pos positive, exact, same.1, same.2⟩

/-- **When a requested average is right**, for every window, all values and every number of them that is asked for. The
condition is enough, and it is needed but for sums that are rounded: there it depends on the last digits of the values
whether two roundings change the average. -/
theorem averagesLast_averaged (positive : 1 ≤ windowSize) {sampleNumber : UInt32} (asked : 1 ≤ sampleNumber)
    (added : values ≠ []) :
    (Averaged windowSize sampleNumber values → AveragesLast windowSize sampleNumber values) ∧
      (AveragesLast windowSize sampleNumber values → Averaged windowSize sampleNumber values ∨
        Rounded (total (recent (averaged windowSize sampleNumber values) values))) := by
  have window := UInt32.le_iff_toNat_le.mp positive
  have least := UInt32.le_iff_toNat_le.mp asked
  have both : min sampleNumber.toNat windowSize.toNat ≤ windowSize.toNat := min_le_right _ _
  have several : 1 ≤ min sampleNumber.toNat windowSize.toNat := le_min least window
  have word := windowSize.toNat_lt
  rw [averagesLast_iff_quotient window sampleNumber added, Averaged, averaged, length_recent]
  generalize min sampleNumber.toNat windowSize.toNat = number at *
  split_ifs with fewer
  · rw [min_eq_left (by omega : number ≤ values.length - 1), min_eq_left fewer.le]
    constructor
    · exact fun exact => ⟨by omega, quotient_exact exact several⟩
    · rintro ⟨-, same⟩
      exact exact_or_rounded fun wraps => quotient_ne several (by omega) wraps same
  · obtain ⟨first, others, rfl⟩ := List.exists_cons_of_ne_nil added
    have all : recent number (first :: others) = first :: others := recent_of_length_le (not_lt.mp fewer)
    have rest : recent others.length (first :: others) = others := by simp [recent]
    rw [List.length_cons] at fewer ⊢
    rw [all, Nat.add_sub_cancel, min_eq_right (by omega), min_eq_right (by omega), rest]
    constructor
    · rintro ⟨_, _, same, fits⟩
      obtain ⟨rfl, rfl⟩ := List.cons_eq_cons.mp same
      exact ⟨(List.length_pos_of_ne_nil fits.several).ne', fits.quotient_eq⟩
    · rintro ⟨nonempty, same⟩
      exact (firstFits_or_rounded (by omega) nonempty same).imp_left fun fits => ⟨first, others, rfl, fits⟩

/-- Two of three values are averaged. -/
theorem averagesLast_averaged_two : AveragesLast 5 2 [5, 6, 9] :=
  (averagesLast_averaged (by decide) (by decide) (List.cons_ne_nil _ _)).1 (by simp [Averaged, recent, total])

/-- The average of the only value is not a number. -/
theorem averagesLast_only_value :
    ¬ ∀ (windowSize sampleNumber : UInt32) (values : List UInt64), 1 ≤ windowSize → 1 ≤ sampleNumber → values ≠ [] →
      AveragesLast windowSize sampleNumber values := by
  intro averages
  obtain ⟨_, impossible, _⟩ := averages 5 1 [7] (by decide) (by decide) (List.cons_ne_nil _ _)
  exact nomatch impossible

/-- A value that is no double is rounded. -/
example : (after 5 [0, 2 ^ 53 + 1]).valueOf 1 = some (2 ^ 53) := by decide +kernel

end MovingAverageStat

end Erizo
