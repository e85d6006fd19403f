/-
**The window of a statistic stays aligned with time.**

The intervals are numbered from the first sample on. The slots hold the sums of the last ones (`Tracks`), and every
way in which `add` moves the window is made of single intervals (`Tracks.advance`).

* `add_aligned`: in every run without irregular steps. `intervals_to_pass` is cut to 32 bits and taken as a signed
  number, also where the subtraction in it wraps, and a gap that is longer than the window is counted one interval
  short.
-/

import Erizo.Library.Sliding
import Erizo.Model.MovingIntervalRateStat

namespace Erizo

open Library

namespace MovingIntervalRateStat

/-! ### Intervals -/

/-- The interval in which a moment lies. -/
def intervalOf (start size time : ℕ) : ℕ := (time - start) / size

/-- The sum of what was added during an interval. -/
def added (samples : List Sample) (start size interval : ℕ) : UInt64 :=
  ((samples.filter fun sample => intervalOf start size sample.time.toNat = interval).map Sample.value).sum

theorem added_append (samples : List Sample) (sample : Sample) (start size interval : ℕ) :
    added (samples ++ [sample]) start size interval =
      added samples start size interval +
        if intervalOf start size sample.time.toNat = interval then sample.value else 0 := by
  rw [added, List.filter_append, List.map_append, List.sum_append, List.filter_singleton]
  by_cases here : intervalOf start size sample.time.toNat = interval
  · rw [if_pos here, decide_eq_true here]
    exact congrArg (added samples start size interval + ·) List.sum_singleton
  · rw [if_neg here, decide_eq_false here]
    rfl

theorem added_eq_zero {samples : List Sample} {start size interval : ℕ}
    (apart : ∀ sample ∈ samples, intervalOf start size sample.time.toNat ≠ interval) :
    added samples start size interval = 0 := by
  have none : (samples.filter fun sample => intervalOf start size sample.time.toNat = interval) = [] :=
    List.filter_eq_nil_iff.mpr fun sample member => by
      rw [decide_eq_true_iff]
      exact apart sample member
  rw [added, none]
  rfl

/-- Where a moment lies in its interval. -/
theorem intervalOf_spec {start size time : ℕ} (positive : 0 < size) (later : start ≤ time) :
    start + intervalOf start size time * size ≤ time ∧ time < start + (intervalOf start size time + 1) * size := by
  have parts := Nat.div_add_mod (time - start) size
  have rest := Nat.mod_lt (time - start) positive
  rw [intervalOf, Nat.add_mul, Nat.one_mul, Nat.mul_comm ((time - start) / size)]
  omega

/-- A moment lies in one interval only. -/
theorem intervalOf_eq {start size time interval : ℕ} (lower : start + interval * size ≤ time)
    (upper : time < start + (interval + 1) * size) : intervalOf start size time = interval := by
  rw [Nat.add_mul, Nat.one_mul] at upper
  refine Nat.div_eq_of_lt_le ?_ ?_
  · omega
  · rw [Nat.add_mul, Nat.one_mul]
    omega

/-- A moment lies in the interval after those that were passed since the end of another one. -/
theorem intervalOf_passed {start size ending time interval : ℕ} (positive : 0 < size)
    (ends : ending = start + (interval + 1) * size) (outside : ending ≤ time) :
    intervalOf start size time = interval + (time - ending) / size + 1 := by
  obtain ⟨lower, upper⟩ := intervalOf_spec positive outside
  rw [intervalOf] at lower upper
  refine intervalOf_eq ?_ ?_
  · calc start + (interval + (time - ending) / size + 1) * size = ending + (time - ending) / size * size := by
          rw [ends]; ring
      _ ≤ time := lower
  · calc time < ending + ((time - ending) / size + 1) * size := upper
      _ = start + (interval + (time - ending) / size + 1 + 1) * size := by rw [ends]; ring

/-! ### The slots -/

/-- **The slots of a statistic follow the sums of the intervals**, up to one of them. -/
structure Tracks (stat : MovingIntervalRateStat) (samples : List Sample) (interval : ℕ) : Prop where
  several : 2 ≤ stat.intervalsInWindow.toNat
  current : stat.currentInterval = interval % stat.intervalsInWindow.toNat
  accumulated : stat.accumulatedIntervals.toNat = interval + 1
  length : stat.sampleVector.length = stat.intervalsInWindow.toNat
  slots : Sliding.Holds stat.sampleVector (added samples stat.calculationStartMs.toNat stat.intervalSizeMs.toNat) interval
  before : ∀ sample ∈ samples,
    intervalOf stat.calculationStartMs.toNat stat.intervalSizeMs.toNat sample.time.toNat ≤ interval

/-- The times of the window fit the number of intervals. -/
structure Windowed (stat : MovingIntervalRateStat) : Prop where
  ends : stat.currentWindowEndMs.toNat =
    stat.calculationStartMs.toNat + stat.accumulatedIntervals.toNat * stat.intervalSizeMs.toNat
  begins : stat.currentWindowStartMs.toNat = stat.calculationStartMs.toNat +
    (stat.accumulatedIntervals.toNat - min stat.accumulatedIntervals.toNat stat.intervalsInWindow.toNat) *
      stat.intervalSizeMs.toNat

section Slots

variable {stat : MovingIntervalRateStat} {samples : List Sample} {interval : ℕ}

theorem toNat_succ {count : UInt64} {number : ℕ} (same : count.toNat = number) (room : number + 1 < 2 ^ 64) :
    (count + 1).toNat = number + 1 := by
  rw [UInt64.toNat_add, same]
  exact Nat.mod_eq_of_lt room

/-- **The next interval begins.** -/
theorem Tracks.advance (tracks : Tracks stat samples interval) (room : interval + 2 < 2 ^ 64) {slot : ℕ}
    (next : slot = (interval + 1) % stat.intervalsInWindow.toNat) :
    Tracks { stat with
      currentInterval := slot
      sampleVector := stat.sampleVector.set slot 0
      accumulatedIntervals := stat.accumulatedIntervals + 1 } samples (interval + 1) where
  several := tracks.several
  current := next
  accumulated := toNat_succ tracks.accumulated room
  length := by
    show (stat.sampleVector.set slot 0).length = _
    rw [List.length_set, tracks.length]
  slots := by
    have empty : added samples stat.calculationStartMs.toNat stat.intervalSizeMs.toNat (interval + 1) = 0 :=
      added_eq_zero fun sample member => ne_of_lt (Nat.lt_succ_of_le (tracks.before sample member))
    have positive : 0 < stat.sampleVector.length := by
      rw [tracks.length]
      exact lt_of_lt_of_le Nat.zero_lt_two tracks.several
    have holds := tracks.slots.advance empty positive
    rw [tracks.length, ← next] at holds
    exact holds
  before sample member := Nat.le_succ_of_le (tracks.before sample member)

theorem getNextInterval_eq (tracks : Tracks stat samples interval) :
    stat.getNextInterval stat.currentInterval = (interval + 1) % stat.intervalsInWindow.toNat := by
  rw [getNextInterval, tracks.current, Nat.mod_add_mod]

/-- Intervals are passed one by one. -/
theorem Tracks.pass (count : ℕ) (tracks : Tracks stat samples interval) (room : interval + count + 1 < 2 ^ 64) :
    Tracks (passIntervals count stat) samples (interval + count) ∧
      ∃ current slots accumulated, passIntervals count stat =
        { stat with currentInterval := current, sampleVector := slots, accumulatedIntervals := accumulated } := by
  induction count generalizing stat interval with
  | zero => exact ⟨tracks, _, _, _, rfl⟩
  | succ count ih =>
      have next := tracks.advance (by omega) (getNextInterval_eq tracks)
      obtain ⟨passed, current, slots, accumulated, same⟩ := ih next (by omega)
      rw [Nat.add_right_comm, Nat.add_assoc] at passed
      exact ⟨passed, current, slots, accumulated, same⟩

/-- The times of the window are brought up to date. -/
theorem windowed_updateWindowTimes
    (room : stat.calculationStartMs.toNat + stat.accumulatedIntervals.toNat * stat.intervalSizeMs.toNat < 2 ^ 64) :
    Windowed stat.updateWindowTimes := by
  have few : (stat.accumulatedIntervals - min stat.accumulatedIntervals stat.intervalsInWindow.toUInt64).toNat =
      stat.accumulatedIntervals.toNat - min stat.accumulatedIntervals.toNat stat.intervalsInWindow.toNat := by
    have wide : stat.intervalsInWindow.toUInt64.toNat = stat.intervalsInWindow.toNat := UInt32.toNat_toUInt64 _
    rw [show min stat.accumulatedIntervals stat.intervalsInWindow.toUInt64 = if stat.accumulatedIntervals ≤
      stat.intervalsInWindow.toUInt64 then stat.accumulatedIntervals else stat.intervalsInWindow.toUInt64 from rfl]
    split
    · rename_i small
      have less := UInt64.le_iff_toNat_le.mp small
      rw [wide] at less
      rw [min_eq_left less, sub_self, Nat.sub_self]
      rfl
    · rename_i large
      have less := UInt64.le_iff_toNat_le.not.mp large
      rw [wide, not_le] at less
      rw [min_eq_right less.le, UInt64.toNat_sub_of_le _ _ (UInt64.le_iff_toNat_le.mpr (wide ▸ less.le)), wide]
  have product : ∀ count : UInt64, count.toNat ≤ stat.accumulatedIntervals.toNat →
      (stat.calculationStartMs + count * stat.intervalSizeMs).toNat =
        stat.calculationStartMs.toNat + count.toNat * stat.intervalSizeMs.toNat := by
    intro count less
    have bound := Nat.mul_le_mul_right stat.intervalSizeMs.toNat less
    rw [UInt64.toNat_add, UInt64.toNat_mul, Nat.mod_eq_of_lt (show count.toNat * _ < 2 ^ 64 by omega),
      Nat.mod_eq_of_lt (by omega)]
  refine ⟨product _ le_rfl, ?_⟩
  have begins := product _ (few ▸ Nat.sub_le _ _)
  rw [few] at begins
  exact begins

/-- The interval of a moment, as a slot. -/
theorem getIntervalForTimeMs_eq {nowMs : UInt64} (later : stat.calculationStartMs ≤ nowMs) :
    stat.getIntervalForTimeMs nowMs =
      intervalOf stat.calculationStartMs.toNat stat.intervalSizeMs.toNat nowMs.toNat % stat.intervalsInWindow.toNat := by
  rw [getIntervalForTimeMs, UInt64.toNat_div, UInt64.toNat_sub_of_le _ _ later, intervalOf]

/-- A sample of the current interval is recorded. -/
theorem Tracks.record (tracks : Tracks stat samples interval) {sample : Sample}
    (here : intervalOf stat.calculationStartMs.toNat stat.intervalSizeMs.toNat sample.time.toNat = interval) :
    Tracks (stat.record sample.value) (samples ++ [sample]) interval where
  several := tracks.several
  current := tracks.current
  accumulated := tracks.accumulated
  length := by
    show (stat.sampleVector.modify _ _).length = stat.intervalsInWindow.toNat
    rw [List.length_modify, tracks.length]
  slots := by
    show Sliding.Holds (stat.sampleVector.modify stat.currentInterval (· + sample.value))
      (added (samples ++ [sample]) stat.calculationStartMs.toNat stat.intervalSizeMs.toNat) interval
    rw [tracks.current, ← tracks.length]
    refine tracks.slots.modify _ ?_ fun index less => ?_
    · rw [added_append, if_pos here]
    · rw [added_append, if_neg (fun same => absurd (here.symm.trans same) (ne_of_gt less)), add_zero]
  before other member := by
    rcases List.mem_append.mp member with old | new
    · exact tracks.before other old
    · obtain rfl := List.mem_singleton.mp new
      exact le_of_eq here

/-- **A sample goes to the current interval or to the next one.** -/
theorem Tracks.addToInterval (tracks : Tracks stat samples interval) {sample : Sample}
    (later : stat.calculationStartMs ≤ sample.time)
    (near : intervalOf stat.calculationStartMs.toNat stat.intervalSizeMs.toNat sample.time.toNat =
      interval ∧ Windowed stat ∨
      intervalOf stat.calculationStartMs.toNat stat.intervalSizeMs.toNat sample.time.toNat = interval + 1)
    (room : interval + 2 < 2 ^ 64)
    (ends : stat.calculationStartMs.toNat + (interval + 2) * stat.intervalSizeMs.toNat < 2 ^ 64 ∨
      intervalOf stat.calculationStartMs.toNat stat.intervalSizeMs.toNat sample.time.toNat = interval) :
    Tracks (stat.addToInterval sample.time sample.value) (samples ++ [sample])
        (intervalOf stat.calculationStartMs.toNat stat.intervalSizeMs.toNat sample.time.toNat) ∧
      Windowed (stat.addToInterval sample.time sample.value) := by
  have slot := getIntervalForTimeMs_eq later
  unfold MovingIntervalRateStat.addToInterval
  simp only
  rcases near with ⟨here, windowed⟩ | next
  · rw [here] at slot ⊢
    rw [if_neg (not_not_intro (slot.trans tracks.current.symm))]
    exact ⟨tracks.record here, windowed.ends, windowed.begins⟩
  · have apart : interval % stat.intervalsInWindow.toNat ≠ (interval + 1) % stat.intervalsInWindow.toNat :=
      Sliding.mod_ne_of_near (Nat.lt_succ_self _) (by have := tracks.several; omega)
    rw [next] at slot ⊢
    rw [if_pos (by rw [slot, tracks.current]; exact apart.symm)]
    have advanced := tracks.advance room slot
    have bound : stat.calculationStartMs.toNat + (interval + 2) * stat.intervalSizeMs.toNat < 2 ^ 64 :=
      ends.resolve_right (by rw [next]; omega)
    have windowed := @windowed_updateWindowTimes { stat with
      currentInterval := stat.getIntervalForTimeMs sample.time
      sampleVector := stat.sampleVector.set (stat.getIntervalForTimeMs sample.time) 0
      accumulatedIntervals := stat.accumulatedIntervals + 1 } (by
        rw [advanced.accumulated]
        exact bound)
    have recorded := advanced.record next
    exact ⟨⟨recorded.several, recorded.current, recorded.accumulated, recorded.length, recorded.slots, recorded.before⟩,
      windowed.ends, windowed.begins⟩

end Slots

/-! ### Samples -/

/-- **A sample for which `intervals_to_pass` is right**: the interval is at least a millisecond long; within the
current interval the quotient of the wrapped difference, cut to 32 bits and taken with its sign, is not positive; and
what lies between the window and the sample is less than the window and less than `2^31` intervals. -/
def Regular (stat : MovingIntervalRateStat) (sample : Sample) : Prop :=
  0 < stat.intervalSizeMs.toNat ∧
    let ends := (stat.startWindow sample.time).currentWindowEndMs.toNat
    if sample.time.toNat < ends then
      Int.bmod ((2 ^ 64 - (ends - sample.time.toNat)) / stat.intervalSizeMs.toNat : ℕ) (2 ^ 32) ≤ 0
    else (sample.time.toNat - ends) / stat.intervalSizeMs.toNat < min stat.intervalsInWindow.toNat (2 ^ 31)

instance (stat : MovingIntervalRateStat) : DecidablePred stat.Regular := fun sample => by
  unfold Regular
  infer_instance

section Adding

variable {stat : MovingIntervalRateStat} {samples : List Sample} {interval : ℕ} {sample : Sample}

theorem intervalsToPass_eq {difference : ℕ} (same : (sample.time - stat.currentWindowEndMs).toNat = difference) :
    stat.intervalsToPass sample.time = Int.bmod (difference / stat.intervalSizeMs.toNat : ℕ) (2 ^ 32) :=
  congrArg (fun count : ℕ => Int.bmod count (2 ^ 32))
    ((UInt64.toNat_div _ _).trans (congrArg (· / stat.intervalSizeMs.toNat) same))

/-- The quotient for a sample in the current interval. -/
theorem intervalsToPass_wrapped (inside : sample.time.toNat < stat.currentWindowEndMs.toNat) :
    stat.intervalsToPass sample.time = Int.bmod
      ((2 ^ 64 - (stat.currentWindowEndMs.toNat - sample.time.toNat)) / stat.intervalSizeMs.toNat : ℕ) (2 ^ 32) := by
  have word := stat.currentWindowEndMs.toNat_lt
  refine intervalsToPass_eq ?_
  rw [UInt64.toNat_sub]
  omega

/-- The quotient for a sample after it. -/
theorem intervalsToPass_after (outside : stat.currentWindowEndMs.toNat ≤ sample.time.toNat)
    (few : (sample.time.toNat - stat.currentWindowEndMs.toNat) / stat.intervalSizeMs.toNat < 2 ^ 31) :
    stat.intervalsToPass sample.time =
      ((sample.time.toNat - stat.currentWindowEndMs.toNat) / stat.intervalSizeMs.toNat : ℕ) := by
  refine (intervalsToPass_eq (UInt64.toNat_sub_of_le _ _ (UInt64.le_iff_toNat_le.mpr outside))).trans ?_
  generalize (sample.time.toNat - stat.currentWindowEndMs.toNat) / stat.intervalSizeMs.toNat = count at few
  exact Int.bmod_eq_of_le (by omega) (by omega)

/-- What a sample leaves as it is. -/
theorem addToInterval_frame (stat : MovingIntervalRateStat) (nowMs value : UInt64) :
    (stat.addToInterval nowMs value).calculationStartMs = stat.calculationStartMs ∧
      (stat.addToInterval nowMs value).intervalSizeMs = stat.intervalSizeMs ∧
      (stat.addToInterval nowMs value).intervalsInWindow = stat.intervalsInWindow ∧
      (stat.addToInterval nowMs value).initialized = stat.initialized := by
  unfold MovingIntervalRateStat.addToInterval
  simp only
  split
  · exact ⟨rfl, rfl, rfl, rfl⟩
  · exact ⟨rfl, rfl, rfl, rfl⟩

/-- **A regular sample is added to its interval.** -/
theorem Tracks.add (tracks : Tracks stat samples interval) (windowed : Windowed stat) (started : stat.initialized = true)
    (later : stat.calculationStartMs.toNat + interval * stat.intervalSizeMs.toNat ≤ sample.time.toNat)
    (reading : sample.time.toNat < 2 ^ 63) (size : stat.intervalSizeMs.toNat < 2 ^ 63) (regular : stat.Regular sample) :
    Tracks (stat.add sample.time sample.value) (samples ++ [sample])
        (intervalOf stat.calculationStartMs.toNat stat.intervalSizeMs.toNat sample.time.toNat) ∧
      Windowed (stat.add sample.time sample.value) ∧
      (stat.add sample.time sample.value).calculationStartMs = stat.calculationStartMs ∧
      (stat.add sample.time sample.value).intervalSizeMs = stat.intervalSizeMs ∧
      (stat.add sample.time sample.value).intervalsInWindow = stat.intervalsInWindow ∧
      (stat.add sample.time sample.value).initialized = true := by
  have same : stat.startWindow sample.time = stat := by rw [startWindow, if_pos started]
  have ends := windowed.ends
  rw [tracks.accumulated] at ends
  obtain ⟨positive, passes⟩ := regular
  simp only [same] at passes
  have small : interval ≤ interval * stat.intervalSizeMs.toNat := Nat.le_mul_of_pos_right _ positive
  have after : stat.calculationStartMs ≤ sample.time := UInt64.le_iff_toNat_le.mpr (by omega)
  unfold MovingIntervalRateStat.add
  simp only [same]
  by_cases inside : sample.time.toNat < stat.currentWindowEndMs.toNat
  · rw [if_pos inside, ← intervalsToPass_wrapped inside] at passes
    have here := intervalOf_eq later (ends ▸ inside)
    rw [if_neg fun passing => absurd passing.1 (not_lt.mpr passes), Int.toNat_of_nonpos passes, passIntervals]
    obtain ⟨added, window⟩ := tracks.addToInterval after (Or.inl ⟨here, windowed⟩) (by omega) (Or.inr here)
    obtain ⟨start, sizes, count, running⟩ := addToInterval_frame stat sample.time sample.value
    exact ⟨added, window, start, sizes, count, running.trans started⟩
  · rw [if_neg inside] at passes
    have outside := not_lt.mp inside
    obtain ⟨fits, word⟩ := lt_min_iff.mp passes
    rw [intervalsToPass_after outside word]
    have next := intervalOf_passed positive ends outside
    obtain ⟨lower, -⟩ := intervalOf_spec positive (UInt64.le_iff_toNat_le.mp after)
    rw [next] at lower
    generalize (sample.time.toNat - stat.currentWindowEndMs.toNat) / stat.intervalSizeMs.toNat = passed at *
    rw [if_neg fun passing => absurd fits (not_lt.mpr (Int.toNat_natCast passed ▸ passing.2)), Int.toNat_natCast]
    have little : interval + passed + 1 ≤ (interval + passed + 1) * stat.intervalSizeMs.toNat :=
      Nat.le_mul_of_pos_right _ positive
    obtain ⟨moved, current, slots, accumulated, passing⟩ := tracks.pass passed (by omega)
    rw [passing] at moved ⊢
    have room : stat.calculationStartMs.toNat + (interval + passed + 2) * stat.intervalSizeMs.toNat < 2 ^ 64 := by
      calc stat.calculationStartMs.toNat + (interval + passed + 2) * stat.intervalSizeMs.toNat
          = stat.calculationStartMs.toNat + (interval + passed + 1) * stat.intervalSizeMs.toNat +
              stat.intervalSizeMs.toNat := by ring
        _ < 2 ^ 64 := by omega
    obtain ⟨added, window⟩ := moved.addToInterval after (Or.inr next) (by omega) (Or.inl room)
    obtain ⟨start, sizes, count, running⟩ := addToInterval_frame
      { stat with currentInterval := current, sampleVector := slots, accumulatedIntervals := accumulated }
      sample.time sample.value
    exact ⟨added, window, start, sizes, count, running.trans started⟩

theorem startWindow_startWindow (stat : MovingIntervalRateStat) (nowMs : UInt64) :
    (stat.startWindow nowMs).startWindow nowMs = stat.startWindow nowMs := by
  have started : (stat.startWindow nowMs).initialized = true := by
    unfold startWindow
    split
    · assumption
    · rfl
  rw [startWindow, if_pos started]

end Adding

/-! ### Runs -/

/-- **A statistic whose window is aligned with time**, with the times of the first sample and of the last one. -/
structure Aligned (stat : MovingIntervalRateStat) (size count : ℕ) (samples : List Sample) (start now : ℕ) : Prop where
  current : stat.currentInterval = (now - start) / size % count
  inside : stat.currentWindowEndMs.toNat ≤ now + size ∧ now < stat.currentWindowEndMs.toNat
  window : stat.currentWindowStartMs.toNat = max start (stat.currentWindowEndMs.toNat - count * size)
  slots : ∀ interval : ℕ, stat.currentWindowStartMs.toNat ≤ start + interval * size →
    start + (interval + 1) * size ≤ stat.currentWindowEndMs.toNat →
      stat.sampleVector[interval % count]? = some (added samples start size interval)

/-- **What is known after some samples.** -/
structure Follows (stat : MovingIntervalRateStat) (size : UInt64) (intervals : UInt32) (samples : List Sample)
    (first last : Sample) : Prop where
  started : stat.initialized = true
  start : stat.calculationStartMs = first.time
  sizes : stat.intervalSizeMs = size
  count : stat.intervalsInWindow = intervals
  tracks : Tracks stat samples (intervalOf first.time.toNat size.toNat last.time.toNat)
  windowed : Windowed stat

/-- The first moment of a window. -/
theorem start_window (start size reached count : ℕ) :
    start + (reached - min reached count) * size = max start (start + reached * size - count * size) := by
  rcases Nat.le_total reached count with few | many
  · have less := Nat.mul_le_mul_right size few
    rw [min_eq_left few, Nat.sub_self, Nat.zero_mul]
    omega
  · have less := Nat.mul_le_mul_right size many
    rw [min_eq_right many, Nat.sub_mul]
    omega

section Runs

variable {size : UInt64} {intervals : UInt32} {stat : MovingIntervalRateStat} {samples : List Sample} {first last : Sample}

theorem Follows.aligned (follows : Follows stat size intervals samples first last) (positive : 0 < size.toNat)
    (later : first.time ≤ last.time) :
    Aligned stat size.toNat intervals.toNat samples first.time.toNat last.time.toNat := by
  obtain ⟨started, start, sizes, count, tracks, windowed⟩ := follows
  subst sizes count
  obtain ⟨lower, upper⟩ := intervalOf_spec positive (UInt64.le_iff_toNat_le.mp later)
  have ends := windowed.ends
  have begins := windowed.begins
  have current := tracks.current
  rw [tracks.accumulated, start] at ends begins
  rw [intervalOf] at current
  generalize intervalOf first.time.toNat stat.intervalSizeMs.toNat last.time.toNat = reached at *
  have split : (reached + 1) * stat.intervalSizeMs.toNat =
      reached * stat.intervalSizeMs.toNat + stat.intervalSizeMs.toNat := Nat.succ_mul _ _
  refine ⟨current, ⟨by omega, by omega⟩, ?_, fun interval above below => ?_⟩
  · rw [begins, ends]
    exact start_window ..
  · have several := tracks.several
    have before : interval + 1 ≤ reached + 1 :=
      Nat.le_of_mul_le_mul_right (Nat.le_of_add_le_add_left (ends ▸ below)) positive
    have near : reached + 1 - min (reached + 1) stat.intervalsInWindow.toNat ≤ interval :=
      Nat.le_of_mul_le_mul_right (Nat.le_of_add_le_add_left (begins ▸ above)) positive
    have held := tracks.slots interval (Nat.le_of_succ_le_succ before) (by rw [tracks.length]; omega)
    rw [tracks.length, start] at held
    exact held

/-- The first sample starts the window. -/
theorem follows_first (several : 2 ≤ intervals.toNat) (reading : first.time.toNat < 2 ^ 63) (sizes : size.toNat < 2 ^ 63)
    (regular : (create size intervals).Regular first) :
    Follows ((create size intervals).add first.time first.value) size intervals [first] first first := by
  have again : ((create size intervals).startWindow first.time).add first.time first.value =
      (create size intervals).add first.time first.value := by
    unfold MovingIntervalRateStat.add
    rw [startWindow_startWindow]
  have same : ((create size intervals).startWindow first.time).Regular first := by
    unfold Regular at regular ⊢
    rw [startWindow_startWindow]
    exact regular
  have tracks : Tracks ((create size intervals).startWindow first.time) [] 0 :=
    { several := several
      current := (Nat.zero_mod _).symm
      accumulated := rfl
      length := List.length_replicate
      slots := Sliding.holds_replicate fun _ _ _ => rfl
      before := fun _ member => absurd member List.not_mem_nil }
  have ends : (first.time + 1 * size).toNat = first.time.toNat + 1 * size.toNat := by
    rw [UInt64.toNat_add, one_mul, one_mul]
    exact Nat.mod_eq_of_lt (by omega)
  have windowed : Windowed ((create size intervals).startWindow first.time) :=
    { ends := ends
      begins := by
        show first.time.toNat = first.time.toNat + (1 - min 1 intervals.toNat) * size.toNat
        rw [min_eq_left (by omega), Nat.sub_self, Nat.zero_mul, Nat.add_zero] }
  obtain ⟨added, window, start, step, count, running⟩ := tracks.add windowed rfl (by
    show first.time.toNat + 0 * size.toNat ≤ first.time.toNat
    omega) reading sizes same
  rw [again] at added window start step count running
  exact ⟨running, start, step, count, added, window⟩

/-- A regular sample follows. -/
theorem Follows.next {sample : Sample} (follows : Follows stat size intervals samples first last)
    (later : first.time ≤ last.time) (order : last.time ≤ sample.time) (reading : sample.time.toNat < 2 ^ 63)
    (sizes : size.toNat < 2 ^ 63) (regular : stat.Regular sample) :
    Follows (stat.add sample.time sample.value) size intervals (samples ++ [sample]) first sample := by
  obtain ⟨started, start, same, count, tracks, windowed⟩ := follows
  subst same count
  have inside := (intervalOf_spec regular.1 (UInt64.le_iff_toNat_le.mp later)).1
  rw [← start] at inside tracks
  obtain ⟨added, window, origin, step, number, running⟩ := tracks.add windowed started
    (inside.trans (UInt64.le_iff_toNat_le.mp order)) reading sizes regular
  rw [start] at added
  exact ⟨running, origin.trans start, step, number, added, window⟩

/-- What is known after every run of regular samples. -/
theorem follows_after (several : 2 ≤ intervals.toNat) (sizes : size.toNat < 2 ^ 63) (samples : List Sample)
    (readings : ∀ sample ∈ samples, sample.time.toNat < 2 ^ 63)
    (ordered : samples.Pairwise fun earlier later => earlier.time ≤ later.time)
    (regular : Machine.Guarded step Regular (create size intervals) samples) :
    ∀ first last, samples.head? = some first → samples.getLast? = some last →
      0 < size.toNat ∧ first.time ≤ last.time ∧
        Follows (after size intervals samples) size intervals samples first last := by
  induction samples using List.reverseRecOn with
  | nil => exact fun _ _ absent => absurd absent (by simp)
  | append_singleton samples sample ih =>
      intro first last begins ends
      obtain ⟨guarded, good⟩ := Machine.guarded_append.mp regular
      have good : (after size intervals samples).Regular sample := good.1
      obtain rfl : sample = last := by simpa using ends
      have result : after size intervals (samples ++ [sample]) =
          (after size intervals samples).add sample.time sample.value := by
        rw [after, Machine.run_append, Machine.run_cons, Machine.run_nil, step, after]
      rw [result]
      cases samples with
      | nil =>
          obtain rfl : sample = first := by simpa using begins
          exact ⟨good.1, UInt64.le_refl _, follows_first several (readings _ (by simp)) sizes good⟩
      | cons earliest rest =>
          obtain rfl : earliest = first := by simpa using begins
          obtain ⟨previous, found⟩ : ∃ previous, (earliest :: rest).getLast? = some previous :=
            ⟨_, List.getLast?_eq_some_getLast (List.cons_ne_nil _ _)⟩
          obtain ⟨positive, later, follows⟩ := ih (fun sample member => readings sample (List.mem_append_left _ member))
            (List.pairwise_append.mp ordered).1 guarded earliest previous rfl found
          have order : previous.time ≤ sample.time :=
            (List.pairwise_append.mp ordered).2.2 previous (List.mem_of_getLast? found) sample (List.mem_singleton_self _)
          exact ⟨positive, UInt64.le_trans later order,
            follows.next later order (readings sample (by simp)) sizes good⟩

/-- **The window is aligned with time after every run of regular samples.** -/
theorem add_aligned (size : UInt64) (intervals : UInt32) (samples : List Sample) (several : 2 ≤ intervals.toNat)
    (sizes : size.toNat < 2 ^ 63) (readings : ∀ sample ∈ samples, sample.time.toNat < 2 ^ 63)
    (ordered : samples.Pairwise fun earlier later => earlier.time ≤ later.time)
    (regular : Machine.Guarded step Regular (create size intervals) samples) :
    ∀ first last, samples.head? = some first → samples.getLast? = some last →
      Aligned (after size intervals samples) size.toNat intervals.toNat samples first.time.toNat last.time.toNat := by
  intro first last begins ends
  obtain ⟨positive, later, follows⟩ := follows_after several sizes samples readings ordered regular first last begins ends
  exact follows.aligned positive later

end Runs

/-! ### Two runs -/

/-- Three samples in windows of five intervals of 100 ms; the last two come after a short gap. -/
def shortGap : List Sample := [⟨1000, 7⟩, ⟨1250, 2⟩, ⟨1280, 3⟩]

/-- The second of two samples comes after a gap that is longer than the window. -/
def longGap : List Sample := [⟨1000, 7⟩, ⟨3000, 2⟩]

theorem add_aligned_shortGap :
    Aligned (after 100 5 shortGap) 100 5 shortGap 1000 1280 :=
  add_aligned 100 5 shortGap (by decide) (by decide) (by decide +kernel) (by simp [shortGap])
    (by decide +kernel) ⟨1000, 7⟩ ⟨1280, 3⟩ rfl rfl

/-- The window ends before the sample that moved it. -/
theorem not_add_aligned_longGap : ¬Aligned (after 100 5 longGap) 100 5 longGap 1000 3000 := by
  intro aligned
  exact absurd aligned.inside.2 (by decide +kernel)

end MovingIntervalRateStat

end Erizo
