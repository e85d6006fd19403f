/-
**What the rate of a window counts.**

The loop of `calculateRateForInterval` walks around the ring of slots, up to the current one (`movingIntervals_eq`).
After regular samples the slots have the sums of their intervals, and nothing else (`Blank`), so that the total counts a
sample as often as the walk comes to its interval (`totalSum_eq`).

* `counts_iff`: a walk that starts after the request begins comes to the right intervals (`Counts`) when the window is
  full and the request begins before the current interval, or when nothing is left out. Elsewhere it goes around
  too far.
-/

import Erizo.Proof.MovingWindow

namespace Erizo

open Library

namespace MovingIntervalRateStat

/-! ### Slots that have not been used -/

/-- The slots after those of the first intervals are empty. -/
def Blank (slots : List UInt64) (interval : ℕ) : Prop := ∀ slot, interval < slot →
    slot < slots.length → slots[slot]? = some 0

section Blanks

variable {slots : List UInt64} {interval : ℕ}

theorem blank_replicate (count interval : ℕ) : Blank (List.replicate count 0) interval :=
  fun _ _ inside => List.getElem?_replicate_of_lt (inside.trans_eq List.length_replicate)

theorem Blank.mono (blank : Blank slots interval) {later : ℕ} (less : interval ≤ later) : Blank slots later :=
  fun slot after inside => blank slot (less.trans_lt after) inside

/-- A slot is cleared. -/
theorem Blank.set (blank : Blank slots interval) (cleared : ℕ) : Blank (slots.set cleared 0) interval := by
  intro slot after inside
  rw [List.length_set] at inside
  rw [List.getElem?_set]
  split
  · next same => rw [if_pos (same ▸ inside)]
  · exact blank slot after inside

/-- A sample is added to a slot that has been used. -/
theorem Blank.modify (blank : Blank slots interval) {used : ℕ} (less : used ≤ interval) (change : UInt64 → UInt64) :
    Blank (slots.modify used change) interval := by
  intro slot after inside
  rw [List.length_modify] at inside
  rw [List.getElem?_modify, blank slot after inside, Option.map_eq_map, Option.map_some, if_neg (less.trans_lt after).ne]

theorem Blank.pass (count : ℕ) {stat : MovingIntervalRateStat} (blank : Blank stat.sampleVector interval) :
    Blank (passIntervals count stat).sampleVector interval := by
  induction count generalizing stat with
  | zero => exact blank
  | succ count ih => exact @ih { stat with
      currentInterval := stat.getNextInterval stat.currentInterval
      sampleVector := stat.sampleVector.set (stat.getNextInterval stat.currentInterval) 0
      accumulatedIntervals := stat.accumulatedIntervals + 1 } (blank.set _)

theorem getIntervalForTimeMs_pass (count : ℕ) (stat : MovingIntervalRateStat) (timeMs : UInt64) :
    (passIntervals count stat).getIntervalForTimeMs timeMs = stat.getIntervalForTimeMs timeMs := by
  induction count generalizing stat with
  | zero => rfl
  | succ count ih => exact ih _

theorem startWindow_sampleVector (stat : MovingIntervalRateStat) (nowMs : UInt64) :
    (stat.startWindow nowMs).sampleVector = stat.sampleVector := by
  unfold startWindow
  split <;> rfl

theorem addToInterval_sampleVector (stat : MovingIntervalRateStat) (nowMs value : UInt64) :
    (stat.addToInterval nowMs value).sampleVector = stat.sampleVector.modify (stat.getIntervalForTimeMs nowMs) (· + value) ∨
      (stat.addToInterval nowMs value).sampleVector =
        (stat.sampleVector.set (stat.getIntervalForTimeMs nowMs) 0).modify
          (stat.getIntervalForTimeMs nowMs) (· + value) := by
  unfold addToInterval
  dsimp only
  split
  · exact Or.inr rfl
  · next stays => exact Or.inl (by rw [not_not.mp stays]; rfl)

/-- **A sample leaves the slots after its interval empty.** -/
theorem Blank.add {stat : MovingIntervalRateStat} {sample : Sample} (blank : Blank stat.sampleVector interval)
    (here : (stat.startWindow sample.time).getIntervalForTimeMs sample.time ≤ interval) :
    Blank (stat.add sample.time sample.value).sampleVector interval := by
  rw [← startWindow_sampleVector stat sample.time] at blank
  rw [MovingIntervalRateStat.add]
  generalize stat.startWindow sample.time = started at *
  split
  · exact (blank_replicate _ _).modify here _
  · have passed := blank.pass (started.intervalsToPass sample.time).toNat
    rw [← getIntervalForTimeMs_pass (started.intervalsToPass sample.time).toNat] at here
    rcases addToInterval_sampleVector (passIntervals (started.intervalsToPass sample.time).toNat started) sample.time
      sample.value with same | same
    · exact same ▸ passed.modify here _
    · exact same ▸ (passed.set _).modify here _

end Blanks

/-- The slots that have not been used are empty after every run of regular samples. -/
theorem blank_after {size : UInt64} {intervals : UInt32} (several : 2 ≤ intervals.toNat) (sizes : size.toNat < 2 ^ 63)
    (samples : List Sample) (readings : ∀ sample ∈ samples, sample.time.toNat < 2 ^ 63)
    (ordered : samples.Pairwise fun earlier later => earlier.time ≤ later.time)
    (regular : Machine.Guarded step Regular (create size intervals) samples) :
    ∀ first last, samples.head? = some first → samples.getLast? = some last →
      Blank (after size intervals samples).sampleVector (intervalOf first.time.toNat size.toNat last.time.toNat) := by
  induction samples using List.reverseRecOn with
  | nil => exact fun _ _ absent => absurd absent (by simp)
  | append_singleton samples sample ih =>
      intro first last begins ends
      obtain ⟨guarded, -⟩ := Machine.guarded_append.mp regular
      obtain rfl : sample = last := by simpa using ends
      rw [after, Machine.run_append, Machine.run_cons, Machine.run_nil, step]
      cases samples with
      | nil =>
          obtain rfl : sample = first := by simpa using begins
          refine @Blank.add _ (create size intervals) sample (blank_replicate _ _) ?_
          have fresh : ((create size intervals).startWindow sample.time).getIntervalForTimeMs sample.time =
              ((sample.time - sample.time) / size).toNat % intervals.toNat := rfl
          rw [fresh, sub_self, UInt64.toNat_div, UInt64.toNat_zero, Nat.zero_div, Nat.zero_mod]
          exact Nat.zero_le _
      | cons earliest rest =>
          obtain rfl : earliest = first := by simpa using begins
          obtain ⟨previous, found⟩ : ∃ previous, (earliest :: rest).getLast? = some previous :=
            ⟨_, List.getLast?_eq_some_getLast (List.cons_ne_nil _ _)⟩
          have earlier := fun sample member => readings sample (List.mem_append_left _ member)
          have order := List.pairwise_append.mp ordered
          obtain ⟨-, later, follows⟩ := follows_after several sizes _ earlier order.1 guarded earliest previous rfl found
          have next := order.2.2 previous (List.mem_of_getLast? found) sample (List.mem_singleton_self _)
          have blank := ih earlier order.1 guarded earliest previous rfl found
          rw [after] at follows blank
          generalize Machine.run step (create size intervals) (earliest :: rest) = stat at follows blank ⊢
          have reached := Nat.div_le_div_right (c := size.toNat)
            (Nat.sub_le_sub_right (UInt64.le_iff_toNat_le.mp next) earliest.time.toNat)
          have same : stat.startWindow sample.time = stat := by rw [startWindow, if_pos follows.started]
          refine @Blank.add _ stat sample (blank.mono reached) ?_
          rw [same, getIntervalForTimeMs_eq (follows.start ▸ UInt64.le_trans later next), follows.start, follows.sizes]
          exact Nat.mod_le _ _

/-! ### The walk of the loop -/

/-- **The loop walks around the ring**, up to the current slot and at least one step. -/
theorem movingIntervals_eq {stat : MovingIntervalRateStat} (length : ℕ) {start : ℕ}
    (ends : stat.currentInterval = (start + (length + 1)) % stat.intervalsInWindow.toNat)
    (short : length + 1 ≤ stat.intervalsInWindow.toNat) {rounds : ℕ} (enough : length + 1 ≤ rounds) :
    stat.movingIntervals rounds (start % stat.intervalsInWindow.toNat) =
      Sliding.walk stat.intervalsInWindow.toNat start (length + 1) := by
  obtain ⟨rounds, rfl⟩ := Nat.exists_eq_add_of_le' (Nat.one_le_of_lt enough)
  have next : stat.getNextInterval (start % stat.intervalsInWindow.toNat) = (start + 1) % stat.intervalsInWindow.toNat := by
    rw [getNextInterval, Nat.mod_add_mod]
  rw [movingIntervals, Sliding.walk_succ, next]
  induction length generalizing start rounds with
  | zero =>
      rw [if_neg (not_not.mpr ends.symm)]
      rfl
  | succ length ih =>
      have goesOn : (start + 1) % stat.intervalsInWindow.toNat ≠ stat.currentInterval := by
        rw [ends]
        exact Sliding.mod_ne_of_near (by omega) (by omega)
      obtain ⟨rounds, rfl⟩ := Nat.exists_eq_add_of_le' (Nat.one_le_of_lt (Nat.le_of_succ_le_succ enough))
      rw [if_pos goesOn, movingIntervals, Sliding.walk_succ]
      have further : stat.getNextInterval ((start + 1) % stat.intervalsInWindow.toNat) =
          (start + 1 + 1) % stat.intervalsInWindow.toNat := by rw [getNextInterval, Nat.mod_add_mod]
      rw [further]
      refine congrArg (_ :: ·) (ih ?_ (by omega) rounds (by omega) further)
      rw [ends, show start + 1 + (length + 1) = start + (length + 1 + 1) by omega]

/-- The steps of the loop when so many intervals are passed: around the whole ring when it starts at the current slot. -/
def steps (count passed : ℕ) : ℕ := if passed + 1 = count then count else count - 1 - passed

section Walk

variable {count current passed interval : ℕ}

/-- **Which of the last intervals the walk comes to.** -/
theorem visited_iff (fits : passed < count) (reached : interval ≤ current) (near : current < interval + count) :
    (∃ walked < steps count passed, (current + 1 + passed + walked) % count = interval % count) ↔
      passed + 1 = count ∨ current + 1 + passed ≤ interval + count ∧ interval < current := by
  unfold steps
  split
  · next whole =>
      refine iff_of_true ?_ (Or.inl whole)
      rcases Nat.lt_or_eq_of_le reached with before | rfl
      · refine ⟨interval + count - current, by omega, ?_⟩
        rw [show current + 1 + passed + (interval + count - current) = interval + count + count by omega,
          Nat.add_mod_right, Nat.add_mod_right]
      · exact ⟨0, by omega, by rw [show interval + 1 + passed + 0 = interval + count by omega, Nat.add_mod_right]⟩
  · next part =>
      rw [or_iff_right part]
      constructor
      · rintro ⟨walked, less, same⟩
        rw [← Nat.add_mod_right interval] at same
        have := @Sliding.eq_of_mod_eq (current + count) (current + 1 + passed + walked) (interval + count) count (by omega)
          (by omega) (by omega) (by omega) same
        omega
      · rintro ⟨after, before⟩
        refine ⟨interval + count - (current + 1 + passed), by omega, ?_⟩
        rw [show current + 1 + passed + (interval + count - (current + 1 + passed)) = interval + count by omega,
          Nat.add_mod_right]

theorem count_steps (fits : passed < count) (reached : interval ≤ current) (near : current < interval + count) :
    (Sliding.walk count (current + 1 + passed) (steps count passed)).count (interval % count) =
      if passed + 1 = count ∨ current + 1 + passed ≤ interval + count ∧ interval < current then 1 else 0 := by
  have short : steps count passed ≤ count := by
    unfold steps
    split <;> omega
  rw [Sliding.count_walk short]
  exact if_congr (visited_iff fits reached near) rfl rfl

end Walk

/-! ### What is counted -/

/-- How many whole intervals of the window lie before a moment. -/
def passed (start size count current request : ℕ) : ℕ :=
  (max request (start + (current + 1 - min (current + 1) count) * size) -
    (start + (current + 1 - min (current + 1) count) * size)) / size

/-- How much of the current interval is over. -/
def elapsed (start size current now : ℕ) : ℚ :=
  if (((now - (start + current * size) : ℕ) : ℚ) / size) < 1 then ((now - (start + current * size) : ℕ) : ℚ) / size else 1

/-- How often the samples of an interval are counted: as often as their slot is summed, and the current ones by the part
of the current slot as well. -/
def times (summed : Option Summed) (count current interval : ℕ) : ℚ :=
  match summed with
  | none => 0
  | some summed =>
      if interval ≤ current ∧ current < interval + count then
        summed.movingIntervals.count (interval % count) + if interval = current then summed.lastValuePart else 0
      else 0

/-- **The samples are counted as they should be** for what is requested: once where their interval of the window begins
at or after the request, not at all where it ended before it, and by the part that is over in the current interval. -/
structure Counts (times : ℕ → ℚ) (start size count current now request : ℕ) : Prop where
  once : ∀ interval < current, current < interval + count → request ≤ start + interval * size → times interval = 1
  never : ∀ interval ≤ current, start + (interval + 1) * size ≤ request → times interval = 0
  partly : request < start + (current + 1) * size → times current = elapsed start size current now

/-- No interval of the window is counted, or the walk is the right one: the window is full and the current interval is
not passed, or nothing is passed. -/
def Served (count current passed : ℕ) : Prop :=
  count ≤ passed % 2 ^ 32 ∨ passed < 2 ^ 32 ∧ if count ≤ current + 1 then passed + 2 ≤ count else passed = 0

instance (count current passed : ℕ) : Decidable (Served count current passed) := inferInstanceAs (Decidable (_ ∨ _))

section Counted

variable {start size count current now request : ℕ}

/-- An interval of the window is over at a moment when it is passed. -/
theorem ended_iff (positive : 0 < size) {interval : ℕ} (window : current < interval + count) :
    start + (interval + 1) * size ≤ request ↔
      interval + 1 ≤ current + 1 - min (current + 1) count + passed start size count current request := by
  unfold passed
  have first : current + 1 - min (current + 1) count ≤ interval := by omega
  generalize current + 1 - min (current + 1) count = begins at *
  have inside := Nat.mul_le_mul_right size first
  rcases Nat.le_total request (start + begins * size) with early | late
  · rw [max_eq_right early, Nat.sub_self, Nat.zero_div, Nat.add_zero, Nat.add_mul, Nat.one_mul]
    omega
  · rw [max_eq_left late, ← Nat.sub_le_iff_le_add', Nat.le_div_iff_mul_le positive, Nat.le_sub_iff_add_le late,
      Nat.sub_mul, Nat.add_mul]
    omega

theorem elapsed_of_ended (positive : 0 < size) (ended : start + (current + 1) * size ≤ now) :
    elapsed start size current now = 1 := by
  refine if_neg (not_lt.mpr ((one_le_div (by exact_mod_cast positive)).mpr ?_))
  rw [Nat.add_mul, Nat.one_mul] at ended
  exact_mod_cast (show size ≤ now - (start + current * size) by omega)

/-- What the rate sums when it is not passed by. -/
def sums (start size count current now request : ℕ) : Option Summed :=
  if count ≤ passed start size count current request % 2 ^ 32 then none
  else
    some
      { movingIntervals := Sliding.walk count (current + 1 + passed start size count current request % 2 ^ 32)
          (steps count (passed start size count current request % 2 ^ 32))
        lastValuePart := elapsed start size current now }

theorem times_sums (fits : passed start size count current request % 2 ^ 32 < count) {interval : ℕ}
    (reached : interval ≤ current) (near : current < interval + count) :
    times (sums start size count current now request) count current interval =
      (if passed start size count current request % 2 ^ 32 + 1 = count ∨
        current + 1 + passed start size count current request % 2 ^ 32 ≤ interval + count ∧ interval < current
      then 1 else 0) + if interval = current then elapsed start size current now else 0 := by
  rw [sums, if_neg (Nat.not_le_of_lt fits), times, if_pos ⟨reached, near⟩]
  dsimp only
  rw [count_steps fits reached near]
  push_cast
  rfl

theorem times_out {summed : Option Summed} {interval : ℕ} (out : ¬current < interval + count) :
    times summed count current interval = 0 := by
  cases summed with
  | none => rfl
  | some summed => exact if_neg fun window => out window.2

/-- **The right samples are counted exactly when the walk is the right one.** -/
theorem counts_sums_iff (positive : 0 < size) (several : 2 ≤ count) (few : count ≤ 2 ^ 31) (started : request ≤ now) :
    Counts (times (sums start size count current now request) count current) start size count current now request ↔
      Served count current (passed start size count current request) := by
  have ended := fun interval window => @ended_iff start size count current request positive interval window
  have whole := @elapsed_of_ended start size current now positive
  by_cases none : count ≤ passed start size count current request % 2 ^ 32
  · refine iff_of_true ?_ (Or.inl none)
    have zero : ∀ interval, times (sums start size count current now request) count current interval = 0 := by
      intro interval
      rw [sums, if_pos none, times]
    have many := none.trans (Nat.mod_le _ _)
    refine ⟨fun interval before window later => ?_, fun _ _ _ => zero _, fun later => ?_⟩
    · have := (ended interval window).mpr (by omega)
      rw [Nat.add_mul, Nat.one_mul] at this
      omega
    · exact absurd ((ended current (by omega)).mpr (by omega)) (Nat.not_le_of_lt later)
  · have fits := Nat.lt_of_not_le none
    have tells := fun interval reached near =>
      @times_sums start size count current now request fits interval reached near
    have out := fun interval out => @times_out count current (sums start size count current now request) interval out
    generalize times (sums start size count current now request) count current = counted at *
    generalize passed start size count current request = skipped at *
    constructor
    · rintro ⟨-, never, partly⟩
      have here := tells current le_rfl (by omega)
      rw [if_pos rfl] at here
      -- the current interval is counted, so that it is not passed
      have live : current + 1 - min (current + 1) count + skipped ≤ current := by
        by_contra beyond
        have gone := (ended current (by omega)).mpr (by omega)
        rw [never current le_rfl gone, whole (gone.trans started)] at here
        split at here <;> norm_num at here
      have small : skipped % 2 ^ 32 = skipped := Nat.mod_eq_of_lt (by omega)
      rw [small] at tells here
      refine Or.inr ⟨by omega, ?_⟩
      split
      · next full =>
          by_contra far
          have current_live := Nat.lt_of_not_le ((ended current (by omega)).not.mpr (by omega))
          rw [partly current_live, if_pos (Or.inl (by omega))] at here
          linarith
      · next part =>
          by_contra some
          have first := tells (skipped - 1) (by omega) (by omega)
          rw [never (skipped - 1) (by omega) ((ended _ (by omega)).mpr (by omega)), if_pos (Or.inr (by omega)),
            if_neg (by omega)] at first
          norm_num at first
    · rintro (many | ⟨small, right⟩)
      · exact absurd many none
      · rw [Nat.mod_eq_of_lt small] at tells fits
        have left : (count ≤ current + 1 ∧ skipped + 2 ≤ count) ∨ current + 1 < count ∧ skipped = 0 := by
          split at right <;> omega
        refine ⟨fun interval before window later => ?_, fun interval reached gone => ?_, fun _ => ?_⟩
        · have notPassed : ¬interval + 1 ≤ current + 1 - min (current + 1) count + skipped := by
            intro isPassed
            have := (ended interval window).mpr isPassed
            rw [Nat.add_mul, Nat.one_mul] at this
            omega
          rw [tells interval before.le window, if_pos (Or.inr (by omega)), if_neg before.ne, add_zero]
        · by_cases window : current < interval + count
          · have isPassed := (ended interval window).mp gone
            rw [tells interval reached window, if_neg (by omega), if_neg (by omega), add_zero]
          · exact out interval window
        · rw [tells current le_rfl (by omega), if_neg (by omega), if_pos rfl, zero_add]

end Counted

/-! ### After regular samples -/

section After

variable {stat : MovingIntervalRateStat} {size : UInt64} {intervals : UInt32} {samples : List Sample} {first last : Sample}
  {now interval : UInt64}

theorem toNat_max (first second : UInt64) : (max first second).toNat = max first.toNat second.toNat := by
  show (if first ≤ second then second else first).toNat = _
  split
  · next less => rw [max_eq_right (UInt64.le_iff_toNat_le.mp less)]
  · next more => rw [max_eq_left (UInt64.le_iff_toNat_le.mp (UInt64.le_of_lt (UInt64.not_le.mp more)))]

theorem steps_spec {count passed current : ℕ} (fits : passed < count) :
    ∃ length, steps count passed = length + 1 ∧ length + 1 ≤ count ∧
      (current + 1 + passed + (length + 1)) % count = current % count := by
  unfold steps
  split
  · next whole =>
      refine ⟨count - 1, by omega, by omega, ?_⟩
      rw [show current + 1 + passed + (count - 1 + 1) = current + count +
        count by omega, Nat.add_mod_right, Nat.add_mod_right]
  · next part =>
      refine ⟨count - 2 - passed, by omega, by omega, ?_⟩
      rw [show current + 1 + passed + (count - 2 - passed + 1) = current + count by omega, Nat.add_mod_right]

/-- **What the rate sums** after regular samples. -/
theorem summed_eq (follows : Follows stat size intervals samples first last) (positive : 0 < size.toNat)
    (few : intervals.toNat ≤ 2 ^ 31) (order : first.time ≤ last.time) (later : last.time ≤ now)
    (asked : interval.toNat ≤ now.toNat - first.time.toNat) :
    stat.summed now interval = sums first.time.toNat size.toNat intervals.toNat
      (intervalOf first.time.toNat size.toNat last.time.toNat) now.toNat (now.toNat - interval.toNat) := by
  obtain ⟨started, start, rfl, rfl, tracks, windowed⟩ := follows
  have ends := windowed.ends
  have begins := windowed.begins
  have current := tracks.current
  have several := tracks.several
  rw [tracks.accumulated, start] at ends begins
  have lower := (intervalOf_spec positive (UInt64.le_iff_toNat_le.mp order)).1
  have after := UInt64.le_iff_toNat_le.mp later
  generalize intervalOf first.time.toNat stat.intervalSizeMs.toNat last.time.toNat = reached at *
  have request : (stat.intervalStartTime now interval).toNat =
      max (now.toNat - interval.toNat) stat.currentWindowStartMs.toNat := by
    rw [intervalStartTime, toNat_max, UInt64.toNat_sub_of_le _ _ (UInt64.le_iff_toNat_le.mpr (by omega))]
  have skipped : ((stat.intervalStartTime now interval - stat.currentWindowStartMs) / stat.intervalSizeMs).toNat =
      passed first.time.toNat stat.intervalSizeMs.toNat stat.intervalsInWindow.toNat reached
        (now.toNat - interval.toNat) := by
    rw [UInt64.toNat_div, UInt64.toNat_sub_of_le _ _ (UInt64.le_iff_toNat_le.mpr (request ▸ le_max_right _ _)), request,
      passed, begins]
  have part : (now - (stat.currentWindowEndMs - stat.intervalSizeMs)).toNat =
      now.toNat - (first.time.toNat + reached * stat.intervalSizeMs.toNat) := by
    rw [Nat.add_mul, Nat.one_mul] at ends
    have begun : (stat.currentWindowEndMs - stat.intervalSizeMs).toNat =
        first.time.toNat + reached * stat.intervalSizeMs.toNat := by
      rw [UInt64.toNat_sub_of_le _ _ (UInt64.le_iff_toNat_le.mpr (by omega))]
      omega
    rw [UInt64.toNat_sub_of_le _ _ (UInt64.le_iff_toNat_le.mpr (by omega)), begun]
  unfold summed sums
  dsimp only
  rw [skipped, part, started]
  generalize passed first.time.toNat stat.intervalSizeMs.toNat stat.intervalsInWindow.toNat reached
    (now.toNat - interval.toNat) % 2 ^ 32 = passes
  by_cases none : stat.intervalsInWindow.toNat ≤ passes
  · rw [if_pos none, if_pos (Or.inr none)]
  · have fits := Nat.lt_of_not_le none
    have inside : reached % stat.intervalsInWindow.toNat < stat.intervalsInWindow.toNat := Nat.mod_lt _ (by omega)
    obtain ⟨length, same, short, around⟩ := @steps_spec stat.intervalsInWindow.toNat passes reached fits
    have next : stat.getNextInterval ((stat.currentInterval + passes) % 2 ^ 32) =
        (reached + 1 + passes) % stat.intervalsInWindow.toNat := by
      have room : (reached % stat.intervalsInWindow.toNat + passes) % 2 ^ 32 =
          reached % stat.intervalsInWindow.toNat + passes := Nat.mod_eq_of_lt (by omega)
      rw [getNextInterval, current, room, Nat.add_assoc, Nat.mod_add_mod, Nat.add_comm passes, Nat.add_assoc]
    have walked := movingIntervals_eq length (current.trans around.symm) short short
    rw [if_neg none, if_neg (by simpa using none), next, walked, same]
    rfl

/-- The sum of an interval, when all values together have 64 bits. -/
theorem toNat_added (samples : List Sample) (start size interval : ℕ)
    (small : (samples.map fun sample => sample.value.toNat).sum < 2 ^ 64) :
    (added samples start size interval).toNat =
      (samples.map fun sample => if intervalOf start size sample.time.toNat = interval then
        sample.value.toNat else 0).sum := by
  induction samples using List.reverseRecOn with
  | nil => rfl
  | append_singleton samples sample ih =>
      rw [List.map_append, List.sum_append, List.map_singleton, List.sum_singleton] at small
      have less : (samples.map fun sample =>
          if intervalOf start size sample.time.toNat = interval then sample.value.toNat else 0).sum ≤
          (samples.map fun sample => sample.value.toNat).sum :=
        List.sum_le_sum fun sample _ => by split <;> omega
      rw [added_append, List.map_append, List.sum_append, List.map_singleton, List.sum_singleton, UInt64.toNat_add,
        ih (by omega)]
      split
      · exact Nat.mod_eq_of_lt (by omega)
      · exact Nat.mod_eq_of_lt (by rw [UInt64.toNat_zero]; omega)

/-- The slot of a sample that is still in the window, and else none of them. -/
def place (start size count current : ℕ) (sample : Sample) : ℕ :=
  if current < intervalOf start size sample.time.toNat + count then intervalOf start size sample.time.toNat % count
  else count

/-- **A slot has the samples of its interval**, and nothing else. -/
theorem sampleValue_eq (follows : Follows stat size intervals samples first last)
    (blank : Blank stat.sampleVector (intervalOf first.time.toNat size.toNat last.time.toNat))
    (small : (samples.map fun sample => sample.value.toNat).sum < 2 ^ 64) {slot : ℕ} (inside : slot < intervals.toNat) :
    (stat.sampleValue slot : ℚ) = (samples.map fun sample =>
      if place first.time.toNat size.toNat intervals.toNat (intervalOf first.time.toNat size.toNat last.time.toNat) sample =
        slot then (sample.value.toNat : ℚ) else 0).sum := by
  obtain ⟨-, start, rfl, rfl, tracks, -⟩ := follows
  have before := tracks.before
  have length := tracks.length
  have slots := tracks.slots
  rw [start] at before slots
  generalize intervalOf first.time.toNat stat.intervalSizeMs.toNat last.time.toNat = current at *
  rcases Nat.lt_or_ge current slot with unused | used
  · have absent : ∀ sample ∈ samples,
        place first.time.toNat stat.intervalSizeMs.toNat stat.intervalsInWindow.toNat current sample ≠ slot := by
      intro sample member
      have early := before sample member
      unfold place
      split
      · exact ((Nat.mod_le _ _).trans_lt (early.trans_lt unused)).ne
      · exact inside.ne'
    have zero : stat.sampleValue slot = 0 := by
      rw [sampleValue, List.getD_eq_getElem?_getD, blank slot unused (length ▸ inside)]
      rfl
    rw [zero, List.map_congr_left fun sample member => if_neg (absent sample member)]
    simp
  · obtain ⟨index, reached, near, same⟩ := Sliding.exists_index inside used
    have held := slots index reached (length.symm ▸ near)
    rw [length, same] at held
    have value : stat.sampleValue slot = (added samples first.time.toNat stat.intervalSizeMs.toNat index).toNat := by
      rw [sampleValue, List.getD_eq_getElem?_getD, held, Option.getD_some]
    rw [value, toNat_added _ _ _ _ small, Nat.cast_list_sum, List.map_map]
    refine congrArg List.sum (List.map_congr_left fun sample member => ?_)
    have early := before sample member
    have here : intervalOf first.time.toNat stat.intervalSizeMs.toNat sample.time.toNat = index ↔
        place first.time.toNat stat.intervalSizeMs.toNat stat.intervalsInWindow.toNat current sample = slot := by
      unfold place
      constructor
      · rintro rfl
        rw [if_pos near, same]
      · split
        · next close => exact fun slotted => Sliding.eq_of_mod_eq early reached close near (slotted.trans same.symm)
        · exact fun slotted => absurd slotted inside.ne'
    by_cases counted : intervalOf first.time.toNat stat.intervalSizeMs.toNat sample.time.toNat = index
    · rw [Function.comp_apply, if_pos counted, if_pos (here.mp counted)]
    · rw [Function.comp_apply, if_neg counted, if_neg (here.not.mp counted), Nat.cast_zero]

/-- **The total is made of the samples**, each as often as it is counted. -/
theorem totalSum_eq (follows : Follows stat size intervals samples first last)
    (blank : Blank stat.sampleVector (intervalOf first.time.toNat size.toNat last.time.toNat))
    (small : (samples.map fun sample => sample.value.toNat).sum < 2 ^ 64) {summed : Summed}
    (slots : ∀ slot ∈ summed.movingIntervals, slot < intervals.toNat) :
    stat.totalSum summed = (samples.map fun sample =>
      times (some summed) intervals.toNat (intervalOf first.time.toNat size.toNat last.time.toNat)
        (intervalOf first.time.toNat size.toNat sample.time.toNat) * (sample.value.toNat : ℚ)).sum := by
  have value := fun slot inside => @sampleValue_eq _ _ _ _ _ _ follows blank small slot inside
  have current : stat.currentInterval = _ := follows.tracks.current
  have several := follows.tracks.several
  have before := follows.tracks.before
  rw [follows.count] at current several
  rw [follows.start, follows.sizes] at before
  generalize intervalOf first.time.toNat size.toNat last.time.toNat = reached at *
  have inside : reached % intervals.toNat < intervals.toNat := Nat.mod_lt _ (by omega)
  rw [totalSum, List.map_congr_left fun slot member => value slot (slots slot member), Sliding.sum_visits, current,
    value _ inside, ← List.sum_map_mul_left, ← List.sum_map_add]
  refine congrArg List.sum (List.map_congr_left fun sample member => ?_)
  have early := before sample member
  have out : summed.movingIntervals.count intervals.toNat = 0 :=
    List.count_eq_zero.mpr fun member => lt_irrefl _ (slots _ member)
  rw [times, place]
  generalize intervalOf first.time.toNat size.toNat sample.time.toNat = interval at *
  by_cases window : reached < interval + intervals.toNat
  · have same : interval % intervals.toNat = reached % intervals.toNat ↔ interval = reached := by
      refine ⟨fun slotted => ?_, fun equal => equal ▸ rfl⟩
      exact Sliding.eq_of_mod_eq early le_rfl window (by omega) slotted
    have window' : interval ≤ reached ∧ reached < interval + intervals.toNat := ⟨early, window⟩
    simp only [if_pos window, if_pos window', same, add_mul, mul_ite, mul_zero, ite_mul, zero_mul]
  · have window' : ¬(interval ≤ reached ∧ reached < interval + intervals.toNat) := fun both => window both.2
    simp only [if_neg window, if_neg window', out, if_neg inside.ne', Nat.cast_zero, mul_zero, zero_mul, add_zero]

end After

/-! ### Runs -/

/-- **A rate counts the right samples** of every run of regular samples exactly when the walk is the right one; its
total counts each sample as often as that, which the values of the samples have to leave room for. -/
theorem counts_iff (size : UInt64) (intervals : UInt32) (samples : List Sample) (several : 2 ≤ intervals.toNat)
    (few : intervals.toNat ≤ 2 ^ 31) (sizes : size.toNat < 2 ^ 63)
    (readings : ∀ sample ∈ samples, sample.time.toNat < 2 ^ 63)
    (ordered : samples.Pairwise fun earlier later => earlier.time ≤ later.time)
    (regular : Machine.Guarded step Regular (create size intervals) samples)
    (small : (samples.map fun sample => sample.value.toNat).sum < 2 ^ 64) (first last : Sample)
    (begins : samples.head? = some first) (ends : samples.getLast? = some last) (now interval : UInt64)
    (later : last.time ≤ now) (asked : interval.toNat ≤ now.toNat - first.time.toNat) :
    let stat := after size intervals samples
    let current := intervalOf first.time.toNat size.toNat last.time.toNat
    let request := now.toNat - interval.toNat
    let counted := times (stat.summed now interval) intervals.toNat current
    (∀ summed, stat.summed now interval = some summed → stat.totalSum summed =
      (samples.map fun sample =>
        counted (intervalOf first.time.toNat size.toNat sample.time.toNat) * (sample.value.toNat : ℚ)).sum) ∧
    (Counts counted first.time.toNat size.toNat intervals.toNat current now.toNat request ↔
      Served intervals.toNat current (passed first.time.toNat size.toNat intervals.toNat current request)) := by
  intro stat current request counted
  obtain ⟨positive, order, follows⟩ := follows_after several sizes samples readings ordered regular first last begins ends
  have blank := blank_after several sizes samples readings ordered regular first last begins ends
  have same := summed_eq follows positive few order later asked
  refine ⟨fun summed found => ?_, ?_⟩
  · have slots : ∀ slot ∈ summed.movingIntervals, slot < intervals.toNat := by
      rw [same, sums] at found
      split at found
      · exact absurd found nofun
      · obtain rfl := Option.some_injective _ found
        intro slot member
        obtain ⟨walked, -, rfl⟩ := Sliding.mem_walk.mp member
        exact Nat.mod_lt _ (by omega)
    rw [totalSum_eq follows blank small slots]
    show _ = (samples.map fun sample => times (stat.summed now interval) _ _ _ * _).sum
    rw [found]
  · show Counts (times (stat.summed now interval) _ _) _ _ _ _ _ _ ↔ _
    rw [same]
    exact counts_sums_iff positive several few (Nat.sub_le _ _)

/-- Samples of more intervals than the window has. -/
def longRun : List Sample := [⟨1000, 7⟩, ⟨1250, 2⟩, ⟨1680, 3⟩]

/-- Of a full window the last three intervals are requested. -/
theorem counts_longRun : Counts (times ((after 100 5 longRun).summed 1690 250) 5 6) 1000 100 5 6 1690 1440 :=
  (counts_iff 100 5 longRun (by decide) (by decide) (by decide) (by decide +kernel) (by simp [longRun])
    (by decide +kernel) (by decide) ⟨1000, 7⟩ ⟨1680, 3⟩ rfl rfl 1690 250 (by decide) (by decide)).2.mpr (by decide +kernel)

/-- Of a window that is not full the last 90 ms are requested, but the loop starts before the first sample, and comes to
it. -/
theorem not_counts_shortGap :
    ¬∀ (size : UInt64) (intervals : UInt32) (samples : List Sample) (first last : Sample) (now interval : UInt64),
      samples.Pairwise (fun earlier later => earlier.time ≤ later.time) → samples.head? = some first →
      samples.getLast? = some last → last.time ≤ now → interval.toNat ≤ now.toNat - first.time.toNat →
      interval.toNat ≤ intervals.toNat * size.toNat →
      let current := intervalOf first.time.toNat size.toNat last.time.toNat
      Counts (times ((after size intervals samples).summed now interval) intervals.toNat current) first.time.toNat
        size.toNat intervals.toNat current now.toNat (now.toNat - interval.toNat) := by
  intro counts
  have claimed := counts 100 5 shortGap ⟨1000, 7⟩ ⟨1280, 3⟩ 1290 90 (by simp [shortGap]) rfl rfl (by decide) (by decide)
    (by decide)
  exact absurd (claimed.never 0 (Nat.zero_le _) (by decide)) (by decide +kernel)

end MovingIntervalRateStat

end Erizo
