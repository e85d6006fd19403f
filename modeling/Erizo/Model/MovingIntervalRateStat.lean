/-
**A statistic over a moving window** (`MovingIntervalRateStat` of `stats/StatNode.cpp`).

Time is cut into intervals from the first sample on. A vector has one slot for each of the last intervals; the window
they make up is moved when a sample is added. Readings of the clock and the size of an interval are in milliseconds
and come from signed 64-bit counts; all arithmetic with them is unsigned. The rate is calculated in floating point by
the source, and in rational numbers here.
-/

import Erizo.Library.Machine
import Mathlib.Data.UInt
import Mathlib.Tactic

namespace Erizo

open Library

/-- `MovingIntervalRateStat`. -/
structure MovingIntervalRateStat where
  intervalSizeMs : UInt64
  intervalsInWindow : UInt32
  calculationStartMs : UInt64
  currentInterval : ℕ
  accumulatedIntervals : UInt64
  currentWindowStartMs : UInt64
  currentWindowEndMs : UInt64
  sampleVector : List UInt64
  initialized : Bool
  deriving Repr

namespace MovingIntervalRateStat

/-- The constructor. -/
def create (intervalSizeMs : UInt64) (intervals : UInt32) : MovingIntervalRateStat where
  intervalSizeMs := intervalSizeMs
  intervalsInWindow := intervals
  calculationStartMs := 0
  currentInterval := 0
  accumulatedIntervals := 0
  currentWindowStartMs := 0
  currentWindowEndMs := 0
  sampleVector := List.replicate intervals.toNat 0
  initialized := false

/-- `getIntervalForTimeMs`. -/
def getIntervalForTimeMs (stat : MovingIntervalRateStat) (timeMs : UInt64) : ℕ :=
  ((timeMs - stat.calculationStartMs) / stat.intervalSizeMs).toNat % stat.intervalsInWindow.toNat

/-- `getNextInterval`. -/
def getNextInterval (stat : MovingIntervalRateStat) (interval : ℕ) : ℕ := (interval + 1) % stat.intervalsInWindow.toNat

/-- `updateWindowTimes`. -/
def updateWindowTimes (stat : MovingIntervalRateStat) : MovingIntervalRateStat :=
  { stat with
    currentWindowEndMs := stat.calculationStartMs + stat.accumulatedIntervals * stat.intervalSizeMs
    currentWindowStartMs := stat.calculationStartMs +
      (stat.accumulatedIntervals - min stat.accumulatedIntervals stat.intervalsInWindow.toUInt64) * stat.intervalSizeMs }

/-- The part of `add` for the first sample. -/
def startWindow (stat : MovingIntervalRateStat) (nowMs : UInt64) : MovingIntervalRateStat :=
  if stat.initialized then stat
  else
    { stat with
      calculationStartMs := nowMs
      initialized := true
      accumulatedIntervals := 1
      currentWindowStartMs := nowMs
      currentWindowEndMs := nowMs + 1 * stat.intervalSizeMs }

/-- The `for` loop of `add`. -/
def passIntervals : ℕ → MovingIntervalRateStat → MovingIntervalRateStat
  | 0, stat => stat
  | count + 1, stat =>
      let next := stat.getNextInterval stat.currentInterval
      passIntervals count
        { stat with
          currentInterval := next
          sampleVector := stat.sampleVector.set next 0
          accumulatedIntervals := stat.accumulatedIntervals + 1 }

/-- The value is added to the current slot. -/
def record (stat : MovingIntervalRateStat) (value : UInt64) : MovingIntervalRateStat :=
  { stat with sampleVector := stat.sampleVector.modify stat.currentInterval (· + value) }

/-- `intervals_to_pass`: an unsigned quotient, cut to a signed word of 32 bits. -/
def intervalsToPass (stat : MovingIntervalRateStat) (nowMs : UInt64) : ℤ :=
  Int.bmod ((nowMs - stat.currentWindowEndMs) / stat.intervalSizeMs).toNat (2 ^ 32)

/-- The end of `add`: the sample goes to its interval. -/
def addToInterval (stat : MovingIntervalRateStat) (nowMs value : UInt64) : MovingIntervalRateStat :=
  let correspondingInterval := stat.getIntervalForTimeMs nowMs
  let stat :=
    if correspondingInterval ≠ stat.currentInterval then
      { ({ stat with
            sampleVector := stat.sampleVector.set correspondingInterval 0
            accumulatedIntervals := stat.accumulatedIntervals + 1 } : MovingIntervalRateStat).updateWindowTimes with
        currentInterval := correspondingInterval }
    else stat
  stat.record value

/-- `add`. -/
def add (stat : MovingIntervalRateStat) (nowMs value : UInt64) : MovingIntervalRateStat :=
  let stat := stat.startWindow nowMs
  let intervalsToPass := stat.intervalsToPass nowMs
  if 0 < intervalsToPass ∧ stat.intervalsInWindow.toNat ≤ intervalsToPass.toNat then
    (({ stat with
        sampleVector := List.replicate stat.intervalsInWindow.toNat 0
        currentInterval := stat.getIntervalForTimeMs nowMs
        accumulatedIntervals := stat.accumulatedIntervals + UInt64.ofNat intervalsToPass.toNat } :
      MovingIntervalRateStat).record value).updateWindowTimes
  else (passIntervals intervalsToPass.toNat stat).addToInterval nowMs value

/-- A call of `add`: the reading of the clock and the value. -/
structure Sample where
  time : UInt64
  value : UInt64
  deriving DecidableEq, Repr

/-- A sample is added. -/
def step (stat : MovingIntervalRateStat) (sample : Sample) : MovingIntervalRateStat × Unit :=
  (stat.add sample.time sample.value, ())

/-- The statistic after a list of samples. -/
def after (intervalSizeMs : UInt64) (intervals : UInt32) (samples : List Sample) : MovingIntervalRateStat :=
  Machine.run step (create intervalSizeMs intervals) samples

/-! ### The rate -/

/-- The `do` loop of `calculateRateForInterval`: the slots it sums from one on, until the current one is next. There
are no more rounds than slots. -/
def movingIntervals (stat : MovingIntervalRateStat) : ℕ → ℕ → List ℕ
  | 0, _ => []
  | rounds + 1, movingInterval =>
      let next := stat.getNextInterval movingInterval
      movingInterval :: if next ≠ stat.currentInterval then movingIntervals stat rounds next else []

/-- What `calculateRateForInterval` sums: the slots of the loop, and a part of the current slot. -/
structure Summed where
  movingIntervals : List ℕ
  lastValuePart : ℚ

/-- `interval_start_time`. -/
def intervalStartTime (stat : MovingIntervalRateStat) (nowMs intervalToCalculateMs : UInt64) : UInt64 :=
  max (nowMs - intervalToCalculateMs) stat.currentWindowStartMs

/-- What `calculateRateForInterval` sums, if it comes to that. Words of 32 bits count the intervals that are passed. -/
def summed (stat : MovingIntervalRateStat) (nowMs intervalToCalculateMs : UInt64) : Option Summed :=
  let intervalStartTime := stat.intervalStartTime nowMs intervalToCalculateMs
  let intervalsToPass := ((intervalStartTime - stat.currentWindowStartMs) / stat.intervalSizeMs).toNat % 2 ^ 32
  if !stat.initialized ∨ stat.intervalsInWindow.toNat ≤ intervalsToPass then none
  else
    let lastValuePart : ℚ :=
      (nowMs - (stat.currentWindowEndMs - stat.intervalSizeMs)).toNat / stat.intervalSizeMs.toNat
    some
      { movingIntervals := stat.movingIntervals stat.intervalsInWindow.toNat
          (stat.getNextInterval ((stat.currentInterval + intervalsToPass) % 2 ^ 32))
        lastValuePart := if lastValuePart < 1 then lastValuePart else 1 }

/-- The value of a slot. -/
def sampleValue (stat : MovingIntervalRateStat) (interval : ℕ) : ℕ := (stat.sampleVector.getD interval 0).toNat

/-- `total_sum`, as an exact number. -/
def totalSum (stat : MovingIntervalRateStat) (summed : Summed) : ℚ :=
  (summed.movingIntervals.map fun interval => (stat.sampleValue interval : ℚ)).sum +
    summed.lastValuePart * stat.sampleValue stat.currentInterval

/-- `calculateRateForInterval`, as an exact number. -/
def calculateRateForInterval (stat : MovingIntervalRateStat) (scale : ℚ) (nowMs intervalToCalculateMs : UInt64) : ℚ :=
  match stat.summed nowMs intervalToCalculateMs with
  | none => 0
  | some summed =>
      let intervalStartTime := stat.intervalStartTime nowMs intervalToCalculateMs
      if nowMs = intervalStartTime then 0
      else stat.totalSum summed / (nowMs - intervalStartTime).toNat * 1000 * scale

/-- `value`. The sum and the rate are cut to whole numbers. -/
def value (stat : MovingIntervalRateStat) (scale : ℚ) (nowMs : UInt64) : UInt64 :=
  let intervalToCalculateMs := stat.intervalsInWindow.toUInt64 * stat.intervalSizeMs
  match stat.summed nowMs intervalToCalculateMs with
  | none => 0
  | some summed =>
      let intervalStartTime := stat.intervalStartTime nowMs intervalToCalculateMs
      if nowMs = intervalStartTime then 0
      else UInt64.ofNat ⌊(⌊stat.totalSum summed⌋₊ : ℚ) / (nowMs - intervalStartTime).toNat * 1000 * scale⌋₊

/-! ### The parts of a statistic

`sample_vector_` is a shared pointer: a copy of a statistic has the fields of its own, and the same vector. -/

/-- The fields that a copy has of its own. -/
structure Fields where
  intervalSizeMs : UInt64
  intervalsInWindow : UInt32
  calculationStartMs : UInt64
  currentInterval : ℕ
  accumulatedIntervals : UInt64
  currentWindowStartMs : UInt64
  currentWindowEndMs : UInt64
  initialized : Bool
  deriving Repr

/-- A statistic is its fields and the vector it points to. -/
def split : MovingIntervalRateStat ≃ Fields × List UInt64 where
  toFun stat :=
    ({ intervalSizeMs := stat.intervalSizeMs
       intervalsInWindow := stat.intervalsInWindow
       calculationStartMs := stat.calculationStartMs
       currentInterval := stat.currentInterval
       accumulatedIntervals := stat.accumulatedIntervals
       currentWindowStartMs := stat.currentWindowStartMs
       currentWindowEndMs := stat.currentWindowEndMs
       initialized := stat.initialized }, stat.sampleVector)
  invFun parts :=
    { intervalSizeMs := parts.1.intervalSizeMs
      intervalsInWindow := parts.1.intervalsInWindow
      calculationStartMs := parts.1.calculationStartMs
      currentInterval := parts.1.currentInterval
      accumulatedIntervals := parts.1.accumulatedIntervals
      currentWindowStartMs := parts.1.currentWindowStartMs
      currentWindowEndMs := parts.1.currentWindowEndMs
      sampleVector := parts.2
      initialized := parts.1.initialized }
  left_inv _ := rfl
  right_inv _ := rfl

end MovingIntervalRateStat

end Erizo
