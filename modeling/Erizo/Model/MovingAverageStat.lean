/-
**A statistic of the last values** (`MovingAverageStat` of `stats/StatNode.cpp`).

A vector of a fixed size keeps the last values. The mean of those in it is carried along with every value that is
added: a double in the source, and a rational number here. The mean of fewer of them is worked out when it is asked for,
from a sum of unsigned words of 64 bits; the sum and its quotient are rounded as doubles are. The position of the next
value counts all values that were added. The source counts them in 64 bits, which no run of the program comes to the end
of.
-/

import Erizo.Library.Binary64
import Mathlib.Algebra.Order.Floor.Defs
import Mathlib.Algebra.Order.Round
import Mathlib.Data.Rat.Floor
import Mathlib.Data.UInt
import Mathlib.Tactic

namespace Erizo

open Library.Binary64

/-- `MovingAverageStat`. -/
structure MovingAverageStat where
  sampleVector : List UInt64
  windowSize : UInt32
  nextSamplePosition : ℕ
  currentAverage : ℚ
  deriving Repr

namespace MovingAverageStat

/-- The constructor. -/
def create (windowSize : UInt32) : MovingAverageStat where
  sampleVector := List.replicate windowSize.toNat 0
  windowSize := windowSize
  nextSamplePosition := 0
  currentAverage := 0

/-- The value at a position, which is taken modulo the window. -/
def sample (stat : MovingAverageStat) (position : ℕ) : UInt64 :=
  (stat.sampleVector[position % stat.windowSize.toNat]?).getD 0

/-- The average with one more value: of all values until the window is full, and then with the value in place of the
one that leaves the window. -/
def nextAverage (stat : MovingAverageStat) (value : UInt64) : ℚ :=
  if stat.nextSamplePosition < stat.windowSize.toNat then
    (stat.currentAverage * stat.nextSamplePosition + value.toNat) / (stat.nextSamplePosition + 1)
  else
    let oldValue := stat.sample stat.nextSamplePosition
    if oldValue < value then stat.currentAverage + (value - oldValue).toNat / stat.windowSize.toNat
    else stat.currentAverage - (oldValue - value).toNat / stat.windowSize.toNat

/-- `add`. -/
def add (stat : MovingAverageStat) (value : UInt64) : MovingAverageStat :=
  { stat with
    currentAverage := stat.nextAverage value
    sampleVector := stat.sampleVector.set (stat.nextSamplePosition % stat.windowSize.toNat) value
    nextSamplePosition := stat.nextSamplePosition + 1 }

/-- The statistic after values. -/
def after (windowSize : UInt32) (values : List UInt64) : MovingAverageStat := values.foldl add (create windowSize)

/-- `value()`. -/
def value (stat : MovingAverageStat) : UInt64 := UInt64.ofNat (round stat.currentAverage).toNat

/-- `current_sample_position`, which wraps around before the first value. -/
def currentSamplePosition (stat : MovingAverageStat) : ℕ :=
  if stat.nextSamplePosition = 0 then 2 ^ 64 - 1 else stat.nextSamplePosition - 1

/-- How many values `getAverage` takes: no more than the window has, and no more than the position of the last one. -/
def samplesTaken (stat : MovingAverageStat) (sampleNumber : UInt32) : ℕ :=
  min (min sampleNumber.toNat stat.windowSize.toNat) stat.currentSamplePosition

/-- The loop of `getAverage`. -/
def calculatedSum (stat : MovingAverageStat) (sampleNumber : ℕ) : UInt64 :=
  (List.range sampleNumber).foldl (fun sum index => sum + stat.sample (stat.currentSamplePosition - index)) 0

/-- `getAverage`, a quotient of doubles; none where nothing is divided by nothing. -/
def getAverage (stat : MovingAverageStat) (sampleNumber : UInt32) : Option ℚ :=
  let taken := stat.samplesTaken sampleNumber
  if taken = 0 then none else some (toDouble (toDouble (stat.calculatedSum taken).toNat / taken))

/-- `value(sample_number)`: the average, cut to a whole number; none where there is no average, or none that a word
holds, which leaves the conversion undefined. -/
def valueOf (stat : MovingAverageStat) (sampleNumber : UInt32) : Option UInt64 :=
  (stat.getAverage sampleNumber).bind fun average =>
    if ⌊average⌋₊ < 2 ^ 64 then some (UInt64.ofNat ⌊average⌋₊) else none

end MovingAverageStat

end Erizo
