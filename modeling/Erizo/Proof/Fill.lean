/-
**What `fill` writes.**

`fill` numbers the inputs of a gap. When the gap crosses the wrap of the input numbers it first
runs the loop on the two halves, with outputs that start over, and then on the whole gap.
`fill_eq`: the third pass overwrites everything the first two left, so that `fill` is one forward
pass (`addRun`) over the gap with consecutive outputs, whatever the state it is called in.

The loop variable never skips the end of the gap (`fillLoop_eq`) and the recursion is one level
deep (`fillTo_add_two`), so neither bound in the model of `fill` is ever met.
-/

import Erizo.Model.SequenceNumberTranslator

namespace Erizo

open Library Library.Serial RtpUtils

namespace Config

/-- The widths the comparison is meant for, and a window it can tell from the numbers around. -/
structure Serial (config : Config) : Prop where
  wide : 4 < config.bits
  narrow : config.bits ≤ 16
  near : config.maxDistance.toNat < 2 ^ (config.bits - 4)

@[simp] theorem standard_bits : standard.bits = 16 := rfl

@[simp] theorem pictureId_bits : pictureId.bits = 15 := rfl

theorem standard_serial : Serial standard := ⟨by decide, by decide, by decide⟩

theorem pictureId_serial : Serial pictureId := ⟨by decide, by decide, by decide⟩

variable {config : Config}

theorem toNat_bounded (serial : config.Serial) (input : UInt16) :
    (config.boundedSequenceNumber input).toNat = input.toNat % 2 ^ config.bits := by
  unfold boundedSequenceNumber
  have below := input.toNat_lt
  by_cases full : config.bits = 16
  · rw [if_neg (by simpa using full), full]
    exact (Nat.mod_eq_of_lt below).symm
  · have short : config.bits ≤ 15 := by have := serial.narrow; omega
    have small : 2 ^ config.bits ≤ 2 ^ 15 := Nat.pow_le_pow_right (by norm_num) short
    have mask : config.mask = 2 ^ config.bits := Nat.mod_eq_of_lt (by omega)
    have reduced := Nat.mod_lt input.toNat (Nat.two_pow_pos config.bits)
    rw [if_pos full, mask, UInt16.toNat_ofNat', Nat.mod_eq_of_lt (by omega)]

theorem bounded_congr (serial : config.Serial) {first second : UInt16}
    (same : first.toNat % 2 ^ config.bits = second.toNat % 2 ^ config.bits) :
    config.boundedSequenceNumber first = config.boundedSequenceNumber second := by
  rw [← UInt16.toNat_inj, toNat_bounded serial, toNat_bounded serial, same]

theorem toNat_bounded_mod (serial : config.Serial) (input : UInt16) :
    (config.boundedSequenceNumber input).toNat % 2 ^ config.bits = input.toNat % 2 ^ config.bits := by
  rw [toNat_bounded serial, Nat.mod_mod]

theorem bounded_bounded (serial : config.Serial) (input : UInt16) :
    config.boundedSequenceNumber (config.boundedSequenceNumber input) =
      config.boundedSequenceNumber input :=
  bounded_congr serial (toNat_bounded_mod serial input)

theorem bounded_bounded_add (serial : config.Serial) (first second : UInt16) :
    config.boundedSequenceNumber (config.boundedSequenceNumber first + second) =
      config.boundedSequenceNumber (first + second) := by
  refine bounded_congr serial ?_
  rw [toNat_add_mod serial.narrow, toNat_add_mod serial.narrow, Nat.add_mod, toNat_bounded_mod serial,
    ← Nat.add_mod]

theorem ahead_bounded (serial : config.Serial) (first second : UInt16) :
    ahead config.bits (config.boundedSequenceNumber first) (config.boundedSequenceNumber second) =
      ahead config.bits first second :=
  ahead_congr serial.narrow (toNat_bounded_mod serial first) (toNat_bounded_mod serial second)

theorem toNat_bounded_lt (serial : config.Serial) (input : UInt16) :
    (config.boundedSequenceNumber input).toNat < 2 ^ config.bits := by
  rw [toNat_bounded serial]
  exact Nat.mod_lt _ (Nat.two_pow_pos _)

theorem toNat_bounded_zero (serial : config.Serial) : (config.boundedSequenceNumber 0).toNat = 0 := by
  rw [toNat_bounded serial]
  exact Nat.zero_mod _

/-- The largest number of the width. -/
theorem toNat_bounded_top (serial : config.Serial) :
    (config.boundedSequenceNumber 65535).toNat = 2 ^ config.bits - 1 := by
  have reach : ahead config.bits 0 65535 + 0 = 2 ^ config.bits - 1 :=
    ahead_top serial.narrow (Nat.two_pow_pos config.bits)
  rw [toNat_bounded serial, ← reach]
  rfl

/-- The distance between two numbers, from their reduced values. -/
theorem ahead_eq_of_wrap (serial : config.Serial) {first last : UInt16}
    (wraps : config.boundedSequenceNumber last < config.boundedSequenceNumber first) :
    ahead config.bits first last + (config.boundedSequenceNumber first).toNat =
      (config.boundedSequenceNumber last).toNat + 2 ^ config.bits := by
  have reduced := ahead_reduced serial.narrow _ _ (toNat_bounded_lt serial first)
    (toNat_bounded_lt serial last)
  rw [ahead_bounded serial] at reduced
  have order := UInt16.lt_iff_toNat_lt.mp wraps
  omega

/-- **Neither half of a gap that crosses the wrap crosses it again**, and neither is longer than the gap. -/
theorem halves_ordered (serial : config.Serial) {first last : UInt16}
    (wraps : config.boundedSequenceNumber last < config.boundedSequenceNumber first)
    (room : ahead config.bits first last + 2 ^ (config.bits - 4) ≤ 2 ^ config.bits) :
    ¬ config.boundedSequenceNumber 65535 < config.boundedSequenceNumber (config.boundedSequenceNumber first) ∧
      ahead config.bits (config.boundedSequenceNumber first) 65535 + 2 ^ (config.bits - 4) ≤ 2 ^ config.bits ∧
      ¬ config.boundedSequenceNumber (config.boundedSequenceNumber last) < config.boundedSequenceNumber 0 ∧
      ahead config.bits 0 (config.boundedSequenceNumber last) + 2 ^ (config.bits - 4) ≤ 2 ^ config.bits := by
  have gap := ahead_eq_of_wrap serial wraps
  have firstBelow := toNat_bounded_lt serial first
  have lastBelow := toNat_bounded_lt serial last
  have upper := ahead_top serial.narrow firstBelow
  have lower := ahead_zero lastBelow
  have order := UInt16.lt_iff_toNat_lt.mp wraps
  refine ⟨?_, by omega, ?_, by omega⟩
  · rw [UInt16.lt_iff_toNat_lt, bounded_bounded serial, toNat_bounded_top serial]
    omega
  · rw [UInt16.lt_iff_toNat_lt, toNat_bounded_zero serial]
    omega

end Config

namespace SequenceNumberTranslator

variable {config : Config}

/-! ### One forward pass -/

/-- The entry a forward pass stores in its round `index`. -/
def runEntry (config : Config) (first output : UInt16) (index : ℕ) : SequenceNumber :=
  ⟨config.boundedSequenceNumber (first + UInt16.ofNat index),
    config.boundedSequenceNumber (output + UInt16.ofNat index), .valid⟩

/-- **A forward pass**: `count` valid entries for consecutive inputs and consecutive outputs. -/
def addRun (translator : SequenceNumberTranslator config) (first output : UInt16) (count : ℕ) :
    SequenceNumberTranslator config :=
  { translator with
    inOutBuffer := translator.inOutBuffer.writeRun
      (fun index => (runEntry config first output index).input.toNat)
      (fun index => some (runEntry config first output index)) count
    outInBuffer := translator.outInBuffer.writeRun
      (fun index => (runEntry config first output index).output.toNat)
      (fun index => some (runEntry config first output index)) count }

theorem runEntry_succ (first output : UInt16) (index : ℕ) :
    runEntry config first output (index + 1) = runEntry config (first + 1) (output + 1) index := by
  have shift : ∀ word : UInt16, word + UInt16.ofNat (index + 1) = word + 1 + UInt16.ofNat index := by
    intro word
    rw [UInt16.ofNat_add, add_comm (UInt16.ofNat index), ← add_assoc]
    rfl
  simp only [runEntry, shift]

theorem runEntry_zero (first output : UInt16) :
    runEntry config first output 0 =
      ⟨config.boundedSequenceNumber first, config.boundedSequenceNumber output, .valid⟩ := by
  simp [runEntry]

/-- A forward pass, started by its first entry. -/
theorem addRun_succ (translator : SequenceNumberTranslator config) (first output : UInt16) (count : ℕ) :
    (translator.add (runEntry config first output 0)).addRun (first + 1) (output + 1) count =
      translator.addRun first output (count + 1) := by
  simp only [addRun, add, ← runEntry_succ]
  rw [RingBuffer.writeRun_shift (fun index => (runEntry config first output index).input.toNat)
      (fun index => some (runEntry config first output index)),
    RingBuffer.writeRun_shift (fun index => (runEntry config first output index).output.toNat)
      (fun index => some (runEntry config first output index))]

/-- **The loop of `fill` is a forward pass.** The number of rounds is the distance to `last`. -/
theorem fillLoop_eq (serial : config.Serial) (last : UInt16) :
    ∀ (count rounds : ℕ) (translator : SequenceNumberTranslator config) (first output : UInt16),
      count < rounds → ahead config.bits first last = count →
      count + 2 ^ (config.bits - 4) ≤ 2 ^ config.bits →
      fillLoop last rounds translator first output =
        (translator.addRun first output count, output + UInt16.ofNat count)
  | 0, rounds + 1, translator, first, output, _, reach, _ => by
      have stop : ¬ numberLessThan first last config.bits = true := by
        rw [numberLessThan_iff_ahead first last serial.wide serial.narrow]
        omega
      rw [fillLoop, if_neg stop]
      simp [addRun, RingBuffer.writeRun]
  | count + 1, rounds + 1, translator, first, output, enough, reach, room => by
      have go : numberLessThan first last config.bits = true := by
        rw [numberLessThan_iff_ahead first last serial.wide serial.narrow]
        omega
      have next : ahead config.bits (first + 1) last = count := by
        have away : 0 < ahead config.bits first last := by omega
        have step := ahead_succ serial.narrow away
        omega
      rw [fillLoop, if_pos go, fillLoop_eq serial last count rounds _ (first + 1) (output + 1)
        (by omega) next (by omega), ← runEntry_zero, addRun_succ]
      refine Prod.ext rfl ?_
      show output + 1 + UInt16.ofNat count = output + UInt16.ofNat (count + 1)
      rw [UInt16.ofNat_add, add_assoc, add_comm (UInt16.ofNat count)]
      rfl

/-- **A pass over a gap absorbs an earlier pass whose inputs and outputs it covers.** -/
theorem addRun_addRun (translator : SequenceNumberTranslator config) (first first' output output' : UInt16)
    {count count' : ℕ}
    (inputs : ∀ index < count', ∃ other < count,
      (runEntry config first' output' index).input = (runEntry config first output other).input)
    (outputs : ∀ index < count', ∃ other < count,
      (runEntry config first' output' index).output = (runEntry config first output other).output) :
    (translator.addRun first' output' count').addRun first output count =
      translator.addRun first output count := by
  simp only [addRun]
  congr 1
  · refine RingBuffer.writeRun_absorb _ _ _ fun index below => ?_
    obtain ⟨other, inside, same⟩ := inputs index below
    exact ⟨other, inside, by rw [same]⟩
  · refine RingBuffer.writeRun_absorb _ _ _ fun index below => ?_
    obtain ⟨other, inside, same⟩ := outputs index below
    exact ⟨other, inside, by rw [same]⟩

/-! ### `fill` -/

/-- The output the next forwarded input is given. -/
def nextOutput (translator : SequenceNumberTranslator config) : UInt16 :=
  config.boundedSequenceNumber (translator.lastOutput + translator.offset + 1)

/-- One forward pass over the inputs from `firstInput` up to `lastInput`, and the output after its
last one. -/
def gapRun (translator : SequenceNumberTranslator config) (firstInput lastInput : UInt16) :
    SequenceNumberTranslator config × UInt16 :=
  let count := ahead config.bits firstInput lastInput
  (translator.addRun (config.boundedSequenceNumber firstInput) translator.nextOutput count,
    translator.nextOutput + UInt16.ofNat count)

theorem gapRun_fst (translator : SequenceNumberTranslator config) (firstInput lastInput : UInt16) :
    (translator.gapRun firstInput lastInput).1 =
      translator.addRun (config.boundedSequenceNumber firstInput) translator.nextOutput
        (ahead config.bits firstInput lastInput) := rfl

@[simp] theorem addRun_nextOutput (translator : SequenceNumberTranslator config) (first output : UInt16)
    (count : ℕ) : (translator.addRun first output count).nextOutput = translator.nextOutput := rfl

/-- `fill` on a gap that does not cross the wrap. -/
theorem fillTo_ordered (serial : config.Serial) (depth : ℕ) (translator : SequenceNumberTranslator config)
    (firstInput lastInput : UInt16)
    (ordered : ¬ config.boundedSequenceNumber lastInput < config.boundedSequenceNumber firstInput)
    (room : ahead config.bits firstInput lastInput + 2 ^ (config.bits - 4) ≤ 2 ^ config.bits) :
    fillTo (depth + 1) translator firstInput lastInput = translator.gapRun firstInput lastInput := by
  have top : 2 ^ config.bits ≤ 2 ^ 16 := Nat.pow_le_pow_right (by norm_num) serial.narrow
  have below := ahead_lt config.bits firstInput lastInput
  simp only [fillTo, if_neg ordered]
  exact fillLoop_eq serial _ _ _ _ _ _ (by omega) (Config.ahead_bounded serial _ _) room

/-- **`fill` is one forward pass**, at every depth of recursion from two on. -/
theorem fillTo_add_two (serial : config.Serial) (depth : ℕ) (translator : SequenceNumberTranslator config)
    (firstInput lastInput : UInt16)
    (room : ahead config.bits firstInput lastInput + 2 ^ (config.bits - 4) ≤ 2 ^ config.bits) :
    fillTo (depth + 2) translator firstInput lastInput = translator.gapRun firstInput lastInput := by
  by_cases wraps : config.boundedSequenceNumber lastInput < config.boundedSequenceNumber firstInput
  · obtain ⟨upperOrder, upperRoom, lowerOrder, lowerRoom⟩ := Config.halves_ordered serial wraps room
    have gap := Config.ahead_eq_of_wrap serial wraps
    have count : ahead config.bits (config.boundedSequenceNumber firstInput)
        (config.boundedSequenceNumber lastInput) = ahead config.bits firstInput lastInput :=
      Config.ahead_bounded serial firstInput lastInput
    have boundFirst := Config.bounded_bounded serial firstInput
    have boundLast := Config.bounded_bounded serial lastInput
    have firstBelow := Config.toNat_bounded_lt serial firstInput
    have lastBelow := Config.toNat_bounded_lt serial lastInput
    have upper := ahead_top serial.narrow firstBelow
    have lower := ahead_zero lastBelow
    unfold gapRun
    rw [fillTo]
    simp only [if_pos wraps]
    generalize config.boundedSequenceNumber firstInput = first at *
    generalize config.boundedSequenceNumber lastInput = last at *
    have order : last.toNat < first.toNat := wraps
    have upperPass : fillTo (depth + 1) translator first 65535 = translator.gapRun first 65535 :=
      fillTo_ordered serial depth translator first 65535 upperOrder upperRoom
    have lowerPass : ∀ state : SequenceNumberTranslator config,
        fillTo (depth + 1) state 0 last = state.gapRun 0 last :=
      fun state => fillTo_ordered serial depth state 0 last lowerOrder lowerRoom
    have top : 2 ^ config.bits ≤ 2 ^ 16 := Nat.pow_le_pow_right (by norm_num) serial.narrow
    rw [upperPass, lowerPass]
    rw [← nextOutput, gapRun_fst, gapRun_fst, addRun_nextOutput, addRun_nextOutput, addRun_nextOutput,
      fillLoop_eq serial last _ 65536 _ first _ (by omega) count (by omega)]
    congr 1
    rw [boundFirst, addRun_addRun _ first, addRun_addRun translator first]
    · exact fun index below => ⟨index, by omega, rfl⟩
    · exact fun index below => ⟨index, by omega, rfl⟩
    · intro index below
      refine ⟨index + (2 ^ config.bits - first.toNat), by omega, Config.bounded_congr serial ?_⟩
      rw [toNat_add_mod serial.narrow, toNat_add_mod serial.narrow, Config.toNat_bounded_zero serial, zero_add,
        toNat_ofNat_mod serial.narrow, Nat.add_mod first.toNat, toNat_ofNat_mod serial.narrow, ← Nat.add_mod,
        show first.toNat + (index + (2 ^ config.bits - first.toNat)) = index + 2 ^ config.bits by omega,
        Nat.add_mod_right]
    · exact fun index below => ⟨index, by omega, rfl⟩
  · exact fillTo_ordered serial (depth + 1) translator firstInput lastInput wraps room

/-- **`fill`, as `get` calls it.** -/
theorem fill_eq (serial : config.Serial) (translator : SequenceNumberTranslator config) {input : UInt16}
    (new : numberLessThan translator.lastInput input config.bits = true) :
    translator.fill (translator.lastInput + 1) input =
      translator.gapRun (translator.lastInput + 1) input := by
  rw [numberLessThan_iff_ahead _ _ serial.wide serial.narrow] at new
  have step := ahead_succ serial.narrow new.1
  exact fillTo_add_two serial 0 translator _ _ (by omega)

end SequenceNumberTranslator

end Erizo
