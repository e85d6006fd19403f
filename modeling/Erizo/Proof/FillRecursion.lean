/-
**The recursion of `fill`.**

`fillWithin` is `fill` as the source has it, with calls of itself and a loop that nothing bounds: it has a number of
steps to spend, and no result when they are not enough. For the gaps that `get` fills there are always enough, and
the result is that of one forward pass over the gap (`fillWithin_forward`): the entries of the recursive calls, with
outputs that start over, are all written again by the loop over the whole gap.
-/

import Erizo.Proof.Fill

namespace Erizo

open Library Library.Serial RtpUtils

namespace SequenceNumberTranslator

variable {config : Config}

/-! ### Bounded steps -/

/-- The loop of `fill`, within a number of rounds. -/
def fillLoopWithin (last : UInt16) : ℕ → SequenceNumberTranslator config → UInt16 → UInt16 →
    Option (SequenceNumberTranslator config × UInt16)
  | 0, _, _, _ => none
  | rounds + 1, translator, sequenceNumber, outputSequenceNumber =>
      if numberLessThan sequenceNumber last config.bits then
        fillLoopWithin last rounds
          (translator.add ⟨config.boundedSequenceNumber sequenceNumber,
            config.boundedSequenceNumber outputSequenceNumber, .valid⟩)
          (sequenceNumber + 1) (outputSequenceNumber + 1)
      else some (translator, outputSequenceNumber)

/-- `fill`, within a depth of calls that is also the number of rounds of each loop. -/
def fillWithin : ℕ → SequenceNumberTranslator config → UInt16 → UInt16 →
    Option (SequenceNumberTranslator config × UInt16)
  | 0, _, _, _ => none
  | steps + 1, translator, firstInput, lastInput =>
      let first := config.boundedSequenceNumber firstInput
      let last := config.boundedSequenceNumber lastInput
      let recursed :=
        if last < first then
          (fillWithin steps translator first 65535).bind fun (translator, _) =>
            (fillWithin steps translator 0 last).map fun (translator, _) => translator
        else some translator
      recursed.bind fun translator =>
        fillLoopWithin last steps translator first
          (config.boundedSequenceNumber (translator.lastOutput + translator.offset + 1))

/-- **One forward pass**: an entry for each of a number of consecutive inputs, with consecutive outputs. -/
def forwardPass (translator : SequenceNumberTranslator config) (firstInput output : UInt16) (count : ℕ) :
    SequenceNumberTranslator config :=
  (List.range count).foldl
    (fun translator index =>
      translator.add ⟨config.boundedSequenceNumber (firstInput + UInt16.ofNat index),
        config.boundedSequenceNumber (output + UInt16.ofNat index), .valid⟩)
    translator

/-! ### Enough steps -/

/-- With a round for every number up to the last one the loop ends. -/
theorem fillLoopWithin_eq (serial : config.Serial) (last : UInt16) (rounds : ℕ) :
    ∀ (translator : SequenceNumberTranslator config) (first output : UInt16), ahead config.bits first last < rounds →
      fillLoopWithin last rounds translator first output = some (fillLoop last rounds translator first output) := by
  induction rounds with
  | zero => exact fun _ first _ enough => absurd enough (Nat.not_lt_zero _)
  | succ rounds ih =>
      intro translator first output enough
      rw [fillLoopWithin, fillLoop]
      split_ifs with go
      · rw [numberLessThan_iff_ahead first last serial.wide serial.narrow] at go
        have step := ahead_succ serial.narrow go.1
        exact ih _ _ _ (by omega)
      · rfl

/-- The number of rounds makes no difference then. -/
theorem fillLoopWithin_gap (serial : config.Serial) {last first : UInt16} {rounds : ℕ}
    (translator : SequenceNumberTranslator config) (output : UInt16) (enough : ahead config.bits first last < rounds)
    (room : ahead config.bits first last + 2 ^ (config.bits - 4) ≤ 2 ^ config.bits) :
    fillLoopWithin last rounds translator first output = some (fillLoop last 65536 translator first output) := by
  have top : 2 ^ config.bits ≤ 2 ^ 16 := Nat.pow_le_pow_right (by norm_num) serial.narrow
  have below := ahead_lt config.bits first last
  rw [fillLoopWithin_eq serial last rounds translator first output enough,
    fillLoop_eq serial last _ rounds translator first output enough rfl room,
    fillLoop_eq serial last _ 65536 translator first output (by omega) rfl room]

/-- A gap that does not cross the wrap needs no recursive call. -/
theorem fillWithin_ordered (serial : config.Serial) (depth : ℕ) {steps : ℕ} (enough : 2 ^ config.bits ≤ steps)
    (translator : SequenceNumberTranslator config) {firstInput lastInput : UInt16}
    (ordered : ¬ config.boundedSequenceNumber lastInput < config.boundedSequenceNumber firstInput)
    (room : ahead config.bits firstInput lastInput + 2 ^ (config.bits - 4) ≤ 2 ^ config.bits) :
    fillWithin (steps + 1) translator firstInput lastInput =
      some (fillTo (depth + 1) translator firstInput lastInput) := by
  have below := ahead_lt config.bits firstInput lastInput
  simp only [fillWithin, fillTo, if_neg ordered, Option.bind_some]
  refine fillLoopWithin_gap serial translator _ ?_ ?_ <;> rw [Config.ahead_bounded serial]
  · exact below.trans_le enough
  · exact room

/-- **The recursion ends**: the calls for the two halves of a gap do not recurse again. -/
theorem fillWithin_eq_fill (serial : config.Serial) {steps : ℕ} (enough : 2 ^ config.bits ≤ steps)
    (translator : SequenceNumberTranslator config) {firstInput lastInput : UInt16}
    (room : ahead config.bits firstInput lastInput + 2 ^ (config.bits - 4) ≤ 2 ^ config.bits) :
    fillWithin (steps + 2) translator firstInput lastInput = some (translator.fill firstInput lastInput) := by
  by_cases wraps : config.boundedSequenceNumber lastInput < config.boundedSequenceNumber firstInput
  · obtain ⟨upper, upperRoom, lower, lowerRoom⟩ := Config.halves_ordered serial wraps room
    have below := ahead_lt config.bits firstInput lastInput
    rw [fill, fillTo, fillWithin]
    simp only [if_pos wraps, fillWithin_ordered serial 0 enough _ upper upperRoom,
      fillWithin_ordered serial 0 enough _ lower lowerRoom, Option.bind_some, Option.map_some]
    refine fillLoopWithin_gap serial _ _ ?_ ?_ <;> rw [Config.ahead_bounded serial]
    · omega
    · exact room
  · exact fillWithin_ordered serial 1 (by omega) translator wraps room

/-! ### The forward pass -/

/-- A forward pass, as the two runs of writes it is. -/
theorem forwardPass_eq (count : ℕ) : ∀ (translator : SequenceNumberTranslator config) (first output : UInt16),
    translator.forwardPass first output count = translator.addRun first output count := by
  induction count with
  | zero => exact fun _ _ _ => rfl
  | succ count ih =>
      intro translator first output
      have shift : ∀ (word : UInt16) (index : ℕ), word + UInt16.ofNat (index + 1) = word + 1 + UInt16.ofNat index := by
        intro word index
        rw [UInt16.ofNat_add, add_comm (UInt16.ofNat index), ← add_assoc]
        rfl
      rw [← addRun_succ, ← ih, forwardPass, forwardPass, List.range_succ_eq_map, List.foldl_cons, List.foldl_map]
      simp only [Nat.succ_eq_add_one, shift]
      rfl

/-- The first input of a forward pass is reduced to the width anyway. -/
theorem forwardPass_bounded (serial : config.Serial) (translator : SequenceNumberTranslator config)
    (first output : UInt16) (count : ℕ) :
    translator.forwardPass (config.boundedSequenceNumber first) output count =
      translator.forwardPass first output count := by
  simp only [forwardPass, Config.bounded_bounded_add serial]

/-- Both translators of the source are wide enough to compare and narrow enough for a word. -/
theorem serial_of_known (known : config = .standard ∨ config = .pictureId) : config.Serial := by
  rcases known with rfl | rfl
  · exact Config.standard_serial
  · exact Config.pictureId_serial

/-- How many inputs `get` fills in before a new one. -/
def gap (translator : SequenceNumberTranslator config) (input : UInt16) : ℕ :=
  ahead config.bits (translator.lastInput + 1) input

/-- With enough steps `fill` ends. It has made one forward pass over the inputs of the gap, and returns the output after
that of the last one. -/
def FillsForward (translator : SequenceNumberTranslator config) (input : UInt16) : Prop :=
  ∃ enough, ∀ steps, enough ≤ steps → ∃ output,
    fillWithin steps translator (translator.lastInput + 1) input =
        some (translator.forwardPass (translator.lastInput + 1) translator.nextOutput (translator.gap input), output) ∧
      config.boundedSequenceNumber output =
        config.boundedSequenceNumber (translator.nextOutput + UInt16.ofNat (translator.gap input))

/-- **`fill` is one forward pass over the inputs that `get` has missed**, in both translators and from every state. The
inputs end before the new one. -/
theorem fillWithin_forward (known : config = .standard ∨ config = .pictureId)
    (translator : SequenceNumberTranslator config) {input : UInt16}
    (new : numberLessThan translator.lastInput input config.bits = true) :
    FillsForward translator input ∧
      translator.gap input < 2 ^ config.bits ∧
      config.boundedSequenceNumber (translator.lastInput + 1 + UInt16.ofNat (translator.gap input)) =
        config.boundedSequenceNumber input := by
  have serial := serial_of_known known
  refine ⟨⟨2 ^ config.bits + 2, fun steps enough => ?_⟩, ahead_lt _ _ _, ?_⟩
  · obtain ⟨rounds, rfl⟩ := Nat.exists_eq_add_of_le enough
    have order := (numberLessThan_iff_ahead _ _ serial.wide serial.narrow).mp new
    have step := ahead_succ serial.narrow order.1
    refine ⟨_, ?_, rfl⟩
    rw [show 2 ^ config.bits + 2 + rounds = 2 ^ config.bits + rounds + 2 by omega,
      fillWithin_eq_fill serial (Nat.le_add_right _ _) translator (by omega), fill_eq serial translator new, gapRun,
      ← forwardPass_eq, forwardPass_bounded serial]
    rfl
  · exact Config.bounded_congr serial (add_ahead serial.narrow _ _)

/-- A gap that crosses the wrap of the picture ids. -/
theorem fillWithin_forward_across : FillsForward { init .pictureId with lastInput := 32765 } 3 :=
  (fillWithin_forward (Or.inr rfl) { init .pictureId with lastInput := 32765 } (by decide)).1

end SequenceNumberTranslator

end Erizo
