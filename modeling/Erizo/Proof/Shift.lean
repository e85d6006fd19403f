/-
**Without skipped or generated packets a translator is a shift.**

After construction or a reset, a run of forwarded inputs in any order gives every input the output
`input + shift`, for one `shift` that the first input fixes. In every state of the run both buffers
hold the entry `⟨n, n + shift, valid⟩` for each number `n` of the window (`Shifted`), so that
`reverse` inverts `get` there.
-/

import Erizo.Proof.Faithful

namespace Erizo

open Library Library.Serial RtpUtils

namespace SequenceNumberTranslator

/-- The entry of an input under a shift. -/
def shiftEntry (shift input : UInt16) : SequenceNumber := ⟨input, input + shift, .valid⟩

/-- A cell holds the entry of an input under a shift. -/
def HoldsShift (shift input : UInt16) (cell : Option SequenceNumber) : Prop := cell = some (shiftEntry shift input)

/-- The state of a translator that shifts its inputs. -/
structure Shifted (translator : SequenceNumberTranslator .standard) (shift : UInt16) : Prop where
  started : translator.initialized = true
  spanned : translator.span ≤ 500
  idle : translator.offset = 0
  output : translator.lastOutput = translator.lastInput + shift
  inOut : translator.inOutBuffer.Recent translator.address
    (fun back => HoldsShift shift (translator.behind back)) translator.span
  outIn : translator.outInBuffer.Recent (fun back => (translator.behind back + shift).toNat)
    (fun back => HoldsShift shift (translator.behind back)) translator.span

variable {translator : SequenceNumberTranslator .standard} {shift : UInt16}

/-! ### New inputs -/

theorem behind_standard (translator : SequenceNumberTranslator .standard) (back : ℕ) :
    translator.behind back = translator.lastInput - UInt16.ofNat back := rfl

/-- The entries on the way to a new input, at full width. -/
theorem newEntry_standard (translator : SequenceNumberTranslator .standard) (input : UInt16) (skip : Bool)
    (index : ℕ) :
    translator.newEntry input skip index =
      ⟨translator.lastInput + 1 + UInt16.ofNat index, translator.nextOutput + UInt16.ofNat index,
        if index = ahead 16 (translator.lastInput + 1) input then storedType skip else .valid⟩ := by
  change (if index = ahead 16 (translator.lastInput + 1) input then _ else _) = _
  by_cases last : index = ahead 16 (translator.lastInput + 1) input
  · have reach : translator.lastInput + 1 + UInt16.ofNat index = input := by
      rw [last]
      exact add_ahead_full _ _
    rw [if_pos last, if_pos last, reach, last]
    rfl
  · rw [if_neg last, if_neg last]
    rfl

theorem Shifted.nextOutput (shifted : translator.Shifted shift) :
    translator.nextOutput = translator.lastInput + 1 + shift := by
  show translator.lastOutput + translator.offset + 1 = _
  rw [shifted.output, shifted.idle]
  abel

theorem Shifted.newEntry (shifted : translator.Shifted shift) (input : UInt16) (index : ℕ) :
    translator.newEntry input false index =
      shiftEntry shift (translator.lastInput + 1 + UInt16.ofNat index) := by
  rw [newEntry_standard, shifted.nextOutput]
  have type : (if index = ahead 16 (translator.lastInput + 1) input then storedType false else .valid) =
      SequenceNumberType.valid := ite_self _
  rw [type, shiftEntry]
  congr 1
  abel

/-- The number `back` behind a new input. -/
theorem behind_new (translator : SequenceNumberTranslator .standard) {input : UInt16} {back : ℕ}
    (short : back ≤ ahead 16 (translator.lastInput + 1) input) :
    translator.lastInput + 1 + UInt16.ofNat (ahead 16 (translator.lastInput + 1) input - back) =
      input - UInt16.ofNat back := by
  have total := add_ahead_full (translator.lastInput + 1) input
  have split : UInt16.ofNat (ahead 16 (translator.lastInput + 1) input) =
      UInt16.ofNat (ahead 16 (translator.lastInput + 1) input - back) + UInt16.ofNat back := by
    rw [← UInt16.ofNat_add, Nat.sub_add_cancel short]
  rw [split] at total
  rw [eq_sub_iff_add_eq, add_assoc]
  exact total

theorem shifted_new (shifted : translator.Shifted shift) {input : UInt16}
    (new : 0 < ahead 16 translator.lastInput input)
    (near : translator.span + ahead 16 translator.lastInput input < 2 ^ 12) :
    translator.newOutput input = input + shift ∧ (translator.afterNew input false).Shifted shift := by
  have serial := Config.standard_serial
  have step : ahead 16 (translator.lastInput + 1) input + 1 = ahead 16 translator.lastInput input :=
    ahead_succ serial.narrow new
  have span : (translator.afterNew input false).span =
      min (translator.span + ahead 16 translator.lastInput input) 500 := span_afterNew serial translator false near
  have output : translator.newOutput input = input + shift := by
    have total := add_ahead_full (translator.lastInput + 1) input
    show translator.nextOutput + UInt16.ofNat (ahead 16 (translator.lastInput + 1) input) = _
    rw [shifted.nextOutput, add_right_comm, total]
  have entries : ∀ back ≤ ahead 16 (translator.lastInput + 1) input,
      translator.newEntry input false (ahead 16 (translator.lastInput + 1) input - back) =
        shiftEntry shift ((translator.afterNew input false).behind back) := by
    intro back short
    rw [shifted.newEntry, behind_new translator short]
    rfl
  have older : ∀ back, (translator.afterNew input false).behind
      (back + (ahead 16 (translator.lastInput + 1) input + 1)) = translator.behind back := by
    intro back
    rw [step]
    exact behind_afterNew serial translator input false back
  have moves : numberLessThan translator.lastOutput (input + shift) 16 = true := by
    rw [numberLessThan_iff_ahead _ _ (by decide) (le_refl 16), shifted.output, ahead_add_right]
    omega
  refine ⟨output, ⟨shifted.started, ?_, rfl, ?_, ?_, ?_⟩⟩
  · rw [span]
    exact min_le_right _ _
  · show translator.updatedOutput false (translator.newOutput input) = input + shift
    rw [output, updatedOutput]
    exact if_pos moves
  · refine recent_afterNew serial shifted.inOut input.toNat_lt false new near ?_ ?_
    · intro back below
      exact congrArg some (entries back (Nat.lt_succ_iff.mp (lt_of_lt_of_eq below step.symm)))
    · intro back _ cell holds
      rw [behind_afterNew serial translator input false back]
      exact holds
  · refine RingBuffer.Recent.writeRun shifted.outIn ?_ ?_ ?_
    · rw [span]
      exact le_trans (min_le_left _ _) (le_of_eq (congrArg _ step.symm))
    · intro back below
      have entry := entries back (Nat.lt_succ_iff.mp below)
      simp only [Config.standard_bits, Nat.add_sub_cancel, entry]
      exact ⟨rfl, rfl⟩
    · intro back _
      simp only [Config.standard_bits, older back, true_and]
      exact fun _ holds => holds

/-! ### Numbers of the window -/

section Inside

variable {number : UInt16}

/-- Both buffers hold the entry of every number of the window. -/
theorem Shifted.cells (shifted : translator.Shifted shift)
    (inside : ahead 16 number translator.lastInput ≤ translator.span) :
    translator.inOutBuffer.get number.toNat = some (shiftEntry shift number) ∧
      translator.outInBuffer.get (number + shift).toNat = some (shiftEntry shift number) := by
  have here : translator.behind (ahead 16 number translator.lastInput) = number :=
    behind_ahead Config.standard_serial translator number.toNat_lt
  have short : ahead 16 number translator.lastInput ≤ 500 := le_trans inside shifted.spanned
  have forwards := shifted.inOut _ inside (fresh_standard translator short)
  have outputs : RingBuffer.Fresh 1024 (fun back => (translator.behind back + shift).toNat)
      (ahead 16 number translator.lastInput) := by
    have shiftedBack : ∀ back, translator.behind back + shift = translator.lastInput + shift - UInt16.ofNat back := by
      intro back
      rw [behind_standard]
      abel
    simp only [shiftedBack]
    exact fresh_back _ short
  have backwards := shifted.outIn _ inside outputs
  simp only [address, here] at forwards
  simp only [here] at backwards
  exact ⟨forwards, backwards⟩

/-- **A number of the window keeps its entry**, and asking for it changes nothing. -/
theorem Shifted.get_inside (shifted : translator.Shifted shift)
    (inside : ahead 16 translator.firstInput number ≤ translator.span) :
    translator.get number false = (translator, shiftEntry shift number) := by
  have within : ahead 16 number translator.lastInput ≤ translator.span :=
    (window_iff Config.standard_serial translator number).mp inside
  obtain ⟨forwards, backwards⟩ := shifted.cells within
  have found : translator.internalGet number = shiftEntry shift number := by
    rw [internalGet, forwards]
    rfl
  have back : translator.internalReverse (number + shift) = shiftEntry shift number := by
    rw [internalReverse, backwards]
    rfl
  have stays : translator.updatedOutput false (number + shift) = translator.lastOutput := by
    have behind : ¬ numberLessThan translator.lastOutput (number + shift) 16 = true := by
      have spanned := shifted.spanned
      rw [numberLessThan_iff _ _ (by decide) (le_refl 16), shifted.output, ahead_add_right]
      omega
    exact if_neg behind
  have entry : translator.lateEntry number false = shiftEntry shift number := by
    rw [lateEntry, found]
    rfl
  have state : translator.afterLate number false = translator := by
    have sameIn := RingBuffer.set_eq_self forwards
    have sameOut := RingBuffer.set_eq_self backwards
    unfold afterLate
    rw [entry, found]
    show ({ translator with
      inOutBuffer := translator.inOutBuffer.set number.toNat (some (shiftEntry shift number))
      outInBuffer := translator.outInBuffer.set (number + shift).toNat
        (some { translator.internalReverse (number + shift) with type := .valid })
      lastOutput := translator.updatedOutput false (number + shift) } : SequenceNumberTranslator .standard) = _
    rw [back, stays, sameIn]
    show ({ translator with
      outInBuffer := translator.outInBuffer.set (number + shift).toNat (some (shiftEntry shift number)) } :
        SequenceNumberTranslator .standard) = _
    rw [sameOut]
  rw [get_window Config.standard_serial shifted.started shifted.spanned inside, entry, state]

/-- **`reverse` inverts `get` on the window.** -/
theorem Shifted.reverse (shifted : translator.Shifted shift)
    (inside : ahead 16 translator.firstInput number ≤ translator.span) :
    translator.reverse (number + shift) = shiftEntry shift number := by
  have within : ahead 16 number translator.lastInput ≤ translator.span :=
    (window_iff Config.standard_serial translator number).mp inside
  have spanned := shifted.spanned
  have found : translator.internalReverse (number + shift) = shiftEntry shift number := by
    rw [internalReverse, (shifted.cells within).2]
    rfl
  have young : ¬ numberLessThan number translator.firstInput 16 = true := by
    rw [numberLessThan_iff _ _ (by decide) (le_refl 16)]
    omega
  have old : ¬ numberLessThan translator.lastInput number 16 = true := by
    rw [numberLessThan_iff _ _ (by decide) (le_refl 16)]
    omega
  unfold SequenceNumberTranslator.reverse
  rw [found]
  refine if_neg ?_
  rintro (other | less | greater)
  · exact other rfl
  · exact young less
  · exact old greater

end Inside

/-! ### Runs -/

/-- One forwarded input. -/
theorem shifted_get (shifted : translator.Shifted shift) (input : UInt16) :
    (translator.get input false).1.Shifted shift ∧
      ((translator.get input false).2.type = .valid →
        (translator.get input false).2 = shiftEntry shift input) := by
  rcases get_cases Config.standard_serial translator shifted.started shifted.spanned input false with
    ⟨_, same⟩ | ⟨new, near, same⟩ | ⟨inside, _⟩
  · rw [same]
    exact ⟨shifted, fun valid => nomatch valid⟩
  · obtain ⟨output, keeps⟩ := shifted_new shifted new near
    rw [same, output]
    exact ⟨keeps, fun _ => rfl⟩
  · have within := (window_iff Config.standard_serial translator input).mpr inside
    rw [shifted.get_inside within]
    exact ⟨shifted, fun _ => rfl⟩

/-- The first forwarded input fixes the shift. -/
theorem shifted_first (waiting : translator.initialized = false) (few : translator.offset.toNat < 61440)
    (input : UInt16) :
    (translator.get input false).1.Shifted (translator.firstOutput input - input) ∧
      (translator.get input false).2 = shiftEntry (translator.firstOutput input - input) input := by
  have total : input + (translator.firstOutput input - input) = translator.firstOutput input := by abel
  have single : (translator.afterFirst input).span = 0 := ahead_self input
  have here : (translator.afterFirst input).behind 0 = input := sub_zero input
  have entry : shiftEntry (translator.firstOutput input - input) input =
      ⟨input, translator.firstOutput input, .valid⟩ := by
    rw [shiftEntry, total]
  rw [get_waiting translator waiting, getFirst_forward translator waiting]
  refine ⟨⟨rfl, ?_, rfl, ?_, ?_, ?_⟩, entry.symm⟩
  · rw [single]
    exact Nat.zero_le _
  · have output : (translator.afterFirst input).lastOutput = translator.firstOutput input :=
      afterFirst_lastOutput Config.standard_serial translator (by show _ + 1 + 2 ^ 12 ≤ 2 ^ 16; omega) input
    rw [output]
    exact total.symm
  · intro back inside _
    obtain rfl : back = 0 := Nat.le_zero.mp (single ▸ inside)
    simp only [address, here]
    rw [HoldsShift, entry]
    exact RingBuffer.get_set_self _ _ _
  · intro back inside _
    obtain rfl : back = 0 := Nat.le_zero.mp (single ▸ inside)
    simp only [here, total]
    rw [HoldsShift, entry]
    exact RingBuffer.get_set_self _ _ _

/-- Calls that forward inputs. -/
def forward (inputs : List UInt16) : List Call := inputs.map fun input => .get input false

/-- A run that shifts its inputs, result by result and state by state. -/
theorem shifted_run (shifted : translator.Shifted shift) (inputs : List UInt16) :
    (∀ moment, (Machine.run step translator (forward (inputs.take moment))).Shifted shift) ∧
      ∀ pair ∈ inputs.zip (Machine.outputs step translator (forward inputs)), ∀ result, pair.2 = some result →
        result.type = .valid → result = shiftEntry shift pair.1 := by
  induction inputs generalizing translator with
  | nil => exact ⟨fun _ => by rw [List.take_nil]; exact shifted, fun _ member => nomatch member⟩
  | cons input rest ih =>
      obtain ⟨keeps, answer⟩ := shifted_get shifted input
      obtain ⟨states, results⟩ := ih keeps
      refine ⟨fun moment => ?_, fun pair member result same valid => ?_⟩
      · cases moment with
        | zero => exact shifted
        | succ moment => exact states moment
      · rcases List.mem_cons.mp member with rfl | later
        · obtain rfl := Option.some_injective _ same
          exact answer valid
        · exact results pair later result same valid

/-- An input keeps `offset` or clears it. -/
theorem offset_get (spanned : translator.Spanned) (input : UInt16) (skip : Bool) :
    (translator.get input skip).1.offset = translator.offset ∨ (translator.get input skip).1.offset = 0 := by
  by_cases started : translator.initialized = true
  · rcases get_cases Config.standard_serial translator started (spanned started) input skip with
      ⟨_, same⟩ | ⟨_, _, same⟩ | ⟨_, same⟩
    · rw [same]
      exact Or.inl rfl
    · rw [same]
      cases skip
      · exact Or.inr rfl
      · exact Or.inl rfl
    · rw [same, getLate_eq translator started]
      exact Or.inl rfl
  · have waiting : translator.initialized = false := by simpa using started
    rw [get_waiting translator waiting]
    cases skip with
    | false =>
        rw [getFirst_forward translator waiting]
        exact Or.inr rfl
    | true =>
        rw [getFirst_skip translator]
        exact Or.inl rfl

/-- `offset` stays zero when nothing is generated. -/
theorem offset_after {history : List Call} (quiet : .generate ∉ history) : (after .standard history).offset = 0 := by
  have keeps : ∀ (state : SequenceNumberTranslator .standard) (call : Call), call ≠ .generate →
      (state.Spanned ∧ state.offset = 0) → ((state.step call).1.Spanned ∧ (state.step call).1.offset = 0) := by
    rintro state call allowed ⟨spanned, zero⟩
    refine ⟨spanned_step Config.standard_serial state call spanned, ?_⟩
    cases call with
    | get input skip =>
        rcases offset_get spanned input skip with same | same
        · exact same.trans zero
        · exact same
    | generate => exact absurd rfl allowed
    | reset =>
        show state.reset.offset = 0
        unfold reset
        split <;> exact zero
  exact (Machine.run_invariant step keeps ⟨fun running => absurd running Bool.false_ne_true, rfl⟩
    fun call member same => quiet (same ▸ member)).2

/-- An input ahead of the window is answered with its entry, and moves the window. -/
theorem Shifted.get_newer (shifted : translator.Shifted shift) {input : UInt16}
    (ahead_of : translator.span < ahead 16 translator.firstInput input)
    (near : ahead 16 translator.firstInput input < 2 ^ 12) :
    (translator.get input false).2 = shiftEntry shift input ∧ (translator.get input false).1.lastInput = input := by
  rcases get_cases Config.standard_serial translator shifted.started shifted.spanned input false with
    ⟨old, _⟩ | ⟨new, within, same⟩ | ⟨inside, _⟩
  · exact absurd near (not_lt.mpr old)
  · rw [same, (shifted_new shifted new within).1]
    exact ⟨rfl, rfl⟩
  · exact absurd ((window_iff Config.standard_serial translator input).mpr inside) (not_le.mpr ahead_of)

/-- **What a shift is.** Along a run of forwarded inputs, every valid result is the input with `shift` added. -/
structure IsShift (translator : SequenceNumberTranslator .standard) (inputs : List UInt16) (shift : UInt16) : Prop where
  results : ∀ pair ∈ inputs.zip (Machine.outputs step translator (forward inputs)),
    ∀ result, pair.2 = some result → result.type = .valid → result = ⟨pair.1, pair.1 + shift, .valid⟩
  /-- The first input opens the window. -/
  opens : ∀ input ∈ inputs.head?, let opened := translator.get input false
    opened.2 = ⟨input, input + shift, .valid⟩ ∧ opened.1.initialized = true ∧ opened.1.firstInput = input ∧
      opened.1.lastInput = input
  /-- An input that is ahead of the window, and less than `2 ^ 12` from its start, is answered and moves it. -/
  newer : ∀ moment input, inputs[moment]? = some input →
    let state := Machine.run step translator (forward (inputs.take moment))
    state.initialized = true → ahead 16 state.firstInput state.lastInput < ahead 16 state.firstInput input →
      ahead 16 state.firstInput input < 2 ^ 12 →
      (state.get input false).2 = ⟨input, input + shift, .valid⟩ ∧ (state.get input false).1.lastInput = input
  /-- At every moment `get` and `reverse` agree on every number of the window. -/
  window : ∀ moment, let state := Machine.run step translator (forward (inputs.take moment))
    state.initialized = true → ∀ number : UInt16,
      ahead 16 state.firstInput number ≤ ahead 16 state.firstInput state.lastInput →
      (state.get number false).2 = ⟨number, number + shift, .valid⟩ ∧
        state.reverse (number + shift) = ⟨number, number + shift, .valid⟩

/-- **A shift, inverted by `reverse`.** -/
theorem shift_reverse (history : List Call) (waiting : (after .standard history).initialized = false)
    (quiet : .generate ∉ history ∨ (after .standard history).offset.toNat < 61440) (inputs : List UInt16) :
    ∃ shift : UInt16, (after .standard history).IsShift inputs shift := by
  have few : (after .standard history).offset.toNat < 61440 := by
    rcases quiet with never | few
    · rw [offset_after never]
      decide
    · exact few
  generalize after .standard history = translator at *
  have idle : translator.initialized ≠ true := Bool.eq_false_iff.mp waiting
  cases inputs with
  | nil =>
      refine ⟨0, fun _ member => (nomatch member), fun _ absent => (nomatch absent), fun _ _ absent => (nomatch absent),
        fun moment => ?_⟩
      rw [List.take_nil]
      exact fun running => absurd running idle
  | cons input rest =>
      obtain ⟨shifted, first⟩ := shifted_first waiting few input
      obtain ⟨states, results⟩ := shifted_run shifted rest
      refine ⟨translator.firstOutput input - input, ?_, ?_, ?_, ?_⟩
      · intro pair member result same valid
        rcases List.mem_cons.mp member with rfl | later
        · obtain rfl := Option.some_injective _ same
          exact first
        · exact results pair later result same valid
      · rintro _ ⟨⟩
        refine ⟨first, shifted.started, ?_, ?_⟩
        · rw [get_waiting translator waiting, getFirst_forward translator waiting]
          rfl
        · rw [get_waiting translator waiting, getFirst_forward translator waiting]
          rfl
      · intro moment other _
        cases moment with
        | zero => exact fun running => absurd running idle
        | succ moment =>
            intro state _ ahead_of near
            have here : state.Shifted _ := states moment
            exact here.get_newer ahead_of near
      · intro moment
        cases moment with
        | zero => exact fun running => absurd running idle
        | succ moment =>
            intro state _ number inside
            have here : state.Shifted _ := states moment
            refine ⟨?_, here.reverse inside⟩
            rw [here.get_inside inside]
            rfl

/-- Inputs out of order and twice, across the wrap, after a run that was reset. -/
theorem shift_reverse_after_reset :
    ∃ shift : UInt16, (after .standard [.get 10 false, .reset]).IsShift [65535, 1, 0, 1] shift :=
  shift_reverse [.get 10 false, .reset] (by decide) (Or.inl (by simp)) [65535, 1, 0, 1]

end SequenceNumberTranslator

end Erizo
