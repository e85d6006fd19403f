/-
**The window of a translator, and what its cells hold.**

`getNew_eq` is the whole effect of a `get` on an input after `lastInput`: the `count` inputs from
`lastInput + 1` to `input` are stored in one run of writes (`newEntry`), the window slides, and the
last output moves unless the input is skipped.
-/

import Erizo.Proof.Fill

namespace Erizo

open Library Library.Serial RtpUtils

namespace SequenceNumberTranslator

variable {config : Config}

/-! ### A new input -/

/-- The type `get` stores an input under. -/
def storedType (skip : Bool) : SequenceNumberType := if skip then .skip else .valid

/-- The output of a new input. -/
def newOutput (translator : SequenceNumberTranslator config) (input : UInt16) : UInt16 :=
  translator.nextOutput + UInt16.ofNat (ahead config.bits (translator.lastInput + 1) input)

/-- The entry stored for the input `index + 1` steps after `lastInput`, on the way to `input`. -/
def newEntry (translator : SequenceNumberTranslator config) (input : UInt16) (skip : Bool) (index : ℕ) :
    SequenceNumber :=
  if index = ahead config.bits (translator.lastInput + 1) input then
    ⟨input, translator.newOutput input, storedType skip⟩
  else runEntry config (translator.lastInput + 1) translator.nextOutput index

/-- `lastOutput` after `updateLastOutputSequenceNumber` on an initialised translator. -/
def updatedOutput (translator : SequenceNumberTranslator config) (skip : Bool) (output : UInt16) : UInt16 :=
  if !skip && numberLessThan translator.lastOutput output config.bits then output
  else translator.lastOutput

/-- The start of the window after `input` became the last input. -/
def slidFirst (translator : SequenceNumberTranslator config) (input : UInt16) : UInt16 :=
  if numberLessThan translator.firstInput (input - config.maxDistance) config.bits then
    input - config.maxDistance
  else translator.firstInput

theorem update_eq (translator : SequenceNumberTranslator config) (started : translator.initialized = true)
    (skip : Bool) (output : UInt16) :
    translator.updateLastOutputSequenceNumber skip output =
      { translator with lastOutput := translator.updatedOutput skip output } := by
  have later : (!translator.initialized && !(translator.wasReset || decide (translator.offset > 0))) = false := by
    rw [started]
    rfl
  simp only [updateLastOutputSequenceNumber, updatedOutput, later, Bool.or_false]
  split <;> rfl

/-- A forward pass from a reduced input stores the same entries. -/
theorem runEntry_bounded (serial : config.Serial) (first output : UInt16) (index : ℕ) :
    runEntry config (config.boundedSequenceNumber first) output index = runEntry config first output index := by
  simp only [runEntry, Config.bounded_bounded_add serial]

/-- The state when the entries up to a new input are stored: one run of writes, the last of them
for the input itself. -/
def storeNew (translator : SequenceNumberTranslator config) (input : UInt16) (skip : Bool) :
    SequenceNumberTranslator config :=
  let count := ahead config.bits (translator.lastInput + 1) input
  let entry := translator.newEntry input skip
  { translator with
    inOutBuffer := translator.inOutBuffer.writeRun (fun index => (entry index).input.toNat)
      (fun index => some (entry index)) (count + 1)
    outInBuffer := translator.outInBuffer.writeRun (fun index => (entry index).output.toNat)
      (fun index => some (entry index)) (count + 1)
    lastOutput := translator.updatedOutput skip (translator.newOutput input) }

theorem newEntry_last (translator : SequenceNumberTranslator config) (input : UInt16) (skip : Bool) :
    translator.newEntry input skip (ahead config.bits (translator.lastInput + 1) input) =
      ⟨input, translator.newOutput input, storedType skip⟩ := if_pos rfl

theorem newEntry_before (serial : config.Serial) (translator : SequenceNumberTranslator config)
    (input : UInt16) (skip : Bool) {index : ℕ}
    (before : index < ahead config.bits (translator.lastInput + 1) input) :
    runEntry config (config.boundedSequenceNumber (translator.lastInput + 1)) translator.nextOutput index =
      translator.newEntry input skip index := by
  rw [runEntry_bounded serial]
  exact (if_neg (Nat.ne_of_lt before)).symm

theorem add_gapRun (serial : config.Serial) (translator : SequenceNumberTranslator config)
    (started : translator.initialized = true) (input : UInt16) (skip : Bool) :
    ((translator.gapRun (translator.lastInput + 1) input).1.updateLastOutputSequenceNumber skip
        (translator.newOutput input)).add ⟨input, translator.newOutput input, storedType skip⟩ =
      translator.storeNew input skip := by
  have running : (translator.gapRun (translator.lastInput + 1) input).1.initialized = true := started
  have update : (translator.gapRun (translator.lastInput + 1) input).1.updatedOutput skip
      (translator.newOutput input) = translator.updatedOutput skip (translator.newOutput input) := rfl
  rw [update_eq _ running, update]
  simp only [gapRun_fst, addRun, add, storeNew, RingBuffer.writeRun_succ, newEntry_last]
  congr 2
  · refine RingBuffer.writeRun_congr _ fun index below => ?_
    rw [newEntry_before serial translator input skip below]
    exact ⟨rfl, rfl⟩
  · refine RingBuffer.writeRun_congr _ fun index below => ?_
    rw [newEntry_before serial translator input skip below]
    exact ⟨rfl, rfl⟩

/-- The state after a new input. -/
def afterNew (translator : SequenceNumberTranslator config) (input : UInt16) (skip : Bool) :
    SequenceNumberTranslator config :=
  { translator.storeNew input skip with
    firstInput := translator.slidFirst input
    lastInput := input
    offset := if skip then translator.offset else 0 }

/-- **A new input.** -/
theorem getNew_eq (serial : config.Serial) (translator : SequenceNumberTranslator config)
    (started : translator.initialized = true) {input : UInt16}
    (new : numberLessThan translator.lastInput input config.bits = true) (skip : Bool) :
    translator.getNew input skip =
      (translator.afterNew input skip, ⟨input, translator.newOutput input, storedType skip⟩) := by
  have numbered : (translator.gapRun (translator.lastInput + 1) input).2 = translator.newOutput input := rfl
  have recorded : (translator.storeNew input skip).inOutBuffer.get input.toNat =
      some ⟨input, translator.newOutput input, storedType skip⟩ := by
    simp only [storeNew, RingBuffer.writeRun_succ, newEntry_last, RingBuffer.get_set_self]
  unfold getNew
  rw [fill_eq serial translator new]
  simp only [numbered]
  rw [← storedType, add_gapRun serial translator started]
  have sameFirst : (translator.storeNew input skip).firstInput = translator.firstInput := rfl
  have sameOffset : (translator.storeNew input skip).offset = translator.offset := rfl
  unfold afterNew slidFirst
  rw [← sameFirst, ← sameOffset]
  generalize translator.storeNew input skip = stored at recorded ⊢
  by_cases slides : numberLessThan stored.firstInput (input - config.maxDistance) config.bits = true
  · simp only [if_pos slides, getConst, internalGet, recorded, Option.getD_some, if_true]
    cases skip <;> rfl
  · simp only [if_neg slides, getConst, internalGet, recorded, Option.getD_some, if_true]
    cases skip <;> rfl

/-! ### The window -/

/-- The number of inputs in the window behind the last one. -/
def span (translator : SequenceNumberTranslator config) : ℕ :=
  ahead config.bits translator.firstInput translator.lastInput

/-- The window is at most `maxDistance` long once there is one. -/
def Spanned (translator : SequenceNumberTranslator config) : Prop :=
  translator.initialized = true → translator.span ≤ config.maxDistance.toNat

/-- A sixteenth of the numbers, twice. -/
theorem two_mul_threshold_le (serial : config.Serial) : 2 * 2 ^ (config.bits - 4) ≤ 2 ^ config.bits := by
  have wide := serial.wide
  rw [← pow_succ']
  exact Nat.pow_le_pow_right (by norm_num) (by omega)

theorem two_mul_half (serial : config.Serial) : 2 * 2 ^ (config.bits - 1) = 2 ^ config.bits := by
  have wide := serial.wide
  rw [← pow_succ']
  congr 1
  omega

theorem threshold_lt_half (serial : config.Serial) : 2 ^ (config.bits - 4) < 2 ^ (config.bits - 1) := by
  have wide := serial.wide
  exact Nat.pow_lt_pow_right (by norm_num) (by omega)

/-- **The window after a new input.** -/
theorem span_afterNew (serial : config.Serial) (translator : SequenceNumberTranslator config)
    {input : UInt16} (skip : Bool)
    (near : translator.span + ahead config.bits translator.lastInput input < 2 ^ (config.bits - 4)) :
    (translator.afterNew input skip).span =
      min (translator.span + ahead config.bits translator.lastInput input) config.maxDistance.toNat := by
  have twice := two_mul_threshold_le serial
  have far := serial.near
  have reach : ahead config.bits translator.firstInput input =
      translator.span + ahead config.bits translator.lastInput input := by
    have split := ahead_triangle serial.narrow translator.firstInput translator.lastInput input
    unfold span at near ⊢
    omega
  have start : ahead config.bits (input - config.maxDistance) input = config.maxDistance.toNat := by
    have back := ahead_sub serial.narrow input (lt_of_lt_of_le far (by omega))
    rwa [UInt16.ofNat_toNat] at back
  have split := ahead_triangle serial.narrow (input - config.maxDistance) translator.firstInput input
  have below := ahead_lt config.bits (input - config.maxDistance) translator.firstInput
  have slides := numberLessThan_iff translator.firstInput (input - config.maxDistance) serial.wide serial.narrow
  show ahead config.bits (translator.slidFirst input) input = _
  unfold slidFirst
  by_cases less : numberLessThan translator.firstInput (input - config.maxDistance) config.bits = true
  · rw [if_pos less, start]
    rw [slides] at less
    omega
  · rw [if_neg less, reach]
    rw [slides] at less
    omega

/-- **The three ways an initialised translator answers.** An input a sixteenth of the range or more
above the start of the window is too old; one of the window is looked up; any other one is new. -/
theorem get_cases (serial : config.Serial) (translator : SequenceNumberTranslator config)
    (started : translator.initialized = true) (spanned : translator.span ≤ config.maxDistance.toNat)
    (input : UInt16) (skip : Bool) :
    (2 ^ (config.bits - 4) ≤ ahead config.bits translator.firstInput input ∧
        translator.get input skip = (translator, ⟨input, 0, .skip⟩)) ∨
      (0 < ahead config.bits translator.lastInput input ∧
        translator.span + ahead config.bits translator.lastInput input < 2 ^ (config.bits - 4) ∧
        translator.get input skip =
          (translator.afterNew input skip, ⟨input, translator.newOutput input, storedType skip⟩)) ∨
      (ahead config.bits input translator.lastInput ≤ translator.span ∧
        translator.get input skip = translator.getLate input skip) := by
  have twice := two_mul_threshold_le serial
  have far := serial.near
  have old := numberLessThan_iff input translator.firstInput serial.wide serial.narrow
  have new := numberLessThan_iff_ahead translator.lastInput input serial.wide serial.narrow
  have onwards := ahead_triangle serial.narrow translator.firstInput translator.lastInput input
  have inside := ahead_triangle serial.narrow translator.firstInput input translator.lastInput
  have below := ahead_lt config.bits translator.lastInput input
  unfold get
  rw [started, Bool.not_true, if_neg Bool.false_ne_true]
  by_cases isOld : numberLessThan input translator.firstInput config.bits = true
  · rw [if_pos isOld]
    exact Or.inl ⟨old.mp isOld, rfl⟩
  · rw [if_neg isOld]
    rw [old] at isOld
    by_cases isNew : numberLessThan translator.lastInput input config.bits = true
    · rw [if_pos isNew, getNew_eq serial translator started isNew]
      rw [new] at isNew
      refine Or.inr (Or.inl ⟨isNew.1, ?_, rfl⟩)
      unfold span at spanned ⊢
      omega
    · rw [if_neg isNew]
      rw [new] at isNew
      refine Or.inr (Or.inr ⟨?_, rfl⟩)
      unfold span at spanned ⊢
      by_cases meets : ahead config.bits translator.lastInput input = 0
      · have back : ahead config.bits input translator.lastInput = 0 := by
          by_contra away
          have := ahead_swap serial.narrow input translator.lastInput away
          have := ahead_lt config.bits input translator.lastInput
          omega
        omega
      · have back := ahead_swap serial.narrow translator.lastInput input meets
        omega

/-! ### The first input -/

theorem get_waiting (translator : SequenceNumberTranslator config) (waiting : translator.initialized = false)
    (input : UInt16) (skip : Bool) : translator.get input skip = translator.getFirst input skip := by
  unfold get
  rw [waiting]
  rfl

@[simp] theorem reset_initialized (translator : SequenceNumberTranslator config) :
    translator.reset.initialized = false := by
  unfold reset
  by_cases started : translator.initialized = true
  · rw [started]
    rfl
  · have waiting : translator.initialized = false := by simpa using started
    rw [waiting]
    exact waiting

/-- The output of an input that finds the translator uninitialised. -/
def firstOutput (translator : SequenceNumberTranslator config) (input : UInt16) : UInt16 :=
  config.boundedSequenceNumber
    (if translator.wasReset || decide (translator.offset > 0) then
      translator.lastOutput + translator.offset + 1
    else input)

/-- The state after the first forwarded input. -/
def afterFirst (translator : SequenceNumberTranslator config) (input : UInt16) :
    SequenceNumberTranslator config :=
  { translator.add ⟨input, translator.firstOutput input, .valid⟩ with
    firstInput := input
    lastInput := input
    lastOutput :=
      if numberLessThan translator.lastOutput (translator.firstOutput input) config.bits ||
          !(translator.wasReset || decide (translator.offset > 0)) then
        translator.firstOutput input
      else translator.lastOutput
    offset := 0
    initialized := true
    wasReset := false }

/-- The next output is above the last one, unless `15 / 16` of the range was generated since. -/
theorem numberLessThan_nextOutput (serial : config.Serial) (translator : SequenceNumberTranslator config)
    (few : translator.offset.toNat + 1 + 2 ^ (config.bits - 4) ≤ 2 ^ config.bits) :
    numberLessThan translator.lastOutput translator.nextOutput config.bits = true := by
  have positive : 0 < 2 ^ (config.bits - 4) := Nat.two_pow_pos _
  have steps : translator.lastOutput + translator.offset + 1 =
      translator.lastOutput + UInt16.ofNat (translator.offset.toNat + 1) := by
    rw [UInt16.ofNat_add, UInt16.ofNat_toNat, add_assoc]
    rfl
  have reach : ahead config.bits translator.lastOutput translator.nextOutput = translator.offset.toNat + 1 := by
    rw [nextOutput, ahead_congr serial.narrow rfl (Config.toNat_bounded_mod serial _), steps]
    exact ahead_add serial.narrow _ (by omega)
  rw [numberLessThan_iff_ahead _ _ serial.wide serial.narrow, reach]
  omega

theorem afterFirst_lastOutput (serial : config.Serial) (translator : SequenceNumberTranslator config)
    (few : translator.offset.toNat + 1 + 2 ^ (config.bits - 4) ≤ 2 ^ config.bits) (input : UInt16) :
    (translator.afterFirst input).lastOutput = translator.firstOutput input := by
  by_cases continued : (translator.wasReset || decide (translator.offset > 0)) = true
  · have next : translator.firstOutput input = translator.nextOutput := by
      rw [firstOutput, continued]
      rfl
    simp only [afterFirst, next, numberLessThan_nextOutput serial translator few, Bool.true_or, if_true]
  · have first : (translator.wasReset || decide (translator.offset > 0)) = false := by simpa using continued
    simp only [afterFirst, first, Bool.not_false, Bool.or_true, if_true]

theorem getConst_add (translator : SequenceNumberTranslator config) (entry : SequenceNumber) :
    (translator.add entry).getConst entry.input = entry := by
  simp [getConst, internalGet, add]

/-- **The first forwarded input.** -/
theorem getFirst_forward (translator : SequenceNumberTranslator config)
    (waiting : translator.initialized = false) (input : UInt16) :
    translator.getFirst input false =
      (translator.afterFirst input, ⟨input, translator.firstOutput input, .valid⟩) := by
  have update : (translator.add ⟨input, translator.firstOutput input, .valid⟩).updateLastOutputSequenceNumber
      false (translator.firstOutput input) =
        { translator.add ⟨input, translator.firstOutput input, .valid⟩ with
          lastOutput := (translator.afterFirst input).lastOutput } := by
    simp only [updateLastOutputSequenceNumber, afterFirst, add, waiting, Bool.not_false, Bool.true_and]
    split <;> rfl
  have found : (translator.afterFirst input).getConst input =
      ⟨input, translator.firstOutput input, .valid⟩ := by
    simp [getConst, internalGet, afterFirst, add]
  have state : (translator.getFirst input false).1 = translator.afterFirst input := by
    show ({ (translator.add ⟨input, translator.firstOutput input, .valid⟩).updateLastOutputSequenceNumber
        false (translator.firstOutput input) with
      lastInput := input, firstInput := input, initialized := true, wasReset := false, offset := 0 } :
        SequenceNumberTranslator config) = _
    rw [update]
    rfl
  have answer : (translator.getFirst input false).2 = (translator.getFirst input false).1.getConst input := rfl
  rw [state, found] at answer
  exact Prod.ext state answer

/-- A skipped input before the first forwarded one. -/
theorem getFirst_skip (translator : SequenceNumberTranslator config) (input : UInt16) :
    translator.getFirst input true =
      (translator.add ⟨input, translator.firstOutput input, .skip⟩,
        ⟨input, translator.firstOutput input, .skip⟩) := by
  have found := getConst_add translator ⟨input, translator.firstOutput input, .skip⟩
  exact Prod.ext rfl found

/-! ### An input of the window -/

/-- The entry `get` returns for an input of the window. -/
def lateEntry (translator : SequenceNumberTranslator config) (input : UInt16) (skip : Bool) : SequenceNumber :=
  let result := translator.internalGet input
  if result.type = .valid then { result with type := if skip then .discard else .valid } else result

/-- The state after an input of the window. -/
def afterLate (translator : SequenceNumberTranslator config) (input : UInt16) (skip : Bool) :
    SequenceNumberTranslator config :=
  let result := translator.internalGet input
  let reversed := translator.internalReverse result.output
  { translator with
    inOutBuffer :=
      if result.type = .valid then
        translator.inOutBuffer.set input.toNat (some (translator.lateEntry input skip))
      else translator.inOutBuffer
    outInBuffer :=
      if result.type = .valid then
        translator.outInBuffer.set result.output.toNat
          (some { reversed with type := if skip then .discard else .valid })
      else translator.outInBuffer
    lastOutput := translator.updatedOutput skip result.output }

/-- **An input of the window.** -/
theorem getLate_eq (translator : SequenceNumberTranslator config) (started : translator.initialized = true)
    (input : UInt16) (skip : Bool) :
    translator.getLate input skip = (translator.afterLate input skip, translator.lateEntry input skip) := by
  unfold getLate afterLate lateEntry
  by_cases valid : (translator.internalGet input).type = .valid
  · simp only [if_pos valid]
    refine Prod.ext (update_eq _ ?_ skip _) rfl
    exact started
  · simp only [if_neg valid]
    exact Prod.ext (update_eq translator started skip _) rfl

/-! ### Reachable states -/

theorem spanned_step (serial : config.Serial) (translator : SequenceNumberTranslator config) (call : Call)
    (spanned : translator.Spanned) : (translator.step call).1.Spanned := by
  cases call with
  | get input skip =>
      show (translator.get input skip).1.Spanned
      by_cases started : translator.initialized = true
      · rcases get_cases serial translator started (spanned started) input skip with
          ⟨_, same⟩ | ⟨_, near, same⟩ | ⟨_, same⟩
        · rw [same]
          exact spanned
        · rw [same]
          intro _
          show (translator.afterNew input skip).span ≤ _
          rw [span_afterNew serial translator skip near]
          exact min_le_right _ _
        · rw [same, getLate_eq translator started]
          exact spanned
      · have waiting : translator.initialized = false := by simpa using started
        rw [get_waiting translator waiting]
        cases skip with
        | false =>
            rw [getFirst_forward translator waiting]
            intro _
            show ahead config.bits input input ≤ _
            rw [ahead_self]
            exact Nat.zero_le _
        | true =>
            rw [getFirst_skip translator]
            exact fun running => absurd running started
  | generate => exact spanned
  | reset => exact fun running => absurd running (by rw [step, reset_initialized]; exact Bool.false_ne_true)

/-- **The window never exceeds `maxDistance`.** -/
theorem spanned_after (serial : config.Serial) (calls : List Call) : (after config calls).Spanned :=
  Machine.run_invariant step (fun state call _ holds => spanned_step serial state call holds)
    (fun running => absurd running Bool.false_ne_true) fun _ _ => trivial

/-! ### Loss bursts -/

/-- **When a burst is survived.** An input ahead of the last one is forwarded and becomes the last
input exactly when it is fewer than `2 ^ 12` above the start of the window; any other one is skipped
and changes nothing. -/
theorem get_advances_iff (calls : List Call) (started : (after .standard calls).initialized = true)
    (input : UInt16) (forward : 1 ≤ ahead 16 (after .standard calls).lastInput input)
    (half : ahead 16 (after .standard calls).lastInput input < 2 ^ 15) :
    let translator := after .standard calls
    let reach := ahead 16 translator.lastInput input + ahead 16 translator.firstInput translator.lastInput
    (((translator.get input false).2.type = .valid ∧ (translator.get input false).1.lastInput = input) ↔
        reach < 4096) ∧
      (¬ reach < 4096 → translator.get input false = (translator, ⟨input, 0, .skip⟩)) := by
  have serial := Config.standard_serial
  have spanned := spanned_after serial calls started
  generalize after .standard calls = translator at *
  have short : translator.span ≤ 500 := spanned
  have there : ahead 16 translator.firstInput translator.lastInput = translator.span := rfl
  have onwards := ahead_triangle serial.narrow translator.firstInput translator.lastInput input
  change translator.span + ahead 16 translator.lastInput input = ahead 16 translator.firstInput input ∨
    translator.span + ahead 16 translator.lastInput input = ahead 16 translator.firstInput input + 2 ^ 16 at onwards
  simp only [there]
  rcases get_cases serial translator started spanned input false with
    ⟨old, same⟩ | ⟨_, near, same⟩ | ⟨inside, _⟩
  · change 2 ^ 12 ≤ ahead 16 translator.firstInput input at old
    have tooFar : ¬ ahead 16 translator.lastInput input + translator.span < 4096 := by omega
    rw [same]
    exact ⟨⟨fun valid => (nomatch valid.1), fun reach => absurd reach tooFar⟩, fun _ => rfl⟩
  · change translator.span + ahead 16 translator.lastInput input < 2 ^ 12 at near
    rw [same]
    exact ⟨⟨fun _ => by omega, fun _ => ⟨rfl, rfl⟩⟩, fun tooFar => absurd (by omega) tooFar⟩
  · change ahead 16 input translator.lastInput ≤ translator.span at inside
    have back := ahead_swap serial.narrow translator.lastInput input (by show ahead 16 _ _ ≠ 0; omega)
    change ahead 16 input translator.lastInput = 2 ^ 16 - ahead 16 translator.lastInput input at back
    omega

/-- The condition is met by the input that follows the first one. -/
theorem get_advances_after_one :
    ((after .standard [.get 7 false]).get 8 false).2.type = .valid ∧
      ((after .standard [.get 7 false]).get 8 false).1.lastInput = 8 :=
  (get_advances_iff [.get 7 false] (by decide) 8 (by decide) (by decide)).1.mpr (by decide)

/-- A burst of `4095` lost inputs is not survived. -/
theorem get_stuck_after_burst :
    ¬ ∀ (calls : List Call) (input : UInt16), (after .standard calls).initialized = true →
      1 ≤ ahead 16 (after .standard calls).lastInput input →
      ahead 16 (after .standard calls).lastInput input < 2 ^ 15 →
      ((after .standard calls).get input false).2.type = .valid ∧
        ((after .standard calls).get input false).1.lastInput = input := by
  intro always
  have here := always [.get 0 false] 4096 (by decide) (by decide) (by decide)
  exact absurd here.1 (by decide)

end SequenceNumberTranslator

end Erizo
