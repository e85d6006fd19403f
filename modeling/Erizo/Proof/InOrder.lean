/-
**Inputs in order leave no hole in the outputs.**

Inputs arrive in order between resets (`InOrder`), some of them skipped, with generated packets in
between (`Paced` bounds how many). The last number given to a packet is `lastOutput + offset`
throughout (`Follows`), before the first input, across `reset` and across both wraps, and every call
that issues a number issues the next one (`outputs_consecutive`).

`offset` is a sixteen-bit counter: it has to be bounded before the first forwarded input too, or
the numbers of the generated packets are forgotten (`outputs_restart`).
-/

import Erizo.Proof.Window

namespace Erizo

open Library Library.Serial RtpUtils

namespace SequenceNumberTranslator

variable {config : Config}

/-! ### Runs in order -/

/-- Between resets, each input is the one before plus one. -/
def InOrder (config : Config) : Option UInt16 → List Call → Prop
  | _, [] => True
  | previous, .get input _ :: rest =>
      (∀ before ∈ previous, input.toNat = (before.toNat + 1) % 2 ^ config.bits) ∧ InOrder config (some input) rest
  | previous, .generate :: rest => InOrder config previous rest
  | _, .reset :: rest => InOrder config none rest

/-- Fewer than `limit` packets are generated from one forwarded input to the next one. The count is
`none` while it is not kept. -/
def Paced (limit : ℕ) : Option ℕ → List Call → Prop
  | _, [] => True
  | pending, .get _ false :: rest => (∀ count ∈ pending, count < limit) ∧ Paced limit (some 0) rest
  | pending, .get _ true :: rest => Paced limit pending rest
  | pending, .generate :: rest => Paced limit (pending.map (· + 1)) rest
  | pending, .reset :: rest => Paced limit pending rest

/-- The numbers given to packets along a run, in call order. -/
def issuedNumbers (config : Config) (calls : List Call) : List UInt16 :=
  (Machine.outputs step (init config) calls).filterMap issued

/-- The next number of the width. -/
def Successor (config : Config) (first second : UInt16) : Prop :=
  second.toNat = (first.toNat + 1) % 2 ^ config.bits

instance (config : Config) (first second : UInt16) : Decidable (Successor config first second) :=
  inferInstanceAs (Decidable (_ = _))

/-! ### The invariant -/

/-- `lastOutput + offset` is the last number that was issued. -/
structure Follows (translator : SequenceNumberTranslator config) (previous : Option UInt16) (pending : ℕ)
    (last : Option UInt16) : Prop where
  spanned : translator.Spanned
  input : translator.initialized = true → previous = some translator.lastInput
  offset : translator.offset.toNat = pending % 2 ^ 16
  continued : last ≠ none → translator.initialized = false → translator.wasReset = true ∨ 0 < pending
  output : ∀ number ∈ last, number = config.boundedSequenceNumber (translator.lastOutput + translator.offset)

theorem follows_init (config : Config) : Follows (init config) none 0 none where
  spanned := fun running => absurd running Bool.false_ne_true
  input := fun running => absurd running Bool.false_ne_true
  offset := rfl
  continued := fun some => absurd rfl some
  output := fun _ member => absurd member (Option.not_mem_none _)

theorem successor_bounded (serial : config.Serial) (word : UInt16) :
    Successor config (config.boundedSequenceNumber word) (config.boundedSequenceNumber (word + 1)) := by
  show _ = _ % _
  rw [Config.toNat_bounded serial, Config.toNat_bounded serial, toNat_add_mod serial.narrow, Nat.mod_add_mod]
  rfl

section Next

variable {translator : SequenceNumberTranslator config} {input : UInt16}

theorem ahead_next (serial : config.Serial)
    (next : input.toNat = (translator.lastInput.toNat + 1) % 2 ^ config.bits) :
    ahead config.bits translator.lastInput input = 1 := by
  have same : input.toNat % 2 ^ config.bits = (translator.lastInput + 1).toNat % 2 ^ config.bits := by
    rw [next, Nat.mod_mod, toNat_add_mod serial.narrow]
    rfl
  rw [ahead_congr serial.narrow rfl same]
  exact ahead_add serial.narrow translator.lastInput (Nat.one_lt_two_pow (by have := serial.wide; omega))

theorem newOutput_next (serial : config.Serial)
    (next : input.toNat = (translator.lastInput.toNat + 1) % 2 ^ config.bits) :
    translator.newOutput input = translator.nextOutput := by
  have one := ahead_next serial next
  have step := ahead_succ serial.narrow (show 0 < ahead config.bits translator.lastInput input by omega)
  rw [newOutput, show ahead config.bits (translator.lastInput + 1) input = 0 by omega]
  exact add_zero _

/-- The next input is new. -/
theorem get_next (serial : config.Serial) (roomy : config.maxDistance.toNat + 1 < 2 ^ (config.bits - 4))
    (started : translator.initialized = true) (spanned : translator.span ≤ config.maxDistance.toNat)
    (next : input.toNat = (translator.lastInput.toNat + 1) % 2 ^ config.bits) (skip : Bool) :
    translator.get input skip =
      (translator.afterNew input skip, ⟨input, translator.nextOutput, storedType skip⟩) := by
  have twice := two_mul_threshold_le serial
  have one := ahead_next serial next
  have split := ahead_triangle serial.narrow translator.firstInput translator.lastInput input
  rcases get_cases serial translator started spanned input skip with ⟨old, _⟩ | ⟨_, _, same⟩ | ⟨late, _⟩
  · unfold span at spanned
    omega
  · rw [same, newOutput_next serial next]
  · have back := ahead_swap serial.narrow translator.lastInput input (by omega)
    omega

end Next

/-! ### Every call keeps the invariant -/

section Calls

variable {translator : SequenceNumberTranslator config} {previous last : Option UInt16} {pending : ℕ}

theorem Follows.successor (serial : config.Serial) (follows : translator.Follows previous pending last) :
    ∀ number ∈ last, Successor config number translator.nextOutput := by
  intro number member
  rw [follows.output number member]
  exact successor_bounded serial _

/-- The first output continues what was issued before. -/
theorem Follows.firstOutput (follows : translator.Follows previous pending last)
    (waiting : translator.initialized = false) (counted : translator.offset.toNat = pending) (some : last ≠ none)
    (input : UInt16) : translator.firstOutput input = translator.nextOutput := by
  have continued : (translator.wasReset || decide (translator.offset > 0)) = true := by
    rcases follows.continued some waiting with wasReset | positive
    · rw [wasReset]
      rfl
    · have above : translator.offset > 0 := by
        show 0 < translator.offset
        rw [UInt16.lt_iff_toNat_lt, counted]
        exact positive
      simp [above]
  rw [SequenceNumberTranslator.firstOutput, continued]
  rfl

/-- **A forwarded input is given the next number.** -/
theorem follows_forward (serial : config.Serial) (roomy : config.maxDistance.toNat + 1 < 2 ^ (config.bits - 4))
    (follows : translator.Follows previous pending last) {input : UInt16}
    (next : ∀ before ∈ previous, input.toNat = (before.toNat + 1) % 2 ^ config.bits)
    (few : pending < 2 ^ (config.bits - 1)) :
    ∃ output, (translator.get input false).2 = ⟨input, output, .valid⟩ ∧
      (∀ number ∈ last, Successor config number output) ∧
      (translator.get input false).1.Follows (some input) 0 (some output) := by
  have halved : 2 ^ (config.bits - 1) ≤ 2 ^ 15 := by
    have narrow := serial.narrow
    exact Nat.pow_le_pow_right (by norm_num) (by omega)
  have counted : translator.offset.toNat = pending := by
    rw [follows.offset, Nat.mod_eq_of_lt (by omega)]
  have few : translator.offset.toNat + 1 + 2 ^ (config.bits - 4) ≤ 2 ^ config.bits := by
    have half := two_mul_half serial
    have small := threshold_lt_half serial
    omega
  have above := numberLessThan_nextOutput serial translator few
  have spanned := spanned_step serial translator (.get input false) follows.spanned
  change (translator.get input false).1.Spanned at spanned
  by_cases started : translator.initialized = true
  · have follow := next translator.lastInput (follows.input started)
    have same := get_next serial roomy started (follows.spanned started) follow false
    have output : (translator.afterNew input false).lastOutput = translator.nextOutput := by
      show translator.updatedOutput false (translator.newOutput input) = _
      rw [newOutput_next serial follow, updatedOutput, above]
      rfl
    refine ⟨translator.nextOutput, by rw [same]; rfl, follows.successor serial, ?_⟩
    rw [same] at spanned ⊢
    refine ⟨spanned, fun _ => rfl, rfl, fun _ waiting => absurd (started.symm.trans waiting) (by decide), ?_⟩
    rintro number ⟨⟩
    show _ = config.boundedSequenceNumber ((translator.afterNew input false).lastOutput + 0)
    rw [output, add_zero]
    exact (Config.bounded_bounded serial _).symm
  · have waiting : translator.initialized = false := by simpa using started
    have same : translator.get input false =
        (translator.afterFirst input, ⟨input, translator.firstOutput input, .valid⟩) := by
      rw [get_waiting translator waiting, getFirst_forward translator waiting]
    have output := afterFirst_lastOutput serial translator few input
    refine ⟨translator.firstOutput input, by rw [same], fun number member => ?_, ?_⟩
    · rw [follows.firstOutput waiting counted (by rintro rfl; exact Option.not_mem_none _ member)]
      exact follows.successor serial number member
    · rw [same] at spanned ⊢
      refine ⟨spanned, fun _ => rfl, rfl, fun _ waiting => absurd waiting (by simp [afterFirst]), ?_⟩
      rintro number ⟨⟩
      show _ = config.boundedSequenceNumber ((translator.afterFirst input).lastOutput + 0)
      rw [output, add_zero]
      exact (Config.bounded_bounded serial _).symm

/-- A skipped input is given no number. -/
theorem follows_skip (serial : config.Serial) (roomy : config.maxDistance.toNat + 1 < 2 ^ (config.bits - 4))
    (follows : translator.Follows previous pending last) {input : UInt16}
    (next : ∀ before ∈ previous, input.toNat = (before.toNat + 1) % 2 ^ config.bits) :
    (translator.get input true).2.type = .skip ∧
      (translator.get input true).1.Follows (some input) pending last := by
  have spanned := spanned_step serial translator (.get input true) follows.spanned
  change (translator.get input true).1.Spanned at spanned
  by_cases started : translator.initialized = true
  · have follow := next translator.lastInput (follows.input started)
    have same := get_next serial roomy started (follows.spanned started) follow true
    rw [same] at spanned ⊢
    exact ⟨rfl, spanned, fun _ => rfl, follows.offset,
      fun _ waiting => absurd (started.symm.trans waiting) (by decide), follows.output⟩
  · have waiting : translator.initialized = false := by simpa using started
    have same : translator.get input true = _ := get_waiting translator waiting input true
    rw [same, getFirst_skip] at spanned ⊢
    exact ⟨rfl, spanned, fun running => absurd running started, follows.offset, follows.continued, follows.output⟩

/-- A generated packet is given the next number. -/
theorem follows_generate (serial : config.Serial) (follows : translator.Follows previous pending last) :
    ∃ output, translator.generate.2 = ⟨0, output, .generated⟩ ∧ (∀ number ∈ last, Successor config number output) ∧
      translator.generate.1.Follows previous (pending + 1) (some output) := by
  have number : config.boundedSequenceNumber (translator.offset + 1 + translator.lastOutput) =
      translator.nextOutput := by
    rw [nextOutput]
    congr 1
    abel
  refine ⟨translator.nextOutput, by rw [← number]; rfl, follows.successor serial, follows.spanned, follows.input,
    ?_, fun _ _ => Or.inr (Nat.succ_pos pending), ?_⟩
  · show (translator.offset + 1).toNat = (pending + 1) % 2 ^ 16
    rw [UInt16.toNat_add, follows.offset, Nat.mod_add_mod]
    rfl
  · rintro _ ⟨⟩
    show translator.nextOutput = config.boundedSequenceNumber (translator.lastOutput + (translator.offset + 1))
    rw [← add_assoc]
    rfl

/-- A reset keeps the last number. -/
theorem follows_reset (follows : translator.Follows previous pending last) :
    translator.reset.Follows none pending last := by
  have stopped := reset_initialized translator
  by_cases started : translator.initialized = true
  · have same : translator.reset.offset = translator.offset ∧ translator.reset.lastOutput = translator.lastOutput ∧
        translator.reset.wasReset = true := by
      unfold reset
      rw [started]
      exact ⟨rfl, rfl, rfl⟩
    obtain ⟨offset, output, wasReset⟩ := same
    refine ⟨fun running => absurd (stopped.symm.trans running) (by decide),
      fun running => absurd (stopped.symm.trans running) (by decide), by rw [offset]; exact follows.offset,
      fun _ _ => Or.inl wasReset, ?_⟩
    rw [offset, output]
    exact follows.output
  · have same : translator.reset = translator := by
      unfold reset
      rw [show translator.initialized = false by simpa using started]
      rfl
    rw [same]
    exact ⟨follows.spanned, fun running => absurd running started, follows.offset, follows.continued, follows.output⟩

end Calls

/-! ### Runs -/

/-- Every input of a run that is not skipped gets a valid result. -/
def ForwardsAll (translator : SequenceNumberTranslator config) (calls : List Call) : Prop :=
  ∀ pair ∈ calls.zip (Machine.outputs step translator calls), ∀ input, pair.1 = .get input false →
    ∃ result, pair.2 = some result ∧ result.type = .valid

theorem forwardsAll_cons {translator : SequenceNumberTranslator config} {call : Call} {rest : List Call}
    (head : ∀ input, call = .get input false →
      ∃ result, (translator.step call).2 = some result ∧ result.type = .valid)
    (tail : (translator.step call).1.ForwardsAll rest) : translator.ForwardsAll (call :: rest) := by
  intro pair member input forwarded
  rcases List.mem_cons.mp member with rfl | later
  · exact head input forwarded
  · exact tail pair later input forwarded

/-- A number that continues the last one continues the chain. -/
theorem isChain_issue {last : Option UInt16} {output : UInt16} {rest : List UInt16}
    (successor : ∀ number ∈ last, Successor config number output)
    (chain : List.IsChain (Successor config) (output :: rest)) :
    List.IsChain (Successor config) (last.toList ++ output :: rest) := by
  cases last with
  | none => exact chain
  | some number => exact List.isChain_cons_cons.mpr ⟨successor number rfl, chain⟩

/-- **A run in order issues consecutive numbers.** -/
theorem follows_run (serial : config.Serial) (roomy : config.maxDistance.toNat + 1 < 2 ^ (config.bits - 4)) :
    ∀ (calls : List Call) {translator : SequenceNumberTranslator config} {previous last : Option UInt16}
      {pending : ℕ}, translator.Follows previous pending last → InOrder config previous calls →
      Paced (2 ^ (config.bits - 1)) (some pending) calls →
      List.IsChain (Successor config)
          (last.toList ++ (Machine.outputs step translator calls).filterMap issued) ∧
        translator.ForwardsAll calls
  | [], _, _, last, _, _, _, _ => by
      refine ⟨?_, fun pair member => nomatch member⟩
      cases last with
      | none => exact .nil
      | some number => exact .singleton number
  | .get input false :: rest, translator, _, last, _, follows, ordered, paced => by
      obtain ⟨output, answer, successor, keeps⟩ :=
        follows_forward serial roomy follows ordered.1 (paced.1 _ rfl)
      obtain ⟨chain, forwards⟩ := follows_run serial roomy rest keeps ordered.2 paced.2
      refine ⟨?_, forwardsAll_cons (fun _ _ => ⟨_, rfl, by rw [answer]⟩) forwards⟩
      show List.IsChain _ (last.toList ++ List.filterMap issued (some (translator.get input false).2 :: _))
      rw [answer]
      exact isChain_issue successor chain
  | .get input true :: rest, translator, _, last, _, follows, ordered, paced => by
      obtain ⟨type, keeps⟩ := follows_skip serial roomy follows ordered.1
      obtain ⟨chain, forwards⟩ := follows_run serial roomy rest keeps ordered.2 paced
      refine ⟨?_, forwardsAll_cons (fun _ same => nomatch same) forwards⟩
      have nothing : issued (some (translator.get input true).2) = none := by
        generalize (translator.get input true).2 = result at type
        obtain ⟨number, output, _⟩ := result
        subst type
        rfl
      show List.IsChain _ (last.toList ++ List.filterMap issued (some (translator.get input true).2 :: _))
      rwa [List.filterMap_cons_none nothing]
  | .generate :: rest, translator, _, last, _, follows, ordered, paced => by
      obtain ⟨output, answer, successor, keeps⟩ := follows_generate serial follows
      obtain ⟨chain, forwards⟩ := follows_run serial roomy rest keeps ordered paced
      refine ⟨?_, forwardsAll_cons (fun _ same => nomatch same) forwards⟩
      show List.IsChain _ (last.toList ++ List.filterMap issued (some translator.generate.2 :: _))
      rw [answer]
      exact isChain_issue successor chain
  | .reset :: rest, translator, _, last, _, follows, ordered, paced => by
      obtain ⟨chain, forwards⟩ := follows_run serial roomy rest (follows_reset follows) ordered paced
      exact ⟨chain, forwardsAll_cons (fun _ same => nomatch same) forwards⟩

/-- **No hole in the outputs of an in-order input.** -/
theorem outputs_consecutive (kind : config = .standard ∨ config = .pictureId) (calls : List Call)
    (ordered : InOrder config none calls) (paced : Paced (2 ^ (config.bits - 1)) (some 0) calls) :
    List.IsChain (Successor config) (issuedNumbers config calls) ∧ (init config).ForwardsAll calls := by
  have follows := follows_init config
  rcases kind with rfl | rfl
  · exact follows_run Config.standard_serial (by decide) calls follows ordered paced
  · exact follows_run Config.pictureId_serial (by decide) calls follows ordered paced

/-- A run that skips, generates and resets across the wrap of the picture ids. -/
theorem outputs_consecutive_across_wrap :
    issuedNumbers .pictureId [.get 32766 false, .get 32767 true, .generate, .get 0 false, .reset, .get 9 false] =
        [32766, 32767, 0, 1] ∧
      List.IsChain (Successor .pictureId) (issuedNumbers .pictureId
        [.get 32766 false, .get 32767 true, .generate, .get 0 false, .reset, .get 9 false]) :=
  ⟨by decide +kernel, (outputs_consecutive (Or.inr rfl) _ (by simp [InOrder, Config.pictureId])
    (by simp [Paced, Config.pictureId])).1⟩

/-! ### Too many generated packets -/

/-- The state after packets were generated only. -/
theorem run_generate (config : Config) (count : ℕ) :
    (Machine.run step (init config) (List.replicate count .generate)).offset = UInt16.ofNat count ∧
      (Machine.run step (init config) (List.replicate count .generate)).lastOutput = 0 ∧
      (Machine.run step (init config) (List.replicate count .generate)).initialized = false ∧
      (Machine.run step (init config) (List.replicate count .generate)).wasReset = false := by
  induction count with
  | zero => exact ⟨rfl, rfl, rfl, rfl⟩
  | succ count ih =>
      obtain ⟨offset, output, waiting, first⟩ := ih
      rw [List.replicate_succ', Machine.run_append]
      refine ⟨?_, output, waiting, first⟩
      show (Machine.run step (init config) (List.replicate count .generate)).offset + 1 = _
      rw [offset, UInt16.ofNat_add]
      rfl

/-- Generated packets before the first input are not counted. -/
theorem generate_first (config : Config) (limit count : ℕ) (input : UInt16) :
    InOrder config none (List.replicate count .generate ++ [.generate, .get input false]) ∧
      Paced limit none (List.replicate count .generate ++ [.generate, .get input false]) := by
  induction count with
  | zero => exact ⟨⟨fun _ member => absurd member (Option.not_mem_none _), trivial⟩,
      fun _ member => absurd member (Option.not_mem_none _), trivial⟩
  | succ count ih => exact ih

/-- The `2 ^ 16`-th generated packet clears the count. -/
theorem issued_restart {translator : SequenceNumberTranslator .standard} (offset : translator.offset = 65535)
    (output : translator.lastOutput = 0) (waiting : translator.initialized = false)
    (first : translator.wasReset = false) (input : UInt16) :
    (Machine.outputs step translator [.generate, .get input false]).filterMap issued = [0, input] := by
  have cleared : translator.generate.1.offset = 0 := by
    show translator.offset + 1 = 0
    rw [offset]
    rfl
  have number : translator.generate.1.firstOutput input = input := by
    have fresh : translator.generate.1.wasReset = false := first
    rw [firstOutput, fresh, cleared]
    rfl
  have generated : translator.generate.2 = ⟨0, 0, .generated⟩ := by
    show (⟨0, Config.standard.boundedSequenceNumber (translator.offset + 1 + translator.lastOutput),
      .generated⟩ : SequenceNumber) = _
    rw [offset, output]
    rfl
  have answer : (translator.generate.1.get input false).2 = ⟨input, input, .valid⟩ := by
    rw [get_waiting translator.generate.1 waiting, getFirst_forward translator.generate.1 waiting, number]
  show List.filterMap issued [some translator.generate.2, some (translator.generate.1.get input false).2] = _
  rw [generated, answer]
  rfl

/-- The first input starts over when `2 ^ 16` packets were generated before it. -/
theorem outputs_restart :
    ¬ ∀ config : Config, config = .standard ∨ config = .pictureId → ∀ calls : List Call,
      InOrder config none calls → Paced (2 ^ (config.bits - 1)) none calls →
      List.IsChain (Successor config) (issuedNumbers config calls) ∧ (init config).ForwardsAll calls := by
  intro always
  obtain ⟨count, same⟩ : ∃ count, count = 65535 := ⟨_, rfl⟩
  obtain ⟨ordered, paced⟩ := generate_first .standard (2 ^ (Config.standard.bits - 1)) count 5
  have chain := (always .standard (Or.inl rfl) _ ordered paced).1
  obtain ⟨offset, output, waiting, first⟩ := run_generate .standard count
  have full : UInt16.ofNat count = 65535 := by rw [same]; rfl
  rw [full] at offset
  rw [issuedNumbers, Machine.outputs_append, List.filterMap_append,
    issued_restart offset output waiting first] at chain
  have last := (List.isChain_append.mp chain).2.1
  exact absurd (List.isChain_cons_cons.mp last).1 (by decide)

end SequenceNumberTranslator

end Erizo
