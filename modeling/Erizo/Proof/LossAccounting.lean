/-
**The losses in receiver reports.**

A report compares two counters with what they were at the last report. All of them are 32-bit words,
so their growth is the true one as long as that is below `2 ^ 32` (`countInterval_accounts`). A packet
that makes more packets expected is itself received, so the fraction of an interval stays below one
(`fraction_lt`). The losses are added up in a 32-bit word, of which a report carries 24 bits.
-/

import Erizo.Proof.ExtendedSequence

namespace Erizo

namespace RtcpRrGenerator

open Library Library.Bytes

/-! ### Intervals -/

theorem expected_mono {heard more : List ℕ} (order : heard <+: more) : expected heard ≤ expected more := by
  obtain ⟨rest, rfl⟩ := order
  cases heard with
  | nil => exact Nat.zero_le _
  | cons first others =>
      have above := highest_le_append (first :: others) rest
      have longer : first :: others ++ rest ≠ [] := List.cons_ne_nil _ _
      rw [expected, expected, if_neg (List.cons_ne_nil _ _), if_neg longer]
      exact Nat.succ_le_succ (Nat.sub_le_sub_right above first)

/-- What was reported was heard. -/
def Ledger.Sound (ledger : Ledger) : Prop := ledger.reported <+: ledger.heard

section Intervals

variable {ledger : Ledger}

/-- Something was received when more is expected. -/
theorem receivedInterval_pos (sound : ledger.Sound) (more : 0 < ledger.expectedInterval) : 0 < ledger.receivedInterval := by
  obtain ⟨rest, heard⟩ := sound
  cases rest with
  | nil =>
      rw [List.append_nil] at heard
      rw [Ledger.expectedInterval, heard, Nat.sub_self] at more
      exact absurd more (lt_irrefl 0)
  | cons index others =>
      rw [Ledger.receivedInterval, ← heard, List.length_append, Nat.add_sub_cancel_left]
      exact Nat.succ_pos _

/-- **The fraction lost is below one.** -/
theorem fraction_lt (sound : ledger.Sound) : 256 * ledger.lostInterval / ledger.expectedInterval < 256 := by
  rcases Nat.eq_zero_or_pos ledger.expectedInterval with none | more
  · rw [none, Nat.div_zero]
    decide
  · have received := receivedInterval_pos sound more
    have fewer : ledger.lostInterval < ledger.expectedInterval := Nat.sub_lt more received
    rw [Nat.div_lt_iff_lt_mul more]
    exact Nat.mul_lt_mul_of_pos_left fewer (by decide)

end Intervals

/-! ### One report -/

/-- How the counters of the last report stand to what was reported. -/
structure Accounts (rrInfo : RrPacketInfo) (ledger : Ledger) : Prop where
  sound : ledger.Sound
  follows : Follows rrInfo ledger.heard
  expectedPrior : rrInfo.expectedPrior = UInt32.ofNat (expected ledger.reported)
  receivedPrior : rrInfo.receivedPrior = UInt32.ofNat ledger.reported.length
  lost : rrInfo.lost = UInt32.ofNat ledger.lost

/-- The word of a difference. -/
theorem ofNat_sub_ofNat {low high : ℕ} (order : low ≤ high) :
    UInt32.ofNat high - UInt32.ofNat low = UInt32.ofNat (high - low) := by
  conv_lhs => rw [← Nat.sub_add_cancel order, UInt32.ofNat_add]
  exact add_sub_cancel_right _ _

theorem ofInt_natCast (value : ℕ) : UInt32.ofInt value = UInt32.ofNat value := by
  have reduced : ((value : ℤ) % 2 ^ 32).toNat = value % 2 ^ 32 := rfl
  rw [UInt32.ofInt, reduced, ← UInt32.toNat_inj, UInt32.toNat_ofNat', UInt32.toNat_ofNat', Nat.mod_mod]

section Report

variable {rrInfo : RrPacketInfo} {ledger : Ledger}

/-- The packets expected, as the code counts them. -/
theorem expected_word (follows : Follows rrInfo ledger.heard) (arrived : ledger.heard ≠ []) :
    rrInfo.extendedSeq - seqWord rrInfo.baseSeq + 1 = UInt32.ofNat (expected ledger.heard) := by
  have order := head_le_highest ledger.heard
  have base : seqWord rrInfo.baseSeq = UInt32.ofNat (ledger.heard.headD 0 % 2 ^ 16) := by
    obtain ⟨first, others, heard⟩ := List.exists_cons_of_ne_nil arrived
    rw [follows.baseSeq, heard, ← UInt32.toNat_inj, UInt32.toNat_ofNat']
    change (UInt16.ofNat first).toNat = first % 2 ^ 16 % 2 ^ 32
    rw [UInt16.toNat_ofNat']
    omega
  have place : extended ledger.heard = ledger.heard.headD 0 % 2 ^ 16 + (highest ledger.heard - ledger.heard.headD 0) := by
    rw [extended]
    omega
  rw [follows.extendedSeq, base, place, UInt32.ofNat_add, add_sub_cancel_left, expected, if_neg arrived, UInt32.ofNat_add]
  rfl

/-- The state before a report: there was a packet, and the losses of the interval fit 24 bits. -/
structure Reportable (ledger : Ledger) : Prop where
  arrived : ledger.heard ≠ []
  lost : ledger.lostInterval < 2 ^ 24

/-- In the interval of the report no counter has gone round. -/
structure Countable (ledger : Ledger) : Prop extends Reportable ledger where
  expected : ledger.expectedInterval < 2 ^ 32
  received : ledger.receivedInterval < 2 ^ 32

variable (accounts : Accounts rrInfo ledger)

include accounts

theorem expectedInterval_word (arrived : ledger.heard ≠ []) :
    rrInfo.extendedSeq - seqWord rrInfo.baseSeq + 1 - rrInfo.expectedPrior = UInt32.ofNat ledger.expectedInterval := by
  rw [expected_word accounts.follows arrived, accounts.expectedPrior, ofNat_sub_ofNat (expected_mono accounts.sound)]
  rfl

theorem receivedInterval_word :
    rrInfo.packetsReceived - rrInfo.receivedPrior = UInt32.ofNat ledger.receivedInterval := by
  rw [accounts.follows.packetsReceived, accounts.receivedPrior, ofNat_sub_ofNat accounts.sound.length_le]
  rfl

/-- **One report**: the fraction and the sum of the losses. -/
theorem countInterval_accounts (countable : Countable ledger) :
    (countInterval rrInfo).fracLost.toNat = 256 * ledger.lostInterval / ledger.expectedInterval ∧
      (countInterval rrInfo).lost = UInt32.ofNat (ledger.lost + ledger.lostInterval) ∧
      (countInterval rrInfo).expectedPrior = UInt32.ofNat (RtcpRrGenerator.expected ledger.heard) ∧
      (countInterval rrInfo).receivedPrior = UInt32.ofNat ledger.heard.length := by
  have expectedWord := expectedInterval_word accounts countable.arrived
  have receivedWord := receivedInterval_word accounts
  have below := fraction_lt accounts.sound
  have difference : ((UInt32.ofNat ledger.expectedInterval).toNat : ℤ) - (UInt32.ofNat ledger.receivedInterval).toNat =
      (ledger.expectedInterval : ℤ) - ledger.receivedInterval := by
    rw [UInt32.toNat_ofNat', UInt32.toNat_ofNat', Nat.mod_eq_of_lt countable.expected, Nat.mod_eq_of_lt countable.received]
  have again : (countInterval rrInfo).expectedPrior = UInt32.ofNat (RtcpRrGenerator.expected ledger.heard) :=
    expected_word accounts.follows countable.arrived
  have whole : (countInterval rrInfo).receivedPrior = UInt32.ofNat ledger.heard.length := accounts.follows.packetsReceived
  by_cases some : ledger.receivedInterval < ledger.expectedInterval
  · have positive : (ledger.expectedInterval : ℤ) - ledger.receivedInterval > 0 := by omega
    have word : UInt32.ofInt ((ledger.expectedInterval : ℤ) - ledger.receivedInterval) =
      UInt32.ofNat ledger.lostInterval := by
      rw [← Nat.cast_sub some.le]
      exact ofInt_natCast _
    have nonzero : UInt32.ofNat ledger.expectedInterval ≠ 0 := by
      rw [Ne, ← UInt32.toNat_inj, UInt32.toNat_ofNat', Nat.mod_eq_of_lt countable.expected]
      change ¬ ledger.expectedInterval = 0
      omega
    refine ⟨?_, ?_, again, whole⟩
    · have fraction : (countInterval rrInfo).fracLost =
          ((UInt32.ofNat ledger.lostInterval <<< 8) / UInt32.ofNat ledger.expectedInterval).toUInt8 := by
        simp only [countInterval, expectedWord, receivedWord, difference, word, if_pos (And.intro nonzero positive)]
      have shifted : (UInt32.ofNat ledger.lostInterval <<< 8).toNat = 256 * ledger.lostInterval := by
        have small := countable.lost
        have word : ledger.lostInterval % 2 ^ 32 = ledger.lostInterval := Nat.mod_eq_of_lt (by omega)
        rw [UInt32.toNat_shiftLeft, UInt32.toNat_ofNat', word]
        change ledger.lostInterval <<< 8 % 2 ^ 32 = _
        rw [Nat.shiftLeft_eq]
        omega
      rw [fraction, UInt32.toNat_toUInt8, UInt32.toNat_div, shifted, UInt32.toNat_ofNat',
        Nat.mod_eq_of_lt countable.expected, Nat.mod_eq_of_lt below]
    · simp only [countInterval, expectedWord, receivedWord, difference, word, if_pos positive]
      rw [accounts.lost, UInt32.ofNat_add]
  · have negative : ¬ (ledger.expectedInterval : ℤ) - ledger.receivedInterval > 0 := by omega
    have none : ledger.lostInterval = 0 := Nat.sub_eq_zero_of_le (Nat.le_of_not_lt some)
    refine ⟨?_, ?_, again, whole⟩
    · simp only [countInterval, expectedWord, receivedWord, difference, negative, and_false, if_false, none,
        Nat.mul_zero, Nat.zero_div]
      rfl
    · simp only [countInterval, expectedWord, receivedWord, difference, if_neg negative, none, Nat.add_zero]
      exact accounts.lost

end Report

/-- A report carries the low 24 bits of the count. -/
theorem getLostPackets_report (generator : RtcpRrGenerator) (nowMs : UInt64) (jitter : UInt32) (interval : UInt16) :
    RtcpHeader.getLostPackets (generator.generateReceiverReport nowMs jitter interval).2.data 0 =
      (countInterval generator.rrInfo).lost.toNat % 2 ^ 24 :=
  read24_write24 (fun _ => 0) 0 (countInterval generator.rrInfo).lost.toNat

/-! ### Runs -/

/-- A packet leaves the counters of the last report alone. -/
theorem countPacket_frame (rrInfo : RrPacketInfo) (seqNum : UInt16) :
    (countPacket rrInfo seqNum).expectedPrior = rrInfo.expectedPrior ∧
      (countPacket rrInfo seqNum).receivedPrior = rrInfo.receivedPrior ∧
      (countPacket rrInfo seqNum).lost = rrInfo.lost := by
  cases max : rrInfo.maxSeq with
  | none => by_cases base : rrInfo.baseSeq = none <;> simp [countPacket, base, max]
  | some maxSeq =>
      by_cases late : RtpUtils.sequenceNumberLessThan seqNum maxSeq = true <;>
        by_cases wrap : seqNum < maxSeq <;>
        by_cases base : rrInfo.baseSeq = none <;> simp [countPacket, base, max, late, wrap]

/-- A report comes in a state of the given kind; a packet of the stream can be told from the highest one
before it. -/
def Accounted (kind : Ledger → Prop) (ssrc : UInt32) (ledger : Ledger) (input : Event × ℕ) : Prop :=
  match input.1 with
  | .report _ _ _ => kind ledger
  | _ => Numbered ssrc ledger input

/-- A run whose reports all come so. -/
def AccountedRun (kind : Ledger → Prop) (ssrc : UInt32) (inputs : List (Event × ℕ)) : Prop :=
  Machine.Guarded (Ledger.record ssrc) (Accounted kind ssrc) Ledger.start inputs

/-- A generator of the stream that accounts for what was written down. -/
structure Balances (ssrc : UInt32) (generator : RtcpRrGenerator) (ledger : Ledger) : Prop where
  ssrc : generator.ssrc = ssrc
  accounts : Accounts generator.rrInfo ledger

theorem step_balances {ssrc : UInt32} {generator : RtcpRrGenerator} {ledger : Ledger} {input : Event × ℕ}
    (accounted : Accounted Countable ssrc ledger input) (balances : Balances ssrc generator ledger) :
    Balances ssrc (step generator input.1).1 (Ledger.record ssrc ledger input).1 := by
  obtain ⟨same, accounts⟩ := balances
  obtain ⟨event, index⟩ := input
  cases event with
  | rtp nowMs packet =>
      by_cases own : RtpHeader.getSSRC packet.data = ssrc
      · obtain ⟨seqNum, near⟩ := (accounted : Numbered ssrc ledger (.rtp nowMs packet, index)) own
        obtain ⟨nextPacketMs, counted⟩ := handleRtpPacket_own nowMs (same.trans own.symm)
        obtain ⟨expectedPrior, receivedPrior, lost⟩ := countPacket_frame generator.rrInfo (UInt16.ofNat index)
        simp only [step, counted, Ledger.record, if_pos own, seqNum]
        exact ⟨same, accounts.sound.trans (List.prefix_append _ _),
          (countPacket_follows accounts.follows near).congr rfl rfl rfl rfl rfl,
          expectedPrior.trans accounts.expectedPrior, receivedPrior.trans accounts.receivedPrior, lost.trans accounts.lost⟩
      · simp only [step, handleRtpPacket_other nowMs (fun equal => own (equal.symm.trans same)), Ledger.record, if_neg own]
        exact ⟨same, accounts⟩
  | sr receivedTimeMs packet =>
      obtain ⟨_, _, kept⟩ := @handleSr_eq generator receivedTimeMs packet
      simp only [step, kept]
      exact ⟨same, accounts.sound, accounts.follows.congr rfl rfl rfl rfl rfl, accounts.expectedPrior,
        accounts.receivedPrior, accounts.lost⟩
  | report nowMs jitter interval =>
      obtain ⟨_, lost, expectedPrior, receivedPrior⟩ := countInterval_accounts accounts accounted
      exact ⟨same, List.prefix_rfl, accounts.follows.congr rfl rfl rfl rfl rfl, expectedPrior, receivedPrior, lost⟩

/-- **The counters account for the losses along every run.** -/
theorem run_balances {ssrc : UInt32} (type : PacketType) {inputs : List (Event × ℕ)}
    (accounted : AccountedRun Countable ssrc inputs) :
    Balances ssrc (after ssrc type inputs) (Ledger.after ssrc inputs) := by
  have keeps : ∀ generator ledger input, Accounted Countable ssrc ledger input → Balances ssrc generator ledger →
      Balances ssrc (step generator input.1).1 (Ledger.record ssrc ledger input).1 :=
    fun _ _ _ guard balances => step_balances guard balances
  have start : Balances ssrc (init ssrc type) Ledger.start :=
    ⟨rfl, List.prefix_rfl, ⟨rfl, rfl, rfl, rfl, rfl⟩, rfl, rfl, rfl⟩
  exact Machine.Guarded.simulates keeps accounted start

/-- **The losses a report states.** After every run whose packets can be told from the highest before
them and whose reports can be counted, a report of a countable interval states the fraction lost of the
true growth, which is below one; the cumulative count is the sum of the losses of all intervals modulo
`2 ^ 32`, does not fall until that, and is sent with its low 24 bits. -/
theorem losses_accounted (ssrc : UInt32) (type : PacketType) (inputs : List (Event × ℕ))
    (accounted : AccountedRun Countable ssrc inputs)
    (countable : Countable (Ledger.after ssrc inputs)) (nowMs : UInt64) (jitter : UInt32) (interval : UInt16) :
    ∃ generator report, (after ssrc type inputs).generateReceiverReport nowMs jitter interval = (generator, report) ∧
      (RtcpHeader.getFractionLost report.data 0).toNat =
        256 * (Ledger.after ssrc inputs).lostInterval / (Ledger.after ssrc inputs).expectedInterval ∧
      256 * (Ledger.after ssrc inputs).lostInterval / (Ledger.after ssrc inputs).expectedInterval < 256 ∧
      (after ssrc type inputs).rrInfo.lost.toNat = (Ledger.after ssrc inputs).lost % 2 ^ 32 ∧
      generator.rrInfo.lost.toNat = ((Ledger.after ssrc inputs).lost + (Ledger.after ssrc inputs).lostInterval) % 2 ^ 32 ∧
      ((Ledger.after ssrc inputs).lost + (Ledger.after ssrc inputs).lostInterval < 2 ^ 32 →
        (after ssrc type inputs).rrInfo.lost ≤ generator.rrInfo.lost) ∧
      RtcpHeader.getLostPackets report.data 0 =
        ((Ledger.after ssrc inputs).lost + (Ledger.after ssrc inputs).lostInterval) % 2 ^ 24 := by
  have accounts := (run_balances type accounted).accounts
  obtain ⟨fraction, lost, _⟩ := countInterval_accounts accounts countable
  have before : (after ssrc type inputs).rrInfo.lost.toNat = (Ledger.after ssrc inputs).lost % 2 ^ 32 := by
    rw [accounts.lost, UInt32.toNat_ofNat']
  have total : (countInterval (after ssrc type inputs).rrInfo).lost.toNat =
      ((Ledger.after ssrc inputs).lost + (Ledger.after ssrc inputs).lostInterval) % 2 ^ 32 := by
    rw [lost, UInt32.toNat_ofNat']
  refine ⟨_, _, rfl, fraction, fraction_lt accounts.sound, before, total, fun small => ?_, ?_⟩
  · rw [UInt32.le_iff_toNat_le, before]
    change _ ≤ (countInterval (after ssrc type inputs).rrInfo).lost.toNat
    rw [total, Nat.mod_eq_of_lt small]
    exact le_trans (Nat.mod_le _ _) (Nat.le_add_right _ _)
  · have carried := getLostPackets_report (after ssrc type inputs) nowMs jitter interval
    rw [total] at carried
    refine carried.trans ?_
    omega

/-- Every other packet of five is lost: the second report states a fraction of one half. -/
theorem losses_accounted_half :
    ∃ generator report,
      (after 7 .video [(.rtp 0 (mediaPacket 10), 10), (.report 1 0 500, 0), (.rtp 2 (mediaPacket 12), 12),
        (.rtp 3 (mediaPacket 14), 14)]).generateReceiverReport 4 0 500 = (generator, report) ∧
      (RtcpHeader.getFractionLost report.data 0).toNat = 128 ∧ RtcpHeader.getLostPackets report.data 0 = 2 := by
  have numbered :
      AccountedRun Countable 7 [(.rtp 0 (mediaPacket 10), 10), (.report 1 0 500, 0), (.rtp 2 (mediaPacket 12), 12),
      (.rtp 3 (mediaPacket 14), 14)] :=
    ⟨fun _ => ⟨by decide, by decide⟩, ⟨⟨by decide, by decide⟩, by decide, by decide⟩, fun _ => ⟨by decide, by decide⟩,
      fun _ => ⟨by decide, by decide⟩, trivial⟩
  obtain ⟨generator, report, ran, fraction, _, _, _, _, lost⟩ :=
    losses_accounted 7 .video _ numbered ⟨⟨by decide, by decide⟩, by decide, by decide⟩ 4 0 500
  exact ⟨generator, report, ran, fraction, lost⟩

/-! ### Long runs -/

/-- Packets at even distances. -/
def burst (start step count : ℕ) : List (Event × ℕ) :=
  (List.range count).map fun packet =>
    (.rtp 0 (mediaPacket (UInt16.ofNat (start + step * packet))), start + step * packet)

/-- What is heard of them. -/
def hearBurst (ledger : Ledger) (start step count : ℕ) : Ledger :=
  { ledger with heard := ledger.heard ++ (List.range count).map fun packet => start + step * packet }

section Burst

variable {ledger : Ledger} {start step : ℕ}

theorem getSSRC_mediaPacket (seqNum : UInt16) : RtpHeader.getSSRC (mediaPacket seqNum).data = 7 := by
  simp [RtpHeader.getSSRC, mediaPacket, videoPacket, read32, encode16, encode32]

theorem burst_succ (start step count : ℕ) : burst start step (count + 1) = burst start step count ++
    [(.rtp 0 (mediaPacket (UInt16.ofNat (start + step * count))), start + step * count)] := by
  rw [burst, List.range_succ, List.map_append]
  rfl

theorem hearBurst_succ (ledger : Ledger) (start step count : ℕ) : hearBurst ledger start step (count + 1) =
    { hearBurst ledger start step count with heard := (hearBurst ledger start step count).heard ++
      [start + step * count] } := by
  rw [hearBurst, List.range_succ, List.map_append, ← List.append_assoc]
  rfl

theorem highest_hearBurst (above : highest ledger.heard ≤ start) (count : ℕ) :
    highest (hearBurst ledger start step (count + 1)).heard = start + step * count := by
  induction count with
  | zero =>
      rw [hearBurst_succ, highest_append]
      exact max_eq_right (by simpa [hearBurst] using above)
  | succ count ih =>
      rw [hearBurst_succ, highest_append, ih]
      exact max_eq_right (Nat.add_le_add_left (Nat.mul_le_mul_left step (Nat.le_succ count)) start)

theorem headD_hearBurst (ledger : Ledger) (start step count : ℕ) : (hearBurst ledger start step (count + 1)).heard.headD 0 =
    if ledger.heard = [] then start else ledger.heard.headD 0 := by
  rw [hearBurst, List.range_succ_eq_map]
  cases heard : ledger.heard with
  | nil => simp
  | cons first others => simp

/-- A burst that follows on is numbered, and its packets are heard. -/
theorem run_burst (short : step ≤ 4095) (above : highest ledger.heard ≤ start) (near : start ≤ highest ledger.heard + 4095)
    (count : ℕ) :
    Machine.Guarded (Ledger.record 7) (Accounted Countable 7) ledger (burst start step count) ∧
      Machine.run (Ledger.record 7) ledger (burst start step count) = hearBurst ledger start step count := by
  induction count with
  | zero => exact ⟨trivial, by simp [burst, hearBurst]⟩
  | succ count ih =>
      obtain ⟨guarded, ran⟩ := ih
      rw [burst_succ, Machine.guarded_append, Machine.run_append, ran, hearBurst_succ]
      have told : Near (hearBurst ledger start step count).heard (start + step * count) := by
        intro _
        cases count with
        | zero =>
            have same : (hearBurst ledger start step 0).heard = ledger.heard := List.append_nil _
            rw [same]
            omega
        | succ count =>
            rw [highest_hearBurst above, Nat.mul_succ]
            omega
      refine ⟨⟨guarded, fun _ => ⟨ofNat_bytes _, told⟩, trivial⟩, ?_⟩
      simp only [Machine.run, Ledger.record, if_pos (getSSRC_mediaPacket _)]

end Burst

/-- A run that goes on up to a report. -/
theorem report_append {kind : Ledger → Prop} {ssrc : UInt32} {inputs more : List (Event × ℕ)} {next : Ledger}
    (accounted : AccountedRun kind ssrc inputs)
    (guarded : Machine.Guarded (Ledger.record ssrc) (Accounted kind ssrc) (Ledger.after ssrc inputs) more)
    (ran : Machine.run (Ledger.record ssrc) (Ledger.after ssrc inputs) more = next) (reportable : kind next) :
    AccountedRun kind ssrc (inputs ++ (more ++ [(.report 0 0 0, 0)])) ∧
      Ledger.after ssrc (inputs ++ (more ++ [(.report 0 0 0, 0)])) =
        ⟨next.heard, next.heard, next.lost + next.lostInterval⟩ := by
  subst ran
  refine ⟨?_, ?_⟩
  · rw [AccountedRun, Machine.guarded_append, Machine.guarded_append]
    exact ⟨accounted, guarded, reportable, trivial⟩
  · rw [Ledger.after, Machine.run_append, Machine.run_append]
    rfl

/-- Bursts in which 4094 of 4095 packets are lost, each with a report. -/
def pacedRun (reports : ℕ) : List (Event × ℕ) :=
  (List.range reports).flatMap fun report => burst (4095 * (4098 * report)) 4095 4098 ++ [(.report 0 0 0, 0)]

/-- What is written down of them. -/
structure Paced (reports : ℕ) (ledger : Ledger) : Prop where
  length : ledger.heard.length = 4098 * reports
  highest : highest ledger.heard = 4095 * (4098 * reports - 1)
  head : ledger.heard.headD 0 = 0
  reported : ledger.reported = ledger.heard
  lost : ledger.lost = 4094 * (4098 * reports - 1)

/-- What is heard in the next burst. -/
theorem Paced.burst {reports : ℕ} {ledger : Ledger} (paced : Paced reports ledger) :
    let next := hearBurst ledger (4095 * (4098 * reports)) 4095 4098
    next.heard.length = 4098 * (reports + 1) ∧ RtcpRrGenerator.highest next.heard = 4095 * (4098 * (reports + 1) - 1) ∧
      next.heard.headD 0 = 0 ∧ Countable next ∧
      next.lost + next.lostInterval = 4094 * (4098 * (reports + 1) - 1) := by
  intro next
  have above : RtcpRrGenerator.highest ledger.heard ≤ 4095 * (4098 * reports) := by
    rw [paced.highest]
    omega
  have length : next.heard.length = 4098 * (reports + 1) := by
    have appended : next.heard.length = ledger.heard.length + 4098 := by simp [next, hearBurst]
    rw [appended, paced.length]
    omega
  have top : RtcpRrGenerator.highest next.heard = 4095 * (4098 * (reports + 1) - 1) := by
    have last : RtcpRrGenerator.highest next.heard = 4095 * (4098 * reports) + 4095 * 4097 := highest_hearBurst above 4097
    rw [last]
    omega
  have arrived : next.heard ≠ [] := by
    intro empty
    rw [empty, List.length_nil] at length
    omega
  have head : next.heard.headD 0 = 0 := by
    have first : next.heard.headD 0 = if ledger.heard = [] then 4095 * (4098 * reports) else ledger.heard.headD 0 :=
      headD_hearBurst ledger (4095 * (4098 * reports)) 4095 4097
    by_cases silent : ledger.heard = []
    · have none := paced.length
      rw [silent, List.length_nil] at none
      rw [first, if_pos silent]
      omega
    · rw [first, if_neg silent, paced.head]
  have received : next.receivedInterval = 4098 := by
    have parts : next.receivedInterval = next.heard.length - ledger.reported.length := rfl
    rw [parts, length, paced.reported, paced.length]
    omega
  have grown : next.expectedInterval = if reports = 0 then 4095 * 4097 + 1 else 4095 * 4098 := by
    have parts : next.expectedInterval = expected next.heard - expected ledger.reported := rfl
    rw [parts, expected, if_neg arrived, top, head, paced.reported, expected, paced.highest, paced.head]
    by_cases zero : reports = 0
    · have silent : ledger.heard = [] := List.eq_nil_of_length_eq_zero (by rw [paced.length, zero])
      rw [if_pos silent, if_pos zero, zero]
    · have some : ledger.heard ≠ [] := fun silent => zero (by
        have none := paced.length
        rw [silent, List.length_nil] at none
        omega)
      rw [if_neg some, if_neg zero]
      omega
  have lost : next.lostInterval = if reports = 0 then 4095 * 4097 + 1 - 4098 else 4095 * 4098 - 4098 := by
    rw [Ledger.lostInterval, received, grown]
    split_ifs <;> rfl
  refine ⟨length, top, head, ⟨⟨arrived, ?_⟩, ?_, ?_⟩, ?_⟩
  · rw [lost]
    split_ifs <;> decide
  · rw [grown]
    split_ifs <;> decide
  · rw [received]
    decide
  · have before : next.lost = 4094 * (4098 * reports - 1) := paced.lost
    rw [before, lost]
    split_ifs with zero
    · rw [zero]
    · omega

theorem pacedRun_spec (reports : ℕ) :
    AccountedRun Countable 7 (pacedRun reports) ∧ Paced reports (Ledger.after 7 (pacedRun reports)) := by
  induction reports with
  | zero => exact ⟨trivial, rfl, rfl, rfl, rfl, rfl⟩
  | succ reports ih =>
      obtain ⟨guarded, paced⟩ := ih
      have split : pacedRun (reports + 1) = pacedRun reports ++
          (burst (4095 * (4098 * reports)) 4095 4098 ++ [(.report 0 0 0, 0)]) := by
        rw [pacedRun, List.range_succ, List.flatMap_append, List.flatMap_singleton]
        rfl
      have top := paced.highest
      have above : highest (Ledger.after 7 (pacedRun reports)).heard ≤ 4095 * (4098 * reports) := by
        rw [top]
        omega
      have follows := run_burst (by decide : 4095 ≤ 4095) above (by omega) 4098
      obtain ⟨length, highest, head, countable, lost⟩ := paced.burst
      generalize burst (4095 * (4098 * reports)) 4095 4098 = more at split follows
      obtain ⟨accounted, recorded⟩ := report_append guarded follows.1 follows.2 countable
      rw [split, recorded]
      exact ⟨accounted, length, highest, head, rfl, lost⟩

/-- A packet, a report, and many packets of which one is lost. -/
def longRun (packets : ℕ) : List (Event × ℕ) :=
  [(.rtp 0 (mediaPacket 0), 0), (.report 0 0 0, 0)] ++ burst 2 1 packets

/-- What is written down after the report. -/
theorem longRun_spec (packets : ℕ) :
    AccountedRun Countable 7 (longRun (packets + 1)) ∧
      Ledger.after 7 (longRun (packets + 1)) = hearBurst ⟨[0], [0], 0⟩ 2 1 (packets + 1) := by
  have start : AccountedRun Countable 7 [(.rtp 0 (mediaPacket 0), 0), (.report 0 0 0, 0)] :=
    ⟨fun _ => ⟨by decide, by decide⟩, ⟨⟨by decide, by decide⟩, by decide, by decide⟩, trivial⟩
  have written : Ledger.after 7 [(.rtp 0 (mediaPacket 0), 0), (.report 0 0 0, 0)] = ⟨[0], [0], 0⟩ := by
    simp only [Ledger.after, Machine.run, Ledger.record, if_pos (getSSRC_mediaPacket _)]
    rfl
  have follows : Machine.Guarded (Ledger.record 7) (Accounted Countable 7) ⟨[0], [0], 0⟩ (burst 2 1 (packets + 1)) ∧ _ :=
    run_burst (by decide : 1 ≤ 4095) (by decide) (by decide) (packets + 1)
  refine ⟨?_, ?_⟩
  · rw [AccountedRun, longRun, Machine.guarded_append]
    refine ⟨start, ?_⟩
    rw [← Ledger.after, written]
    exact follows.1
  · rw [Ledger.after, longRun, Machine.run_append, ← Ledger.after, written]
    exact follows.2

/-- The interval after the report: one packet of all that are expected is lost. -/
theorem longRun_interval (packets : ℕ) :
    ∃ inputs, AccountedRun Countable 7 inputs ∧ (Ledger.after 7 inputs).heard ≠ [] ∧
      (Ledger.after 7 inputs).expectedInterval = packets + 2 ∧ (Ledger.after 7 inputs).receivedInterval = packets + 1 := by
  obtain ⟨accounted, written⟩ := longRun_spec packets
  have top : highest (hearBurst ⟨[0], [0], 0⟩ 2 1 (packets + 1)).heard = 2 + 1 * packets :=
    highest_hearBurst (by decide) packets
  have head : (hearBurst ⟨[0], [0], 0⟩ 2 1 (packets + 1)).heard.headD 0 = 0 := rfl
  have arrived : (hearBurst ⟨[0], [0], 0⟩ 2 1 (packets + 1)).heard ≠ [] := List.cons_ne_nil _ _
  have before : expected (hearBurst ⟨[0], [0], 0⟩ 2 1 (packets + 1)).reported = 1 := rfl
  refine ⟨longRun (packets + 1), accounted, ?_⟩
  rw [written]
  refine ⟨arrived, ?_, ?_⟩
  · rw [Ledger.expectedInterval, before, expected, if_neg arrived, top, head]
    omega
  · simp [Ledger.receivedInterval, hearBurst]

/-- The interval after some bursts with reports: another burst. -/
theorem pacedRun_interval (reports : ℕ) :
    ∃ inputs, AccountedRun Countable 7 inputs ∧ Countable (Ledger.after 7 inputs) ∧
      (Ledger.after 7 inputs).lost = 4094 * (4098 * reports - 1) ∧
      (Ledger.after 7 inputs).lost + (Ledger.after 7 inputs).lostInterval = 4094 * (4098 * (reports + 1) - 1) := by
  obtain ⟨guarded, paced⟩ := pacedRun_spec reports
  have top := paced.highest
  have above : highest (Ledger.after 7 (pacedRun reports)).heard ≤ 4095 * (4098 * reports) := by
    rw [top]
    omega
  have follows := run_burst (by decide : 4095 ≤ 4095) above (by omega) 4098
  obtain ⟨_, _, _, countable, total⟩ := paced.burst
  generalize burst (4095 * (4098 * reports)) 4095 4098 = more at follows
  refine ⟨pacedRun reports ++ more, ?_, ?_⟩
  · rw [AccountedRun, Machine.guarded_append]
    exact ⟨guarded, follows.1⟩
  · rw [Ledger.after, Machine.run_append, ← Ledger.after, follows.2]
    exact ⟨countable, paced.lost, total⟩

/-- A run that may be counted may be reported. -/
theorem AccountedRun.reportable {ssrc : UInt32} {inputs : List (Event × ℕ)}
    (accounted : AccountedRun Countable ssrc inputs) :
    AccountedRun Reportable ssrc inputs := by
  refine Machine.Guarded.imp (fun ledger input guard => ?_) accounted
  obtain ⟨event, index⟩ := input
  cases event with
  | rtp nowMs packet => exact guard
  | sr receivedTimeMs packet => exact guard
  | report nowMs jitter interval => exact Countable.toReportable guard

/-- **The count falls after `2 ^ 32` losses**, and after `2 ^ 32` packets in an interval the fraction is
not that of the true growth. -/
theorem losses_go_round :
    (¬ ∀ inputs, AccountedRun Reportable 7 inputs → Reportable (Ledger.after 7 inputs) →
      (after 7 .video inputs).rrInfo.lost ≤ ((after 7 .video inputs).generateReceiverReport 0 0 0).1.rrInfo.lost) ∧
    ¬ ∀ inputs, AccountedRun Reportable 7 inputs → Reportable (Ledger.after 7 inputs) →
      (RtcpHeader.getFractionLost ((after 7 .video inputs).generateReceiverReport 0 0 0).2.data 0).toNat =
        256 * (Ledger.after 7 inputs).lostInterval / (Ledger.after 7 inputs).expectedInterval := by
  refine ⟨fun claim => ?_, fun claim => ?_⟩
  · -- the report after 257 bursts
    obtain ⟨inputs, accounted, countable, lost, sum⟩ := pacedRun_interval 256
    have accounts := (run_balances .video accounted).accounts
    obtain ⟨_, total, _⟩ := countInterval_accounts accounts countable
    have order := claim inputs accounted.reportable countable.toReportable
    change _ ≤ (countInterval (after 7 .video inputs).rrInfo).lost at order
    rw [total, accounts.lost, lost, ← lost, sum, UInt32.le_iff_toNat_le, UInt32.toNat_ofNat', UInt32.toNat_ofNat', lost]
      at order
    omega
  · -- an interval with `2 ^ 32 + 1` packets
    obtain ⟨inputs, accounted, arrived, expected, received⟩ := longRun_interval (2 ^ 32)
    have accounts := (run_balances .video accounted).accounts
    have lost : (Ledger.after 7 inputs).lostInterval = 1 := by
      rw [Ledger.lostInterval, expected, received]
      omega
    have few : (Ledger.after 7 inputs).lostInterval < 2 ^ 24 := by
      rw [lost]
      decide
    have fraction := claim inputs accounted.reportable ⟨arrived, few⟩
    change (countInterval (after 7 .video inputs).rrInfo).fracLost.toNat = _ at fraction
    have half : (countInterval (after 7 .video inputs).rrInfo).fracLost = 128 := by
      have expectedWord := expectedInterval_word accounts arrived
      have receivedWord := receivedInterval_word accounts
      rw [expected] at expectedWord
      rw [received] at receivedWord
      simp only [countInterval, expectedWord, receivedWord]
      decide
    rw [half, lost, expected] at fraction
    exact absurd fraction (by decide)

end RtcpRrGenerator

end Erizo
