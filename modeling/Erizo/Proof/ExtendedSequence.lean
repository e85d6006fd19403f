/-
**The extended highest sequence number is exact.**

Packets have true indexes, their sequence numbers before the wrap. A `Ledger` is what an observer of
the true indexes writes down along a run; `Follows` says how the counters of a generator stand to
the indexes heard. As long as no index is more than 4095 above the highest or more than 61440 below
it, the serial comparison tells new from late (`countPacket_follows`), and the relation holds along
every run (`run_follows`).
-/

import Erizo.Library.Machine
import Erizo.Model.RtcpRrGenerator

namespace Erizo

namespace RtcpRrGenerator

open Library Library.Serial Library.Bytes RtpUtils

/-! ### True indexes -/

/-- The highest of some indexes. -/
def highest (heard : List ℕ) : ℕ := heard.foldl max 0

/-- The highest index without the wraps of the first one. -/
def extended (heard : List ℕ) : ℕ := highest heard - heard.headD 0 / 2 ^ 16 * 2 ^ 16

/-- The indexes from the first to the highest one. -/
def expected (heard : List ℕ) : ℕ := if heard = [] then 0 else highest heard - heard.headD 0 + 1

theorem highest_append (heard : List ℕ) (index : ℕ) : highest (heard ++ [index]) = max (highest heard) index := by
  rw [highest, List.foldl_append]
  rfl

theorem le_highest {heard : List ℕ} {index : ℕ} (member : index ∈ heard) : index ≤ highest heard := by
  induction heard using List.reverseRecOn with
  | nil => exact absurd member List.not_mem_nil
  | append_singleton heard last ih =>
      rw [highest_append]
      rcases List.mem_append.mp member with before | here
      · exact le_trans (ih before) (le_max_left _ _)
      · rw [List.mem_singleton.mp here]
        exact le_max_right _ _

theorem head_le_highest (heard : List ℕ) : heard.headD 0 ≤ highest heard := by
  cases heard with
  | nil => exact le_rfl
  | cons first rest => exact le_highest List.mem_cons_self

theorem headD_append {heard : List ℕ} (arrived : heard ≠ []) (index : ℕ) : (heard ++ [index]).headD 0 = heard.headD 0 := by
  cases heard with
  | nil => exact absurd rfl arrived
  | cons first rest => rfl

/-- The wraps since the first index and the place in the last one. -/
theorem extended_eq (heard : List ℕ) :
    extended heard = (highest heard / 2 ^ 16 - heard.headD 0 / 2 ^ 16) * 2 ^ 16 + highest heard % 2 ^ 16 := by
  have order := Nat.div_le_div_right (c := 2 ^ 16) (head_le_highest heard)
  rw [extended]
  omega

theorem extended_div (heard : List ℕ) : extended heard / 2 ^ 16 = highest heard / 2 ^ 16 - heard.headD 0 / 2 ^ 16 := by
  rw [extended_eq]
  omega

theorem extended_mod (heard : List ℕ) : extended heard % 2 ^ 16 = highest heard % 2 ^ 16 := by
  rw [extended_eq]
  omega

/-! ### One packet -/

/-- An index that is not below the highest and not far above it does not compare as less. -/
theorem not_less_of_near {highest index : ℕ} (new : highest ≤ index) (near : index ≤ highest + 4095) :
    sequenceNumberLessThan (UInt16.ofNat index) (UInt16.ofNat highest) = false := by
  rw [Bool.eq_false_iff, sequenceNumberLessThan, Ne, numberLessThan_iff _ _ (by decide) le_rfl,
    ahead_ofNat new (by omega)]
  omega

/-- An index below the highest and not far below it compares as less. -/
theorem less_of_late {highest index : ℕ} (late : index < highest) (near : highest ≤ index + 61440) :
    sequenceNumberLessThan (UInt16.ofNat index) (UInt16.ofNat highest) = true := by
  rw [sequenceNumberLessThan, numberLessThan_iff_ahead _ _ (by decide) le_rfl, ahead_ofNat late.le (by omega)]
  omega

/-- The word compares as less just when there is a wrap between. -/
theorem word_lt_iff {highest index : ℕ} (new : highest ≤ index) (near : index ≤ highest + 4095) :
    UInt16.ofNat index < UInt16.ofNat highest ↔ index / 2 ^ 16 = highest / 2 ^ 16 + 1 := by
  rw [UInt16.lt_iff_toNat_lt, UInt16.toNat_ofNat', UInt16.toNat_ofNat']
  omega

/-- Quotient and remainder in one word. -/
theorem shift_or (cycle seq : UInt16) :
    (cycle.toUInt32 <<< 16) ||| seq.toUInt32 = UInt32.ofNat (cycle.toNat * 2 ^ 16 + seq.toNat) := by
  have high := cycle.toNat_lt
  have low := seq.toNat_lt
  rw [← UInt32.toNat_inj, UInt32.toNat_or, UInt32.toNat_shiftLeft, UInt16.toNat_toUInt32, UInt16.toNat_toUInt32,
    UInt32.toNat_ofNat']
  change cycle.toNat <<< 16 % 2 ^ 32 ||| seq.toNat = _
  rw [Nat.shiftLeft_eq, Nat.mod_eq_of_lt (by omega), Nat.mod_eq_of_lt (by omega), ← Nat.shiftLeft_eq,
    Nat.shiftLeft_add_eq_or_of_lt low]

/-- How the counters stand to the indexes heard. -/
structure Follows (rrInfo : RrPacketInfo) (heard : List ℕ) : Prop where
  packetsReceived : rrInfo.packetsReceived = UInt32.ofNat heard.length
  baseSeq : rrInfo.baseSeq = heard.head?.map UInt16.ofNat
  maxSeq : rrInfo.maxSeq = if heard = [] then none else some (UInt16.ofNat (highest heard))
  cycle : rrInfo.cycle = UInt16.ofNat (extended heard / 2 ^ 16)
  extendedSeq : rrInfo.extendedSeq = UInt32.ofNat (extended heard)

/-- An index that can be told from the highest one. -/
def Near (heard : List ℕ) (index : ℕ) : Prop :=
  heard ≠ [] → index ≤ highest heard + 4095 ∧ highest heard ≤ index + 61440

instance (heard : List ℕ) (index : ℕ) : Decidable (Near heard index) :=
  inferInstanceAs (Decidable (heard ≠ [] → index ≤ highest heard + 4095 ∧ highest heard ≤ index + 61440))

/-- The extended number in one word. -/
theorem extended_word (heard : List ℕ) :
    ((UInt16.ofNat (extended heard / 2 ^ 16)).toUInt32 <<< 16) ||| (UInt16.ofNat (highest heard)).toUInt32 =
      UInt32.ofNat (extended heard) := by
  have low := extended_mod heard
  rw [shift_or, ← UInt32.toNat_inj, UInt32.toNat_ofNat', UInt32.toNat_ofNat', UInt16.toNat_ofNat', UInt16.toNat_ofNat']
  omega

section Count

variable {rrInfo : RrPacketInfo} {seqNum maxSeq : UInt16}

theorem countPacket_first (base : rrInfo.baseSeq = none) (max : rrInfo.maxSeq = none) :
    countPacket rrInfo seqNum = { rrInfo with
      packetsReceived := rrInfo.packetsReceived + 1
      baseSeq := some seqNum
      maxSeq := some seqNum
      extendedSeq := (rrInfo.cycle.toUInt32 <<< 16) ||| seqNum.toUInt32 } := by
  simp [countPacket, base, max, seqWord]

theorem countPacket_new (base : rrInfo.baseSeq ≠ none) (max : rrInfo.maxSeq = some maxSeq)
    (new : sequenceNumberLessThan seqNum maxSeq = false) :
    countPacket rrInfo seqNum = { rrInfo with
      packetsReceived := rrInfo.packetsReceived + 1
      cycle := if seqNum < maxSeq then rrInfo.cycle + 1 else rrInfo.cycle
      maxSeq := some seqNum
      extendedSeq :=
        ((if seqNum < maxSeq then rrInfo.cycle + 1 else rrInfo.cycle).toUInt32 <<< 16) ||| seqNum.toUInt32 } := by
  by_cases wrap : seqNum < maxSeq <;> simp [countPacket, base, max, new, wrap, seqWord]

theorem countPacket_late (base : rrInfo.baseSeq ≠ none) (max : rrInfo.maxSeq = some maxSeq)
    (late : sequenceNumberLessThan seqNum maxSeq = true) :
    countPacket rrInfo seqNum = { rrInfo with
      packetsReceived := rrInfo.packetsReceived + 1
      extendedSeq := (rrInfo.cycle.toUInt32 <<< 16) ||| maxSeq.toUInt32 } := by
  simp [countPacket, base, max, late, seqWord]

end Count

section Packet

variable {rrInfo : RrPacketInfo} {heard : List ℕ} {index : ℕ}

theorem received_append (heard : List ℕ) (index : ℕ) :
    UInt32.ofNat (heard ++ [index]).length = UInt32.ofNat heard.length + 1 := by
  rw [List.length_append, UInt32.ofNat_add]
  rfl

/-- The cycle of a new packet. -/
theorem cycle_new (new : highest heard ≤ index) (near : index ≤ highest heard + 4095) (arrived : heard ≠ []) :
    (if UInt16.ofNat index < UInt16.ofNat (highest heard) then UInt16.ofNat (extended heard / 2 ^ 16) + 1
      else UInt16.ofNat (extended heard / 2 ^ 16)) = UInt16.ofNat (extended (heard ++ [index]) / 2 ^ 16) := by
  have order := Nat.div_le_div_right (c := 2 ^ 16) (head_le_highest heard)
  rw [extended_div, extended_div, highest_append, max_eq_right new, headD_append arrived]
  by_cases wrap : UInt16.ofNat index < UInt16.ofNat (highest heard)
  · have next := (word_lt_iff new near).mp wrap
    rw [if_pos wrap, next, show (1 : UInt16) = UInt16.ofNat 1 from rfl, ← UInt16.ofNat_add]
    congr 1
    omega
  · have same : index / 2 ^ 16 = highest heard / 2 ^ 16 := by
      have other := (word_lt_iff new near).not.mp wrap
      omega
    rw [if_neg wrap, same]

/-- **One packet**: a new index becomes the highest, a late one changes nothing but the count. -/
theorem countPacket_follows (follows : Follows rrInfo heard) (near : Near heard index) :
    Follows (countPacket rrInfo (UInt16.ofNat index)) (heard ++ [index]) := by
  have appended : heard ++ [index] ≠ [] := List.append_ne_nil_of_right_ne_nil heard (List.cons_ne_nil index [])
  by_cases silent : heard = []
  · subst silent
    have single : extended [index] / 2 ^ 16 = 0 := by
      rw [extended_div]
      exact Nat.sub_eq_zero_of_le (Nat.div_le_div_right (max_le (Nat.zero_le index) le_rfl))
    have cycle : rrInfo.cycle = UInt16.ofNat (extended [index] / 2 ^ 16) := by
      rw [follows.cycle, single]
      rfl
    have top : highest [index] = index := Nat.zero_max index
    rw [countPacket_first follows.baseSeq follows.maxSeq]
    refine ⟨?_, rfl, ?_, cycle, ?_⟩
    · rw [received_append, ← follows.packetsReceived]
    · rw [if_neg appended, List.nil_append, top]
    · change (rrInfo.cycle.toUInt32 <<< 16) ||| (UInt16.ofNat index).toUInt32 = UInt32.ofNat (extended [index])
      rw [cycle, ← extended_word, top]
  · obtain ⟨below, above⟩ := near silent
    have max : rrInfo.maxSeq = some (UInt16.ofNat (highest heard)) := follows.maxSeq.trans (if_neg silent)
    have base : rrInfo.baseSeq ≠ none := by
      rw [follows.baseSeq, List.head?_eq_some_head silent]
      exact Option.some_ne_none _
    have first : (heard ++ [index]).head? = heard.head? := List.head?_append_of_ne_nil heard silent
    by_cases new : highest heard ≤ index
    · have top : highest (heard ++ [index]) = index := by rw [highest_append, max_eq_right new]
      rw [countPacket_new base max (not_less_of_near new below), follows.cycle, cycle_new new below silent]
      refine ⟨?_, ?_, ?_, rfl, ?_⟩
      · rw [received_append, ← follows.packetsReceived]
      · rw [first, ← follows.baseSeq]
      · rw [if_neg appended, top]
      · rw [← extended_word, top]
    · have late : index < highest heard := Nat.lt_of_not_le new
      have top : highest (heard ++ [index]) = highest heard := by rw [highest_append, max_eq_left late.le]
      have same : extended (heard ++ [index]) = extended heard := by
        rw [extended, extended, top, headD_append silent]
      rw [countPacket_late base max (less_of_late late above)]
      refine ⟨?_, ?_, ?_, ?_, ?_⟩
      · rw [received_append, ← follows.packetsReceived]
      · rw [first, ← follows.baseSeq]
      · rw [if_neg appended, top]
        exact max
      · rw [same]
        exact follows.cycle
      · rw [same, ← extended_word, follows.cycle]

end Packet

/-! ### Runs -/

/-- What an observer of the true indexes writes down: the indexes of the stream's packets, those of
them that came before the last report, and how many were lost by then. -/
structure Ledger where
  heard : List ℕ
  reported : List ℕ
  lost : ℕ

namespace Ledger

/-- Nothing has happened. -/
def start : Ledger := ⟨[], [], 0⟩

/-- How many packets more are expected than at the last report. -/
def expectedInterval (ledger : Ledger) : ℕ := expected ledger.heard - expected ledger.reported

/-- How many packets came since the last report. -/
def receivedInterval (ledger : Ledger) : ℕ := ledger.heard.length - ledger.reported.length

/-- How many of the packets expected since the last report did not come. -/
def lostInterval (ledger : Ledger) : ℕ := ledger.expectedInterval - ledger.receivedInterval

/-- What is written down for an event; the index is that of its packet. -/
def record (ssrc : UInt32) (ledger : Ledger) (input : Event × ℕ) : Ledger × Unit :=
  match input.1 with
  | .rtp _ packet =>
      (if RtpHeader.getSSRC packet.data = ssrc then { ledger with heard := ledger.heard ++ [input.2] } else ledger, ())
  | .sr _ _ => (ledger, ())
  | .report _ _ _ => (⟨ledger.heard, ledger.heard, ledger.lost + ledger.lostInterval⟩, ())

/-- What is written down along a run. -/
def after (ssrc : UInt32) (inputs : List (Event × ℕ)) : Ledger := Machine.run (record ssrc) start inputs

end Ledger

/-- A packet of the stream carries the word of its index, and the index can be told from the highest. -/
def Numbered (ssrc : UInt32) (ledger : Ledger) (input : Event × ℕ) : Prop :=
  match input.1 with
  | .rtp _ packet =>
      RtpHeader.getSSRC packet.data = ssrc →
        RtpHeader.getSeqNumber packet.data = UInt16.ofNat input.2 ∧ Near ledger.heard input.2
  | _ => True

/-- A run of which every packet can be told from the highest one before it. -/
def NumberedRun (ssrc : UInt32) (inputs : List (Event × ℕ)) : Prop :=
  Machine.Guarded (Ledger.record ssrc) (Numbered ssrc) Ledger.start inputs

/-- The generator after a run. -/
def after (ssrc : UInt32) (type : PacketType) (inputs : List (Event × ℕ)) : RtcpRrGenerator :=
  Machine.run step (init ssrc type) (inputs.map Prod.fst)

/-- Other fields do not matter. -/
theorem Follows.congr {first second : RrPacketInfo} {heard : List ℕ} (follows : Follows first heard)
    (received : second.packetsReceived = first.packetsReceived) (base : second.baseSeq = first.baseSeq)
    (max : second.maxSeq = first.maxSeq) (cycle : second.cycle = first.cycle)
    (extended : second.extendedSeq = first.extendedSeq) : Follows second heard :=
  ⟨received.trans follows.packetsReceived, base.trans follows.baseSeq, max.trans follows.maxSeq,
    cycle.trans follows.cycle, extended.trans follows.extendedSeq⟩

/-- A generator of the stream that follows what was written down. -/
structure Tracks (ssrc : UInt32) (generator : RtcpRrGenerator) (ledger : Ledger) : Prop where
  ssrc : generator.ssrc = ssrc
  follows : Follows generator.rrInfo ledger.heard

section Runs

variable {ssrc : UInt32} {generator : RtcpRrGenerator} {ledger : Ledger}

/-- What a packet does to the counters of a generator. -/
theorem handleRtpPacket_own (nowMs : UInt64) {packet : DataPacket} (own : generator.ssrc = RtpHeader.getSSRC packet.data) :
    ∃ nextPacketMs, (generator.handleRtpPacket nowMs packet).1 = { generator with
      rrInfo :=
        { countPacket generator.rrInfo (RtpHeader.getSeqNumber packet.data) with nextPacketMs := nextPacketMs } } := by
  rw [handleRtpPacket, if_neg (not_not.mpr own)]
  by_cases unscheduled : (countPacket generator.rrInfo (RtpHeader.getSeqNumber packet.data)).nextPacketMs = 0
  · exact ⟨_, congrArg Prod.fst (if_pos unscheduled)⟩
  · exact ⟨_, congrArg Prod.fst (if_neg unscheduled)⟩

theorem handleRtpPacket_other (nowMs : UInt64) {packet : DataPacket}
    (other : generator.ssrc ≠ RtpHeader.getSSRC packet.data) : (generator.handleRtpPacket nowMs packet).1 = generator := by
  rw [handleRtpPacket, if_pos other]

/-- A sender report leaves the counters alone. -/
theorem handleSr_eq (receivedTimeMs : UInt64) (packet : DataPacket) :
    ∃ lastSrMidNtp lastSrTs, generator.handleSr receivedTimeMs packet = { generator with
      rrInfo := { generator.rrInfo with lastSrMidNtp := lastSrMidNtp, lastSrTs := lastSrTs } } := by
  rw [handleSr]
  by_cases other : generator.ssrc ≠ RtcpHeader.getSSRC packet.data 0
  · exact ⟨_, _, if_pos other⟩
  · exact ⟨_, _, if_neg other⟩

theorem step_tracks {input : Event × ℕ} (numbered : Numbered ssrc ledger input)
    (tracks : Tracks ssrc generator ledger) :
    Tracks ssrc (step generator input.1).1 (Ledger.record ssrc ledger input).1 := by
  obtain ⟨same, follows⟩ := tracks
  obtain ⟨event, index⟩ := input
  cases event with
  | rtp nowMs packet =>
      by_cases own : RtpHeader.getSSRC packet.data = ssrc
      · obtain ⟨seqNum, near⟩ := numbered own
        obtain ⟨nextPacketMs, counted⟩ := handleRtpPacket_own nowMs (same.trans own.symm)
        simp only [step, counted, Ledger.record, if_pos own, seqNum]
        exact ⟨same, (countPacket_follows follows near).congr rfl rfl rfl rfl rfl⟩
      · simp only [step, handleRtpPacket_other nowMs (fun equal => own (equal.symm.trans same)), Ledger.record, if_neg own]
        exact ⟨same, follows⟩
  | sr receivedTimeMs packet =>
      obtain ⟨_, _, kept⟩ := @handleSr_eq generator receivedTimeMs packet
      simp only [step, kept]
      exact ⟨same, follows.congr rfl rfl rfl rfl rfl⟩
  | report nowMs jitter interval => exact ⟨same, follows.congr rfl rfl rfl rfl rfl⟩

/-- **The counters follow the indexes along every run.** -/
theorem run_follows (type : PacketType) {inputs : List (Event × ℕ)} (numbered : NumberedRun ssrc inputs) :
    Follows (after ssrc type inputs).rrInfo (Ledger.after ssrc inputs).heard := by
  have keeps : ∀ generator ledger input, Numbered ssrc ledger input → Tracks ssrc generator ledger →
      Tracks ssrc (step generator input.1).1 (Ledger.record ssrc ledger input).1 :=
    fun _ _ _ guard tracks => step_tracks guard tracks
  have start : Tracks ssrc (init ssrc type) Ledger.start := ⟨rfl, ⟨rfl, rfl, rfl, rfl, rfl⟩⟩
  have simulated : Tracks ssrc (after ssrc type inputs) (Ledger.after ssrc inputs) :=
    Machine.Guarded.simulates keeps numbered start
  exact simulated.follows

end Runs

/-! ### Reports -/

section Report

variable (generator : RtcpRrGenerator) (nowMs : UInt64) (jitter : UInt32) (interval : UInt16)

/-- A report carries the cycle. -/
theorem getSeqnumCycles_report :
    RtcpHeader.getSeqnumCycles (generator.generateReceiverReport nowMs jitter interval).2.data 0 =
    generator.rrInfo.cycle := ofNat_bytes generator.rrInfo.cycle

/-- A report carries the low word of the extended number. -/
theorem getHighestSeqnum_report :
    RtcpHeader.getHighestSeqnum (generator.generateReceiverReport nowMs jitter interval).2.data 0 =
    generator.rrInfo.extendedSeq.toUInt16 := ofNat_bytes generator.rrInfo.extendedSeq.toUInt16

end Report

/-- The number that cycle and highest sequence number make. -/
def extendedNumber (generator : RtcpRrGenerator) : ℕ :=
  generator.rrInfo.cycle.toNat * 2 ^ 16 + (generator.rrInfo.maxSeq.getD 0).toNat

theorem highest_le_append (heard more : List ℕ) : highest heard ≤ highest (heard ++ more) := by
  induction more using List.reverseRecOn with
  | nil => rw [List.append_nil]
  | append_singleton more last ih =>
      rw [← List.append_assoc, highest_append]
      exact le_trans ih (le_max_left _ _)

/-- What was heard stays heard. -/
theorem heard_run (ssrc : UInt32) (ledger : Ledger) (inputs : List (Event × ℕ)) :
    ledger.heard <+: (Machine.run (Ledger.record ssrc) ledger inputs).heard := by
  induction inputs generalizing ledger with
  | nil => exact List.prefix_rfl
  | cons input rest ih =>
      refine List.IsPrefix.trans ?_ (ih (Ledger.record ssrc ledger input).1)
      obtain ⟨event, index⟩ := input
      cases event with
      | rtp nowMs packet =>
          by_cases own : RtpHeader.getSSRC packet.data = ssrc
          · simp only [Ledger.record, if_pos own]
            exact List.prefix_append _ _
          · simp only [Ledger.record, if_neg own]
            exact List.prefix_rfl
      | sr receivedTimeMs packet => exact List.prefix_rfl
      | report nowMs jitter interval => exact List.prefix_rfl

theorem extended_mono {heard more : List ℕ} (order : heard <+: more) (arrived : heard ≠ []) :
    extended heard ≤ extended more := by
  obtain ⟨rest, rfl⟩ := order
  have same : (heard ++ rest).headD 0 = heard.headD 0 := by
    cases heard with
    | nil => exact absurd rfl arrived
    | cons first others => rfl
  rw [extended, extended, same]
  exact Nat.sub_le_sub_right (highest_le_append heard rest) _

theorem extendedNumber_eq {ssrc : UInt32} (type : PacketType) {inputs : List (Event × ℕ)}
    (numbered : NumberedRun ssrc inputs)
    (arrived : (Ledger.after ssrc inputs).heard ≠ []) :
    extendedNumber (after ssrc type inputs) = extended (Ledger.after ssrc inputs).heard % 2 ^ 32 := by
  have follows := run_follows type numbered
  have low := extended_mod (Ledger.after ssrc inputs).heard
  rw [extendedNumber, follows.cycle, follows.maxSeq, if_neg arrived, Option.getD_some,
    UInt16.toNat_ofNat', UInt16.toNat_ofNat']
  omega

/-- **The extended highest sequence number.** After every run in which no packet of the stream is more
than 4095 above the highest before it or more than 61440 below it, whatever else comes between: cycle
and highest number are quotient and remainder of the highest true index, less the wraps of the first
one, modulo `2 ^ 32`; until `2 ^ 32` that number is no less than after any part of the run; and a
report carries both. -/
theorem extended_exact (ssrc : UInt32) (type : PacketType) (inputs : List (Event × ℕ)) (numbered : NumberedRun ssrc inputs)
    (arrived : (Ledger.after ssrc inputs).heard ≠ []) :
    ∃ maxSeq, (after ssrc type inputs).rrInfo.maxSeq = some maxSeq ∧
      (after ssrc type inputs).rrInfo.cycle.toNat = extended (Ledger.after ssrc inputs).heard % 2 ^ 32 / 2 ^ 16 ∧
      maxSeq.toNat = extended (Ledger.after ssrc inputs).heard % 2 ^ 32 % 2 ^ 16 ∧
      (∀ earlier later, inputs = earlier ++ later → (Ledger.after ssrc earlier).heard ≠ [] →
        extended (Ledger.after ssrc inputs).heard < 2 ^ 32 →
        extendedNumber (after ssrc type earlier) ≤ extendedNumber (after ssrc type inputs)) ∧
      ∀ nowMs jitter interval,
        RtcpHeader.getSeqnumCycles ((after ssrc type inputs).generateReceiverReport nowMs jitter interval).2.data 0 =
          (after ssrc type inputs).rrInfo.cycle ∧
        RtcpHeader.getHighestSeqnum ((after ssrc type inputs).generateReceiverReport nowMs jitter interval).2.data 0 =
          maxSeq := by
  have follows := run_follows type numbered
  have low := extended_mod (Ledger.after ssrc inputs).heard
  refine ⟨UInt16.ofNat (highest (Ledger.after ssrc inputs).heard), follows.maxSeq.trans (if_neg arrived), ?_, ?_, ?_, ?_⟩
  · rw [follows.cycle, UInt16.toNat_ofNat']
    omega
  · rw [UInt16.toNat_ofNat']
    omega
  · rintro earlier later rfl before small
    have part : NumberedRun ssrc earlier := (Machine.guarded_append.mp numbered).1
    have order : (Ledger.after ssrc earlier).heard <+: (Ledger.after ssrc (earlier ++ later)).heard := by
      rw [Ledger.after, Ledger.after, Machine.run_append]
      exact heard_run ssrc _ later
    rw [extendedNumber_eq type part before, extendedNumber_eq type numbered arrived, Nat.mod_eq_of_lt small]
    exact le_trans (Nat.mod_le _ _) (extended_mono order before)
  · intro nowMs jitter interval
    refine ⟨getSeqnumCycles_report _ nowMs jitter interval, ?_⟩
    rw [getHighestSeqnum_report, follows.extendedSeq, ← UInt16.toNat_inj, UInt32.toNat_toUInt16, UInt32.toNat_ofNat',
      UInt16.toNat_ofNat']
    omega

/-- Two packets across the wrap, a late one between them. -/
theorem extended_exact_across_wrap :
    ∃ maxSeq, (after 7 .video [(.rtp 0 (mediaPacket 65534), 65534), (.rtp 1 (mediaPacket 1), 65537),
        (.rtp 2 (mediaPacket 65535), 65535)]).rrInfo.maxSeq = some maxSeq ∧ maxSeq.toNat = 1 ∧
      (after 7 .video [(.rtp 0 (mediaPacket 65534), 65534), (.rtp 1 (mediaPacket 1), 65537),
        (.rtp 2 (mediaPacket 65535), 65535)]).rrInfo.cycle.toNat = 1 := by
  obtain ⟨maxSeq, max, cycle, low, _⟩ := extended_exact 7 .video [(.rtp 0 (mediaPacket 65534), 65534),
    (.rtp 1 (mediaPacket 1), 65537), (.rtp 2 (mediaPacket 65535), 65535)]
    ⟨fun _ => ⟨by decide, by decide⟩, fun _ => ⟨by decide, by decide⟩, fun _ => ⟨by decide, by decide⟩, trivial⟩
    (by decide)
  exact ⟨maxSeq, max, low, cycle⟩

end RtcpRrGenerator

end Erizo
