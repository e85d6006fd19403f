/-
**Reports on many streams.**

The generators of an SSRC see the packets of that SSRC only: what is written about a stream does not depend on the
others that arrive between its packets (`reports_isolated`). And every report is a compound packet that whoever walks
through it takes apart as it was put together: a receiver report, and behind it a NACK if anything is requested
(`reports_walked`). It fits into a packet, since no list of missing numbers grows beyond 150.
-/

import Erizo.Library.Isolation
import Erizo.Model.RtcpFeedbackGenerationHandler
import Erizo.Proof.NackList
import Erizo.Proof.RtcpWalk

namespace Erizo

open Library Library.Bytes RtpUtils

namespace RtcpFeedbackGenerationHandler

/-! ### One stream among others -/

/-- The SSRC whose generators a packet goes to. -/
def ssrcOf (packet : DataPacket) : Option UInt32 :=
  if RtcpHeader.getPacketType packet.data 0 = RtcpHeader.senderPt then some (RtcpHeader.getSSRC packet.data 0)
  else if !RtcpHeader.isRtcp packet.data 0 then some (RtpHeader.getSSRC packet.data)
  else none

/-- An event has to do with the generators of an SSRC. -/
def concerns (ssrc : UInt32) : Event → Bool
  | .notifyUpdate _ _ => true
  | .read _ packet => ssrcOf packet = some ssrc

/-- The generators of an SSRC, and whether there is a stream. -/
def view (ssrc : UInt32) (handler : RtcpFeedbackGenerationHandler) : Bool × Bool × Option RtcpGeneratorPair :=
  (handler.initialized, handler.nacksEnabled, handler.generatorsMap ssrc)

/-- What a packet does to the pair of its SSRC. -/
def onPacket (pair : RtcpGeneratorPair) (moment : Moment) (packet : DataPacket) :
    RtcpGeneratorPair × Option DataPacket :=
  if RtcpHeader.getPacketType packet.data 0 = RtcpHeader.senderPt then
    ({ pair with rrGenerator := pair.rrGenerator.handleSr moment.receivedTimeMs packet }, none)
  else handleRtpPacket pair moment packet

/-- A packet goes to the generators of its SSRC, if there are any. -/
theorem read_eq (handler : RtcpFeedbackGenerationHandler) (moment : Moment) (packet : DataPacket) :
    handler.read moment packet =
      if handler.initialized then
        match (ssrcOf packet).bind fun ssrc => (handler.generatorsMap ssrc).map (ssrc, ·) with
        | none => (handler, none)
        | some (ssrc, pair) => (handler.store ssrc (onPacket pair moment packet).1, (onPacket pair moment packet).2)
      else (handler, none) := by
  unfold read ssrcOf onPacket
  cases handler.initialized with
  | false => rfl
  | true =>
      simp only [Bool.not_true, Bool.false_eq_true, if_false, if_true]
      split
      · rw [Option.bind_some]
        cases handler.generatorsMap (RtcpHeader.getSSRC packet.data 0) <;> rfl
      · split
        · rw [Option.bind_some]
          cases handler.generatorsMap (RtpHeader.getSSRC packet.data) <;> rfl
        · rfl

/-- A packet of an SSRC leaves the generators of the others alone, and what becomes of its own depends on them only. -/
theorem unwinding (ssrc : UInt32) : Machine.Unwinding step (view ssrc) (concerns ssrc) where
  consistent := by
    intro handler other event counts same
    obtain ⟨initialized, nacks, pairs⟩ :
        handler.initialized = other.initialized ∧ handler.nacksEnabled = other.nacksEnabled ∧
          handler.generatorsMap ssrc = other.generatorsMap ssrc := by
      simpa [view] using same
    cases event with
    | notifyUpdate videoSourceSSRCList audioSourceSSRC =>
        refine ⟨?_, rfl⟩
        simp only [step, notifyUpdate, view]
        rw [initialized]
        split
        · simp only [initialized, nacks, pairs]
        · simp only [nacks, pairs]
    | read moment packet =>
        have ours : ssrcOf packet = some ssrc := of_decide_eq_true counts
        simp only [step, read_eq, ours, Option.bind_some, initialized, pairs]
        split
        · cases other.generatorsMap ssrc with
          | none => exact ⟨same, rfl⟩
          | some pair =>
              refine ⟨?_, rfl⟩
              simp only [view, store, initialized, nacks, Option.map_some, Function.update_self]
        · exact ⟨same, rfl⟩
  respects := by
    intro handler event idle
    cases event with
    | notifyUpdate videoSourceSSRCList audioSourceSSRC => cases idle
    | read moment packet =>
        have foreign : ssrcOf packet ≠ some ssrc := of_decide_eq_false idle
        simp only [step, read_eq]
        split
        · cases known : (ssrcOf packet).bind fun ssrc => (handler.generatorsMap ssrc).map (ssrc, ·) with
          | none => rfl
          | some found =>
              obtain ⟨of, ours, present⟩ := Option.bind_eq_some_iff.mp known
              obtain ⟨pair, _, rfl⟩ := Option.map_eq_some_iff.mp present
              have apart : ssrc ≠ of := fun equal => foreign (equal ▸ ours)
              simp only [view, store, Function.update_of_ne apart]
        · rfl

/-- **What is written about a stream depends on its own packets only.** The reports on the packets of an SSRC, and the
generators they leave, are those of a run in which no other packet comes. -/
theorem reports_isolated (nacksEnabled : Bool) (ssrc : UInt32) (events : List Event) :
    view ssrc (Machine.run step (create nacksEnabled) events) =
        view ssrc (Machine.run step (create nacksEnabled) (events.filter (concerns ssrc))) ∧
      Machine.relevantOutputs step (concerns ssrc) (create nacksEnabled) events =
        Machine.outputs step (create nacksEnabled) (events.filter (concerns ssrc)) :=
  (unwinding ssrc).run_filter rfl events

/-! ### What is in a report -/

/-- The generators of a pair are those of an SSRC, and the list of missing numbers is short. -/
structure PairSound (ssrc : UInt32) (pair : RtcpGeneratorPair) : Prop where
  rr : pair.rrGenerator.ssrc = ssrc
  nack : ∀ generator ∈ pair.nackGenerator, RtcpNackGenerator.Sound ssrc generator

/-- The numbers a NACK generator requests at a time. -/
def requests (nackGenerator : Option RtcpNackGenerator) (nowMs : UInt64) (number : UInt16) : Prop :=
  ∃ generator ∈ nackGenerator, ∃ entry ∈ generator.nackInfoList,
    RtcpNackGenerator.Requested nowMs entry ∧ entry.seqNum = number

/-- A report as the walk through its blocks finds it: a receiver report of one block on one stream and, if any numbers are
requested, a NACK for them. -/
structure Walked (ssrc : UInt32) (nackGenerator : Option RtcpNackGenerator) (nowMs : UInt64) (items : List NackBlock)
    (report : DataPacket) : Prop where
  few : items.length ≤ RtcpNackGenerator.maxNacks
  length : report.length = 32 + if items = [] then 0 else 12 + 4 * items.length
  blocks : rtcpBlocks report.data report.length = 0 :: if items = [] then [] else [32]
  type : RtcpHeader.getPacketType report.data 0 = RtcpHeader.receiverPt
  count : RtcpHeader.getBlockCount report.data 0 = 1
  size : RtcpHeader.blockLength report.data 0 = 32
  stream : RtcpHeader.getSourceSSRC report.data 0 = ssrc
  decoded : items ≠ [] → RtcpNackGenerator.decodeNacks report.data 32 = some items
  requested : ∀ number, RtcpNackGenerator.Requests items number ↔ requests nackGenerator nowMs number

/-- The header of a receiver report. -/
theorem reportBytes_header {data : Memory} {ssrc : UInt32} {rrInfo : RrPacketInfo} {jitter delay : UInt32}
    (stored : ∀ address < 32, data address = (RtcpRrGenerator.reportBytes ssrc rrInfo jitter delay).getD address 0) :
    RtcpHeader.getPacketType data 0 = RtcpHeader.receiverPt ∧ RtcpHeader.getBlockCount data 0 = 1 ∧
      RtcpHeader.blockLength data 0 = 32 ∧ RtcpHeader.getSourceSSRC data 0 = ssrc := by
  refine ⟨stored 1 (by decide), ?_, ?_, ?_⟩
  · have counted : data 0 = 0x81 := stored 0 (by decide)
    rw [RtcpHeader.getBlockCount, counted]
    rfl
  · have high : data 2 = 0 := stored 2 (by decide)
    have low : data 3 = 7 := stored 3 (by decide)
    have words : RtcpHeader.getLength data 0 = 7 := by
      show UInt16.ofNat ((data 2).toNat * 256 + (data 3).toNat) = 7
      rw [high, low]
      rfl
    rw [RtcpHeader.blockLength, words]
    rfl
  · have bytes : data 8 = UInt8.ofNat (ssrc.toNat / 2 ^ 24) ∧ data 9 = UInt8.ofNat (ssrc.toNat / 2 ^ 16 % 256) ∧
        data 10 = UInt8.ofNat (ssrc.toNat / 2 ^ 8 % 256) ∧ data 11 = UInt8.ofNat (ssrc.toNat % 256) :=
      ⟨stored 8 (by decide), stored 9 (by decide), stored 10 (by decide), stored 11 (by decide)⟩
    show UInt32.ofNat ((((data 8).toNat * 256 + (data 9).toNat) * 256 + (data 10).toNat) * 256 + (data 11).toNat) = ssrc
    rw [bytes.1, bytes.2.1, bytes.2.2.1, bytes.2.2.2]
    exact ofNat_bytes32 ssrc

/-- The walk through a receiver report that has another block behind it, or none. -/
theorem rtcpBlocks_report {data : Memory} {len : ℕ} (type : RtcpHeader.getPacketType data 0 = RtcpHeader.receiverPt)
    (first : RtcpHeader.blockLength data 0 = 32) (second : 32 < len → 32 + RtcpHeader.blockLength data 32 = len)
    (room : 32 ≤ len) : rtcpBlocks data len = 0 :: if 32 < len then [32] else [] := by
  have rtcp : RtcpHeader.isRtcp data 0 = true := by
    unfold RtcpHeader.isRtcp
    rw [type]
    rfl
  obtain ⟨rounds, enough⟩ : ∃ rounds, (len : ℤ).toNat + 1 = rounds + 2 := ⟨len - 1, by omega⟩
  have behind : ((0 + RtcpHeader.blockLength data 0 : ℕ) : ℤ) = 32 := by rw [first]; rfl
  rw [rtcpBlocks, if_pos rtcp, enough, rtcpBlocksFrom, behind]
  by_cases more : 32 < len
  · have last := second more
    rw [if_pos (by omega), if_pos more, first, Nat.zero_add, rtcpBlocksFrom, if_neg (by omega)]
  · rw [if_neg (by omega), if_neg more]

/-- A receiver report is its 32 bytes. -/
theorem generateReceiverReport_bytes (generator : RtcpRrGenerator) (nowMs : UInt64) (jitter : UInt32)
    (interval : UInt16) :
    (generator.generateReceiverReport nowMs jitter interval).1.ssrc = generator.ssrc ∧
      ∃ rrInfo delay, (generator.generateReceiverReport nowMs jitter interval).2 =
        ⟨fun address => (RtcpRrGenerator.reportBytes generator.ssrc rrInfo jitter delay).getD address 0, 32,
          generator.type⟩ :=
  ⟨rfl, RtcpRrGenerator.countInterval generator.rrInfo, _, rfl⟩

section Report

variable {pair : RtcpGeneratorPair} {moment : Moment}

theorem generateReport_of_none (nack : pair.nackGenerator = none) :
    generateReport pair moment =
      ({ pair with
          rrGenerator :=
            (pair.rrGenerator.generateReceiverReport moment.reportMs moment.jitter moment.interval).1 },
        (pair.rrGenerator.generateReceiverReport moment.reportMs moment.jitter moment.interval).2) := by
  unfold generateReport
  rw [nack]
  rfl

theorem generateReport_of_some {nackGenerator after : RtcpNackGenerator} {rtcpPacket : DataPacket} {added : Bool}
    (nack : pair.nackGenerator = some nackGenerator)
    (report : nackGenerator.addNackPacketToRr moment.nackMs
      (pair.rrGenerator.generateReceiverReport moment.reportMs moment.jitter moment.interval).2 =
        some (after, rtcpPacket, added)) :
    generateReport pair moment =
      (⟨(pair.rrGenerator.generateReceiverReport moment.reportMs moment.jitter moment.interval).1, some after⟩,
        rtcpPacket) := by
  unfold generateReport
  rw [nack]
  simp only [Option.bind_some, report]

end Report

/-- A receiver report with nothing behind it. -/
theorem walked_plain (ssrc : UInt32) (rrInfo : RrPacketInfo) (jitter delay : UInt32) (type : PacketType)
    {nackGenerator : Option RtcpNackGenerator} {nowMs : UInt64}
    (none : ∀ number, RtcpNackGenerator.Requests [] number ↔ requests nackGenerator nowMs number) :
    Walked ssrc nackGenerator nowMs []
      ⟨fun address => (RtcpRrGenerator.reportBytes ssrc rrInfo jitter delay).getD address 0, 32, type⟩ := by
  obtain ⟨receiver, counted, first, source⟩ := @reportBytes_header _ ssrc rrInfo jitter delay fun address _ => rfl
  exact ⟨Nat.zero_le _, rfl, @rtcpBlocks_report _ 32 receiver first (fun more => absurd more (by decide)) le_rfl,
    receiver, counted, first, source, fun some => absurd rfl some, none⟩

/-- A receiver report with a NACK behind it. -/
theorem walked_nack (ssrc : UInt32) (rrInfo : RrPacketInfo) (jitter delay : UInt32) (type : PacketType)
    {nackGenerator : Option RtcpNackGenerator} {nowMs : UInt64} {items : List NackBlock} (some : items.length ≠ 0)
    (few : items.length ≤ RtcpNackGenerator.maxNacks)
    (asked : ∀ number, RtcpNackGenerator.Requests items number ↔ requests nackGenerator nowMs number) :
    let words := UInt16.ofNat (RtcpNackGenerator.nackCommonHeaderLengthRtcp + items.length)
    Walked ssrc nackGenerator nowMs items
      ⟨copy (fun address => (RtcpRrGenerator.reportBytes ssrc rrInfo jitter delay).getD address 0) 32
          (RtcpNackGenerator.nackPacketBytes ssrc words ++ items.flatMap RtcpNackGenerator.nackBlockBytes),
        32 + ((words.toNat + 1) * 4 : ℕ), type⟩ := by
  intro words
  have bound : items.length ≤ 150 := few
  have value : words.toNat = 2 + items.length := by
    rw [UInt16.toNat_ofNat']
    exact Nat.mod_eq_of_lt (show 2 + items.length < 2 ^ 16 by omega)
  have present : items ≠ [] := fun empty => some (List.length_eq_zero_iff.mpr empty)
  generalize appended : copy (fun address => (RtcpRrGenerator.reportBytes ssrc rrInfo jitter delay).getD address 0) 32
    (RtcpNackGenerator.nackPacketBytes ssrc words ++ items.flatMap RtcpNackGenerator.nackBlockBytes) = data
  obtain ⟨receiver, counted, first, source⟩ := @reportBytes_header data ssrc rrInfo jitter delay fun address below => by
    rw [← appended]
    exact copy_of_lt _ _ below
  have second : RtcpHeader.blockLength data 32 = 12 + 4 * items.length := by
    have field : RtcpHeader.getLength data 32 = words := by
      rw [RtcpHeader.getLength, ← appended]
      have back := read16_copy (fun address => (RtcpRrGenerator.reportBytes ssrc rrInfo jitter delay).getD address 0) 32
        [2 * 64 + 1, RtcpHeader.rtpFeedbackPt] words
        (encode32 ssrc ++ encode32 ssrc ++ items.flatMap RtcpNackGenerator.nackBlockBytes)
      simp only [RtcpNackGenerator.nackPacketBytes, List.append_assoc] at back ⊢
      exact back
    rw [RtcpHeader.blockLength, field, value]
    omega
  have total : (32 : ℤ) + ((words.toNat + 1) * 4 : ℕ) = (44 + 4 * items.length : ℕ) := by
    rw [value]
    push_cast
    omega
  refine ⟨few, ?_, ?_, receiver, counted, first, source, fun _ => ?_, asked⟩
  · rw [if_neg present, total]
    push_cast
    omega
  · simp only [total]
    rw [rtcpBlocks_report receiver first (fun _ => by rw [second]; omega) (by omega), if_pos (by omega),
      if_neg present]
  · rw [← appended]
    exact RtcpNackGenerator.decodeNacks_appended _ 32 ssrc few

/-- **A report is what its pair has to report.** -/
theorem generateReport_walked {ssrc : UInt32} {pair : RtcpGeneratorPair} (sound : PairSound ssrc pair)
    (moment : Moment) :
    PairSound ssrc (generateReport pair moment).1 ∧
      ∃ items, Walked ssrc pair.nackGenerator moment.nackMs items (generateReport pair moment).2 := by
  obtain ⟨stream, rrInfo, delay, bytes⟩ :=
    generateReceiverReport_bytes pair.rrGenerator moment.reportMs moment.jitter moment.interval
  rw [sound.rr] at stream bytes
  cases nack : pair.nackGenerator with
  | none =>
      rw [generateReport_of_none nack, bytes]
      refine ⟨⟨stream, fun generator present => sound.nack generator present⟩, [], ?_⟩
      refine walked_plain ssrc rrInfo moment.jitter delay _ fun number => ?_
      exact ⟨fun ⟨_, absent, _⟩ => absurd absent List.not_mem_nil,
        fun ⟨_, absent, _⟩ => absurd absent (Option.not_mem_none _)⟩
  | some generator =>
      have kept := sound.nack generator nack
      obtain ⟨items, packed, count, asks⟩ := RtcpNackGenerator.packNacks_spec moment.nackMs
        (generator.nackInfoList.length + 1) [] generator.nackInfoList 0 [] rfl kept.short (Nat.lt_succ_self _)
      rw [List.nil_append, List.nil_append, List.nil_append] at packed
      have later : RtcpNackGenerator.Sound ssrc
          { generator with nackInfoList := generator.nackInfoList.filterMap (RtcpNackGenerator.outcome moment.nackMs) } :=
        RtcpNackGenerator.Move.sound (.report moment.nackMs (mediaPacket 0) rfl) kept
      have asked : ∀ number, RtcpNackGenerator.Requests items number ↔ requests (some generator) moment.nackMs number := by
        intro number
        rw [asks number, RtcpNackGenerator.mem_requestedNumbers]
        exact ⟨fun ⟨entry, member, asked⟩ => ⟨generator, rfl, entry, member, asked⟩,
          fun ⟨_, same, entry, member, asked⟩ => by cases same; exact ⟨entry, member, asked⟩⟩
      have report := RtcpNackGenerator.addNackPacketToRr_eq generator moment.nackMs
        (pair.rrGenerator.generateReceiverReport moment.reportMs moment.jitter moment.interval).2 packed
      by_cases none : items.length = 0
      · have empty := List.length_eq_zero_iff.mp none
        rw [if_pos none] at report
        rw [generateReport_of_some nack report, bytes]
        rw [empty] at asked
        exact ⟨⟨stream, fun other present => by cases present; exact later⟩, [],
          walked_plain ssrc rrInfo moment.jitter delay _ asked⟩
      · rw [if_neg none] at report
        rw [kept.stream] at later report
        rw [generateReport_of_some nack report, bytes]
        exact ⟨⟨stream, fun other present => by cases present; exact later⟩, items,
          walked_nack ssrc rrInfo moment.jitter delay _ none (Nat.le_trans count kept.short) asked⟩

/-! ### The runs -/

/-- An RTP packet keeps the generators those of their SSRC, and what is written is what they then have to report. -/
theorem handleRtpPacket_walked {ssrc : UInt32} {pair : RtcpGeneratorPair} (sound : PairSound ssrc pair)
    (moment : Moment) (packet : DataPacket) :
    PairSound ssrc (handleRtpPacket pair moment packet).1 ∧
      ∀ report ∈ (handleRtpPacket pair moment packet).2,
        ∃ items, Walked ssrc (pair.nackGenerator.map fun generator => (generator.handleRtpPacket packet).1)
          moment.nackMs items report := by
  have stream : (pair.rrGenerator.handleRtpPacket moment.handledMs packet).1.ssrc = pair.rrGenerator.ssrc := by
    unfold RtcpRrGenerator.handleRtpPacket
    split
    · rfl
    · simp only
      split <;> rfl
  have after : PairSound ssrc ⟨(pair.rrGenerator.handleRtpPacket moment.handledMs packet).1,
      pair.nackGenerator.map fun generator => (generator.handleRtpPacket packet).1⟩ := by
    refine ⟨stream.trans sound.rr, fun next present => ?_⟩
    obtain ⟨generator, before, rfl⟩ := Option.map_eq_some_iff.mp present
    exact (RtcpNackGenerator.packet_move generator packet).sound (sound.nack generator before)
  unfold handleRtpPacket
  simp only [Option.map_map]
  split
  · obtain ⟨kept, walked⟩ := generateReport_walked after moment
    exact ⟨kept, fun report made => by cases made; exact walked⟩
  · exact ⟨after, nofun⟩

/-- The generators at an SSRC are those of the SSRC. -/
def MapSound (handler : RtcpFeedbackGenerationHandler) : Prop :=
  ∀ ssrc, ∀ pair ∈ handler.generatorsMap ssrc, PairSound ssrc pair

theorem createPair_sound (nacksEnabled : Bool) (type : PacketType) (ssrc : UInt32) :
    PairSound ssrc (createPair nacksEnabled type ssrc) := by
  refine ⟨rfl, fun generator present => ?_⟩
  unfold createPair at present
  split at present
  · cases present
    exact ⟨rfl, Nat.zero_le _, fun _ member => absurd member List.not_mem_nil, fun _ => rfl⟩
  · cases present

theorem store_mapSound {handler : RtcpFeedbackGenerationHandler} (sound : handler.MapSound) {ssrc : UInt32}
    {pair : RtcpGeneratorPair} (kept : PairSound ssrc pair) : (handler.store ssrc pair).MapSound := by
  intro other found present
  simp only [store] at present
  by_cases same : other = ssrc
  · rw [same, Function.update_self] at present
    cases present
    exact same ▸ kept
  · rw [Function.update_of_ne same] at present
    exact sound other found present

theorem step_mapSound {handler : RtcpFeedbackGenerationHandler} (sound : handler.MapSound) (event : Event) :
    (step handler event).1.MapSound := by
  cases event with
  | notifyUpdate videoSourceSSRCList audioSourceSSRC =>
      intro ssrc pair present
      simp only [step, notifyUpdate] at present
      split at present
      · exact sound ssrc pair present
      dsimp only at present
      split at present
      · exact sound ssrc pair present
      split at present
      · cases present
        exact createPair_sound _ _ _
      split at present
      · cases present
        exact createPair_sound _ _ _
      · exact sound ssrc pair present
  | read moment packet =>
      simp only [step, read_eq]
      split
      · cases known : (ssrcOf packet).bind fun ssrc => (handler.generatorsMap ssrc).map (ssrc, ·) with
        | none => exact sound
        | some found =>
            obtain ⟨ssrc, -, present⟩ := Option.bind_eq_some_iff.mp known
            obtain ⟨pair, here, rfl⟩ := Option.map_eq_some_iff.mp present
            have before := sound ssrc pair here
            refine store_mapSound sound ?_
            unfold onPacket
            split
            · refine ⟨?_, before.nack⟩
              unfold RtcpRrGenerator.handleSr
              split <;> exact before.rr
            · exact (handleRtpPacket_walked before moment packet).1
      · exact sound

theorem create_mapSound (nacksEnabled : Bool) : (create nacksEnabled).MapSound := fun _ _ absent => absurd absent nofun

/-- **Every report is walked as it was made.** Whatever a handler was given, what it writes when a packet comes is a
receiver report on the packet's stream, and behind it, if there is anything to request, a NACK: the blocks and the
items that a walk finds there are these, the numbers they request are those that are due, and at most 150 items make
it 644 bytes at most. -/
theorem reports_walked (nacksEnabled : Bool) (events : List Event) (moment : Moment) (packet : DataPacket) :
    let handler := Machine.run step (create nacksEnabled) events
    ∀ report ∈ (handler.read moment packet).2,
      ∃ pair items, handler.generatorsMap (RtpHeader.getSSRC packet.data) = some pair ∧
        Walked (RtpHeader.getSSRC packet.data)
          (pair.nackGenerator.map fun generator => (generator.handleRtpPacket packet).1) moment.nackMs items report := by
  intro handler report made
  have sound : handler.MapSound := @Machine.run_invariant _ _ _ step MapSound (fun _ => True)
    (fun _ event _ sound => step_mapSound sound event) _ (create_mapSound nacksEnabled) events fun _ _ => trivial
  unfold read at made
  split at made
  · cases made
  split at made
  · simp only at made
    split at made <;> cases made
  split at made
  · simp only at made
    split at made
    · cases made
    · rename_i pair present
      obtain ⟨items, walked⟩ := (handleRtpPacket_walked (sound _ pair present) moment packet).2 report made
      exact ⟨pair, items, present, walked⟩
  · cases made

/-- A stream of SSRC 7 has begun with packet 1. -/
def begun : List Event := [.notifyUpdate [7] 0, .read ⟨0, 0, 0, 0, 0, 0⟩ (mediaPacket 1)]

/-- When packet 4 comes, what is missing is reported. -/
theorem reports_walked_gap :
    let handler := Machine.run step (create true) begun
    ∃ report ∈ (handler.read ⟨0, 5, 5, 5, 0, 1000⟩ (mediaPacket 4)).2,
      ∃ pair items, handler.generatorsMap (RtpHeader.getSSRC (mediaPacket 4).data) = some pair ∧
        Walked (RtpHeader.getSSRC (mediaPacket 4).data)
          (pair.nackGenerator.map fun generator => (generator.handleRtpPacket (mediaPacket 4)).1) 5 items report := by
  intro handler
  obtain ⟨report, made⟩ := Option.isSome_iff_exists.mp
    (show (handler.read ⟨0, 5, 5, 5, 0, 1000⟩ (mediaPacket 4)).2.isSome = true by decide +kernel)
  exact ⟨report, made, reports_walked true begun ⟨0, 5, 5, 5, 0, 1000⟩ (mediaPacket 4) report made⟩

end RtcpFeedbackGenerationHandler

end Erizo
