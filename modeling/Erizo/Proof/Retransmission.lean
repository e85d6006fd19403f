/-
**When a NACK is withheld.**

`nacked packet` lists what a packet requests, with the source of each number. `read` goes through the
list and comes to a verdict on each (`judge`): the slot is empty, the bucket refuses, the slot has
another number, or a packet is sent again. A packet is withheld when it has a NACK block and none of
the verdicts is that the packet was missed (`read_eq`). The refused ones are not missed, which is what
`swallows_iff` is about.
-/

import Erizo.Library.Machine
import Erizo.Model.RtpRetransmissionHandler
import Erizo.Proof.RtcpWalk

namespace Erizo

namespace RtpRetransmissionHandler

open Library Library.Bytes RtpUtils RtcpHeader

/-! ### What a packet requests -/

/-- The numbers a block requests, with its source. -/
def nackedIn (data : Memory) (chead : ℕ) : List (UInt32 × UInt16) :=
  (nackItems data chead).flatMap fun header =>
    (nackNumbers (getNackPid data header) (getNackBlp data header)).map fun number => (getSourceSSRC data chead, number)

/-- The numbers a packet requests. -/
def nacked (packet : DataPacket) : List (UInt32 × UInt16) :=
  (rtcpBlocks packet.data packet.length).flatMap (nackedIn packet.data)

/-- Whether one of the blocks is a NACK. -/
def containsNack (packet : DataPacket) : Bool :=
  (rtcpBlocks packet.data packet.length).any fun chead => getPacketType packet.data chead = rtpFeedbackPt

theorem containsNack_of_nacked {packet : DataPacket} {entry : UInt32 × UInt16} (member : entry ∈ nacked packet) :
    containsNack packet = true := by
  obtain ⟨chead, block, inside⟩ := List.mem_flatMap.mp member
  refine List.any_eq_true.mpr ⟨chead, block, decide_eq_true ?_⟩
  by_contra other
  rw [nackedIn, nackItems, if_neg other] at inside
  exact absurd inside List.not_mem_nil

/-! ### Verdicts -/

/-- What becomes of a nacked number. -/
inductive Verdict
  | missing
  | refused
  | stale
  | resent (recovered : DataPacket)

/-- The verdicts that let the NACK pass. -/
def Verdict.missed : Verdict → Bool
  | .missing => true
  | .stale => true
  | _ => false

/-- The packets a verdict sends again. -/
def Verdict.sent : Verdict → List DataPacket
  | .resent recovered => [recovered]
  | _ => []

section Judge

variable (handler : RtpRetransmissionHandler) (clock : ℕ → ℤ)

/-- The verdict on a nacked number, with the bucket and the clock moved on. -/
def judge (state : TokenBucket × ℕ) (entry : UInt32 × UInt16) : (TokenBucket × ℕ) × ((UInt32 × UInt16) × Verdict) :=
  match handler.findPacket entry.1 entry.2 with
  | none => (state, entry, .missing)
  | some recovered =>
      let (bucket, granted) := state.1.consume (toMicroseconds (clock state.2)) (UInt64.ofInt recovered.length)
      ((bucket, state.2 + 1), entry,
        if !granted then .refused
        else if RtpHeader.getSeqNumber recovered.data = entry.2 then .resent recovered
        else .stale)

/-- The verdicts on a list of nacked numbers, the clock having been read once. -/
def verdicts (entries : List (UInt32 × UInt16)) : List ((UInt32 × UInt16) × Verdict) :=
  Machine.outputs (judge handler clock) (handler.bucket, 1) entries

/-- The bucket when the numbers have been judged. -/
def bucketAfter (entries : List (UInt32 × UInt16)) : TokenBucket :=
  (Machine.run (judge handler clock) (handler.bucket, 1) entries).1

/-- The kind of packets a source is nacked for. -/
def mediaOf (sourceSSRC : UInt32) : Option PacketType :=
  if handler.stream.videoSinkSSRC = sourceSSRC then some .video
  else if handler.stream.audioSinkSSRC = sourceSSRC then some .audio
  else none

/-- What is found is of the kind the source is nacked for. -/
theorem findPacket_type {handler : RtpRetransmissionHandler} {sourceSSRC : UInt32} {seqNum : UInt16} {found : DataPacket}
    (here : handler.findPacket sourceSSRC seqNum = some found) : handler.mediaOf sourceSSRC = some found.type := by
  unfold findPacket at here
  unfold mediaOf
  split_ifs at here ⊢ with video audio
  · rw [handler.packetBuffer.video_type _ _ here]
  · rw [handler.packetBuffer.audio_type _ _ here]

/-- What is sent again has the number and the kind that were asked for. -/
theorem judge_resent {handler : RtpRetransmissionHandler} {clock : ℕ → ℤ} (state : TokenBucket × ℕ)
    (entry : UInt32 × UInt16) {recovered : DataPacket}
    (resent : (judge handler clock state entry).2.2 = .resent recovered) :
    RtpHeader.getSeqNumber recovered.data = entry.2 ∧ handler.mediaOf entry.1 = some recovered.type := by
  unfold judge at resent
  cases found : handler.findPacket entry.1 entry.2 with
  | none =>
      rw [found] at resent
      exact (nomatch resent)
  | some packet =>
      rw [found] at resent
      simp only at resent
      split_ifs at resent with granted number
      cases resent
      exact ⟨number, findPacket_type found⟩

theorem judge_fst (state : TokenBucket × ℕ) (entry : UInt32 × UInt16) : (judge handler clock state entry).2.1 = entry := by
  unfold judge
  cases handler.findPacket entry.1 entry.2 <;> rfl

/-- One number, as `read` goes through them. -/
theorem recover_eq (recovery : Recovery) (entry : UInt32 × UInt16) :
    recover handler clock entry.1 recovery entry.2 = { recovery with
      bucket := (judge handler clock (recovery.bucket, recovery.readings) entry).1.1
      readings := (judge handler clock (recovery.bucket, recovery.readings) entry).1.2
      isFullyRecovered := recovery.isFullyRecovered &&
        !(judge handler clock (recovery.bucket, recovery.readings) entry).2.2.missed
      written := recovery.written ++ (judge handler clock (recovery.bucket, recovery.readings) entry).2.2.sent } := by
  unfold recover judge
  cases handler.findPacket entry.1 entry.2 with
  | none => simp [Verdict.missed, Verdict.sent]
  | some recovered =>
      simp only
      split_ifs <;> simp [Verdict.missed, Verdict.sent]

/-- What `read` does for a list of nacked numbers. -/
def recoverAll (entries : List (UInt32 × UInt16)) (recovery : Recovery) : Recovery :=
  entries.foldl (fun recovery entry => recover handler clock entry.1 recovery entry.2) recovery

/-- **All numbers**, as `read` goes through them. -/
theorem recoverAll_eq (entries : List (UInt32 × UInt16)) (recovery : Recovery) :
    recoverAll handler clock entries recovery = { recovery with
      bucket := (Machine.run (judge handler clock) (recovery.bucket, recovery.readings) entries).1
      readings := (Machine.run (judge handler clock) (recovery.bucket, recovery.readings) entries).2
      isFullyRecovered := recovery.isFullyRecovered &&
        (Machine.outputs (judge handler clock) (recovery.bucket, recovery.readings) entries).all
          fun judged => !judged.2.missed
      written := recovery.written ++
        (Machine.outputs (judge handler clock) (recovery.bucket, recovery.readings) entries).flatMap fun judged =>
          judged.2.sent } := by
  induction entries generalizing recovery with
  | nil => simp [recoverAll, Machine.outputs]
  | cons entry entries ih =>
      rw [recoverAll, List.foldl_cons, ← recoverAll, ih, recover_eq]
      simp only [Machine.run_cons, Machine.outputs, List.all_cons, List.flatMap_cons, Bool.and_assoc, List.append_assoc]

theorem data_recoverAll (entries : List (UInt32 × UInt16)) (recovery : Recovery) :
    (recoverAll handler clock entries recovery).data = recovery.data := by
  rw [recoverAll_eq]

theorem recoverAll_append (first second : List (UInt32 × UInt16)) (recovery : Recovery) :
    recoverAll handler clock (first ++ second) recovery =
      recoverAll handler clock second (recoverAll handler clock first recovery) := List.foldl_append

/-- The loop over the 18 numbers from the PID on goes through the numbers of the item. -/
theorem foldl_steps (sourceSSRC : UInt32) (pid plb : UInt16) (recovery : Recovery) :
    (List.range 18).foldl (fun recovery steps =>
        if packetNacked plb steps then recover handler clock sourceSSRC recovery (pid + UInt16.ofNat steps) else recovery)
      recovery = (nackNumbers pid plb).foldl (recover handler clock sourceSSRC) recovery := by
  have numbers : ((List.range 18).filter (packetNacked plb)).map (fun steps => pid + UInt16.ofNat steps) =
      nackNumbers pid plb := by
    have beyond : plb.toNat.testBit 16 = false := Nat.testBit_lt_two_pow plb.toNat_lt
    have later : (packetNacked plb ∘ Nat.succ) = fun bit => plb.toNat.testBit bit := by
      funext bit
      simp [packetNacked]
    rw [List.range_succ_eq_map, List.filter_cons, if_pos (by rfl), List.filter_map, later, List.range_succ,
      List.filter_append, List.filter_singleton, beyond, List.map_cons, List.map_map, nackNumbers]
    refine congrArg₂ List.cons (add_zero pid) ?_
    rw [cond_false, List.append_nil]
    refine List.map_congr_left fun bit _ => ?_
    rw [Function.comp, Nat.succ_eq_add_one, UInt16.ofNat_add, add_comm (UInt16.ofNat bit), ← add_assoc]
    rfl
  rw [← numbers, List.foldl_map, List.foldl_filter]

/-- The items of a block, one after the other. -/
theorem foldlM_items (sourceSSRC : UInt32) (items : List ℕ) (recovery : Recovery) :
    items.foldlM (visitItem Recovery.data (onNack handler clock sourceSSRC)) recovery =
      some (recoverAll handler clock (items.flatMap fun header =>
        (nackNumbers (getNackPid recovery.data header) (getNackBlp recovery.data header)).map fun number =>
          (sourceSSRC, number)) recovery) := by
  induction items generalizing recovery with
  | nil => rfl
  | cons header items ih =>
      have item : visitItem Recovery.data (onNack handler clock sourceSSRC) recovery header =
          some (recoverAll handler clock ((nackNumbers (getNackPid recovery.data header)
            (getNackBlp recovery.data header)).map fun number => (sourceSSRC, number)) recovery) := by
        rw [visitItem, onNack, foldl_steps, recoverAll, List.foldl_map]
      rw [List.foldlM_cons, item]
      refine (ih _).trans (congrArg some ?_)
      rw [List.flatMap_cons, recoverAll_append, data_recoverAll]

/-- A block. -/
theorem onBlock_eq (chead : ℕ) (recovery : Recovery) :
    onBlock handler clock chead recovery = some { recoverAll handler clock (nackedIn recovery.data chead) recovery with
      containsNack := recovery.containsNack || decide (getPacketType recovery.data chead = rtpFeedbackPt) } := by
  unfold onBlock
  by_cases feedback : getPacketType recovery.data chead = rtpFeedbackPt
  · rw [if_pos feedback, forEachNack_eq, foldlM_items, decide_eq_true feedback, Bool.or_true, recoverAll_eq, recoverAll_eq]
    rfl
  · have none : nackedIn recovery.data chead = [] := by
      rw [nackedIn, nackItems, if_neg feedback]
      rfl
    rw [if_neg feedback, none, decide_eq_false feedback, Bool.or_false]
    rfl

/-- The blocks, one after the other. -/
theorem foldlM_blocks (blocks : List ℕ) (recovery : Recovery) :
    blocks.foldlM (fun recovery chead => onBlock handler clock chead recovery) recovery =
      some { recoverAll handler clock (blocks.flatMap (nackedIn recovery.data)) recovery with
        containsNack := recovery.containsNack ||
          blocks.any fun chead => getPacketType recovery.data chead = rtpFeedbackPt } := by
  induction blocks generalizing recovery with
  | nil => simp [recoverAll]
  | cons chead blocks ih =>
      rw [List.foldlM_cons, onBlock_eq]
      refine (ih _).trans (congrArg some ?_)
      simp only [List.flatMap_cons, recoverAll_append, data_recoverAll, List.any_cons, ← Bool.or_assoc]
      rw [recoverAll_eq handler clock (blocks.flatMap _), recoverAll_eq handler clock (blocks.flatMap _)]

/-- The walk over a packet. -/
theorem forEachRtcpBlock_onBlock (packet : DataPacket) :
    ∃ recovery, forEachRtcpBlock Recovery.data packet.length (onBlock handler clock)
        ⟨packet.data, handler.bucket, 1, false, true, []⟩ = some recovery ∧
      recovery.containsNack = containsNack packet ∧
      recovery.isFullyRecovered = ((verdicts handler clock (nacked packet)).all fun judged => !judged.2.missed) ∧
      recovery.written = ((verdicts handler clock (nacked packet)).flatMap fun judged => judged.2.sent) ∧
      recovery.bucket = bucketAfter handler clock (nacked packet) := by
  have inside : Local Recovery.data (onBlock handler clock) := by
    intro chead recovery next stepped address _
    rw [onBlock_eq] at stepped
    rw [← Option.some_injective _ stepped]
    exact congrFun (data_recoverAll handler clock _ recovery) address
  have walked := foldlM_blocks handler clock (rtcpBlocks packet.data packet.length)
    ⟨packet.data, handler.bucket, 1, false, true, []⟩
  rw [← forEachRtcpBlock_eq inside] at walked
  refine ⟨_, walked, ?_, ?_, ?_, ?_⟩
  · exact Bool.false_or _
  · rw [recoverAll_eq]
    exact Bool.true_and _
  · rw [recoverAll_eq]
    exact List.nil_append _
  · rw [recoverAll_eq]
    rfl

end Judge

/-- **What `read` does**: it takes from the bucket what the verdicts cost, sends their packets, and withholds the received
one when it has a NACK block and nothing was missed. -/
theorem read_eq (handler : RtpRetransmissionHandler) (clock : ℕ → ℤ) (rate : UInt64) (packet : DataPacket)
    (ready : handler.enabled = true ∧ handler.initialized = true) :
    handler.read clock rate packet = some ({ handler.calculateRtxBitrate (clock 0) rate with
        bucket := bucketAfter (handler.calculateRtxBitrate (clock 0) rate) clock (nacked packet) },
      (verdicts (handler.calculateRtxBitrate (clock 0) rate) clock (nacked packet)).flatMap (fun judged => judged.2.sent),
      if containsNack packet = true ∧
        ∀ judged ∈ verdicts (handler.calculateRtxBitrate (clock 0) rate) clock (nacked packet),
        judged.2.missed = false then none
      else some packet) := by
  obtain ⟨recovery, walked, contains, recovered, written, bucket⟩ :=
    forEachRtcpBlock_onBlock (handler.calculateRtxBitrate (clock 0) rate) clock packet
  rw [read, ready.1, ready.2, if_neg (by decide)]
  simp only [walked, Option.bind_eq_bind, Option.bind_some, written, bucket]
  have same : (!recovery.containsNack || !recovery.isFullyRecovered) = true ↔
      ¬ (containsNack packet = true ∧
        ∀ judged ∈ verdicts (handler.calculateRtxBitrate (clock 0) rate) clock (nacked packet),
        judged.2.missed = false) := by
    rw [contains, recovered]
    cases containsNack packet <;> simp
  refine congrArg some (congrArg (Prod.mk _) (congrArg (Prod.mk _) ?_))
  by_cases pass : (!recovery.containsNack || !recovery.isFullyRecovered) = true
  · rw [if_pos pass, if_neg (same.mp pass)]
  · rw [if_neg pass, if_pos (not_not.mp (same.not.mp pass))]

/-- A packet answers a nacked number: it has that number and is of the kind that is nacked. -/
def Answers (handler : RtpRetransmissionHandler) (sent : DataPacket) (entry : UInt32 × UInt16) : Prop :=
  RtpHeader.getSeqNumber sent.data = entry.2 ∧ handler.mediaOf entry.1 = some sent.type

/-- A NACK is withheld only when each nacked number was answered, and only nacked numbers are. -/
structure SwallowsServed (handler : RtpRetransmissionHandler) (packet : DataPacket) (written : List DataPacket)
    (passed : Option DataPacket) : Prop where
  withheld : passed = none → containsNack packet = true ∧ ∀ entry ∈ nacked packet, ∃ sent ∈ written,
    Answers handler sent entry
  nacked : ∀ sent ∈ written, ∃ entry ∈ nacked packet, Answers handler sent entry

/-- Of the verdicts on a packet one is that a packet was missed, or every refused number is sent again for
another mention of it. -/
def Excused (handler : RtpRetransmissionHandler) (judged : List ((UInt32 × UInt16) × Verdict)) : Prop :=
  (∃ one ∈ judged, one.2.missed = true) ∨
    ∀ one ∈ judged, one.2 = .refused →
      ∃ other ∈ judged, (∃ recovered, other.2 = .resent recovered) ∧ other.1.2 = one.1.2 ∧
        handler.mediaOf other.1.1 = handler.mediaOf one.1.1

section Verdicts

variable {handler : RtpRetransmissionHandler} {clock : ℕ → ℤ} {entries : List (UInt32 × UInt16)}

/-- A verdict that sends a packet sends one that answers. -/
theorem resent_answers {judged : (UInt32 × UInt16) × Verdict} (member : judged ∈ verdicts handler clock entries)
    {recovered : DataPacket} (resent : judged.2 = .resent recovered) : Answers handler recovered judged.1 := by
  have each : ∀ judged ∈ verdicts handler clock entries, ∀ recovered, judged.2 = .resent recovered →
      Answers handler recovered judged.1 := by
    refine Machine.forall_outputs (judge handler clock) (fun state entry recovered resent => ?_) _ entries
    rw [judge_fst]
    exact judge_resent state entry resent
  exact each judged member recovered resent

theorem map_verdicts (handler : RtpRetransmissionHandler) (clock : ℕ → ℤ) (entries : List (UInt32 × UInt16)) :
    (verdicts handler clock entries).map Prod.fst = entries :=
  Machine.map_outputs (judge handler clock) (judge_fst handler clock) _ entries

theorem mem_sent {sent : DataPacket} {judged : List ((UInt32 × UInt16) × Verdict)} :
    sent ∈ judged.flatMap (fun one => one.2.sent) ↔ ∃ one ∈ judged, one.2 = .resent sent := by
  rw [List.mem_flatMap]
  refine exists_congr fun one => and_congr_right fun _ => ?_
  cases one.2 <;> simp [Verdict.sent, eq_comm]

/-- Everything that is sent again was nacked. -/
theorem sent_nacked {sent : DataPacket} (member : sent ∈ (verdicts handler clock entries).flatMap fun one => one.2.sent) :
    ∃ entry ∈ entries, Answers handler sent entry := by
  obtain ⟨one, here, resent⟩ := mem_sent.mp member
  refine ⟨one.1, ?_, resent_answers here resent⟩
  rw [← map_verdicts handler clock entries]
  exact List.mem_map_of_mem here

/-- When nothing is missed, every number is answered just when the refused ones are excused. -/
theorem answered_iff (hit : ∀ one ∈ verdicts handler clock entries, one.2.missed = false) :
    (∀ entry ∈ entries, ∃ sent ∈ (verdicts handler clock entries).flatMap (fun one => one.2.sent),
      Answers handler sent entry) ↔
      Excused handler (verdicts handler clock entries) := by
  constructor
  · intro answered
    refine Or.inr fun one here _ => ?_
    have listed : one.1 ∈ entries := by
      rw [← map_verdicts handler clock entries]
      exact List.mem_map_of_mem here
    obtain ⟨sent, member, number, media⟩ := answered one.1 listed
    obtain ⟨other, there, resent⟩ := mem_sent.mp member
    obtain ⟨otherNumber, otherMedia⟩ := resent_answers there resent
    exact ⟨other, there, ⟨sent, resent⟩, otherNumber.symm.trans number, otherMedia.trans media.symm⟩
  · intro excused entry listed
    have judged : entry ∈ (verdicts handler clock entries).map Prod.fst := by
      rwa [map_verdicts handler clock entries]
    obtain ⟨one, here, rfl⟩ := List.mem_map.mp judged
    rcases excused with ⟨other, there, missed⟩ | refused
    · rw [hit other there] at missed
      exact (nomatch missed)
    · cases verdict : one.2 with
      | missing => exact absurd (hit one here) (by rw [verdict]; decide)
      | stale => exact absurd (hit one here) (by rw [verdict]; decide)
      | resent recovered => exact ⟨recovered, mem_sent.mpr ⟨one, here, verdict⟩, resent_answers here verdict⟩
      | refused =>
          obtain ⟨other, there, ⟨recovered, resent⟩, number, media⟩ := refused one here verdict
          obtain ⟨otherNumber, otherMedia⟩ := resent_answers there resent
          exact ⟨recovered, mem_sent.mpr ⟨other, there, resent⟩, otherNumber.trans number, media.symm.trans otherMedia⟩

end Verdicts

/-- The kinds do not depend on the rate. -/
theorem mediaOf_calculateRtxBitrate (handler : RtpRetransmissionHandler) (now : ℤ) (rate : UInt64) :
    (handler.calculateRtxBitrate now rate).mediaOf = handler.mediaOf := by
  unfold calculateRtxBitrate
  split_ifs <;> rfl

/-- **When a NACK is swallowed only if it was served.** For every buffer, bucket, clock and received
packet: what `read` withholds is fully served if and only if the handler is enabled and ready and the
verdicts are excused, or it is not and the packet has a NACK block that requests nothing. -/
theorem swallows_iff (handler : RtpRetransmissionHandler) (clock : ℕ → ℤ) (rate : UInt64) (packet : DataPacket) :
    ∃ after written passed, handler.read clock rate packet = some (after, written, passed) ∧
      (SwallowsServed handler packet written passed ↔
        ((handler.enabled = true ∧ handler.initialized = true) ∧
          Excused handler (verdicts (handler.calculateRtxBitrate (clock 0) rate) clock (nacked packet))) ∨
        (¬ (handler.enabled = true ∧ handler.initialized = true) ∧ containsNack packet = true ∧ nacked packet = [])) := by
  by_cases ready : handler.enabled = true ∧ handler.initialized = true
  · refine ⟨_, _, _, read_eq handler clock rate packet ready, ?_⟩
    have answers : Answers (handler.calculateRtxBitrate (clock 0) rate) = Answers handler := by
      funext sent entry
      rw [Answers, Answers, mediaOf_calculateRtxBitrate]
    have excuses : Excused (handler.calculateRtxBitrate (clock 0) rate) = Excused handler := by
      funext judged
      rw [Excused, Excused, mediaOf_calculateRtxBitrate]
    rw [← excuses]
    generalize handler.calculateRtxBitrate (clock 0) rate = current at answers
    have right : ∀ sent ∈ (verdicts current clock (nacked packet)).flatMap (fun judged => judged.2.sent),
        ∃ entry ∈ nacked packet, Answers handler sent entry := fun sent member => by
      rw [← answers]
      exact sent_nacked member
    by_cases hit : ∀ judged ∈ verdicts current clock (nacked packet), judged.2.missed = false
    · have served := @answered_iff current clock (nacked packet) hit
      rw [answers] at served
      by_cases contains : containsNack packet = true
      · rw [if_pos ⟨contains, hit⟩]
        refine ⟨fun swallows => Or.inl ⟨ready, served.mp (swallows.withheld rfl).2⟩, fun excused =>
          ⟨fun _ => ⟨contains, ?_⟩, right⟩⟩
        rcases excused with excused | other
        · exact served.mpr excused.2
        · exact absurd ready other.1
      · rw [if_neg fun both => contains both.1]
        refine ⟨fun _ => Or.inl ⟨ready, served.mp fun entry member => ?_⟩, fun _ => ⟨fun none => (nomatch none), right⟩⟩
        exact absurd (containsNack_of_nacked member) contains
    · rw [if_neg fun both => hit both.2]
      have missed : Excused current (verdicts current clock (nacked packet)) := by
        push Not at hit
        obtain ⟨one, here, missed⟩ := hit
        exact Or.inl ⟨one, here, (Bool.not_eq_false _).mp missed⟩
      exact ⟨fun _ => Or.inl ⟨ready, missed⟩, fun _ => ⟨fun none => (nomatch none), right⟩⟩
  · have off : (!handler.enabled || !handler.initialized) = true := by
      rw [← Bool.not_and, Bool.not_eq_true', Bool.eq_false_iff]
      exact fun both => ready (Bool.and_eq_true_iff.mp both)
    refine ⟨handler, [], none, if_pos off, ?_⟩
    constructor
    · intro swallows
      obtain ⟨contains, served⟩ := swallows.withheld rfl
      refine Or.inr ⟨ready, contains, List.eq_nil_iff_forall_not_mem.mpr fun entry member => ?_⟩
      obtain ⟨sent, none, _⟩ := served entry member
      exact absurd none List.not_mem_nil
    · rintro (⟨on, _⟩ | ⟨_, contains, nothing⟩)
      · exact absurd on ready
      · refine ⟨fun _ => ⟨contains, fun entry member => ?_⟩, fun sent member => absurd member List.not_mem_nil⟩
        rw [nothing] at member
        exact absurd member List.not_mem_nil

/-- A bucket of 26000 bytes at 30 bytes a millisecond, from which 20 packets of 1300 bytes were taken at ten
seconds. -/
def exhausted : TokenBucket :=
  (List.range 20).foldl (fun bucket _ => (bucket.consume 10000000 1300).1) (TokenBucket.init 30000 burstSize)

/-- A handler that has sent packet 10 and has nothing left in its bucket. -/
def exhaustedHandler : RtpRetransmissionHandler where
  initialized := true
  enabled := true
  stream := ⟨0, 8, [7], 8, 7, 1000000, false, false, 0, 0⟩
  packetBuffer := PacketBufferService.init.insertPacket (mediaPacket 10)
  bucket := exhausted
  lastBitrateTime := 10000000000

/-- **A NACK can be swallowed unserved**: packet 10 is nacked at ten seconds, the bucket refuses it, nothing
is sent again and the NACK is withheld. -/
theorem swallows_refused :
    ¬ ∀ (handler : RtpRetransmissionHandler) (clock : ℕ → ℤ) (rate : UInt64) (packet after written passed),
    handler.read clock rate packet = some (after, written, passed) → SwallowsServed handler packet written passed := by
  intro always
  have ready : exhaustedHandler.enabled = true ∧ exhaustedHandler.initialized = true := ⟨rfl, rfl⟩
  have result := read_eq exhaustedHandler (fun _ => 10000000000) 30000 (nackPacket 10 0) ready
  have requested : nacked (nackPacket 10 0) = [(7, 10)] := by decide +kernel
  have contains : containsNack (nackPacket 10 0) = true := by decide +kernel
  have kept : exhaustedHandler.calculateRtxBitrate 10000000000 30000 = exhaustedHandler := if_neg (by decide)
  have found : exhaustedHandler.findPacket 7 10 = some (mediaPacket 10) := by
    have number : RtpHeader.getSeqNumber (mediaPacket 10).data = 10 := by decide +kernel
    simp [findPacket, exhaustedHandler, PacketBufferService.getVideoPacket, PacketBufferService.insertPacket, number,
      show (mediaPacket 10).type = .video from rfl]
  have empty : exhausted.consume 10000000 13 = (exhausted, false) := by decide +kernel
  have judged : verdicts exhaustedHandler (fun _ => 10000000000) [(7, 10)] = [((7, 10), .refused)] := by
    have now : toMicroseconds 10000000000 = 10000000 := by decide
    have size : UInt64.ofInt (mediaPacket 10).length = 13 := by decide +kernel
    have bucket : exhaustedHandler.bucket = exhausted := by rw [exhaustedHandler]
    simp [verdicts, Machine.outputs, judge, found, now, size, bucket, empty]
  rw [requested, contains, kept, judged] at result
  obtain ⟨sent, member, _⟩ :=
    ((always exhaustedHandler _ _ _ _ _ _ result).withheld (if_pos (by simp [Verdict.missed]))).2
      (7, 10) (by simp [requested])
  simp [Verdict.sent] at member

end RtpRetransmissionHandler

end Erizo
