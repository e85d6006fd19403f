/-
**What is sent again was passed on before.**

The buffer is all the handler knows of the past. A slot has the last media packet of its kind that was passed on with a
number of the slot (`remembers_run`), whatever happened in between.

* `nack_answered`: in every run, a NACK is judged number by number against that packet and against what is left in the
  bucket. It is sent again if the bucket grants its bytes and it has the number itself.
-/

import Erizo.Library.Overwrite
import Erizo.Proof.Retransmission

namespace Erizo

open Library Library.Bytes

namespace RtpRetransmissionHandler

open PacketBufferService (getIndexInBuffer)

/-! ### What a slot has -/

/-- A packet, if it is a media packet of a kind with a number of a slot. -/
def heldAt (kind : PacketType) (slot : Fin 256) (packet : DataPacket) : Option DataPacket :=
  if packet.type = kind ∧ RtcpHeader.isRtcp packet.data 0 = false ∧
    getIndexInBuffer (RtpHeader.getSeqNumber packet.data) = slot
  then some packet else none

/-- The last media packet of a kind with a number that has the same slot. -/
def lastPassed (passed : List DataPacket) (kind : PacketType) (seqNum : UInt16) : Option DataPacket :=
  Overwrite.lastOf (heldAt kind (getIndexInBuffer seqNum)) passed

/-- Every slot has the last packet that belongs there. -/
structure Remembers (buffer : PacketBufferService) (passed : List DataPacket) : Prop where
  video : ∀ slot, buffer.video slot = Overwrite.lastOf (heldAt .video slot) passed
  audio : ∀ slot, buffer.audio slot = Overwrite.lastOf (heldAt .audio slot) passed

theorem remembers_init : Remembers PacketBufferService.init [] := ⟨fun _ => rfl, fun _ => rfl⟩

/-- A slot, when a packet is put in the slot that is its own. -/
theorem update_eq (slots : Fin 256 → Option DataPacket) (packet : DataPacket) (own slot : Fin 256) :
    Function.update slots own (some packet) slot = (if own = slot then some packet else none).or (slots slot) := by
  by_cases here : own = slot
  · rw [if_pos here, here, Function.update_self, Option.some_or]
  · rw [if_neg here, Function.update_of_ne (Ne.symm here), Option.none_or]

/-- What is passed on and not media changes no slot. -/
theorem heldAt_of_isRtcp {packet : DataPacket} (control : RtcpHeader.isRtcp packet.data 0 = true) (kind : PacketType)
    (slot : Fin 256) : heldAt kind slot packet = none := by
  refine if_neg fun held => ?_
  rw [control] at held
  exact (nomatch held.2.1)

section Insert

variable {buffer : PacketBufferService} {packet : DataPacket} (media : RtcpHeader.isRtcp packet.data 0 = false)
include media

theorem insertPacket_video (slot : Fin 256) :
    (buffer.insertPacket packet).video slot = (heldAt .video slot packet).or (buffer.video slot) := by
  unfold PacketBufferService.insertPacket heldAt
  by_cases video : packet.type = .video
  · rw [dif_pos video]
    simp only [update_eq, media, video, true_and]
  · rw [dif_neg video, if_neg fun held => video held.1, Option.none_or]
    split_ifs <;> rfl

theorem insertPacket_audio (slot : Fin 256) :
    (buffer.insertPacket packet).audio slot = (heldAt .audio slot packet).or (buffer.audio slot) := by
  unfold PacketBufferService.insertPacket heldAt
  by_cases video : packet.type = .video
  · have other : ¬ packet.type = .audio := by rw [video]; exact fun same => (nomatch same)
    rw [dif_pos video, if_neg fun held => other held.1, Option.none_or]
  · by_cases audio : packet.type = .audio
    · rw [dif_neg video, dif_pos audio]
      simp only [update_eq, media, audio, true_and]
    · rw [dif_neg video, dif_neg audio, if_neg fun held => audio held.1, Option.none_or]

end Insert

/-! ### A run -/

/-- The packets that were passed on, of those that were written. -/
def passedOn (handler : RtpRetransmissionHandler) (events : List Event) : List DataPacket :=
  (Machine.outputs step handler events).reduceOption

theorem Remembers.same {buffer : PacketBufferService} {passed : List DataPacket} (remembers : Remembers buffer passed) :
    Remembers buffer (passed ++ (none : Option DataPacket).toList) := by
  rwa [Option.toList_none, List.append_nil]

/-- What is received leaves the buffer as it is. -/
theorem read_packetBuffer {handler after : RtpRetransmissionHandler} {clock : ℕ → ℤ} {rate : UInt64} {packet : DataPacket}
    {written : List DataPacket} {passed : Option DataPacket}
    (result : handler.read clock rate packet = some (after, written, passed)) :
    after.packetBuffer = handler.packetBuffer := by
  unfold read at result
  split_ifs at result with off
  · cases result
    rfl
  · obtain ⟨recovery, -, done⟩ := Option.bind_eq_some_iff.mp result
    cases done
    unfold calculateRtxBitrate
    split_ifs <;> rfl

theorem step_read (handler : RtpRetransmissionHandler) (clock : ℕ → ℤ) (rate : UInt64) (packet : DataPacket) :
    (step handler (.read clock rate packet)).1.packetBuffer = handler.packetBuffer ∧
      (step handler (.read clock rate packet)).2 = none := by
  simp only [step]
  cases result : handler.read clock rate packet with
  | none => exact ⟨rfl, rfl⟩
  | some outcome => exact ⟨read_packetBuffer result, rfl⟩

/-- **One event.** -/
theorem remembers_step (handler : RtpRetransmissionHandler) (event : Event) {passed : List DataPacket}
    (remembers : Remembers handler.packetBuffer passed) :
    Remembers (step handler event).1.packetBuffer (passed ++ (step handler event).2.toList) := by
  cases event with
  | enable => exact remembers.same
  | disable => exact remembers.same
  | stream stream => exact remembers.same
  | notifyUpdate pipeline =>
      refine Remembers.same ?_
      rw [step, notifyUpdate]
      split_ifs <;> exact remembers
  | read clock rate packet =>
      rw [(step_read handler clock rate packet).2, (step_read handler clock rate packet).1]
      exact remembers.same
  | write packet =>
      rw [step, write]
      by_cases ready : handler.initialized = true
      · by_cases control : RtcpHeader.isRtcp packet.data 0 = true
        · rw [ready, control, if_neg (by decide), if_neg (by decide), Option.toList_some]
          constructor <;> intro slot <;> rw [Overwrite.lastOf_append, Overwrite.lastOf_singleton, heldAt_of_isRtcp control,
            Option.none_or]
          · exact remembers.video slot
          · exact remembers.audio slot
        · have media := Bool.eq_false_iff.mpr control
          rw [ready, media, if_neg (by decide), if_pos (by decide), Option.toList_some]
          constructor <;> intro slot <;> rw [Overwrite.lastOf_append, Overwrite.lastOf_singleton]
          · rw [← remembers.video slot]
            exact insertPacket_video media slot
          · rw [← remembers.audio slot]
            exact insertPacket_audio media slot
      · rw [Bool.eq_false_iff.mpr ready, if_pos (by decide)]
        exact remembers.same

/-- **A run**, from the constructor on. -/
theorem remembers_run (stream : MediaStream) (start : ℤ) (events : List Event) :
    Remembers (Machine.run step (init stream start) events).packetBuffer (passedOn (init stream start) events) := by
  induction events using List.reverseRecOn with
  | nil => exact remembers_init
  | append_singleton events event ih =>
      have onward := remembers_step _ event ih
      rw [passedOn, Machine.outputs_append, List.reduceOption_append, Machine.run_append]
      rwa [Machine.outputs, Machine.outputs, List.reduceOption_singleton]

/-! ### A NACK -/

/-- Whether a verdict on a number is one for the packet its slot has. Of a packet there is only the bucket tells whether it
is refused. -/
def Verdict.Fits (last : Option DataPacket) (seqNum : UInt16) : Verdict → Prop
  | .missing => last = none
  | .refused => last ≠ none
  | .stale => ∃ packet, last = some packet ∧ RtpHeader.getSeqNumber packet.data ≠ seqNum
  | .resent packet => last = some packet ∧ RtpHeader.getSeqNumber packet.data = seqNum

/-- The packet the past has for a nacked number. -/
def recalled (handler : RtpRetransmissionHandler) (passed : List DataPacket) (entry : UInt32 × UInt16) :
    Option DataPacket :=
  (handler.mediaOf entry.1).bind fun kind => lastPassed passed kind entry.2

theorem findPacket_eq {handler : RtpRetransmissionHandler} {passed : List DataPacket}
    (remembers : Remembers handler.packetBuffer passed) (entry : UInt32 × UInt16) :
    handler.findPacket entry.1 entry.2 = recalled handler passed entry := by
  unfold findPacket recalled mediaOf
  split_ifs
  · exact remembers.video _
  · exact remembers.audio _
  · rfl

/-- What becomes of a number, from the packet the past has for it and the bucket: the bucket is asked for the bytes of the
packet first, and gives them also for one that has another number. -/
def answer (past : UInt32 × UInt16 → Option DataPacket) (clock : ℕ → ℤ) (state : TokenBucket × ℕ)
    (entry : UInt32 × UInt16) : (TokenBucket × ℕ) × ((UInt32 × UInt16) × Verdict) :=
  match past entry with
  | none => (state, entry, .missing)
  | some packet =>
      let (bucket, granted) := state.1.consume (toMicroseconds (clock state.2)) (UInt64.ofInt packet.length)
      ((bucket, state.2 + 1), entry,
        if !granted then .refused
        else if RtpHeader.getSeqNumber packet.data = entry.2 then .resent packet
        else .stale)

/-- One verdict. -/
theorem answer_fits (past : UInt32 × UInt16 → Option DataPacket) (clock : ℕ → ℤ) (state : TokenBucket × ℕ)
    (entry : UInt32 × UInt16) :
    (answer past clock state entry).2.2.Fits (past (answer past clock state entry).2.1)
      (answer past clock state entry).2.1.2 := by
  unfold answer
  cases found : past entry with
  | none => exact found
  | some packet =>
      simp only
      split_ifs with granted number
      · exact found ▸ Option.some_ne_none packet
      · exact ⟨found, number⟩
      · exact ⟨packet, found, number⟩

theorem answer_fst (past : UInt32 × UInt16 → Option DataPacket) (clock : ℕ → ℤ) (state : TokenBucket × ℕ)
    (entry : UInt32 × UInt16) : (answer past clock state entry).2.1 = entry := by
  unfold answer
  cases past entry <;> rfl

theorem findPacket_calculateRtxBitrate (handler : RtpRetransmissionHandler) (now : ℤ) (rate : UInt64) :
    (handler.calculateRtxBitrate now rate).findPacket = handler.findPacket := by
  unfold calculateRtxBitrate
  split_ifs <;> rfl

/-- **The handler judges from the past alone.** -/
theorem judge_eq {handler : RtpRetransmissionHandler} {passed : List DataPacket}
    (remembers : Remembers handler.packetBuffer passed) (now : ℤ) (rate : UInt64) (clock : ℕ → ℤ) :
    judge (handler.calculateRtxBitrate now rate) clock = answer (recalled handler passed) clock := by
  funext state entry
  have found : (handler.calculateRtxBitrate now rate).findPacket entry.1 entry.2 = handler.recalled passed entry := by
    rw [findPacket_calculateRtxBitrate, findPacket_eq remembers]
  cases known : handler.recalled passed entry with
  | none => simp only [judge, answer, found, known]
  | some packet => simp only [judge, answer, found, known]

/-- **A NACK is answered from what was passed on.** In every run from the constructor, a packet that is received while the
handler is on gets a verdict for each number it requests, in turn. The verdict is the one for the last media packet of the
kind asked for that was passed on with a number of the same slot, and for what the bucket has left when the verdicts before
it are paid for; the bucket that remains is that of the handler. The packets sent again are those of the verdicts, and the
received one is withheld if it has a NACK and no verdict is a miss. -/
theorem nack_answered (stream : MediaStream) (start : ℤ) (events : List Event) (clock : ℕ → ℤ) (rate : UInt64)
    (packet : DataPacket) (enabled : (Machine.run step (init stream start) events).enabled = true)
    (initialized : (Machine.run step (init stream start) events).initialized = true) :
    let current := (Machine.run step (init stream start) events).calculateRtxBitrate (clock 0) rate
    let past := recalled (Machine.run step (init stream start) events) (passedOn (init stream start) events)
    let judged := Machine.outputs (answer past clock) (current.bucket, 1) (nacked packet)
    (Machine.run step (init stream start) events).read clock rate packet = some (
        { current with bucket := (Machine.run (answer past clock) (current.bucket, 1) (nacked packet)).1 },
        judged.flatMap (fun one => one.2.sent),
        if containsNack packet = true ∧ ∀ one ∈ judged, one.2.missed = false then none else some packet) ∧
      judged.map Prod.fst = nacked packet ∧ ∀ one ∈ judged, one.2.Fits (past one.1) one.1.2 := by
  have remembers := remembers_run stream start events
  generalize Machine.run step (init stream start) events = handler at enabled initialized remembers ⊢
  generalize passedOn (init stream start) events = passed at remembers ⊢
  intro current past judged
  have result := read_eq handler clock rate packet ⟨enabled, initialized⟩
  rw [verdicts, bucketAfter, judge_eq remembers] at result
  exact ⟨result, Machine.map_outputs _ (answer_fst past clock) _ _,
    Machine.forall_outputs _ (answer_fits past clock) _ _⟩

/-- A stream of SSRC 7 for video and 8 for audio. -/
def answeringStream : MediaStream := ⟨0, 8, [7], 8, 7, 1000000, false, false, 0, 0⟩

/-- Packets 10 and 266, which have the same slot, are passed on, and a receiver report between them is received. -/
def overwritten : List Event :=
  [.notifyUpdate true, .write (mediaPacket 10), .read (fun _ => 0) 30000 (reportPacket 0 10), .write (mediaPacket 266)]

/-- Packet 10 is nacked afterwards. -/
theorem nack_answered_overwritten :
    let current := (Machine.run step (init answeringStream 0) overwritten).calculateRtxBitrate 1000 30000
    let past := recalled (Machine.run step (init answeringStream 0) overwritten)
      (passedOn (init answeringStream 0) overwritten)
    let judged := Machine.outputs (answer past fun _ => 1000) (current.bucket, 1) (nacked (nackPacket 10 0))
    (Machine.run step (init answeringStream 0) overwritten).read (fun _ => 1000) 30000 (nackPacket 10 0) = some (
        { current with
          bucket := (Machine.run (answer past fun _ => 1000) (current.bucket, 1) (nacked (nackPacket 10 0))).1 },
        judged.flatMap (fun one => one.2.sent),
        if containsNack (nackPacket 10 0) = true ∧ ∀ one ∈ judged, one.2.missed = false then none
        else some (nackPacket 10 0)) ∧
      judged.map Prod.fst = nacked (nackPacket 10 0) ∧ ∀ one ∈ judged, one.2.Fits (past one.1) one.1.2 :=
  nack_answered answeringStream 0 overwritten (fun _ => 1000) 30000 (nackPacket 10 0)
    (by decide +kernel) (by decide +kernel)

end RtpRetransmissionHandler

end Erizo
