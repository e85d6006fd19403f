/-
**The packets that the quality filter sends.**

A packet is sent under the number after the last one if the translators know the packet before it, and if its picture
has lost none: the translator of the numbers is asked first, and its number is gone when the other one refuses. At a
change of the SSRC both start anew, and the timestamps go on one tick after the last one (`Holds`).

* `consecutive`: where that is so at every packet that is let through, the numbers are consecutive, and a packet from
  another SSRC comes after the last one in time.
-/

import Erizo.Model.QualityFilterHandler
import Erizo.Proof.InOrder

namespace Erizo

open Library Library.Serial Library.Bytes RtpUtils

namespace SequenceNumberTranslator

variable {config : Config} {translator : SequenceNumberTranslator config}

/-! ### Translators that generate nothing -/

/-- The entry of the last input is valid. -/
def LastValid (translator : SequenceNumberTranslator config) : Prop :=
  (translator.internalGet translator.lastInput).type = .valid

/-- **What a skipped input leaves as it was.** -/
structure SkipKept (before after : SequenceNumberTranslator config) : Prop where
  spanned : after.Spanned
  initialized : after.initialized = before.initialized
  wasReset : after.wasReset = before.wasReset
  lastOutput : after.lastOutput = before.lastOutput
  offset : after.offset = before.offset

theorem get_skip_kept (serial : config.Serial) (spanned : translator.Spanned) (input : UInt16) :
    SkipKept translator (translator.get input true).1 := by
  have after := spanned_step serial translator (.get input true) spanned
  change (translator.get input true).1.Spanned at after
  by_cases started : translator.initialized = true
  · rcases get_cases serial translator started (spanned started) input true with
      ⟨_, same⟩ | ⟨_, _, same⟩ | ⟨_, same⟩
    · rw [same] at after ⊢
      exact ⟨after, rfl, rfl, rfl, rfl⟩
    · rw [same] at after ⊢
      exact ⟨after, rfl, rfl, rfl, rfl⟩
    · rw [same, getLate_eq translator started] at after ⊢
      exact ⟨after, rfl, rfl, rfl, rfl⟩
  · have waiting : translator.initialized = false := by simpa using started
    rw [get_waiting translator waiting, getFirst_skip] at after ⊢
    exact ⟨after, rfl, rfl, rfl, rfl⟩

/-- The first input. -/
theorem get_first (waiting : translator.initialized = false) (input : UInt16) :
    translator.get input false =
      (translator.afterFirst input, ⟨input, translator.firstOutput input, .valid⟩) := by
  rw [get_waiting translator waiting, getFirst_forward translator waiting]

theorem lastValid_afterFirst (translator : SequenceNumberTranslator config) (input : UInt16) :
    (translator.afterFirst input).LastValid := by
  show (((translator.add _).inOutBuffer.get input.toNat).getD default).type = .valid
  simp only [add, RingBuffer.get_set_self, Option.getD_some]

theorem lastValid_afterNew (translator : SequenceNumberTranslator config) (input : UInt16) :
    (translator.afterNew input false).LastValid := by
  show (((translator.storeNew input false).inOutBuffer.get input.toNat).getD default).type = .valid
  simp only [storeNew, RingBuffer.writeRun_succ, newEntry_last, RingBuffer.get_set_self, Option.getD_some]
  rfl

theorem LastValid.lateEntry (valid : translator.LastValid) :
    (translator.lateEntry translator.lastInput false).type = .valid := by
  unfold SequenceNumberTranslator.lateEntry
  have stored : (translator.internalGet translator.lastInput).type = .valid := valid
  simp only [if_pos stored]
  rfl

theorem LastValid.afterLate (valid : translator.LastValid) :
    (translator.afterLate translator.lastInput false).LastValid := by
  have stored : (translator.internalGet translator.lastInput).type = .valid := valid
  have cell : (translator.afterLate translator.lastInput false).inOutBuffer.get translator.lastInput.toNat =
      some (translator.lateEntry translator.lastInput false) := by
    unfold SequenceNumberTranslator.afterLate
    simp only [if_pos stored, RingBuffer.get_set_self]
  exact (congrArg (fun entry => (entry.getD default).type) cell).trans valid.lateEntry

/-- The last input, once more. -/
theorem get_again (serial : config.Serial) (started : translator.initialized = true) (spanned : translator.Spanned) :
    translator.get translator.lastInput false =
      (translator.afterLate translator.lastInput false, translator.lateEntry translator.lastInput false) := by
  have twice := two_mul_threshold_le serial
  have near := serial.near
  have short := spanned started
  have zero : ahead config.bits translator.lastInput translator.lastInput = 0 := ahead_self _
  rcases get_cases serial translator started short translator.lastInput false with ⟨old, _⟩ | ⟨new, _⟩ | ⟨_, same⟩
  · change 2 ^ (config.bits - 4) ≤ translator.span at old
    omega
  · omega
  · rw [same, getLate_eq translator started]

/-- What a reset keeps. -/
theorem reset_kept (translator : SequenceNumberTranslator config) :
    translator.reset.lastOutput = translator.lastOutput ∧ translator.reset.offset = translator.offset ∧
      translator.reset.wasReset = (translator.initialized || translator.wasReset) := by
  unfold reset
  cases started : translator.initialized
  · exact ⟨rfl, rfl, rfl⟩
  · exact ⟨rfl, rfl, rfl⟩

/-- **An input was taken**: it is the last one, and its entry is valid. -/
structure Took (translator : SequenceNumberTranslator config) (input : UInt16) : Prop where
  spanned : translator.Spanned
  initialized : translator.initialized = true
  lastInput : translator.lastInput = input
  valid : translator.LastValid

theorem took_first (serial : config.Serial) (spanned : translator.Spanned) (waiting : translator.initialized = false)
    (input : UInt16) : (translator.afterFirst input).Took input := by
  have after := spanned_step serial translator (.get input false) spanned
  change (translator.get input false).1.Spanned at after
  rw [get_first waiting] at after
  exact ⟨after, rfl, rfl, lastValid_afterFirst translator input⟩

theorem took_next (serial : config.Serial) (roomy : config.maxDistance.toNat + 1 < 2 ^ (config.bits - 4))
    (spanned : translator.Spanned) (started : translator.initialized = true) {input : UInt16}
    (next : input.toNat = (translator.lastInput.toNat + 1) % 2 ^ config.bits) :
    (translator.afterNew input false).Took input := by
  have after := spanned_step serial translator (.get input false) spanned
  change (translator.get input false).1.Spanned at after
  rw [get_next serial roomy started (spanned started) next false] at after
  exact ⟨after, started, rfl, lastValid_afterNew translator input⟩

theorem took_again (serial : config.Serial) (spanned : translator.Spanned) (started : translator.initialized = true)
    (valid : translator.LastValid) : (translator.afterLate translator.lastInput false).Took translator.lastInput := by
  have after := spanned_step serial translator (.get translator.lastInput false) spanned
  change (translator.get translator.lastInput false).1.Spanned at after
  rw [get_again serial started spanned] at after
  exact ⟨after, started, rfl, valid.afterLate⟩

theorem few_of_quiet (serial : config.Serial) (quiet : translator.offset = 0) :
    translator.offset.toNat + 1 + 2 ^ (config.bits - 4) ≤ 2 ^ config.bits := by
  have twice := two_mul_threshold_le serial
  have positive := Nat.two_pow_pos (config.bits - 4)
  rw [quiet]
  change 0 + 1 + _ ≤ _
  omega

theorem afterNew_lastOutput (serial : config.Serial) (quiet : translator.offset = 0) {input : UInt16}
    (next : input.toNat = (translator.lastInput.toNat + 1) % 2 ^ config.bits) :
    (translator.afterNew input false).lastOutput = translator.nextOutput := by
  show translator.updatedOutput false (translator.newOutput input) = _
  have above := numberLessThan_nextOutput serial translator (few_of_quiet serial quiet)
  rw [newOutput_next serial next, updatedOutput, above]
  rfl

end SequenceNumberTranslator

/-! ### Headers -/

namespace RtpVP8Parser

/-- Nothing before a payload is changed. -/
theorem setVP8PictureID_of_lt (data : Memory) (start : ℕ) (dataLength : ℤ) (pictureID : UInt16) {address : ℕ}
    (before : address < start) : setVP8PictureID data start dataLength pictureID address = data address := by
  unfold setVP8PictureID
  simp only
  generalize (if bit (data (start + 2)) 0x80 then 2 else 1) = pictureIDLen
  split_ifs
  · rfl
  · rfl
  · rfl
  · exact copy_of_lt data _ (by omega)
  · exact copy_of_lt data _ (by omega)
  · rfl
  · rfl

theorem setVP8TL0PicIdx_of_lt (data : Memory) (start : ℕ) (dataLength : ℤ) (tl0PicIdx : UInt8) {address : ℕ}
    (before : address < start) : setVP8TL0PicIdx data start dataLength tl0PicIdx address = data address := by
  unfold setVP8TL0PicIdx
  simp only
  generalize (if bit (data (start + 1)) 0x80 then if bit (data (start + 2)) 0x80 then 2 else 1 else 0) = skipped
  split_ifs
  · rfl
  · rfl
  · rfl
  · exact copy_of_lt data _ (by omega)
  · rfl
  · rfl

end RtpVP8Parser

namespace QualityFilterHandler

variable {handler : QualityFilterHandler} {packet : LayeredPacket}

theorem updatePictureID_of_lt (packet : LayeredPacket) (newPictureId : UInt16) {address : ℕ} (before : address < 12) :
    (updatePictureID packet newPictureId).data address = packet.data address := by
  unfold updatePictureID
  split
  · refine RtpVP8Parser.setVP8PictureID_of_lt _ _ _ _ (lt_of_lt_of_le before ?_)
    unfold RtpHeader.getHeaderLength
    omega
  · rfl

theorem updateTL0PicIdx_of_lt (packet : LayeredPacket) (newTl0PicIdx : UInt8) {address : ℕ} (before : address < 12) :
    (updateTL0PicIdx packet newTl0PicIdx).data address = packet.data address := by
  unfold updateTL0PicIdx
  split
  · refine RtpVP8Parser.setVP8TL0PicIdx_of_lt _ _ _ _ (lt_of_lt_of_le before ?_)
    unfold RtpHeader.getHeaderLength
    omega
  · rfl

/-- **A packet is sent under its number and its timestamp.** -/
theorem send_header (sequenceNumber pictureId : UInt16) :
    RtpHeader.getSeqNumber (handler.send packet sequenceNumber pictureId).2.data = sequenceNumber ∧
      RtpHeader.getTimestamp (handler.send packet sequenceNumber pictureId).2.data =
        RtpHeader.getTimestamp packet.data + handler.timestampOffset := by
  have same : ∀ address < 12, (handler.send packet sequenceNumber pictureId).2.data address =
      handler.newHeader packet sequenceNumber address := fun address before =>
    (updateTL0PicIdx_of_lt _ _ before).trans (updatePictureID_of_lt _ _ before)
  constructor
  · rw [RtpHeader.getSeqNumber, read16_congr fun address _ below => same address (by omega)]
    unfold newHeader
    simp only
    rw [RtpHeader.setTimestamp, read16_congr fun address _ below => copy_of_lt _ _ (by omega)]
    exact read16_write16 _ _ _
  · rw [RtpHeader.getTimestamp, read32_congr fun address _ below => same address (by omega)]
    exact read32_write32 _ _ _

/-! ### Runs -/

/-- A call of `write`. -/
structure Call where
  packet : LayeredPacket
  situation : Situation

/-- A video packet that was sent: the SSRC that it came from, and what its header says. -/
structure Sent where
  ssrc : UInt32
  number : UInt16
  timestamp : UInt32
  deriving DecidableEq

/-- A packet is sent as another one. -/
def sentAs (packet sent : LayeredPacket) : Sent :=
  ⟨RtpHeader.getSSRC packet.data, RtpHeader.getSeqNumber sent.data, RtpHeader.getTimestamp sent.data⟩

/-- A call, with the video packet that it sends. -/
def step (handler : QualityFilterHandler) (call : Call) : QualityFilterHandler × Option Sent :=
  let (handler, written) := handler.write call.packet call.situation
  (handler, if isVideoRtp call.packet then written.write.map (sentAs call.packet) else none)

/-- The video packets that a run sends. -/
def sentBy (handler : QualityFilterHandler) (calls : List Call) : List Sent :=
  (Machine.outputs step handler calls).reduceOption

/-- **No hole**: the next number, and after a change of the SSRC a later timestamp. -/
structure Consecutive (first second : Sent) : Prop where
  number : second.number = first.number + 1
  timestamp : first.ssrc ≠ second.ssrc →
    0 < (second.timestamp - first.timestamp).toNat ∧ (second.timestamp - first.timestamp).toNat < 2 ^ 31

instance (first second : Sent) : Decidable (Consecutive first second) :=
  decidable_of_iff (second.number = first.number + 1 ∧ (first.ssrc ≠ second.ssrc →
    0 < (second.timestamp - first.timestamp).toNat ∧ (second.timestamp - first.timestamp).toNat < 2 ^ 31))
    ⟨fun both => ⟨both.1, both.2⟩, fun all => ⟨all.number, all.timestamp⟩⟩

/-! ### Sources -/

/-- **A packet follows another one of its source**: it has the next number, and the same picture or the next one. -/
structure Next (first second : LayeredPacket) : Prop where
  number : RtpHeader.getSeqNumber second.data = RtpHeader.getSeqNumber first.data + 1
  picture : second.pictureId = first.pictureId ∨ second.pictureId = (first.pictureId + 1) % 2 ^ 15

instance (first second : LayeredPacket) : Decidable (Next first second) :=
  decidable_of_iff (RtpHeader.getSeqNumber second.data = RtpHeader.getSeqNumber first.data + 1 ∧
    (second.pictureId = first.pictureId ∨ second.pictureId = (first.pictureId + 1) % 2 ^ 15))
    ⟨fun both => ⟨both.1, both.2⟩, fun all => ⟨all.number, all.picture⟩⟩

/-- The packets of a source. -/
def ofSource (ssrc : UInt32) (packets : List LayeredPacket) : List LayeredPacket :=
  packets.filter fun packet => isVideoRtp packet && RtpHeader.getSSRC packet.data = ssrc

/-- **Every source is in order.** -/
def InOrder (packets : List LayeredPacket) : Prop := ∀ ssrc, (ofSource ssrc packets).IsChain Next

theorem inOrder_iff (packets : List LayeredPacket) :
    InOrder packets ↔ ∀ packet ∈ packets, (ofSource (RtpHeader.getSSRC packet.data) packets).IsChain Next := by
  refine ⟨fun ordered packet _ => ordered _, fun ordered ssrc => ?_⟩
  by_cases some : ∃ packet ∈ packets, RtpHeader.getSSRC packet.data = ssrc
  · obtain ⟨packet, member, rfl⟩ := some
    exact ordered packet member
  · have none : ofSource ssrc packets = [] := by
      refine List.filter_eq_nil_iff.mpr fun packet member own => some ⟨packet, member, ?_⟩
      exact of_decide_eq_true (Bool.and_eq_true _ _ ▸ own).2
    rw [none]
    exact .nil

instance (packets : List LayeredPacket) : Decidable (InOrder packets) := decidable_of_iff' _ (inOrder_iff packets)

/-! ### What is remembered of a run -/

/-- The last packet of a source, and whether it was sent. -/
structure Seen where
  packet : LayeredPacket
  forwarded : Bool

/-- What is remembered: the last packet of each source, the timestamp at the last change of the SSRC in use, and what
was sent last. -/
structure Trace where
  seen : UInt32 → Option Seen := fun _ => none
  changed : UInt32 := 0
  last : Option Sent := none

/-- A change of the SSRC in use is remembered. -/
def Trace.switch (trace : Trace) (packet : LayeredPacket) (switched : Bool) : Trace :=
  { trace with changed := if switched then RtpHeader.getTimestamp packet.data else trace.changed }

/-- A packet is remembered, and whether it was sent. -/
def Trace.see (trace : Trace) (packet : LayeredPacket) (sent : Option Sent) : Trace :=
  { trace with
    seen := Function.update trace.seen (RtpHeader.getSSRC packet.data) (some ⟨packet, sent.isSome⟩)
    last := sent.or trace.last }

/-- The filter, and what is remembered. -/
def traced (state : QualityFilterHandler × Trace) (call : Call) : (QualityFilterHandler × Trace) × Option Sent :=
  let next := state.1.step call
  let switched := next.1.lastSsrcReceived ≠ state.1.lastSsrcReceived
  ((next.1, if isVideoRtp call.packet then (state.2.switch call.packet switched).see call.packet next.2 else state.2),
    next.2)

/-- The filter as it stands when it looks at the layers of a packet. -/
def ready (handler : QualityFilterHandler) (call : Call) : QualityFilterHandler :=
  ((handler.detectVideoScalability call.packet).prepare call.packet call.situation).1

/-- Both layers of a packet are let through. -/
def letsThrough (handler : QualityFilterHandler) (packet : LayeredPacket) : Bool :=
  packet.belongsToSpatialLayer handler.targetSpatialLayer && packet.belongsToTemporalLayer handler.targetTemporalLayer

/-- The packet before this one on its SSRC was the last one sent, if any was. -/
def Continues (trace : Trace) (packet : LayeredPacket) : Prop :=
  ∀ last ∈ trace.last, last.ssrc = RtpHeader.getSSRC packet.data ∧
    ∃ previous ∈ trace.seen (RtpHeader.getSSRC packet.data), previous.forwarded = true

/-- **The packet before this one on its SSRC was sent**, or it is of another picture and on record. -/
def Known (handler : QualityFilterHandler) (trace : Trace) (packet : LayeredPacket) : Prop :=
  ∃ previous ∈ trace.seen (RtpHeader.getSSRC packet.data), previous.forwarded = true ∨
    (previous.packet.pictureId ≠ packet.pictureId ∧
      handler.translator.lastInput = RtpHeader.getSeqNumber previous.packet.data ∧
      handler.pictureIdTranslator.lastInput = pictureNumber previous.packet)

/-- **A change of the SSRC is timely**: something was sent with a timestamp, and fewer than `2 ^ 31 - 1` ticks have
passed since the change. -/
def Timely (handler : QualityFilterHandler) (trace : Trace) (packet : LayeredPacket) : Prop :=
  ∀ last ∈ trace.last, last.ssrc ≠ RtpHeader.getSSRC packet.data → handler.lastTimestampSent ≠ 0 ∧
    (RtpHeader.getSSRC packet.data = handler.lastSsrcReceived →
      (RtpHeader.getTimestamp packet.data - trace.changed).toNat < 2 ^ 31 - 1)

/-- **The condition on a packet that is filtered.** -/
structure Fits (handler : QualityFilterHandler) (trace : Trace) (packet : LayeredPacket) : Prop where
  fresh : handler.letsThrough packet = true → handler.translator.initialized = false →
    handler.translator.wasReset = false → Continues trace packet
  known : handler.letsThrough packet = true → handler.translator.initialized = true →
    RtpHeader.getSSRC packet.data = handler.lastSsrcReceived → Known handler trace packet
  timely : handler.letsThrough packet = true → Timely handler trace packet
  own : packet.belongsToSpatialLayer handler.targetSpatialLayer = false → handler.receivingMultipleSsrc = false →
    handler.translator.initialized = true → RtpHeader.getSSRC packet.data = handler.lastSsrcReceived

instance (trace : Trace) (packet : LayeredPacket) : Decidable (Continues trace packet) :=
  inferInstanceAs (Decidable (∀ last ∈ trace.last, last.ssrc = RtpHeader.getSSRC packet.data ∧
    ∃ previous ∈ trace.seen (RtpHeader.getSSRC packet.data), previous.forwarded = true))

instance (handler : QualityFilterHandler) (trace : Trace) (packet : LayeredPacket) :
    Decidable (Known handler trace packet) :=
  inferInstanceAs (Decidable (∃ previous ∈ trace.seen (RtpHeader.getSSRC packet.data), previous.forwarded = true ∨
    (previous.packet.pictureId ≠ packet.pictureId ∧
      handler.translator.lastInput = RtpHeader.getSeqNumber previous.packet.data ∧
      handler.pictureIdTranslator.lastInput = pictureNumber previous.packet)))

instance (handler : QualityFilterHandler) (trace : Trace) (packet : LayeredPacket) :
    Decidable (Timely handler trace packet) :=
  inferInstanceAs (Decidable (∀ last ∈ trace.last, last.ssrc ≠ RtpHeader.getSSRC packet.data →
    handler.lastTimestampSent ≠ 0 ∧ (RtpHeader.getSSRC packet.data = handler.lastSsrcReceived →
      (RtpHeader.getTimestamp packet.data - trace.changed).toNat < 2 ^ 31 - 1)))

instance (handler : QualityFilterHandler) (trace : Trace) (packet : LayeredPacket) :
    Decidable (Fits handler trace packet) :=
  decidable_of_iff
    ((handler.letsThrough packet = true → handler.translator.initialized = false →
        handler.translator.wasReset = false → Continues trace packet) ∧
      (handler.letsThrough packet = true → handler.translator.initialized = true →
        RtpHeader.getSSRC packet.data = handler.lastSsrcReceived → Known handler trace packet) ∧
      (handler.letsThrough packet = true → Timely handler trace packet) ∧
      (packet.belongsToSpatialLayer handler.targetSpatialLayer = false → handler.receivingMultipleSsrc = false →
        handler.translator.initialized = true → RtpHeader.getSSRC packet.data = handler.lastSsrcReceived))
    ⟨fun all => ⟨all.1, all.2.1, all.2.2.1, all.2.2.2⟩, fun fits => ⟨fits.fresh, fits.known, fits.timely, fits.own⟩⟩

/-- **The condition on a call.** -/
def Steady (state : QualityFilterHandler × Trace) (call : Call) : Prop :=
  isVideoRtp call.packet = true →
    if (state.1.detectVideoScalability call.packet).isScalable then Fits (state.1.ready call) state.2 call.packet
    else Continues state.2 call.packet

instance (state : QualityFilterHandler × Trace) (call : Call) : Decidable (Steady state call) :=
  inferInstanceAs (Decidable (isVideoRtp call.packet = true →
    if (state.1.detectVideoScalability call.packet).isScalable then Fits (state.1.ready call) state.2 call.packet
    else Continues state.2 call.packet))

/-! ### The invariant -/

/-- **What a run keeps.** -/
structure Holds (handler : QualityFilterHandler) (trace : Trace) : Prop where
  enabled : handler.enabled = true
  spanned : handler.translator.Spanned
  pictureSpanned : handler.pictureIdTranslator.Spanned
  quiet : handler.translator.offset = 0
  together : handler.pictureIdTranslator.initialized = handler.translator.initialized
  raw : handler.isScalable = false → handler.translator.initialized = false ∧ handler.translator.wasReset = false ∧
    handler.lastTimestampSent = 0
  number : handler.translator.initialized = true ∨ handler.translator.wasReset = true →
    ∃ last ∈ trace.last, last.number = handler.translator.lastOutput
  fresh : handler.translator.initialized = false → handler.translator.wasReset = false → ∀ last ∈ trace.last,
    ∀ previous ∈ trace.seen last.ssrc, previous.forwarded = true →
      RtpHeader.getSeqNumber previous.packet.data = last.number
  ssrc : handler.translator.initialized = true → ∃ last ∈ trace.last, last.ssrc = handler.lastSsrcReceived
  current : handler.translator.initialized = true → ∀ previous ∈ trace.seen handler.lastSsrcReceived,
    previous.forwarded = true → handler.translator.lastInput = RtpHeader.getSeqNumber previous.packet.data ∧
      handler.pictureIdTranslator.lastInput = pictureNumber previous.packet ∧ handler.pictureIdTranslator.LastValid
  timestamp : handler.lastTimestampSent ≠ 0 → ∃ last ∈ trace.last, last.timestamp = handler.lastTimestampSent
  offset : handler.lastTimestampSent ≠ 0 → ∀ last ∈ trace.last, last.ssrc ≠ handler.lastSsrcReceived →
    handler.timestampOffset = handler.lastTimestampSent - trace.changed + 1

theorem holds_create (now : ℤ) (videoSinkSsrc videoSourceSsrc : UInt32) :
    Holds (create now videoSinkSsrc videoSourceSsrc) {} where
  enabled := rfl
  spanned running := absurd running Bool.false_ne_true
  pictureSpanned running := absurd running Bool.false_ne_true
  quiet := rfl
  together := rfl
  raw _ := ⟨rfl, rfl, rfl⟩
  number := fun started => started.elim (fun running => absurd running Bool.false_ne_true) fun running =>
    absurd running Bool.false_ne_true
  fresh _ _ _ absent := absurd absent (Option.not_mem_none _)
  ssrc running := absurd running Bool.false_ne_true
  current running := absurd running Bool.false_ne_true
  timestamp sent := absurd rfl sent
  offset sent := absurd rfl sent

/-- What the layers do not touch. -/
structure Frame (before after : QualityFilterHandler) : Prop where
  enabled : after.enabled = before.enabled
  translator : after.translator = before.translator
  pictureIdTranslator : after.pictureIdTranslator = before.pictureIdTranslator
  lastSsrcReceived : after.lastSsrcReceived = before.lastSsrcReceived
  lastTimestampSent : after.lastTimestampSent = before.lastTimestampSent
  timestampOffset : after.timestampOffset = before.timestampOffset

theorem Frame.trans {first second third : QualityFilterHandler} (left : Frame first second)
    (right : Frame second third) : Frame first third :=
  ⟨right.1.trans left.1, right.2.trans left.2, right.3.trans left.3, right.4.trans left.4, right.5.trans left.5,
    right.6.trans left.6⟩

/-- The layers do not matter to the invariant. -/
theorem Holds.frame {before after : QualityFilterHandler} {trace : Trace} (holds : Holds before trace)
    (frame : Frame before after) (raw : after.isScalable = false → before.isScalable = false) : Holds after trace := by
  obtain ⟨enabled, translator, pictures, ssrc, stamp, offset⟩ := frame
  constructor
  · rw [enabled]; exact holds.enabled
  · rw [translator]; exact holds.spanned
  · rw [pictures]; exact holds.pictureSpanned
  · rw [translator]; exact holds.quiet
  · rw [translator, pictures]; exact holds.together
  · rw [translator, stamp]; exact fun still => holds.raw (raw still)
  · rw [translator]; exact holds.number
  · rw [translator]; exact holds.fresh
  · rw [translator, ssrc]; exact holds.ssrc
  · rw [translator, pictures, ssrc]; exact holds.current
  · rw [stamp]; exact holds.timestamp
  · rw [stamp, ssrc, offset]; exact holds.offset

theorem frame_detect (handler : QualityFilterHandler) (packet : LayeredPacket) :
    Frame handler (handler.detectVideoScalability packet) := by
  unfold detectVideoScalability
  split_ifs
  · exact ⟨rfl, rfl, rfl, rfl, rfl, rfl⟩
  · exact ⟨rfl, rfl, rfl, rfl, rfl, rfl⟩
  · exact ⟨rfl, rfl, rfl, rfl, rfl, rfl⟩

/-- What is not found to be scalable is as it was. -/
theorem detect_of_raw {packet : LayeredPacket} (raw : (handler.detectVideoScalability packet).isScalable = false) :
    handler.detectVideoScalability packet = handler := by
  unfold detectVideoScalability at raw ⊢
  split_ifs at raw ⊢
  · rfl
  · rfl

theorem frame_checkLayers (handler : QualityFilterHandler) (situation : Situation) :
    Frame handler (handler.checkLayers situation).1 ∧
      (handler.checkLayers situation).1.isScalable = handler.isScalable := by
  unfold checkLayers
  by_cases wanted : situation.spatialLayer ≠ handler.targetSpatialLayer ∧ !handler.changingSpatialLayer
  · simp only [if_pos wanted]
    exact ⟨⟨rfl, rfl, rfl, rfl, rfl, rfl⟩, trivial⟩
  · simp only [if_neg wanted]
    exact ⟨⟨rfl, rfl, rfl, rfl, rfl, rfl⟩, trivial⟩

theorem frame_changeSpatialLayer (handler : QualityFilterHandler) (packet : LayeredPacket) (situation : Situation) :
    Frame handler (handler.changeSpatialLayerOnKeyframeReceived packet situation).1 ∧
      (handler.changeSpatialLayerOnKeyframeReceived packet situation).1.isScalable = handler.isScalable := by
  unfold changeSpatialLayerOnKeyframeReceived
  split_ifs
  · exact ⟨⟨rfl, rfl, rfl, rfl, rfl, rfl⟩, rfl⟩
  · exact ⟨⟨rfl, rfl, rfl, rfl, rfl, rfl⟩, rfl⟩
  · exact ⟨⟨rfl, rfl, rfl, rfl, rfl, rfl⟩, rfl⟩
  · exact ⟨⟨rfl, rfl, rfl, rfl, rfl, rfl⟩, rfl⟩

theorem frame_prepare (handler : QualityFilterHandler) (packet : LayeredPacket) (situation : Situation) :
    Frame handler (handler.prepare packet situation).1 ∧
      (handler.prepare packet situation).1.isScalable = handler.isScalable := by
  obtain ⟨layers, scalable⟩ := frame_checkLayers handler situation
  unfold prepare
  by_cases several : (handler.checkLayers situation).1.lastSsrcReceived ≠ 0 ∧
      RtpHeader.getSSRC packet.data ≠ (handler.checkLayers situation).1.lastSsrcReceived
  · simp only [if_pos several]
    obtain ⟨spatial, same⟩ := frame_changeSpatialLayer
      { (handler.checkLayers situation).1 with receivingMultipleSsrc := true } packet situation
    refine ⟨(layers.trans ?_).trans spatial, same.trans scalable⟩
    exact ⟨rfl, rfl, rfl, rfl, rfl, rfl⟩
  · simp only [if_neg several]
    obtain ⟨spatial, same⟩ := frame_changeSpatialLayer (handler.checkLayers situation).1 packet situation
    exact ⟨layers.trans spatial, same.trans scalable⟩

/-! ### Dropped packets -/

section Dropped

variable {trace : Trace}

/-- What was seen last, if another packet of some source is dropped. -/
theorem seen_see_none {ssrc : UInt32} {previous : Seen} (member : previous ∈ (trace.see packet none).seen ssrc)
    (forwarded : previous.forwarded = true) : previous ∈ trace.seen ssrc := by
  unfold Trace.see at member
  simp only at member
  by_cases same : ssrc = RtpHeader.getSSRC packet.data
  · rw [same, Function.update_self, Option.mem_some_iff] at member
    rw [← member] at forwarded
    exact absurd forwarded Bool.false_ne_true
  · rwa [Function.update_of_ne same] at member

/-- A packet that is dropped without a record. -/
theorem Holds.drop (holds : Holds handler trace) (packet : LayeredPacket) : Holds handler (trace.see packet none) where
  enabled := holds.enabled
  spanned := holds.spanned
  pictureSpanned := holds.pictureSpanned
  quiet := holds.quiet
  together := holds.together
  raw := holds.raw
  number := holds.number
  fresh waiting first last member previous seen forwarded :=
    holds.fresh waiting first last member previous (seen_see_none seen forwarded) forwarded
  ssrc := holds.ssrc
  current started previous seen forwarded := holds.current started previous (seen_see_none seen forwarded) forwarded
  timestamp := holds.timestamp
  offset := holds.offset

/-- **A packet that is dropped on record**: it is of the SSRC in use. -/
theorem Holds.skip (holds : Holds handler trace) (scalable : handler.isScalable = true)
    (own : handler.translator.initialized = true → RtpHeader.getSSRC packet.data = handler.lastSsrcReceived) :
    Holds (handler.skip packet) (trace.see packet none) := by
  obtain ⟨spanned, initialized, wasReset, lastOutput, offset⟩ := SequenceNumberTranslator.get_skip_kept
    Config.standard_serial holds.spanned (RtpHeader.getSeqNumber packet.data)
  obtain ⟨pictureSpanned, pictureInitialized, -, -, -⟩ := SequenceNumberTranslator.get_skip_kept
    Config.pictureId_serial holds.pictureSpanned (pictureNumber packet)
  refine ⟨holds.enabled, spanned, pictureSpanned, offset.trans holds.quiet,
    (pictureInitialized.trans holds.together).trans initialized.symm,
    fun raw => absurd (scalable.symm.trans raw) (by decide), fun started => ?_,
    fun waiting first last member previous seen forwarded => ?_, fun started => ?_,
    fun started previous seen forwarded => ?_, holds.timestamp, holds.offset⟩
  · obtain ⟨last, member, same⟩ := holds.number (started.imp initialized.symm.trans wasReset.symm.trans)
    exact ⟨last, member, same.trans lastOutput.symm⟩
  · exact holds.fresh (initialized.symm.trans waiting) (wasReset.symm.trans first) last member previous
      (seen_see_none seen forwarded) forwarded
  · exact holds.ssrc (initialized.symm.trans started)
  · -- the packet itself is the last one seen of the SSRC in use
    have here := own (initialized.symm.trans started)
    change previous ∈ Function.update trace.seen (RtpHeader.getSSRC packet.data) (some ⟨packet, false⟩)
      handler.lastSsrcReceived at seen
    rw [here, Function.update_self, Option.mem_some_iff] at seen
    rw [← seen] at forwarded
    exact absurd forwarded Bool.false_ne_true

end Dropped

/-! ### A change of the SSRC -/

section Switch

variable {trace : Trace}

theorem followSsrc_same (same : RtpHeader.getSSRC packet.data = handler.lastSsrcReceived) :
    handler.followSsrc packet = handler := by
  have unchanged : (handler.checkSSRCChange (RtpHeader.getSSRC packet.data)).2 = false := by
    unfold checkSSRCChange
    simp [same]
  unfold followSsrc
  simp only [unchanged]
  show { handler with lastSsrcReceived := RtpHeader.getSSRC packet.data } = handler
  rw [same]

/-- What is left after a change. -/
theorem followSsrc_other (other : RtpHeader.getSSRC packet.data ≠ handler.lastSsrcReceived) :
    (handler.followSsrc packet).translator = handler.translator.reset ∧
      (handler.followSsrc packet).pictureIdTranslator = handler.pictureIdTranslator.reset ∧
      (handler.followSsrc packet).timestampOffset =
        (if handler.lastTimestampSent > 0 then handler.lastTimestampSent - RtpHeader.getTimestamp packet.data + 1
        else handler.timestampOffset) := by
  have changed : (handler.checkSSRCChange (RtpHeader.getSSRC packet.data)).2 = true := by
    unfold checkSSRCChange
    simp [Ne.symm other]
  unfold followSsrc
  simp only [changed, if_true]
  exact ⟨rfl, rfl, rfl⟩

/-- What a change leaves alone. -/
theorem followSsrc_kept (handler : QualityFilterHandler) (packet : LayeredPacket) :
    (handler.followSsrc packet).lastSsrcReceived = RtpHeader.getSSRC packet.data ∧
      (handler.followSsrc packet).isScalable = handler.isScalable ∧
      (handler.followSsrc packet).enabled = handler.enabled ∧
      (handler.followSsrc packet).lastTimestampSent = handler.lastTimestampSent ∧
      (handler.followSsrc packet).targetTemporalLayer = handler.targetTemporalLayer := by
  unfold followSsrc
  simp only
  split
  · exact ⟨rfl, rfl, rfl, rfl, rfl⟩
  · exact ⟨rfl, rfl, rfl, rfl, rfl⟩

theorem Trace.switch_false (trace : Trace) (packet : LayeredPacket) : trace.switch packet false = trace := rfl

/-- **A change of the SSRC**: the translators start anew after the last number. -/
theorem Holds.follow (holds : Holds handler trace) (scalable : handler.isScalable = true) :
    Holds (handler.followSsrc packet)
      (trace.switch packet (decide (RtpHeader.getSSRC packet.data ≠ handler.lastSsrcReceived))) := by
  by_cases same : RtpHeader.getSSRC packet.data = handler.lastSsrcReceived
  · rw [followSsrc_same same, decide_eq_false (not_not_intro same), Trace.switch_false]
    exact holds
  obtain ⟨translator, pictures, offset⟩ := followSsrc_other same
  obtain ⟨ssrc, kept, enabled, stamp, -⟩ := followSsrc_kept handler packet
  have stopped := SequenceNumberTranslator.reset_initialized handler.translator
  have picturesStopped := SequenceNumberTranslator.reset_initialized handler.pictureIdTranslator
  obtain ⟨lastOutput, noneGenerated, wasReset⟩ := SequenceNumberTranslator.reset_kept handler.translator
  rw [decide_eq_true same]
  constructor
  · rw [enabled]; exact holds.enabled
  · rw [translator]; exact fun running => absurd (stopped.symm.trans running) (by decide)
  · rw [pictures]; exact fun running => absurd (picturesStopped.symm.trans running) (by decide)
  · rw [translator, noneGenerated]; exact holds.quiet
  · rw [translator, pictures, stopped, picturesStopped]
  · exact fun raw => absurd ((scalable.symm.trans kept.symm).trans raw) (by decide)
  · rw [translator, stopped, wasReset, lastOutput, Bool.or_eq_true]
    exact fun started => holds.number (started.resolve_left Bool.false_ne_true)
  · rw [translator, wasReset, Bool.or_eq_false_iff]
    exact fun _ first => holds.fresh first.1 first.2
  · rw [translator]; exact fun running => absurd (stopped.symm.trans running) (by decide)
  · rw [translator]; exact fun running => absurd (stopped.symm.trans running) (by decide)
  · rw [stamp]; exact holds.timestamp
  · rw [stamp, offset]
    exact fun sent _ _ _ => if_pos (UInt32.pos_iff_ne_zero.mpr sent)

end Switch

/-! ### Packets that are sent -/

section Forward

variable {trace : Trace}

/-- The condition on a packet that is let through, on the SSRC in use by now. -/
structure Fitting (handler : QualityFilterHandler) (trace : Trace) (packet : LayeredPacket) : Prop where
  own : RtpHeader.getSSRC packet.data = handler.lastSsrcReceived
  fresh : handler.translator.initialized = false → handler.translator.wasReset = false → Continues trace packet
  known : handler.translator.initialized = true → Known handler trace packet
  timely : ∀ last ∈ trace.last, last.ssrc ≠ RtpHeader.getSSRC packet.data → handler.lastTimestampSent ≠ 0 ∧
    (RtpHeader.getTimestamp packet.data - trace.changed).toNat < 2 ^ 31 - 1

/-- After a change of the SSRC the translators wait. -/
theorem Fits.follow (fits : Fits handler trace packet) (through : handler.letsThrough packet = true) :
    Fitting (handler.followSsrc packet)
      (trace.switch packet (decide (RtpHeader.getSSRC packet.data ≠ handler.lastSsrcReceived))) packet := by
  obtain ⟨ssrc, -, -, stamp, -⟩ := followSsrc_kept handler packet
  by_cases own : RtpHeader.getSSRC packet.data = handler.lastSsrcReceived
  · rw [followSsrc_same own, decide_eq_false (not_not_intro own), Trace.switch_false]
    refine ⟨own, fits.fresh through, fun started => fits.known through started own, fun last member other => ?_⟩
    obtain ⟨sent, ticks⟩ := fits.timely through last member other
    exact ⟨sent, ticks own⟩
  · obtain ⟨translator, -, -⟩ := followSsrc_other own
    obtain ⟨-, -, wasReset⟩ := SequenceNumberTranslator.reset_kept handler.translator
    rw [decide_eq_true own]
    refine ⟨ssrc.symm, fun _ first => ?_, fun started => ?_, fun last member other => ⟨?_, ?_⟩⟩
    · rw [translator, wasReset, Bool.or_eq_false_iff] at first
      exact fits.fresh through first.1 first.2
    · rw [translator, SequenceNumberTranslator.reset_initialized] at started
      exact absurd started Bool.false_ne_true
    · rw [stamp]
      exact (fits.timely through last member other).1
    · show (RtpHeader.getTimestamp packet.data - RtpHeader.getTimestamp packet.data).toNat < _
      rw [sub_self]
      decide

/-- **The number of a packet that is let through** is the one after the last. -/
theorem Holds.number_given (holds : Holds handler trace) (fitting : Fitting handler trace packet)
    (next : ∀ previous ∈ trace.seen (RtpHeader.getSSRC packet.data), Next previous.packet packet) :
    ∃ output after, handler.translator.get (RtpHeader.getSeqNumber packet.data) false =
        (after, ⟨RtpHeader.getSeqNumber packet.data, output, .valid⟩) ∧
      after.Took (RtpHeader.getSeqNumber packet.data) ∧ after.offset = 0 ∧ after.lastOutput = output ∧
      ∀ last ∈ trace.last, output = last.number + 1 := by
  have serial := Config.standard_serial
  have few := SequenceNumberTranslator.few_of_quiet serial holds.quiet
  cases started : handler.translator.initialized
  · refine ⟨_, _, SequenceNumberTranslator.get_first started _,
      SequenceNumberTranslator.took_first serial holds.spanned started _, rfl,
      SequenceNumberTranslator.afterFirst_lastOutput serial _ few _, fun last member => ?_⟩
    show (if handler.translator.wasReset || decide (handler.translator.offset > 0) then
      handler.translator.lastOutput + handler.translator.offset + 1 else RtpHeader.getSeqNumber packet.data) = _
    cases reset : handler.translator.wasReset
    · -- the packet before this one was sent under the number that it came with
      obtain ⟨ssrc, previous, seen, forwarded⟩ := fitting.fresh started reset last member
      rw [holds.quiet, if_neg (by decide), (next previous seen).number]
      exact congrArg (· + 1) (holds.fresh started reset last member previous (ssrc ▸ seen) forwarded)
    · obtain ⟨sent, same, number⟩ := holds.number (Or.inr reset)
      rw [holds.quiet, Bool.true_or, if_pos rfl, add_zero, ← number, Option.mem_unique member same]
  · obtain ⟨previous, seen, passed⟩ := fitting.known started
    have lastInput : handler.translator.lastInput = RtpHeader.getSeqNumber previous.packet.data :=
      passed.elim (fun forwarded => (holds.current started previous (fitting.own ▸ seen) forwarded).1) fun recorded =>
        recorded.2.1
    have follow : (RtpHeader.getSeqNumber packet.data).toNat =
        (handler.translator.lastInput.toNat + 1) % 2 ^ Config.standard.bits := by
      rw [(next previous seen).number, lastInput, UInt16.toNat_add]
      rfl
    have roomy : Config.standard.maxDistance.toNat + 1 < 2 ^ (Config.standard.bits - 4) := by decide
    refine ⟨_, _, SequenceNumberTranslator.get_next serial roomy started (holds.spanned started) follow false,
      SequenceNumberTranslator.took_next serial roomy holds.spanned started follow, rfl,
      SequenceNumberTranslator.afterNew_lastOutput serial holds.quiet follow, fun last member => ?_⟩
    obtain ⟨sent, same, number⟩ := holds.number (Or.inl started)
    show handler.translator.lastOutput + handler.translator.offset + 1 = _
    rw [holds.quiet, add_zero, ← number, Option.mem_unique member same]

/-- Picture ids count to `2 ^ 15`. -/
theorem pictureNumber_next {first second : LayeredPacket} (next : second.pictureId = (first.pictureId + 1) % 2 ^ 15) :
    (pictureNumber second).toNat = ((pictureNumber first).toNat + 1) % 2 ^ Config.pictureId.bits := by
  have value (picture : ℤ) : (UInt16.ofInt picture).toNat = (picture % 2 ^ 16).toNat := by
    rw [UInt16.ofInt, UInt16.toNat_ofNat']
    omega
  show (UInt16.ofInt second.pictureId).toNat = ((UInt16.ofInt first.pictureId).toNat + 1) % 2 ^ 15
  rw [value, value, next]
  omega

/-- **The picture of a packet that is let through** is answered for. -/
theorem Holds.picture_given (holds : Holds handler trace) (fitting : Fitting handler trace packet)
    (next : ∀ previous ∈ trace.seen (RtpHeader.getSSRC packet.data), Next previous.packet packet) :
    ∃ entry after, handler.pictureIdTranslator.get (pictureNumber packet) false = (after, entry) ∧ entry.type = .valid ∧
      after.Took (pictureNumber packet) := by
  have serial := Config.pictureId_serial
  cases started : handler.pictureIdTranslator.initialized
  · exact ⟨_, _, SequenceNumberTranslator.get_first started _, rfl,
      SequenceNumberTranslator.took_first serial holds.pictureSpanned started _⟩
  · have running : handler.translator.initialized = true := holds.together.symm.trans started
    obtain ⟨previous, seen, passed⟩ := fitting.known running
    have lastInput : handler.pictureIdTranslator.lastInput = pictureNumber previous.packet :=
      passed.elim (fun forwarded => (holds.current running previous (fitting.own ▸ seen) forwarded).2.1) fun recorded =>
        recorded.2.2
    have onward (picture : packet.pictureId = (previous.packet.pictureId + 1) % 2 ^ 15) :
        ∃ entry after, handler.pictureIdTranslator.get (pictureNumber packet) false = (after, entry) ∧
          entry.type = .valid ∧ after.Took (pictureNumber packet) := by
      have follow := pictureNumber_next picture
      rw [← lastInput] at follow
      have roomy : Config.pictureId.maxDistance.toNat + 1 < 2 ^ (Config.pictureId.bits - 4) := by decide
      exact ⟨_, _, SequenceNumberTranslator.get_next serial roomy started (holds.pictureSpanned started) follow false,
        rfl, SequenceNumberTranslator.took_next serial roomy holds.pictureSpanned started follow⟩
    rcases (next previous seen).picture with same | other
    · have here : pictureNumber packet = handler.pictureIdTranslator.lastInput := by
        rw [lastInput, pictureNumber, pictureNumber, same]
      -- a picture goes on only if the packet before this one was sent
      rcases passed with forwarded | ⟨different, -, -⟩
      · have valid := (holds.current running previous (fitting.own ▸ seen) forwarded).2.2
        rw [here]
        exact ⟨_, _, SequenceNumberTranslator.get_again serial started holds.pictureSpanned, valid.lateEntry,
          SequenceNumberTranslator.took_again serial holds.pictureSpanned started valid⟩
      · exact absurd same.symm different
    · exact onward other

/-- **After a change of the SSRC the timestamps go on** one tick after the last one. -/
theorem Holds.stamp_after (holds : Holds handler trace)
    (own : RtpHeader.getSSRC packet.data = handler.lastSsrcReceived) {last : Sent} (member : last ∈ trace.last)
    (other : last.ssrc ≠ RtpHeader.getSSRC packet.data) (sent : handler.lastTimestampSent ≠ 0)
    (timely : (RtpHeader.getTimestamp packet.data - trace.changed).toNat < 2 ^ 31 - 1) :
    0 < (RtpHeader.getTimestamp packet.data + handler.timestampOffset - last.timestamp).toNat ∧
      (RtpHeader.getTimestamp packet.data + handler.timestampOffset - last.timestamp).toNat < 2 ^ 31 := by
  obtain ⟨_, same, stamp⟩ := holds.timestamp sent
  rw [← Option.mem_unique member same] at stamp
  have offset := holds.offset sent last member (own ▸ other)
  have ticks : RtpHeader.getTimestamp packet.data + handler.timestampOffset - last.timestamp =
      RtpHeader.getTimestamp packet.data - trace.changed + 1 := by
    rw [offset, stamp]
    abel
  have value : (RtpHeader.getTimestamp packet.data - trace.changed + 1).toNat =
      (RtpHeader.getTimestamp packet.data - trace.changed).toNat + 1 := by
    rw [UInt32.toNat_add]
    exact Nat.mod_eq_of_lt (by show _ + 1 < 2 ^ 32; omega)
  rw [ticks, value]
  omega

/-- **A packet that is let through** is sent, right after the last one. -/
theorem Holds.forward (holds : Holds handler trace) (scalable : handler.isScalable = true)
    (fitting : Fitting handler trace packet)
    (next : ∀ previous ∈ trace.seen (RtpHeader.getSSRC packet.data), Next previous.packet packet) :
    ∃ sent, (handler.translate packet).2 = some sent ∧
      Holds (handler.translate packet).1 (trace.see packet (some (sentAs packet sent))) ∧
      ∀ last ∈ trace.last, Consecutive last (sentAs packet sent) := by
  have own := fitting.own
  obtain ⟨output, translator, given, took, quiet, lastOutput, number⟩ := holds.number_given fitting next
  obtain ⟨entry, pictures, answered, valid, pictureTook⟩ := holds.picture_given fitting next
  let after : QualityFilterHandler := { handler with translator, pictureIdTranslator := pictures }
  have same : handler.translate packet =
      ((after.send packet output entry.output).1, some (after.send packet output entry.output).2) := by
    unfold translate
    simp only [given, answered, valid]
    rfl
  obtain ⟨numbered, stamped⟩ := @send_header after packet output entry.output
  rw [same]
  refine ⟨_, rfl, ?_, fun last member => ⟨numbered.trans (number last member), fun other => ?_⟩⟩
  · have here : (trace.see packet (some (sentAs packet (after.send packet output entry.output).2))).seen
        handler.lastSsrcReceived = some ⟨packet, true⟩ := by
      show Function.update trace.seen _ (some ⟨packet, true⟩) _ = _
      rw [← own, Function.update_self]
    refine ⟨holds.enabled, took.spanned, pictureTook.spanned, quiet,
      pictureTook.initialized.trans took.initialized.symm, fun raw => absurd (scalable.symm.trans raw) (by decide),
      fun _ => ⟨_, rfl, numbered.trans lastOutput.symm⟩,
      fun waiting => absurd (took.initialized.symm.trans waiting) (by decide), fun _ => ⟨_, rfl, own⟩,
      fun _ previous seen _ => ?_, fun _ => ⟨_, rfl, stamped⟩, fun _ last member other => ?_⟩
    · rw [Option.mem_unique seen here]
      exact ⟨took.lastInput, pictureTook.lastInput, pictureTook.valid⟩
    · rw [← Option.mem_unique (show sentAs packet _ ∈ _ from rfl) member] at other
      exact absurd own other
  · obtain ⟨before, ticks⟩ := fitting.timely last member other
    show 0 < (RtpHeader.getTimestamp (after.send packet output entry.output).2.data - last.timestamp).toNat ∧
      (RtpHeader.getTimestamp (after.send packet output entry.output).2.data - last.timestamp).toNat < 2 ^ 31
    rw [stamped]
    exact holds.stamp_after own member other before ticks

/-- **A packet that goes on as it is.** -/
theorem Holds.pass (holds : Holds handler trace) (raw : handler.isScalable = false) (continues : Continues trace packet)
    (next : ∀ previous ∈ trace.seen (RtpHeader.getSSRC packet.data), Next previous.packet packet) :
    Holds handler (trace.see packet (some (sentAs packet packet))) ∧
      ∀ last ∈ trace.last, Consecutive last (sentAs packet packet) := by
  obtain ⟨waiting, first, unsent⟩ := holds.raw raw
  have here : (trace.see packet (some (sentAs packet packet))).seen (RtpHeader.getSSRC packet.data) =
      some ⟨packet, true⟩ := Function.update_self ..
  refine ⟨⟨holds.enabled, holds.spanned, holds.pictureSpanned, holds.quiet, holds.together, holds.raw,
    fun started => ?_, fun _ _ last member previous seen _ => ?_, fun started =>
      absurd (waiting.symm.trans started) (by decide),
    fun started => absurd (waiting.symm.trans started) (by decide), fun sent => absurd unsent sent,
    fun sent => absurd unsent sent⟩, fun last member => ?_⟩
  · rw [waiting, first, or_self] at started
    exact absurd started Bool.false_ne_true
  · obtain rfl := Option.mem_unique (show sentAs packet packet ∈ _ from rfl) member
    rw [Option.mem_unique seen here]
    rfl
  · obtain ⟨ssrc, previous, seen, forwarded⟩ := continues last member
    refine ⟨?_, fun other => absurd ssrc other⟩
    show RtpHeader.getSeqNumber packet.data = _
    rw [(next previous seen).number, holds.fresh waiting first last member previous (ssrc ▸ seen) forwarded]

end Forward

/-! ### Calls -/

section Calls

variable {trace : Trace}

theorem translate_lastSsrcReceived (handler : QualityFilterHandler) (packet : LayeredPacket) :
    (handler.translate packet).1.lastSsrcReceived = handler.lastSsrcReceived := by
  unfold translate
  simp only
  split
  · rfl
  · split
    · rfl
    · rfl

/-- The filter with what a change of the SSRC in use is remembered by. -/
def Filtered (handler : QualityFilterHandler) (trace : Trace) (packet : LayeredPacket)
    (result : QualityFilterHandler × Option LayeredPacket) : Prop :=
  Holds result.1 ((trace.switch packet (decide (result.1.lastSsrcReceived ≠ handler.lastSsrcReceived))).see packet
      (result.2.map (sentAs packet))) ∧
    ∀ sent ∈ result.2.map (sentAs packet), ∀ last ∈ trace.last, Consecutive last sent

/-- A packet that is not sent, of the SSRC in use or of another one. -/
theorem filtered_none {after : QualityFilterHandler} (same : after.lastSsrcReceived = handler.lastSsrcReceived)
    (holds : Holds after (trace.see packet none)) : Filtered handler trace packet (after, none) := by
  refine ⟨?_, fun sent absent => absurd absent (Option.not_mem_none _)⟩
  show Holds after ((trace.switch packet (decide (after.lastSsrcReceived ≠ _))).see packet none)
  rw [same, decide_eq_false (not_not_intro rfl), Trace.switch_false]
  exact holds

/-- **A packet of a video that has layers.** -/
theorem Holds.filter (holds : Holds handler trace) (scalable : handler.isScalable = true)
    (fits : Fits handler trace packet)
    (next : ∀ previous ∈ trace.seen (RtpHeader.getSSRC packet.data), Next previous.packet packet) :
    Filtered handler trace packet (handler.filter packet) := by
  unfold QualityFilterHandler.filter
  cases spatial : packet.belongsToSpatialLayer handler.targetSpatialLayer
  · simp only [Bool.not_false, if_true]
    cases several : handler.receivingMultipleSsrc
    · exact filtered_none rfl (holds.skip scalable (fits.own spatial several))
    · exact filtered_none rfl (holds.drop packet)
  obtain ⟨ssrc, kept, -, -, layer⟩ := followSsrc_kept handler packet
  have follows := @Holds.follow handler packet trace holds scalable
  have running := kept.trans scalable
  simp only [Bool.not_true, if_neg Bool.false_ne_true, layer]
  cases temporal : packet.belongsToTemporalLayer handler.targetTemporalLayer
  · simp only [Bool.not_false, if_true]
    refine ⟨?_, fun sent absent => absurd absent (Option.not_mem_none _)⟩
    have skipped := follows.skip running fun _ => ssrc.symm
    rw [← ssrc] at skipped
    exact skipped
  · simp only [Bool.not_true, if_neg Bool.false_ne_true]
    have through : handler.letsThrough packet = true := by
      rw [letsThrough, spatial, temporal]
      rfl
    obtain ⟨sent, given, after, consecutive⟩ := follows.forward running (fits.follow through) next
    unfold Filtered
    rw [given, translate_lastSsrcReceived, ssrc]
    refine ⟨after, fun other member => ?_⟩
    rw [← Option.mem_unique (show sentAs packet sent ∈ _ from rfl) member]
    exact consecutive

theorem step_other {call : Call} (other : isVideoRtp call.packet = false) :
    handler.step call = (handler.detectVideoScalability call.packet, none) := by
  unfold step write
  simp only [other, Bool.and_false, if_neg Bool.false_ne_true]

theorem step_raw {call : Call} (video : isVideoRtp call.packet = true)
    (raw : (handler.detectVideoScalability call.packet).isScalable = false) :
    handler.step call = (handler, some (sentAs call.packet call.packet)) := by
  unfold step write
  simp only [video, detect_of_raw raw] at raw ⊢
  simp only [raw, Bool.false_and, if_neg Bool.false_ne_true, if_true]
  rfl

theorem step_layers {call : Call} (video : isVideoRtp call.packet = true)
    (scalable : (handler.detectVideoScalability call.packet).isScalable = true) (enabled : handler.enabled = true) :
    handler.step call = (((handler.ready call).filter call.packet).1,
      ((handler.ready call).filter call.packet).2.map (sentAs call.packet)) := by
  have still := (frame_detect handler call.packet).enabled.trans enabled
  unfold step write
  simp only [video, scalable, still, Bool.and_self, if_true]
  rfl

/-- The call after the last packet of its source. -/
def After (state : QualityFilterHandler × Trace) (call : Call) : Prop :=
  isVideoRtp call.packet = true → ∀ previous ∈ state.2.seen (RtpHeader.getSSRC call.packet.data),
    Next previous.packet call.packet

/-- **What one call keeps, and what it sends.** -/
theorem Holds.call {state : QualityFilterHandler × Trace} {call : Call} (holds : Holds state.1 state.2)
    (steady : Steady state call) (after : After state call) :
    Holds (traced state call).1.1 (traced state call).1.2 ∧
      ∀ sent ∈ (traced state call).2, ∀ last ∈ state.2.last, Consecutive last sent := by
  obtain ⟨handler, trace⟩ := state
  have detected := frame_detect handler call.packet
  unfold traced
  cases video : isVideoRtp call.packet
  · simp only [step_other video, if_neg Bool.false_ne_true]
    refine ⟨holds.frame detected fun raw => ?_, fun sent absent => absurd absent (Option.not_mem_none _)⟩
    exact (congrArg isScalable (detect_of_raw raw)).symm.trans raw
  have next := after video
  have fits := steady video
  simp only at fits
  cases raw : (handler.detectVideoScalability call.packet).isScalable
  · rw [raw, if_neg Bool.false_ne_true] at fits
    obtain ⟨kept, consecutive⟩ := holds.pass (detect_of_raw raw ▸ raw) fits next
    simp only [step_raw video raw, ne_eq, not_true, decide_false, Trace.switch_false, if_true]
    refine ⟨kept, fun sent member => ?_⟩
    rw [← Option.mem_unique (show sentAs call.packet call.packet ∈ _ from rfl) member]
    exact consecutive
  · rw [raw, if_pos rfl] at fits
    obtain ⟨prepared, scalable⟩ := frame_prepare (handler.detectVideoScalability call.packet) call.packet call.situation
    have frame : Frame handler (handler.ready call) := detected.trans prepared
    have running : (handler.ready call).isScalable = true := scalable.trans raw
    have ready : Holds (handler.ready call) trace :=
      holds.frame frame fun still => absurd (running.symm.trans still) (by decide)
    have filtered := ready.filter running fits next
    unfold Filtered at filtered
    rw [frame.lastSsrcReceived] at filtered
    simp only [step_layers video raw holds.enabled, if_true]
    exact filtered

end Calls

/-! ### Runs -/

/-- What a packet is remembered as. -/
theorem see_seen (trace : Trace) (packet : LayeredPacket) (sent : Option Sent) (ssrc : UInt32) :
    ((trace.see packet sent).seen ssrc).map Seen.packet =
      if RtpHeader.getSSRC packet.data = ssrc then some packet else (trace.seen ssrc).map Seen.packet := by
  show Option.map Seen.packet
    (Function.update trace.seen (RtpHeader.getSSRC packet.data) (some ⟨packet, sent.isSome⟩) ssrc) = _
  by_cases same : RtpHeader.getSSRC packet.data = ssrc
  · rw [if_pos same, same, Function.update_self]
    rfl
  · rw [if_neg same, Function.update_of_ne (Ne.symm same)]

theorem traced_seen (state : QualityFilterHandler × Trace) (call : Call) (ssrc : UInt32) :
    ((traced state call).1.2.seen ssrc).map Seen.packet =
      if isVideoRtp call.packet && RtpHeader.getSSRC call.packet.data = ssrc then some call.packet
      else (state.2.seen ssrc).map Seen.packet := by
  unfold traced
  cases video : isVideoRtp call.packet
  · rfl
  · simp only [if_true, see_seen, Bool.true_and, decide_eq_true_eq]
    rfl

/-- **Where the sources are in order**, a packet comes after the last one of its source. -/
theorem guarded_after (calls : List Call) (state : QualityFilterHandler × Trace)
    (ordered : ∀ ssrc, (((state.2.seen ssrc).map Seen.packet).toList ++ ofSource ssrc (calls.map Call.packet)).IsChain
      Next) : Machine.Guarded traced After state calls := by
  induction calls generalizing state with
  | nil => trivial
  | cons call rest ih =>
      refine ⟨fun video previous seen => ?_, ih _ fun ssrc => ?_⟩
      · have chain := ordered (RtpHeader.getSSRC call.packet.data)
        rw [Option.mem_def.mp seen, List.map_cons, ofSource, List.filter_cons_of_pos (by simp [video])] at chain
        exact (List.isChain_cons_cons.mp chain).1
      · have chain := ordered ssrc
        rw [traced_seen]
        cases own : isVideoRtp call.packet && decide (RtpHeader.getSSRC call.packet.data = ssrc)
        · rw [List.map_cons, ofSource, List.filter_cons_of_neg (by simp [own])] at chain
          rw [if_neg Bool.false_ne_true]
          exact chain
        · rw [List.map_cons, ofSource, List.filter_cons_of_pos (by exact own)] at chain
          rw [if_pos rfl]
          exact (List.isChain_append.mp chain).2.1

/-- What is remembered does not matter to what is sent. -/
theorem outputs_traced (calls : List Call) (state : QualityFilterHandler × Trace) :
    Machine.outputs traced state calls = Machine.outputs step state.1 calls := by
  induction calls generalizing state with
  | nil => rfl
  | cons call rest ih => exact congrArg ((state.1.step call).2 :: ·) (ih _)

/-- **The packets sent are consecutive** where every call is steady. -/
theorem consecutive (now : ℤ) (videoSinkSsrc videoSourceSsrc : UInt32) (calls : List Call)
    (ordered : InOrder (calls.map Call.packet))
    (steady : Machine.Guarded traced Steady (create now videoSinkSsrc videoSourceSsrc, {}) calls) :
    (sentBy (create now videoSinkSsrc videoSourceSsrc) calls).IsChain Consecutive := by
  have after := guarded_after calls (create now videoSinkSsrc videoSourceSsrc, {}) fun ssrc => ordered ssrc
  have chain := @Machine.Guarded.isChain_outputs _ _ _ traced _ (fun state call => Steady state call ∧ After state call)
    (fun state => Holds state.1 state.2) (fun state => state.2.last) id Consecutive
    (fun state call guard holds => (holds.call guard.1 guard.2).1) (fun state call guard holds => ?_) _ _
    (steady.and after) (holds_create now videoSinkSsrc videoSourceSsrc)
  · rw [outputs_traced, List.map_id] at chain
    exact chain
  · have sends := (holds.call guard.1 guard.2).2
    have remembered : (traced state call).1.2.last = (traced state call).2.or state.2.last := by
      unfold traced
      cases video : isVideoRtp call.packet
      · simp only [step_other video, Option.none_or, if_neg Bool.false_ne_true]
      · rfl
    rw [remembered]
    cases given : (traced state call).2 with
    | none => exact Or.inl ⟨rfl, Option.none_or⟩
    | some sent => exact Or.inr ⟨sent, rfl, rfl, sends sent given⟩

/-- A packet that shows some layers. -/
def layerPacket (ssrc number : UInt8) (pictureId : ℤ) (spatialLayers temporalLayers : List ℤ) : LayeredPacket where
  toDataPacket := videoPacket [0x80, 96, 0, number, 0, 0, 0, 9, 0, 0, 0, ssrc, 0]
  isKeyframe := true
  codec := "VP9"
  compatibleSpatialLayers := spatialLayers
  compatibleTemporalLayers := temporalLayers
  endingOfLayerFrame := false
  pictureId
  tl0PicIdx := 0

/-- A packet of the upper temporal layer is dropped, and then the video comes from another SSRC. -/
theorem consecutive_otherSsrc : (sentBy (create 0 77 5)
    [⟨layerPacket 5 1 1 [0] [0, 1], ⟨0, 0, 0, 0⟩⟩, ⟨layerPacket 5 2 2 [0] [1], ⟨0, 0, 0, 0⟩⟩,
      ⟨layerPacket 5 3 3 [0] [0, 1], ⟨0, 0, 0, 0⟩⟩, ⟨layerPacket 6 1 1 [1] [0, 1], ⟨1, 0, 0, 0⟩⟩]).IsChain
    Consecutive :=
  consecutive 0 77 5 _ (by decide) (by decide)

/-- The layers change inside a picture: the number of its second packet is lost. -/
theorem not_consecutive_midPicture : ¬ ∀ (now : ℤ) (videoSinkSsrc videoSourceSsrc : UInt32) (calls : List Call),
    InOrder (calls.map Call.packet) →
      (sentBy (create now videoSinkSsrc videoSourceSsrc) calls).IsChain Consecutive := by
  intro always
  have chain := always 0 77 5 [⟨layerPacket 5 1 1 [0] [0, 1], ⟨0, 0, 0, 0⟩⟩, ⟨layerPacket 5 2 2 [0] [1], ⟨0, 0, 0, 0⟩⟩,
    ⟨layerPacket 5 3 2 [0] [1], ⟨0, 1, 0, 0⟩⟩, ⟨layerPacket 5 4 3 [0] [0, 1], ⟨0, 1, 0, 0⟩⟩] (by decide)
  revert chain
  decide

end QualityFilterHandler

end Erizo
