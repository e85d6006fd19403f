/-
**What a publisher sends reaches every subscriber.**

The subscribers are a map from peers, on which only the last call about a peer counts (`subscribers_eq`). The SSRC that is
set for one subscriber is not left for the next one, although both are handed the same packet (`deliverLoop_eq`).

* `video_fans_out`: a video packet is handed to every current subscriber once, with the SSRC of that subscriber.
* `audio_fans_out`: so is an audio packet; but in RTCP that is not the word that was to be set.
* `feedback_returns_iff`: every SSRC in feedback is translated, and what a subscriber says of a stream is heard of that
  stream exactly if it is the first one of the publisher, unless its SSRC is also that of somebody's audio.
-/

import Erizo.Library.Machine
import Erizo.Model.OneToManyProcessor
import Erizo.Proof.RtcpWalk

namespace Erizo

open Library Library.Bytes StringUtil RtpUtils

namespace OneToManyProcessor

/-! ### The subscribers and the publisher of a run -/

/-- What a call makes of the subscriber of a peer. -/
def heed (peer : Text) (current : Option MediaSink) : Event → Option MediaSink
  | .addSubscriber sink peerId => if peerId = peer then some sink else current
  | .removeSubscriber peerId => if peerId = peer then none else current
  | .clear => none
  | _ => current

/-- The subscriber of a peer after a run. -/
def subscriber (peer : Text) (events : List Event) : Option MediaSink := events.foldl (heed peer) none

/-- What a call makes of the publisher. -/
def succeed (current : Option MediaSource) : Event → Option MediaSource
  | .setPublisher publisherStream => some publisherStream
  | .letGo => none
  | _ => current

/-- The publisher after a run. -/
def source (events : List Event) : Option MediaSource := events.foldl succeed none

/-- The state after a run. -/
def after (events : List Event) : OneToManyProcessor := Machine.run step create events

theorem after_concat (events : List Event) (event : Event) :
    after (events ++ [event]) = (step (after events) event).1 := by
  rw [after, Machine.run_append]
  rfl

/-- **The subscribers are those of the last calls about their peers.** -/
theorem subscribers_eq (peer : Text) (events : List Event) :
    (after events).subscribers[peer]? = subscriber peer events := by
  induction events using List.reverseRecOn with
  | nil => exact Std.ExtTreeMap.getElem?_empty
  | append_singleton events event ih =>
      rw [after_concat, subscriber, List.foldl_concat]
      replace ih : (after events).subscribers[peer]? = events.foldl (heed peer) none := ih
      rw [← ih]
      cases event with
      | addSubscriber sink peerId =>
          show (((after events).subscribers.erase peerId).insert peerId sink)[peer]? = if peerId = peer then _ else _
          rw [Std.ExtTreeMap.getElem?_insert, Std.ExtTreeMap.getElem?_erase]
          by_cases same : peerId = peer
          · rw [if_pos same, if_pos (Std.LawfulEqCmp.compare_eq_iff_eq.mpr same)]
          · have other : ¬compare peerId peer = .eq := fun equal => same (Std.LawfulEqCmp.compare_eq_iff_eq.mp equal)
            rw [if_neg same, if_neg other, if_neg other]
      | removeSubscriber peerId =>
          show ((after events).subscribers.erase peerId)[peer]? = if peerId = peer then _ else _
          rw [Std.ExtTreeMap.getElem?_erase]
          exact if_congr Std.LawfulEqCmp.compare_eq_iff_eq rfl rfl
      | clear => exact Std.ExtTreeMap.getElem?_empty
      | _ => rfl

theorem publisher_eq (events : List Event) : (after events).publisher = source events := by
  induction events using List.reverseRecOn with
  | nil => rfl
  | append_singleton events event ih =>
      rw [after_concat, source, List.foldl_concat]
      replace ih : (after events).publisher = events.foldl succeed none := ih
      rw [← ih]
      cases event <;> rfl

/-! ### One packet for all -/

/-- **What was set for one subscriber does not matter for the next.** -/
theorem deliverLoop_eq {setSSRC : MediaSink → Memory → Memory} (deliver : MediaSink → DataPacket → Delivery)
    (packet : DataPacket) (forgets : ∀ first second data, setSSRC second (setSSRC first data) = setSSRC second data)
    (data : Memory) (sinks : List MediaSink) :
    deliverLoop setSSRC deliver packet data sinks =
      sinks.map fun sink => deliver sink { packet with data := setSSRC sink data } := by
  induction sinks generalizing data with
  | nil => rfl
  | cons sink sinks ih =>
      rw [deliverLoop, ih, List.map_cons]
      simp only [forgets]

theorem isRtcp_setVideoSSRC (data : Memory) (ssrc : UInt32) :
    RtcpHeader.isRtcp (setVideoSSRC data ssrc) 0 = RtcpHeader.isRtcp data 0 := by
  have same : setVideoSSRC data ssrc 1 = data 1 := by
    unfold setVideoSSRC
    split
    · exact write32_of_disjoint _ _ (by omega)
    · exact write32_of_disjoint _ _ (by omega)
  unfold RtcpHeader.isRtcp RtcpHeader.getPacketType
  rw [Nat.zero_add, same]

theorem setVideoSSRC_setVideoSSRC (data : Memory) (first second : UInt32) :
    setVideoSSRC (setVideoSSRC data first) second = setVideoSSRC data second := by
  have same := isRtcp_setVideoSSRC data first
  by_cases rtcp : RtcpHeader.isRtcp data 0 = true
  · rw [setVideoSSRC, if_pos (same.trans rtcp), setVideoSSRC, if_pos rtcp, setVideoSSRC, if_pos rtcp]
    exact write32_write32 data _ _ _
  · rw [setVideoSSRC, if_neg (same ▸ rtcp), setVideoSSRC, if_neg rtcp, setVideoSSRC, if_neg rtcp]
    exact write32_write32 data _ _ _

/-! ### What a run delivers -/

section FanOut

/-- What a call does for each of the peers that have a subscriber. -/
def forEach (peers : List Text) (events : List Event) (deliver : MediaSink → Delivery) : List Delivery :=
  peers.filterMap fun peer => (subscriber peer events).map deliver

/-- The peers that have a subscriber, each once. -/
structure Peers (peers : List Text) (events : List Event) : Prop where
  nodup : peers.Nodup
  mem_iff : ∀ peer, peer ∈ peers ↔ (subscriber peer events).isSome = true

/-- The keys of the map are the peers, and its values their subscribers. -/
theorem keys_peers (events : List Event) : Peers (after events).subscribers.keys events where
  nodup := Std.ExtTreeMap.nodup_keys
  mem_iff := fun peer => by
    rw [Std.ExtTreeMap.mem_keys, ← subscribers_eq, Std.ExtTreeMap.isSome_getElem?_iff_mem]

theorem map_sinks (events : List Event) (deliver : MediaSink → Delivery) :
    (after events).sinks.map deliver = forEach (after events).subscribers.keys events deliver := by
  have keys : (after events).subscribers.keys = (after events).subscribers.toList.map Prod.fst :=
    Std.ExtTreeMap.map_fst_toList_eq_keys.symm
  rw [forEach, keys, sinks, List.map_map, List.filterMap_map, ← List.filterMap_eq_map]
  refine List.filterMap_congr fun entry member => ?_
  have found : subscriber entry.1 events = some entry.2 := by
    rw [← subscribers_eq]
    exact Std.ExtTreeMap.mem_toList_iff_getElem?_eq_some.mp member
  rw [Function.comp_apply, Function.comp_apply, Function.comp_apply, found]
  rfl

/-- The SSRC that a subscriber is sent for one of a publisher: as far from its own as that is from the first one. -/
def sentSSRC (publisher : MediaSource) (subscriber : MediaSink) (ssrc : UInt32) : UInt32 :=
  subscriber.videoSinkSSRC + (ssrc - publisher.getVideoSourceSSRC)

theorem deliverVideoData_eq (events : List Event) {publisher : MediaSource} (published : source events = some publisher)
    {packet : DataPacket} (long : 0 < packet.length) (media : RtcpHeader.isFeedback packet.data 0 = false) :
    (after events).deliverVideoData packet =
      some (forEach (after events).subscribers.keys events fun sink => .video sink { packet with
        data := setVideoSSRC packet.data (sentSSRC publisher sink (getVideoSSRC packet.data)) }) := by
  unfold deliverVideoData
  rw [if_neg (not_le.mpr long), media, if_neg Bool.false_ne_true, translateAndMaybeAdaptForSimulcast, publisher_eq,
    published, ← map_sinks]
  split
  · next empty =>
      have none : (after events).subscribers = ∅ := Std.ExtTreeMap.isEmpty_iff.mp empty
      rw [sinks, none]
      rfl
  · rw [Option.map_some, Option.bind_eq_bind, Option.bind_some, deliverLoop_eq]
    · rfl
    · exact fun _ _ data => setVideoSSRC_setVideoSSRC data _ _

/-- **A video packet reaches every subscriber once.** It is the packet of the publisher but for its SSRC. -/
theorem video_fans_out (events : List Event) {publisher : MediaSource} (published : source events = some publisher)
    {packet : DataPacket} (long : 0 < packet.length) (media : RtcpHeader.isFeedback packet.data 0 = false) :
    ∃ peers, Peers peers events ∧ (after events).deliverVideoData packet =
      some (forEach peers events fun sink => .video sink { packet with
        data := setVideoSSRC packet.data (sentSSRC publisher sink (getVideoSSRC packet.data)) }) :=
  ⟨_, keys_peers events, deliverVideoData_eq events published long media⟩

/-- A publisher with two layers, and the calls that make two subscribers of it, one of them twice, and a third who
leaves. -/
def layered : MediaSource := ⟨7, [1000, 1001], some 1⟩

def meeting : List Event :=
  [.setPublisher layered, .addSubscriber ⟨1, 71, 100, none⟩ ['a'], .addSubscriber ⟨2, 72, 200, none⟩ ['b'],
    .addSubscriber ⟨3, 73, 300, none⟩ ['a'], .addSubscriber ⟨4, 74, 400, none⟩ ['c'], .removeSubscriber ['c']]

/-- A packet of the second layer. -/
def secondLayer : DataPacket := Erizo.videoPacket ([0x80, 100, 0, 5, 0, 0, 0, 9] ++ encode32 1001 ++ [1, 2, 3])

theorem video_fans_out_meeting : ∃ peers, Peers peers meeting ∧ (after meeting).deliverVideoData secondLayer =
    some (forEach peers meeting fun sink => .video sink { secondLayer with
      data := setVideoSSRC secondLayer.data (sentSSRC layered sink (getVideoSSRC secondLayer.data)) }) :=
  video_fans_out meeting rfl (by decide) (by decide)

theorem deliverAudioData_eq (events : List Event) {packet : DataPacket} (long : 0 < packet.length) :
    (after events).deliverAudioData packet =
      forEach (after events).subscribers.keys events fun sink => .audio sink { packet with
        data := RtpHeader.setSSRC packet.data sink.audioSinkSSRC } := by
  rw [deliverAudioData, if_neg (not_le.mpr long), ← map_sinks, deliverLoop_eq]
  exact fun _ _ data => write32_write32 data _ _ _

/-- **So does an audio packet**, with the SSRC of the subscriber where RTP has it: in RTCP the SSRC of the sender is still
that of the publisher. -/
theorem audio_fans_out (events : List Event) {packet : DataPacket} (long : 0 < packet.length) :
    ∃ peers, Peers peers events ∧ (after events).deliverAudioData packet =
        (forEach peers events fun sink => .audio sink { packet with
          data := RtpHeader.setSSRC packet.data sink.audioSinkSSRC }) ∧
      ∀ peer sink, subscriber peer events = some sink → ∃ delivered,
        Delivery.audio sink delivered ∈ (after events).deliverAudioData packet ∧
        RtpHeader.getSSRC delivered.data = sink.audioSinkSSRC ∧
        RtcpHeader.getSSRC delivered.data 0 = RtcpHeader.getSSRC packet.data 0 := by
  have fanned := deliverAudioData_eq events long
  refine ⟨_, keys_peers events, fanned, fun peer sink found =>
    ⟨{ packet with data := RtpHeader.setSSRC packet.data sink.audioSinkSSRC }, ?_, ?_, ?_⟩⟩
  · rw [fanned]
    exact List.mem_filterMap.mpr ⟨peer, ((keys_peers events).mem_iff peer).mpr (Option.isSome_of_eq_some found),
      by rw [found, Option.map_some]⟩
  · exact read32_write32 packet.data _ _
  · exact read32_write32_of_disjoint packet.data _ (Or.inl (Nat.le_refl 8))

theorem audio_fans_out_meeting : ∃ peers, Peers peers meeting ∧ (after meeting).deliverAudioData secondLayer =
      (forEach peers meeting fun sink => .audio sink { secondLayer with
        data := RtpHeader.setSSRC secondLayer.data sink.audioSinkSSRC }) ∧
    ∀ peer sink, subscriber peer meeting = some sink → ∃ delivered,
      Delivery.audio sink delivered ∈ (after meeting).deliverAudioData secondLayer ∧
      RtpHeader.getSSRC delivered.data = sink.audioSinkSSRC ∧
      RtcpHeader.getSSRC delivered.data 0 = RtcpHeader.getSSRC secondLayer.data 0 :=
  audio_fans_out meeting (by decide)

end FanOut

/-! ### Feedback -/

section Feedback

open RtcpHeader

theorem feedbackSink_eq (events : List Event) :
    (after events).feedbackSink = (source events).bind MediaSource.feedbackSink := by
  induction events using List.reverseRecOn with
  | nil => rfl
  | append_singleton events event ih =>
      rw [after_concat, source, List.foldl_concat]
      replace ih : (after events).feedbackSink = (events.foldl succeed none).bind MediaSource.feedbackSink := ih
      cases event <;> first | rfl | exact ih

variable (processor : OneToManyProcessor) (publisher : MediaSource)

/-- A block of feedback, rewritten. -/
def rewrite (chead : ℕ) (data : Memory) : Memory :=
  let rembs :=
    if isREMB data chead then
      mapWords (processor.sourceSSRC publisher) data (chead + 20) (getREMBNumSSRC data chead).toNat
    else data
  setSourceSSRC rembs chead (processor.sourceSSRC publisher (getSourceSSRC rembs chead))

theorem translateBlock_eq (published : processor.publisher = some publisher) :
    processor.translateBlock = fun chead data => some (processor.rewrite publisher chead data) := by
  funext chead data
  unfold translateBlock
  rw [published]
  rfl

/-- A block has room for the SSRCs that are in it. -/
structure Contained (data : Memory) (block : ℕ) : Prop where
  source : 12 ≤ blockLength data block
  rembs : isREMB data block = true → 20 + 4 * (getREMBNumSSRC data block).toNat ≤ blockLength data block

/-- An address that is not one of an SSRC in a block. -/
structure Spared (data : Memory) (block address : ℕ) : Prop where
  source : address < block + 8 ∨ block + 12 ≤ address
  rembs : isREMB data block = true →
    address < block + 20 ∨ block + 20 + 4 * (getREMBNumSSRC data block).toNat ≤ address

section Congr

variable {first second : Memory} {block : ℕ} (same : ∀ address, block ≤ address → first address = second address)
include same

theorem isREMB_congr : isREMB first block = isREMB second block := by
  unfold isREMB getPacketType getBlockCount
  rw [same block (by omega), same (block + 1) (by omega)]

theorem getREMBNumSSRC_congr : getREMBNumSSRC first block = getREMBNumSSRC second block := same _ (by omega)

theorem contained_congr (contained : Contained first block) : Contained second block where
  source := by
    rw [← blockLength_congr same]
    exact contained.source
  rembs := by
    rw [← isREMB_congr same, ← getREMBNumSSRC_congr same, ← blockLength_congr same]
    exact contained.rembs

theorem rewrite_congr {address : ℕ} (above : block ≤ address) :
    processor.rewrite publisher block first address = processor.rewrite publisher block second address := by
  have rembs : ∀ address, block ≤ address →
      (if isREMB first block then
        mapWords (processor.sourceSSRC publisher) first (block + 20) (getREMBNumSSRC first block).toNat
        else first) address =
      (if isREMB second block then
        mapWords (processor.sourceSSRC publisher) second (block + 20) (getREMBNumSSRC second block).toNat
        else second) address := by
    intro address above
    rw [isREMB_congr same, getREMBNumSSRC_congr same]
    split
    · rcases Nat.lt_or_ge address (block + 20) with before | after
      · rw [mapWords_of_disjoint _ _ _ (Or.inl before), mapWords_of_disjoint _ _ _ (Or.inl before)]
        exact same address above
      · exact mapWords_congr _ _ (fun other low => same other (by omega)) _ address after
    · exact same address above
  unfold rewrite setSourceSSRC getSourceSSRC
  rw [read32_congr fun other low _ => rembs other (by omega)]
  exact copy_congr (rembs address above) _ _

end Congr

variable {data : Memory} {block : ℕ}

theorem rewrite_of_spared {address : ℕ} (spared : Spared data block address) :
    processor.rewrite publisher block data address = data address := by
  unfold rewrite setSourceSSRC
  rw [write32_of_disjoint _ _ (by have := spared.source; omega)]
  split
  · next remb => exact mapWords_of_disjoint _ _ _ (spared.rembs remb)
  · rfl

theorem getSourceSSRC_rewrite :
    getSourceSSRC (processor.rewrite publisher block data) block =
      processor.sourceSSRC publisher (getSourceSSRC data block) := by
  unfold rewrite getSourceSSRC setSourceSSRC
  rw [read32_write32]
  split
  · rw [read32_congr fun other low high => mapWords_of_disjoint _ _ _ (Or.inl (by omega))]
  · rfl

theorem getREMBFeedSSRC_rewrite (remb : isREMB data block = true) {index : ℕ}
    (below : index < (getREMBNumSSRC data block).toNat) :
    getREMBFeedSSRC (processor.rewrite publisher block data) block index =
      processor.sourceSSRC publisher (getREMBFeedSSRC data block index) := by
  unfold rewrite getREMBFeedSSRC setSourceSSRC
  rw [read32_write32_of_disjoint _ _ (by omega), if_pos remb, read32_mapWords, if_pos below]

/-- Feedback as it reaches the publisher: every SSRC in it is translated, and nothing else is changed. -/
structure Translated (data final : Memory) (blocks : List ℕ) : Prop where
  sources : ∀ block ∈ blocks,
    getSourceSSRC final block = processor.sourceSSRC publisher (getSourceSSRC data block)
  rembs : ∀ block ∈ blocks, isREMB data block = true → ∀ index < (getREMBNumSSRC data block).toNat,
    getREMBFeedSSRC final block index = processor.sourceSSRC publisher (getREMBFeedSSRC data block index)
  rest : ∀ address, (∀ block ∈ blocks, Spared data block address) → final address = data address

theorem Contained.inside (contained : Contained data block) {address : ℕ}
    (away : address < block ∨ block + blockLength data block ≤ address) :
    processor.rewrite publisher block data address = data address := by
  refine rewrite_of_spared processor publisher ⟨?_, fun remb => ?_⟩
  · have room := contained.source
    omega
  · have room := contained.rembs remb
    omega

theorem translate (len : ℤ) (contained : ∀ block ∈ rtcpBlocks data len, Contained data block) :
    ∃ final, forEachRtcpBlock id len (fun chead data => some (processor.rewrite publisher chead data)) data =
      some final ∧ processor.Translated publisher data final (rtcpBlocks data len) := by
  unfold forEachRtcpBlock
  by_cases rtcp : isRtcp data 0 = true
  · have blocks : rtcpBlocks data len = rtcpBlocksFrom data len (len.toNat + 1) 0 := if_pos rtcp
    rw [blocks] at contained ⊢
    obtain ⟨final, walked, outside, within⟩ := @blockLoop_each (processor.rewrite publisher) Contained
      (fun same => ⟨contained_congr same, fun address above => rewrite_congr processor publisher same above⟩)
      (fun contained address away => contained.inside processor publisher away) len (len.toNat + 1) 0 data contained
    refine ⟨final, (if_pos rtcp).trans walked, fun block member => ?_, fun block member remb index below => ?_,
      fun address spared => ?_⟩
    · have room := (contained block member).source
      rw [← getSourceSSRC_rewrite]
      exact read32_congr fun address above below => within block member address (by omega) (by omega)
    · have room := (contained block member).rembs remb
      rw [← getREMBFeedSSRC_rewrite _ _ remb below]
      exact read32_congr fun address above below => within block member address (by omega) (by omega)
    · by_cases inside : ∃ block ∈ rtcpBlocksFrom data len (len.toNat + 1) 0,
        block ≤ address ∧ address < block + blockLength data block
      · obtain ⟨block, member, above, below⟩ := inside
        rw [within block member address above below]
        exact rewrite_of_spared _ _ (spared block member)
      · refine outside address fun block member => ?_
        by_contra neither
        rw [not_or, not_lt, not_le] at neither
        exact inside ⟨block, member, neither⟩
  · have blocks : rtcpBlocks data len = [] := if_neg rtcp
    rw [blocks]
    exact ⟨data, if_neg rtcp, fun _ absent => absurd absent List.not_mem_nil,
      fun _ absent => absurd absent List.not_mem_nil, fun _ _ => rfl⟩

/-- The SSRC of the audio of somebody. -/
def IsAudio (events : List Event) (ssrc : UInt32) : Prop :=
  ∃ peer sink, subscriber peer events = some sink ∧ sink.audioSinkSSRC = ssrc

theorem isSSRCFromAudio_iff (events : List Event) (ssrc : UInt32) :
    (after events).isSSRCFromAudio ssrc = true ↔ IsAudio events ssrc := by
  rw [isSSRCFromAudio, List.any_eq_true]
  constructor
  · rintro ⟨sink, member, same⟩
    obtain ⟨entry, found, rfl⟩ := List.mem_map.mp member
    exact ⟨entry.1, entry.2, (subscribers_eq _ _).symm.trans (Std.ExtTreeMap.mem_toList_iff_getElem?_eq_some.mp found),
      beq_iff_eq.mp same⟩
  · rintro ⟨peer, sink, found, same⟩
    refine ⟨sink, List.mem_map.mpr ⟨(peer, sink), ?_, rfl⟩, beq_iff_eq.mpr same⟩
    exact Std.ExtTreeMap.mem_toList_iff_getElem?_eq_some.mpr ((subscribers_eq _ _).trans found)

/-- Feedback reaches the publisher with every SSRC translated. -/
theorem deliverFeedback_translated (events : List Event) {publisher : MediaSource} {sink : ℕ}
    (published : source events = some publisher) (listening : publisher.feedbackSink = some sink) {packet : DataPacket}
    (contained : ∀ block ∈ rtcpBlocks packet.data packet.length, Contained packet.data block) :
    ∃ final, (after events).deliverFeedback packet = some [.feedback sink { packet with data := final }] ∧
      (after events).Translated publisher packet.data final (rtcpBlocks packet.data packet.length) := by
  have listens : (after events).feedbackSink = some sink := by
    rw [feedbackSink_eq, published]
    exact listening
  obtain ⟨final, walked, translated⟩ := translate (after events) publisher packet.length contained
  refine ⟨final, ?_, translated⟩
  unfold deliverFeedback
  rw [listens, translateBlock_eq (after events) publisher ((publisher_eq events).trans published)]
  show (forEachRtcpBlock id packet.length _ packet.data).bind _ = _
  rw [walked]
  rfl

/-- **What a subscriber says of a stream is heard of that stream, if that is the first one.** A subscriber names the SSRC
that it was sent. Every SSRC is translated, and nothing else is changed. -/
theorem feedback_returns_iff (events : List Event) {publisher : MediaSource} {sink : ℕ}
    (published : source events = some publisher) (listening : publisher.feedbackSink = some sink) {packet : DataPacket}
    (contained : ∀ block ∈ rtcpBlocks packet.data packet.length, Contained packet.data block) :
    ∃ final, (after events).deliverFeedback packet = some [.feedback sink { packet with data := final }] ∧
      (after events).Translated publisher packet.data final (rtcpBlocks packet.data packet.length) ∧
      ∀ block ∈ rtcpBlocks packet.data packet.length, ∀ subscriber ssrc,
        getSourceSSRC packet.data block = sentSSRC publisher subscriber ssrc →
          (getSourceSSRC final block = ssrc ↔
            (IsAudio events (sentSSRC publisher subscriber ssrc) → ssrc = publisher.audioSourceSSRC) ∧
            (¬IsAudio events (sentSSRC publisher subscriber ssrc) → ssrc = publisher.getVideoSourceSSRC)) := by
  obtain ⟨final, delivered, translated⟩ := deliverFeedback_translated events published listening contained
  refine ⟨final, delivered, translated, fun block member subscriber ssrc named => ?_⟩
  rw [translated.sources block member, named, sourceSSRC]
  by_cases audio : IsAudio events (sentSSRC publisher subscriber ssrc)
  · rw [if_pos ((isSSRCFromAudio_iff events _).mpr audio)]
    exact ⟨fun same => ⟨fun _ => same.symm, fun other => absurd audio other⟩, fun both => (both.1 audio).symm⟩
  · rw [if_neg fun found => audio ((isSSRCFromAudio_iff events _).mp found)]
    exact ⟨fun same => ⟨fun other => absurd other audio, fun _ => same.symm⟩, fun both => (both.2 audio).symm⟩

/-- A request for a keyframe of the second layer. -/
def request : DataPacket := RtpUtils.createPLI 301 1

theorem contained_request : ∀ block ∈ rtcpBlocks request.data request.length, Contained request.data block := by
  intro block member
  have first : block ∈ [0] := member
  obtain rfl := List.mem_singleton.mp first
  exact ⟨by decide, by decide⟩

theorem feedback_returns_iff_meeting :
    ∃ final, (after meeting).deliverFeedback request = some [.feedback 1 { request with data := final }] ∧
      (after meeting).Translated layered request.data final (rtcpBlocks request.data request.length) ∧
      ∀ block ∈ rtcpBlocks request.data request.length, ∀ subscriber ssrc,
        getSourceSSRC request.data block = sentSSRC layered subscriber ssrc →
          (getSourceSSRC final block = ssrc ↔
            (IsAudio meeting (sentSSRC layered subscriber ssrc) → ssrc = layered.audioSourceSSRC) ∧
            (¬IsAudio meeting (sentSSRC layered subscriber ssrc) → ssrc = layered.getVideoSourceSSRC)) :=
  feedback_returns_iff meeting rfl rfl contained_request

end Feedback

end OneToManyProcessor

end Erizo
