/-
**Reordering within a keyframe of VP9.**

A packet with a new timestamp starts the collection of a keyframe at its own number. The packets with later numbers are
put at their distance from it, in any order (`Building`), and the keyframe is complete with the last of them.

A packet with an earlier number moves the first number, but not what is in the buffer: the packet that came first stays
at the beginning, where it does not belong any more (`Misplaced`). So the stored keyframe is the right one exactly when
the packet with the lowest number comes first, and its timestamp is new (`stored_iff`).
-/

import Erizo.Proof.KeyframeStore

namespace Erizo

open Library Library.Bytes

namespace RtpSlideShowHandler

/-! ### A packet of VP9 -/

/-- A keyframe of VP9: so many packets of video as the buffer has room for, with consecutive numbers and one timestamp,
all flagged, and a marker on the last one only. -/
structure Keyframe (frame : List DetectedPacket) (first : UInt16) (stamp : UInt32) : Prop where
  nonempty : 0 < frame.length
  short : frame.length ≤ maxKeyframeSize
  media : ∀ (index : ℕ) (packet : DetectedPacket), frame[index]? = some packet →
    packet.type = .video ∧ RtcpHeader.isRtcp packet.data 0 = false ∧ packet.isKeyframe = true
  header : ∀ (index : ℕ) (packet : DetectedPacket), frame[index]? = some packet →
    number packet = first + UInt16.ofNat index ∧
    timestamp packet = stamp ∧ (marker packet = true ↔ index + 1 = frame.length)

/-- What `isVP9Keyframe` makes of the handler. -/
def detected (handler : RtpSlideShowHandler) (packet : DetectedPacket) : RtpSlideShowHandler :=
  (handler.isVP9Keyframe packet).1

/-- A packet is stored, and the keyframe consolidated if it is complete. -/
def collected (handler : RtpSlideShowHandler) (packet : DetectedPacket) : RtpSlideShowHandler :=
  let handler := (handler.arrived packet).storeKeyframePacket handler.packets.length packet
  if handler.isBuildingKeyframe then handler.consolidateKeyframe.1 else handler

/-- **What the rest of a write leaves as it is**: all but the packets' headers, which it changes in the number only
unless the packet is of the stored keyframe. -/
structure Settles (before after : RtpSlideShowHandler) : Prop where
  active : after.slideshowIsActive = before.slideshowIsActive
  building : after.isBuildingKeyframe = before.isBuildingKeyframe
  received : after.packetsReceivedWhileBuilding = before.packetsReceivedWhileBuilding
  first : after.firstKeyframeSeqNum = before.firstKeyframeSeqNum
  stamp : after.currentKeyframeTimestamp = before.currentKeyframeTimestamp
  buffer : after.keyframeBuffer = before.keyframeBuffer
  stored : after.storedKeyframe = before.storedKeyframe
  size : after.packets.length = before.packets.length
  intact : ∀ place, place ∉ before.storedKeyframe → Intact before.packets before.packets place →
    Intact after.packets before.packets place

section Settling

variable {handler : RtpSlideShowHandler}

theorem Settles.refl (handler : RtpSlideShowHandler) : Settles handler handler :=
  ⟨rfl, rfl, rfl, rfl, rfl, rfl, rfl, rfl, fun _ _ intact => intact⟩

theorem settles_maybeSend (handler : RtpSlideShowHandler) (now : ℤ) :
    Settles handler (handler.maybeSendStoredKeyframe now).1 := by
  unfold maybeSendStoredKeyframe
  split
  · obtain ⟨size, intact, translator, packets, same⟩ :=
      @sendPackets_frame handler.packets handler handler.storedKeyframe
    rw [same] at size intact
    simp only [same]
    exact ⟨rfl, rfl, rfl, rfl, rfl, rfl, rfl, size, intact⟩
  · exact .refl handler

theorem Settles.maybeUpdate {before : RtpSlideShowHandler} (settles : Settles before handler) (seqNum : UInt16) :
    Settles before (handler.maybeUpdateHighestSeqNum seqNum) := by
  unfold maybeUpdateHighestSeqNum
  split
  · exact ⟨settles.active, settles.building, settles.received, settles.first, settles.stamp, settles.buffer,
      settles.stored, settles.size, settles.intact⟩
  · exact settles

theorem Settles.forward {before : RtpSlideShowHandler} (settles : Settles before handler) (place : ℕ)
    (packetSeqNum : UInt16) (shouldSkipPacket : Bool) (now : ℤ) :
    Settles before (handler.forward place packetSeqNum shouldSkipPacket now).1 := by
  unfold RtpSlideShowHandler.forward
  dsimp only
  split
  · refine ⟨settles.active, settles.building, settles.received, settles.first, settles.stamp, settles.buffer,
      settles.stored, (List.length_modify _ _ _).trans settles.size, fun other apart intact => ?_⟩
    exact (settles.intact other apart intact).modify place _ fun _ packet =>
      ⟨timestamp_setSeqNumber packet _, marker_setSeqNumber packet _⟩
  · exact ⟨settles.active, settles.building, settles.received, settles.first, settles.stamp, settles.buffer,
      settles.stored, settles.size, settles.intact⟩

/-- A flagged packet with another timestamp starts anew. -/
theorem detected_new {packet : DetectedPacket} (flagged : packet.isKeyframe = true)
    (fresh : timestamp packet ≠ handler.currentKeyframeTimestamp) :
    handler.detected packet = { handler.resetKeyframeBuilding with
      firstKeyframeSeqNum := number packet
      currentKeyframeTimestamp := timestamp packet
      isBuildingKeyframe := true } := by
  unfold detected isVP9Keyframe
  rw [if_pos flagged]
  dsimp only
  split
  · exact if_pos fresh
  · exact if_pos fresh

/-- Another one moves the first number at most. -/
theorem detected_again {packet : DetectedPacket} (flagged : packet.isKeyframe = true)
    (same : timestamp packet = handler.currentKeyframeTimestamp) :
    handler.detected packet = { handler with
      firstKeyframeSeqNum := if RtpUtils.sequenceNumberLessThan
        (number packet) handler.firstKeyframeSeqNum then number packet
        else handler.firstKeyframeSeqNum } := by
  unfold detected isVP9Keyframe
  rw [if_pos flagged]
  dsimp only
  split
  · next less =>
      rw [if_pos (show RtpUtils.sequenceNumberLessThan (number packet) _ = true from less)]
      exact if_neg (not_not.mpr same)
  · next more =>
      rw [if_neg (show ¬RtpUtils.sequenceNumberLessThan (number packet) _ = true from more)]
      exact if_neg (not_not.mpr same)

/-- **What is detected**: the packets are not looked at, and stay as they are. -/
theorem detected_frame {packet : DetectedPacket} (flagged : packet.isKeyframe = true) :
    (handler.arrived packet).isVP9Keyframe packet = ((handler.detected packet).arrived packet, true) ∧
      (handler.detected packet).slideshowIsActive = handler.slideshowIsActive ∧
      (handler.detected packet).packets = handler.packets ∧
      (handler.detected packet).storedKeyframe = handler.storedKeyframe := by
  have pair : (handler.arrived packet).isVP9Keyframe packet = ((handler.arrived packet).detected packet, true) := by
    unfold detected isVP9Keyframe
    rw [flagged]
    rfl
  rw [pair]
  by_cases same : timestamp packet = handler.currentKeyframeTimestamp
  · rw [detected_again flagged same, @detected_again (handler.arrived packet) packet flagged same]
    exact ⟨rfl, rfl, rfl, rfl⟩
  · rw [detected_new flagged same, @detected_new (handler.arrived packet) packet flagged same]
    exact ⟨rfl, rfl, rfl, rfl⟩

/-- **A flagged packet of VP9 is written** while the slideshow is active. -/
theorem settles_write {packet : DetectedPacket} {remoteSdp : SdpInfo} (now later : ℤ)
    (media : packet.type = .video ∧ RtcpHeader.isRtcp packet.data 0 = false ∧ packet.isKeyframe = true)
    (codec : codecName remoteSdp packet = some "VP9".toList) (active : handler.slideshowIsActive = true) :
    Settles ((handler.detected packet).collected packet) (handler.write packet remoteSdp now later).1 := by
  obtain ⟨video, notRtcp, flagged⟩ := media
  obtain ⟨arrives, stays, kept, -⟩ := @detected_frame handler packet flagged
  have passes : ¬(packet.type ≠ .video ∨ RtcpHeader.isRtcp packet.data 0 = true) := by simp [video, notRtcp]
  obtain ⟨found, shown, seqNum, skipped, rfl, rfl, after, -⟩ := write_media handler remoteSdp now later passes
  have detects : (handler.arrived packet).isKeyframe remoteSdp packet =
    ((handler.detected packet).arrived packet, true) := by
    unfold isKeyframe
    unfold codecName at codec
    obtain ⟨entry, found, name⟩ := Option.map_eq_some_iff.mp codec
    rw [found]
    dsimp only
    rw [if_neg (by rw [name]; decide), if_pos name]
    exact arrives
  have shows : ((handler.detected packet).arrived packet).slideshowIsActive = true := stays.trans active
  rw [after, detects]
  dsimp only
  rw [if_pos shows, slideShow, if_pos rfl]
  rw [collected, ← kept]
  dsimp only
  generalize ((handler.detected packet).arrived packet).storeKeyframePacket handler.packets.length packet = storing
  split
  · exact ((settles_maybeSend _ now).maybeUpdate seqNum).forward _ _ _ _
  · exact ((settles_maybeSend _ now).maybeUpdate seqNum).forward _ _ _ _

end Settling

/-! ### Places -/

/-- The places in the buffers lead to packets. -/
structure Placed (handler : RtpSlideShowHandler) : Prop where
  stored : ∀ place ∈ handler.storedKeyframe, place < handler.packets.length
  buffered : ∀ index place : ℕ, handler.keyframeBuffer[index]? = some (some place) → place < handler.packets.length

section Places

variable {handler : RtpSlideShowHandler}

theorem Placed.settles {after : RtpSlideShowHandler} (placed : Placed handler) (settles : Settles handler after) :
    Placed after := by
  refine ⟨fun place member => ?_, fun index place found => ?_⟩
  · rw [settles.size]
    exact placed.stored place (settles.stored ▸ member)
  · rw [settles.size]
    exact placed.buffered index place (settles.buffer ▸ found)

/-- What is in a slot after a packet has been stored. -/
theorem slot_store {place : ℕ} {packet : DetectedPacket} {index other : ℕ}
    (found : (handler.storeKeyframePacket place packet).keyframeBuffer[index]? = some (some other)) :
    index = (number packet - handler.firstKeyframeSeqNum).toNat ∧ other = place ∨
      handler.keyframeBuffer[index]? = some (some other) := by
  change (handler.keyframeBuffer.set (number packet - handler.firstKeyframeSeqNum).toNat (some place))[index]? = _ at found
  rw [List.getElem?_set] at found
  split at found
  · next here =>
      split at found
      · exact Or.inl ⟨here.symm, by simpa using found.symm⟩
      · exact nomatch found
  · exact Or.inr found

/-- **What a consolidation leaves** in the stored keyframe and in the slots. -/
theorem consolidate_cases (handler : RtpSlideShowHandler) :
    (handler.consolidateKeyframe.1.storedKeyframe = handler.storedKeyframe ∨
        ∀ index place : ℕ, handler.consolidateKeyframe.1.storedKeyframe[index]? = some place →
          handler.keyframeBuffer[index]? = some (some place)) ∧
      (handler.consolidateKeyframe.1.keyframeBuffer = handler.keyframeBuffer ∨
        handler.consolidateKeyframe.1.keyframeBuffer = emptyBuffer) ∧
      handler.consolidateKeyframe.1.packets = handler.packets ∧
      handler.consolidateKeyframe.1.slideshowIsActive = handler.slideshowIsActive := by
  unfold consolidateKeyframe
  dsimp only
  split
  · exact ⟨Or.inl rfl, Or.inr rfl, rfl, rfl⟩
  · split
    · next complete =>
        refine ⟨Or.inr fun index place member => ?_, Or.inr rfl, rfl, rfl⟩
        have slot := ((collect_spec _ complete).2 index place member).1
        rw [List.getElem?_take] at slot
        split at slot
        · exact slot
        · exact nomatch slot
    · exact ⟨Or.inl rfl, Or.inl rfl, rfl, rfl⟩

theorem Placed.consolidate (placed : Placed handler) : Placed handler.consolidateKeyframe.1 := by
  obtain ⟨stores, slots, same, -⟩ := consolidate_cases handler
  refine ⟨fun place member => ?_, fun index place found => ?_⟩
  · rw [same]
    rcases stores with kept | taken
    · exact placed.stored place (kept ▸ member)
    · obtain ⟨index, here⟩ := List.mem_iff_getElem?.mp member
      exact placed.buffered index place (taken index place here)
  · rw [same]
    rcases slots with kept | empty
    · exact placed.buffered index place (kept ▸ found)
    · exact absurd (empty ▸ found) emptyBuffer_none

/-- A detection keeps the buffer or empties it. -/
theorem isKeyframe_frame (handler : RtpSlideShowHandler) (remoteSdp : SdpInfo) (packet : DetectedPacket) :
    ((handler.isKeyframe remoteSdp packet).1.keyframeBuffer = handler.keyframeBuffer ∨
        (handler.isKeyframe remoteSdp packet).1.keyframeBuffer = emptyBuffer) ∧
      (handler.isKeyframe remoteSdp packet).1.packets = handler.packets ∧
      (handler.isKeyframe remoteSdp packet).1.storedKeyframe = handler.storedKeyframe := by
  unfold isKeyframe
  split
  · split
    · unfold isVP8OrH264Keyframe
      dsimp only
      split
      · exact ⟨Or.inr rfl, rfl, rfl⟩
      · exact ⟨Or.inl rfl, rfl, rfl⟩
    · split
      · by_cases flagged : packet.isKeyframe = true
        · show (((handler.detected packet).keyframeBuffer = _ ∨ (handler.detected packet).keyframeBuffer = _) ∧
            (handler.detected packet).packets = _ ∧ (handler.detected packet).storedKeyframe = _)
          by_cases same : timestamp packet = handler.currentKeyframeTimestamp
          · rw [detected_again flagged same]
            exact ⟨Or.inl rfl, rfl, rfl⟩
          · rw [detected_new flagged same]
            exact ⟨Or.inr rfl, rfl, rfl⟩
        · unfold isVP9Keyframe
          rw [if_neg flagged]
          exact ⟨Or.inl rfl, rfl, rfl⟩
      · exact ⟨Or.inl rfl, rfl, rfl⟩
  · exact ⟨Or.inl rfl, rfl, rfl⟩

theorem Placed.write (placed : Placed handler) (packet : DetectedPacket) (remoteSdp : SdpInfo) (now later : ℤ) :
    Placed (handler.write packet remoteSdp now later).1 := by
  by_cases other : packet.type ≠ .video ∨ RtcpHeader.isRtcp packet.data 0 = true
  · have passes : (decide (packet.type ≠ .video) || RtcpHeader.isRtcp packet.data 0) = true := by
      rw [Bool.or_eq_true, decide_eq_true_iff]
      exact other
    rw [RtpSlideShowHandler.write, if_pos passes]
    exact placed
  · obtain ⟨found, shown, seqNum, skipped, rfl, rfl, after, -⟩ := write_media handler remoteSdp now later other
    obtain ⟨slots, kept, same⟩ := isKeyframe_frame (handler.arrived packet) remoteSdp packet
    have size : ((handler.arrived packet).isKeyframe remoteSdp packet).1.packets.length = handler.packets.length + 1 := by
      rw [kept]
      exact List.length_append
    have detects : Placed ((handler.arrived packet).isKeyframe remoteSdp packet).1 := by
      refine ⟨fun place member => ?_, fun index place there => ?_⟩
      · rw [same] at member
        exact size ▸ Nat.lt_succ_of_lt (placed.stored place member)
      · rcases slots with still | empty
        · exact size ▸ Nat.lt_succ_of_lt (placed.buffered index place (still ▸ there))
        · exact absurd (empty ▸ there) emptyBuffer_none
    rw [after]
    generalize ((handler.arrived packet).isKeyframe remoteSdp packet) = detect at *
    split
    · unfold slideShow
      dsimp only
      have stores : Placed (if detect.2 = true then detect.1.storeKeyframePacket handler.packets.length packet else
          detect.1) := by
        split
        · refine ⟨detects.stored, fun index place there => ?_⟩
          rcases slot_store there with ⟨-, rfl⟩ | old
          · exact size ▸ Nat.lt_succ_self _
          · exact detects.buffered index place old
        · exact detects
      generalize (if detect.2 = true then detect.1.storeKeyframePacket handler.packets.length packet else detect.1) =
        storing at *
      split
      · exact stores.consolidate.settles (((settles_maybeSend _ now).maybeUpdate seqNum).forward _ _ _ _)
      · exact stores.settles (((settles_maybeSend _ now).maybeUpdate seqNum).forward _ _ _ _)
    · exact detects.settles (((Settles.refl _).maybeUpdate seqNum).forward _ _ _ _)

theorem Placed.step (placed : Placed handler) (call : Call) : Placed (handler.step call).1 := by
  cases call with
  | write packet remoteSdp now later => exact placed.write packet remoteSdp now later
  | setSlideShowMode active now =>
      show Placed (handler.setSlideShowMode active now)
      unfold setSlideShowMode
      split
      · exact placed
      · exact ⟨placed.stored, fun _ _ found => absurd found emptyBuffer_none⟩

theorem placed_run (stream : MediaStream) (now : ℤ) (calls : List Call) :
    Placed (Machine.run step (create stream now) calls) :=
  @Machine.run_invariant _ _ _ step Placed (fun _ => True) (fun _ call _ placed => placed.step call) _
    ⟨fun _ member => absurd member List.not_mem_nil, fun _ _ found => absurd found emptyBuffer_none⟩ _ fun _ _ => trivial

end Places

/-! ### A packet that stays at the beginning -/

/-- A packet has arrived, but is not in the buffers except at their beginning. -/
structure Misplaced (place : ℕ) (handler : RtpSlideShowHandler) : Prop where
  active : handler.slideshowIsActive = true
  known : place < handler.packets.length
  buffered : ∀ index : ℕ, handler.keyframeBuffer[index]? = some (some place) → index = 0
  stored : ∀ index : ℕ, handler.storedKeyframe[index]? = some place → index = 0

section Misplacing

variable {handler : RtpSlideShowHandler} {place : ℕ} {packet : DetectedPacket}

theorem packets_collected (handler : RtpSlideShowHandler) (packet : DetectedPacket) :
    (handler.collected packet).packets = handler.packets ++ [packet] ∧
      (handler.collected packet).slideshowIsActive = handler.slideshowIsActive := by
  unfold collected
  dsimp only
  split
  · obtain ⟨-, -, same, active⟩ :=
      consolidate_cases ((handler.arrived packet).storeKeyframePacket handler.packets.length packet)
    exact ⟨same, active⟩
  · exact ⟨rfl, rfl⟩

/-- A place is at the beginning of the buffers, when the collected packet is not there or belongs there. -/
theorem misplaced_collected (active : handler.slideshowIsActive = true) (known : place ≤ handler.packets.length)
    (buffered : ∀ index : ℕ, handler.keyframeBuffer[index]? = some (some place) → index = 0)
    (stored : ∀ index : ℕ, handler.storedKeyframe[index]? = some place → index = 0)
    (here : place = handler.packets.length → number packet = handler.firstKeyframeSeqNum) :
    Misplaced place (handler.collected packet) := by
  obtain ⟨same, stays⟩ := packets_collected handler packet
  have slots : ∀ index : ℕ, ((handler.arrived packet).storeKeyframePacket handler.packets.length packet).keyframeBuffer[
      index]? = some (some place) → index = 0 := by
    intro index found
    rcases slot_store found with ⟨rfl, new⟩ | old
    · show (number packet - handler.firstKeyframeSeqNum).toNat = 0
      rw [here new, sub_self]
      rfl
    · exact buffered index old
  refine ⟨stays.trans active, ?_, ?_, ?_⟩
  · rw [same, List.length_append]
    exact Nat.lt_succ_of_le known
  · unfold collected
    dsimp only
    split
    · obtain ⟨-, kept | empty, -⟩ := consolidate_cases
        ((handler.arrived packet).storeKeyframePacket handler.packets.length packet)
      · rw [kept]
        exact slots
      · rw [empty]
        exact fun _ found => absurd found emptyBuffer_none
    · exact slots
  · unfold collected
    dsimp only
    split
    · obtain ⟨kept | taken, -⟩ := consolidate_cases
        ((handler.arrived packet).storeKeyframePacket handler.packets.length packet)
      · rw [kept]
        exact stored
      · exact fun index member => slots index (taken index place member)
    · exact stored

theorem Misplaced.settles {after : RtpSlideShowHandler} (misplaced : Misplaced place handler)
    (settles : Settles handler after) : Misplaced place after where
  active := settles.active.trans misplaced.active
  known := settles.size.symm ▸ misplaced.known
  buffered := settles.buffer.symm ▸ misplaced.buffered
  stored := settles.stored.symm ▸ misplaced.stored

/-- **It stays there.** -/
theorem Misplaced.detected (misplaced : Misplaced place handler) (flagged : packet.isKeyframe = true) :
    Misplaced place ((handler.detected packet).collected packet) := by
  obtain ⟨-, stays, same, kept⟩ := @detected_frame handler packet flagged
  have apart : place ≠ (handler.detected packet).packets.length := same ▸ misplaced.known.ne
  refine misplaced_collected (stays.trans misplaced.active) (same ▸ misplaced.known.le) ?_ (kept ▸ misplaced.stored)
    fun new => absurd new apart
  by_cases again : timestamp packet = handler.currentKeyframeTimestamp
  · rw [detected_again flagged again]
    exact misplaced.buffered
  · rw [detected_new flagged again]
    exact fun _ found => absurd found emptyBuffer_none

/-- **The first packet is put at the beginning.** -/
theorem misplaced_first (placed : Placed handler) (active : handler.slideshowIsActive = true)
    (flagged : packet.isKeyframe = true) (fresh : timestamp packet ≠ handler.currentKeyframeTimestamp) :
    Misplaced handler.packets.length ((handler.detected packet).collected packet) := by
  rw [detected_new flagged fresh]
  refine misplaced_collected active le_rfl (fun _ found => absurd found emptyBuffer_none)
    (fun index member => ?_) fun _ => rfl
  exact absurd (placed.stored _ (List.mem_of_getElem? member)) (lt_irrefl _)

end Misplacing

/-! ### A complete collection -/

/-- **What has been collected**: the packets that have arrived, each at its distance from the first one, after so many
rounds of consolidation. -/
structure Building (frame : List DetectedPacket) (first : UInt16) (stamp : UInt32) (base : ℕ) (came : List ℕ) (rounds : ℕ)
    (handler : RtpSlideShowHandler) : Prop where
  active : handler.slideshowIsActive = true
  building : handler.isBuildingKeyframe = true
  stamped : handler.currentKeyframeTimestamp = stamp
  begins : handler.firstKeyframeSeqNum = first
  received : handler.packetsReceivedWhileBuilding.toNat = rounds
  size : handler.packets.length = base + came.length
  stored : ∀ place ∈ handler.storedKeyframe, place < base
  room : handler.keyframeBuffer.length = maxKeyframeSize
  slots : ∀ index < maxKeyframeSize,
    handler.keyframeBuffer[index]? = some (if index ∈ came then some (base + came.idxOf index) else none)
  intact : ∀ index ∈ came, ∃ packet, handler.packets[base + came.idxOf index]? = some packet ∧
    timestamp packet = stamp ∧ (marker packet = true ↔ index + 1 = frame.length)

section Collecting

variable {frame : List DetectedPacket} {first : UInt16} {stamp : UInt32} {base : ℕ} {came : List ℕ} {rounds : ℕ}
  {handler : RtpSlideShowHandler} {packets : List DetectedPacket} {slots : List (Option ℕ)} {place : ℕ → ℕ}

/-- The loop gets to the last packet. -/
theorem collect_all {index size : ℕ} (less : index < size)
    (filled : ∀ later, index ≤ later → later < size → slots[later - index]? = some (some (place later)) ∧
      ∃ packet, packets[place later]? = some packet ∧ timestamp packet = stamp ∧
        (marker packet = true ↔ later + 1 = size)) :
    (collect packets stamp slots).2 = true := by
  induction slots generalizing index with
  | nil =>
      obtain ⟨found, -⟩ := filled index le_rfl less
      rw [List.getElem?_nil] at found
      exact nomatch found
  | cons slot rest ih =>
      obtain ⟨found, packet, there, stamped, last⟩ := filled index le_rfl less
      rw [Nat.sub_self, List.getElem?_cons_zero, Option.some_inj] at found
      rw [found, collect_cons there stamped]
      split
      · rfl
      · next goesOn =>
          have further : index + 1 < size := by
            rcases Nat.lt_or_eq_of_le (Nat.succ_le_of_lt less) with more | done
            · exact more
            · exact absurd (last.mpr done) goesOn
          refine ih further fun later after before => ?_
          obtain ⟨slot, facts⟩ := filled later (by omega) before
          rw [show later - index = later - (index + 1) + 1 by omega, List.getElem?_cons_succ] at slot
          exact ⟨slot, facts⟩

/-- **The loop takes all packets**, when they have all arrived, and else it does not end at a marker. -/
theorem collect_came {size : ℕ} (room : size ≤ slots.length) (positive : 0 < size)
    (filled : ∀ index < slots.length, slots[index]? = some (if index ∈ came then some (place index) else none))
    (intact : ∀ index ∈ came, ∃ packet, packets[place index]? = some packet ∧ timestamp packet = stamp ∧
      (marker packet = true ↔ index + 1 = size)) :
    ((collect packets stamp slots).2 = true ↔ ∀ index < size, index ∈ came) ∧
      ((collect packets stamp slots).2 = true → (collect packets stamp slots).1 = (List.range size).map place) := by
  have tells : (collect packets stamp slots).2 = true → (∀ index < size, index ∈ came) ∧
      (collect packets stamp slots).1 = (List.range size).map place := by
    intro complete
    obtain ⟨nonempty, taken⟩ := collect_spec slots complete
    generalize (collect packets stamp slots).1 = places at *
    have slot : ∀ index other : ℕ, places[index]? = some other → index ∈ came ∧ other = place index := by
      intro index other member
      obtain ⟨here, -⟩ := taken index other member
      rw [filled index (List.getElem?_eq_some_iff.mp here).1, Option.some_inj] at here
      split at here
      · next arrived => exact ⟨arrived, (Option.some_injective _ here).symm⟩
      · exact nomatch here
    have positive' := List.length_pos_iff.mpr nonempty
    obtain ⟨other, last⟩ : ∃ other, places[places.length - 1]? = some other :=
      ⟨_, List.getElem?_eq_getElem (Nat.sub_lt positive' Nat.zero_lt_one)⟩
    have whole : places.length = size := by
      obtain ⟨arrived, same⟩ := slot _ _ last
      obtain ⟨-, packet, found, -, ends⟩ := taken _ _ last
      obtain ⟨found', there, -, marked⟩ := intact _ arrived
      obtain rfl := Option.some_injective _ ((same ▸ found).symm.trans there)
      have := marked.mp (ends.mpr (by omega))
      omega
    have each : ∀ index < size, places[index]? = some (place index) ∧ index ∈ came := by
      intro index less
      obtain ⟨other, here⟩ : ∃ other, places[index]? = some other := ⟨_, List.getElem?_eq_getElem (whole.symm ▸ less)⟩
      obtain ⟨arrived, same⟩ := slot index other here
      exact ⟨same ▸ here, arrived⟩
    refine ⟨fun index less => (each index less).2, List.ext_getElem? fun index => ?_⟩
    rw [List.getElem?_map]
    rcases Nat.lt_or_ge index size with less | more
    · rw [(each index less).1, List.getElem?_range less, Option.map_some]
    · rw [List.getElem?_eq_none (whole ▸ more), List.getElem?_eq_none (by rw [List.length_range]; exact more),
        Option.map_none]
  refine ⟨⟨fun complete => (tells complete).1, fun all => ?_⟩, fun complete => (tells complete).2⟩
  refine @collect_all _ _ _ place 0 size positive fun later _ less => ?_
  rw [Nat.sub_zero, filled later (less.trans_le room), if_pos (all later less)]
  exact ⟨rfl, intact later (all later less)⟩

/-- Where the packets of a frame were written, in the order of the frame. -/
def places (base size : ℕ) (came : List ℕ) : List ℕ := (List.range size).map fun index => base + came.idxOf index

theorem Building.settles {after : RtpSlideShowHandler} (built : Building frame first stamp base came rounds handler)
    (settles : Settles handler after) : Building frame first stamp base came rounds after where
  active := settles.active.trans built.active
  building := settles.building.trans built.building
  stamped := settles.stamp.trans built.stamped
  begins := settles.first.trans built.begins
  received := settles.received.symm ▸ built.received
  size := settles.size.trans built.size
  stored := settles.stored.symm ▸ built.stored
  room := settles.buffer.symm ▸ built.room
  slots := settles.buffer.symm ▸ built.slots
  intact := by
    intro index member
    obtain ⟨packet, found, stamped, marked⟩ := built.intact index member
    have apart : base + came.idxOf index ∉ handler.storedKeyframe :=
      fun member => absurd (built.stored _ member) (Nat.not_lt_of_le (Nat.le_add_right _ _))
    obtain ⟨changed, original, there, recorded, sameStamp, sameMarker⟩ :=
      settles.intact _ apart ⟨packet, packet, found, found, rfl, rfl⟩
    obtain rfl := Option.some_injective _ (recorded.symm.trans found)
    exact ⟨changed, there, sameStamp.trans stamped, sameMarker ▸ marked⟩

/-- Numbers that differ are as many as the frame has at most. -/
theorem length_le_of_nodup {size : ℕ} (apart : came.Nodup) (inside : ∀ index ∈ came, index < size) :
    came.length ≤ size := by
  have fewer := (apart.subperm fun index member => List.mem_range.mpr (inside index member)).length_le
  rwa [List.length_range] at fewer

/-- A packet of the frame is not before its first one. -/
theorem Building.detected (built : Building frame first stamp base came rounds handler)
    (keyframe : Keyframe frame first stamp)
    {index : ℕ} {packet : DetectedPacket} (found : frame[index]? = some packet) : handler.detected packet = handler := by
  obtain ⟨numbered, stamped, -⟩ := keyframe.header index packet found
  have inside := (List.getElem?_eq_some_iff.mp found).1
  have short := keyframe.short
  have notBefore : ¬RtpUtils.sequenceNumberLessThan (number packet) handler.firstKeyframeSeqNum = true := by
    rw [RtpUtils.sequenceNumberLessThan, RtpUtils.numberLessThan_iff _ _ (by decide) le_rfl, built.begins, numbered,
      Serial.ahead_add le_rfl first (by rw [maxKeyframeSize] at short; omega)]
    rw [maxKeyframeSize] at short
    omega
  rw [detected_again (keyframe.media index packet found).2.2 (stamped.trans built.stamped.symm), if_neg notBefore]

/-- A packet of the frame is put in its slot. -/
theorem Building.store (built : Building frame first stamp base came rounds handler)
    (keyframe : Keyframe frame first stamp) {index : ℕ} {packet : DetectedPacket} (found : frame[index]? = some packet)
    (new : index ∉ came) :
    Building frame first stamp base (came ++ [index]) rounds
      ((handler.arrived packet).storeKeyframePacket handler.packets.length packet) := by
  obtain ⟨numbered, stamped, marked⟩ := keyframe.header index packet found
  have reached := (List.getElem?_eq_some_iff.mp found).1
  have short := keyframe.short
  rw [maxKeyframeSize] at short
  have slot : (number packet - handler.firstKeyframeSeqNum).toNat = index := by
    rw [built.begins, numbered, add_sub_cancel_left]
    exact UInt16.toNat_ofNat_of_lt' (by rw [UInt16.size]; omega)
  have old : ∀ other ∈ came, (came ++ [index]).idxOf other = came.idxOf other := fun other member =>
    List.idxOf_append_of_mem member
  have last : (came ++ [index]).idxOf index = came.length := by
    rw [List.idxOf_append_of_notMem new, List.idxOf_cons_self, Nat.add_zero]
  have buffer : ((handler.arrived packet).storeKeyframePacket handler.packets.length packet).keyframeBuffer =
      handler.keyframeBuffer.set index (some handler.packets.length) :=
    congrArg (fun index => handler.keyframeBuffer.set index (some handler.packets.length)) slot
  have room : (handler.keyframeBuffer.set index (some handler.packets.length)).length = maxKeyframeSize := by
    rw [List.length_set, built.room]
  refine ⟨built.active, built.building, built.stamped, built.begins, built.received, ?_, built.stored, ?_, ?_, ?_⟩
  · show (handler.packets ++ [packet]).length = _
    rw [List.length_append, List.length_append, built.size, Nat.add_assoc]
    rfl
  · rw [buffer]
    exact room
  · intro other less
    rw [buffer, List.getElem?_set]
    by_cases here : index = other
    · subst here
      rw [if_pos rfl, if_pos (built.room.symm ▸ less), if_pos (List.mem_append_right _ (List.mem_singleton_self _)), last,
        built.size]
    · rw [if_neg here, built.slots other less]
      by_cases member : other ∈ came
      · rw [if_pos member, if_pos (List.mem_append_left _ member), old other member]
      · rw [if_neg member, if_neg fun either => ?_]
        rcases List.mem_append.mp either with before | this
        · exact member before
        · exact here (List.mem_singleton.mp this).symm
  · intro other member
    show ∃ packet', (handler.packets ++ [packet])[_]? = some packet' ∧ _
    rcases List.mem_append.mp member with before | here
    · obtain ⟨packet', there, facts⟩ := built.intact other before
      rw [old other before]
      exact ⟨packet', by rw [List.getElem?_append_left (List.getElem?_eq_some_iff.mp there).1, there], facts⟩
    · obtain rfl := List.mem_singleton.mp here
      rw [last, ← built.size]
      exact ⟨packet, List.getElem?_concat_length, stamped, marked⟩

/-- **A round of consolidation** finds a complete keyframe when all packets have arrived. -/
theorem Building.consolidate (built : Building frame first stamp base came rounds handler)
    (keyframe : Keyframe frame first stamp) (few : rounds ≤ maxKeyframeSize) :
    ((∀ index < frame.length, index ∈ came) →
        handler.consolidateKeyframe.1.storedKeyframe = places base frame.length came) ∧
      (¬(∀ index < frame.length, index ∈ came) →
        Building frame first stamp base came (rounds + 1) handler.consolidateKeyframe.1) := by
  have whole : handler.keyframeBuffer.take maxKeyframeSize = handler.keyframeBuffer := List.take_of_length_le built.room.le
  obtain ⟨complete, taken⟩ := @collect_came stamp came handler.packets handler.keyframeBuffer
    (fun index => base + came.idxOf index) frame.length (built.room.symm ▸ keyframe.short) keyframe.nonempty
    (fun index less => built.slots index (built.room ▸ less)) built.intact
  have goesOn : ¬handler.packetsReceivedWhileBuilding.toNat > maxKeyframeSize := by
    rw [built.received]
    omega
  unfold consolidateKeyframe
  dsimp only
  rw [if_neg goesOn, whole, built.stamped]
  refine ⟨fun all => ?_, fun partly => ?_⟩
  · rw [if_pos (complete.mpr all)]
    exact taken (complete.mpr all)
  · rw [if_neg fun done => partly (complete.mp done)]
    refine ⟨built.active, built.building, rfl, built.begins, ?_, built.size, built.stored, built.room, built.slots,
      built.intact⟩
    show (handler.packetsReceivedWhileBuilding + 1).toNat = _
    rw [UInt16.toNat_add, built.received]
    refine Nat.mod_eq_of_lt ?_
    rw [maxKeyframeSize] at few
    exact (Nat.succ_le_succ few).trans_lt (by decide)

end Collecting

/-! ### Arrivals -/

/-- A packet of a frame arrives, under a description and at two readings of the clock. -/
structure Arrival where
  index : ℕ
  packet : DetectedPacket
  remoteSdp : SdpInfo
  now : ℤ
  later : ℤ

namespace Arrival

/-- The packet is written. -/
def call (arrival : Arrival) : Call := .write arrival.packet arrival.remoteSdp arrival.now arrival.later

/-- It is the packet of the frame at its index, and one of VP9. -/
structure Of (frame : List DetectedPacket) (arrival : Arrival) : Prop where
  found : frame[arrival.index]? = some arrival.packet
  codec : codecName arrival.remoteSdp arrival.packet = some "VP9".toList

end Arrival

section Arrivals

variable {frame : List DetectedPacket} {first : UInt16} {stamp : UInt32} {base : ℕ} {came : List ℕ}
  {handler : RtpSlideShowHandler} {arrival : Arrival}

theorem Arrival.Of.settles (of : arrival.Of frame) (keyframe : Keyframe frame first stamp)
    (active : handler.slideshowIsActive = true) :
    Settles ((handler.detected arrival.packet).collected arrival.packet) (handler.step arrival.call).1 :=
  settles_write _ _ (keyframe.media _ _ of.found) of.codec active

/-- **A packet of the frame arrives.** -/
theorem Building.arrive (built : Building frame first stamp base came came.length (handler.detected arrival.packet))
    (keyframe : Keyframe frame first stamp) (of : arrival.Of frame) (apart : (came ++ [arrival.index]).Nodup)
    (inside : ∀ index ∈ came, index < frame.length) :
    ((∀ index < frame.length, index ∈ came ++ [arrival.index]) →
        (handler.step arrival.call).1.storedKeyframe = places base frame.length (came ++ [arrival.index])) ∧
      (¬(∀ index < frame.length, index ∈ came ++ [arrival.index]) →
        Building frame first stamp base (came ++ [arrival.index]) (came ++ [arrival.index]).length
          (handler.step arrival.call).1) := by
  obtain ⟨-, stays, -⟩ := @detected_frame handler arrival.packet (keyframe.media _ _ of.found).2.2
  have settles := of.settles keyframe (stays.symm.trans built.active)
  have new : arrival.index ∉ came := fun member =>
    (List.nodup_append.mp apart).2.2 _ member _ (List.mem_singleton_self _) rfl
  have few : came.length ≤ maxKeyframeSize :=
    (length_le_of_nodup (List.nodup_append.mp apart).1 inside).trans keyframe.short
  have result : (handler.detected arrival.packet).collected arrival.packet =
      (((handler.detected arrival.packet).arrived arrival.packet).storeKeyframePacket
        (handler.detected arrival.packet).packets.length arrival.packet).consolidateKeyframe.1 := if_pos built.building
  obtain ⟨completes, goesOn⟩ := (built.store keyframe of.found new).consolidate keyframe few
  rw [result] at settles
  refine ⟨fun all => settles.stored.trans (completes all), fun partly => ?_⟩
  rw [List.length_append]
  exact (goesOn partly).settles settles

/-- **The rest of the frame arrives**, in any order. -/
theorem Building.stored_run (arrivals : List Arrival)
    (built : Building frame first stamp base came came.length (handler.detected arrival.packet))
    (keyframe : Keyframe frame first stamp) (of : ∀ other ∈ arrival :: arrivals, other.Of frame)
    (order : (came ++ (arrival :: arrivals).map Arrival.index).Perm (List.range frame.length)) :
    (Machine.run step handler ((arrival :: arrivals).map Arrival.call)).storedKeyframe =
      places base frame.length (came ++ (arrival :: arrivals).map Arrival.index) := by
  induction arrivals generalizing handler arrival came with
  | nil =>
      have member : ∀ index, index ∈ came ++ [arrival.index] ↔ index < frame.length :=
        fun index => order.mem_iff.trans List.mem_range
      refine (built.arrive keyframe (of _ List.mem_cons_self) (order.nodup_iff.mpr List.nodup_range)
        fun index old => ?_).1 ?_
      · exact (member index).mp (List.mem_append_left _ old)
      · exact fun index less => (member index).mpr less
  | cons next rest ih =>
      have member := fun index => order.mem_iff.trans (@List.mem_range index frame.length)
      have apart := order.nodup_iff.mpr List.nodup_range
      rw [List.map_cons, List.append_cons] at apart
      rw [List.map_cons, List.append_cons] at order member
      show (Machine.run step (handler.step arrival.call).1 ((next :: rest).map Arrival.call)).storedKeyframe =
        places base frame.length (came ++ arrival.index :: (next :: rest).map Arrival.index)
      rw [List.append_cons]
      have missing : ¬∀ index < frame.length, index ∈ came ++ [arrival.index] := by
        intro all
        have came := all next.index ((member _).mp (List.mem_append_right _ List.mem_cons_self))
        exact (List.nodup_append.mp apart).2.2 _ came _ List.mem_cons_self rfl
      have goesOn := (built.arrive keyframe (of _ List.mem_cons_self) (List.nodup_append.mp apart).1 fun index old =>
        (member index).mp (List.mem_append_left _ (List.mem_append_left _ old))).2 missing
      have nextOf := of next (List.mem_cons_of_mem _ List.mem_cons_self)
      rw [← goesOn.detected keyframe nextOf.found] at goesOn
      exact ih goesOn (fun other among => of other (List.mem_cons_of_mem _ among)) order

/-- The packet that came first stays at the beginning. -/
theorem Misplaced.run {place : ℕ} (arrivals : List Arrival) (misplaced : Misplaced place handler)
    (keyframe : Keyframe frame first stamp) (of : ∀ arrival ∈ arrivals, arrival.Of frame) :
    Misplaced place (Machine.run RtpSlideShowHandler.step handler (arrivals.map Arrival.call)) := by
  induction arrivals generalizing handler with
  | nil => exact misplaced
  | cons arrival rest ih =>
      have own := of arrival List.mem_cons_self
      have moved := (misplaced.detected (keyframe.media _ _ own.found).2.2).settles (own.settles keyframe misplaced.active)
      exact ih moved fun other among => of other (List.mem_cons_of_mem _ among)

theorem collected_idle {packet : DetectedPacket} (idle : handler.isBuildingKeyframe = false) :
    handler.collected packet = (handler.arrived packet).storeKeyframePacket handler.packets.length packet :=
  if_neg (show ¬((handler.arrived packet).storeKeyframePacket handler.packets.length packet).isBuildingKeyframe = true from
    fun building => absurd (idle.symm.trans building) Bool.false_ne_true)

/-- A frame whose timestamp is not new is not collected. -/
theorem stored_of_same (arrivals : List Arrival) (active : handler.slideshowIsActive = true)
    (idle : handler.isBuildingKeyframe = false) (same : handler.currentKeyframeTimestamp = stamp)
    (keyframe : Keyframe frame first stamp) (of : ∀ arrival ∈ arrivals, arrival.Of frame) :
    (Machine.run RtpSlideShowHandler.step handler (arrivals.map Arrival.call)).storedKeyframe = handler.storedKeyframe := by
  induction arrivals generalizing handler with
  | nil => rfl
  | cons arrival rest ih =>
      have own := of arrival List.mem_cons_self
      have settles := own.settles keyframe active
      have stamped := (keyframe.header _ _ own.found).2.1.trans same.symm
      rw [detected_again (keyframe.media _ _ own.found).2.2 stamped] at settles
      have result := @collected_idle { handler with
        firstKeyframeSeqNum := if RtpUtils.sequenceNumberLessThan (number arrival.packet) handler.firstKeyframeSeqNum then
          number arrival.packet else handler.firstKeyframeSeqNum } arrival.packet idle
      rw [result] at settles
      refine (ih (settles.active.trans active) (settles.building.trans idle) (settles.stamp.trans same)
        fun other among => of other (List.mem_cons_of_mem _ among)).trans settles.stored

end Arrivals

/-! ### Every order -/

/-- **A keyframe of VP9 survives reordering** after the slideshow has been activated exactly when its timestamp is not
the one of the last keyframe, and the packet with the lowest number comes first. -/
theorem stored_iff (stream : MediaStream) (start : ℤ) (calls : List Call) (activation : ℤ) (frame : List DetectedPacket)
    (first : UInt16) (stamp : UInt32) (arrivals : List Arrival) :
    let handler := Machine.run step (create stream start) calls
    let activated := (handler.step (.setSlideShowMode true activation)).1
    handler.slideshowIsActive = false → Keyframe frame first stamp → (∀ arrival ∈ arrivals, arrival.Of frame) →
      (arrivals.map Arrival.index).Perm (List.range frame.length) →
      ((Machine.run step activated (arrivals.map Arrival.call)).storedKeyframe =
          places handler.packets.length frame.length (arrivals.map Arrival.index) ↔
        stamp ≠ handler.currentKeyframeTimestamp ∧ (arrivals.map Arrival.index).head? = some 0) := by
  intro handler activated inactive keyframe of order
  obtain ⟨active, idle, kept, stays, there, empty⟩ : activated.slideshowIsActive = true ∧
      activated.isBuildingKeyframe = false ∧ activated.currentKeyframeTimestamp = handler.currentKeyframeTimestamp ∧
      activated.storedKeyframe = handler.storedKeyframe ∧ activated.packets = handler.packets ∧
      activated.keyframeBuffer = emptyBuffer := by
    have activates : activated = handler.setSlideShowMode true activation := rfl
    rw [activates, setSlideShowMode, if_neg (by rw [inactive]; exact Bool.false_ne_true)]
    exact ⟨rfl, rfl, rfl, rfl, rfl, rfl⟩
  have placed : Placed activated :=
    ⟨stays ▸ there ▸ (placed_run stream start calls).stored, fun _ _ found => absurd (empty ▸ found) emptyBuffer_none⟩
  rw [← kept, ← there]
  clear_value activated
  cases arrivals with
  | nil =>
      have none := order.length_eq
      rw [List.map_nil, List.length_nil, List.length_range] at none
      exact absurd none keyframe.nonempty.ne
  | cons arrival rest =>
      have own := of arrival List.mem_cons_self
      obtain ⟨numbered, stamped, -⟩ := keyframe.header _ _ own.found
      have flagged := (keyframe.media _ _ own.found).2.2
      have inside := (List.getElem?_eq_some_iff.mp own.found).1
      have head : ((arrival :: rest).map Arrival.index).head? = some 0 ↔ arrival.index = 0 := by
        rw [List.map_cons, List.head?_cons, Option.some_inj]
      rw [head]
      by_cases same : stamp = activated.currentKeyframeTimestamp
      · refine iff_of_false (fun stored => ?_) fun both => both.1 same
        rw [stored_of_same (arrival :: rest) active idle same.symm keyframe of] at stored
        have member : activated.packets.length + ((arrival :: rest).map Arrival.index).idxOf 0 ∈
            places activated.packets.length frame.length ((arrival :: rest).map Arrival.index) :=
          List.mem_map.mpr ⟨0, List.mem_range.mpr keyframe.nonempty, rfl⟩
        rw [← stored] at member
        exact absurd (placed.stored _ member) (Nat.not_lt_of_le (Nat.le_add_right _ _))
      · rw [and_iff_right same]
        have fresh : timestamp arrival.packet ≠ activated.currentKeyframeTimestamp := stamped.symm ▸ same
        constructor
        · intro stored
          -- the packet that came first belongs where it was put
          have misplaced := (misplaced_first placed active flagged fresh).settles (own.settles keyframe active)
          have remains := misplaced.run rest keyframe fun other among => of other (List.mem_cons_of_mem _ among)
          refine remains.stored arrival.index ?_
          rw [List.map_cons, Machine.run_cons] at stored
          rw [stored, places, List.getElem?_map, List.getElem?_range inside, List.map_cons, Option.map_some,
            List.idxOf_cons_self]
          rfl
        · intro zero
          refine @Building.stored_run _ _ _ _ [] _ _ rest ?_ keyframe of order
          rw [detected_new flagged fresh]
          refine ⟨active, rfl, stamped, ?_, rfl, rfl, placed.stored, rfl, fun index less => ?_, fun _ none => ?_⟩
          · show number arrival.packet = first
            rw [numbered, zero]
            exact add_zero first
          · exact List.getElem?_replicate_of_lt less
          · exact absurd none List.not_mem_nil

/-! ### Packets of a frame that swap -/

/-- A description with VP9 as payload type 96. -/
def vp9Description : SdpInfo :=
  { SdpInfo.init ⟨90000, .video, 1, false, 0, .sendrecv, .sendrecv⟩ [] with
    payloadVector := [⟨96, "VP9".toList, 90000, .video, 1, [], ∅⟩] }

/-- A keyframe of two packets, around the end of the numbers. -/
def twoPackets : List DetectedPacket := [picturePacket true 65535 10 false, picturePacket true 0 10 true]

/-- One of three. -/
def threePackets : List DetectedPacket :=
  [picturePacket true 65535 10 false, picturePacket true 0 10 false, picturePacket true 1 10 true]

/-- A packet of a frame arrives. -/
def arrivalAt (frame : List DetectedPacket) (index : Fin frame.length) : Arrival :=
  ⟨index, frame.get index, vp9Description, 0, 0⟩

/-- One of the two arrives, or one of the three. -/
def twoArrival : Fin 2 → Arrival := arrivalAt twoPackets

def threeArrival : Fin 3 → Arrival := arrivalAt threePackets

theorem of_arrivalAt {frame : List DetectedPacket} (index : Fin frame.length)
    (codec : codecName vp9Description (frame.get index) = some "VP9".toList) : (arrivalAt frame index).Of frame :=
  ⟨List.getElem?_eq_getElem index.isLt, codec⟩

theorem of_twoArrival (index : Fin 2) : (twoArrival index).Of twoPackets :=
  @of_arrivalAt twoPackets index (by revert index; decide +kernel)

theorem of_threeArrival (index : Fin 3) : (threeArrival index).Of threePackets :=
  @of_arrivalAt threePackets index (by revert index; decide +kernel)

theorem keyframe_twoPackets : Keyframe twoPackets 65535 10 := by
  refine ⟨by decide, by decide, fun index packet found => ?_, fun index packet found => ?_⟩
  all_goals
    match index with
    | 0 => obtain rfl := Option.some_injective _ found; decide +kernel
    | 1 => obtain rfl := Option.some_injective _ found; decide +kernel
    | _ + 2 => exact nomatch found

theorem keyframe_threePackets : Keyframe threePackets 65535 10 := by
  refine ⟨by decide, by decide, fun index packet found => ?_, fun index packet found => ?_⟩
  all_goals
    match index with
    | 0 => obtain rfl := Option.some_injective _ found; decide +kernel
    | 1 => obtain rfl := Option.some_injective _ found; decide +kernel
    | 2 => obtain rfl := Option.some_injective _ found; decide +kernel
    | _ + 3 => exact nomatch found

/-- When the later two of three packets swap, all are stored, in the order of the frame. -/
theorem stored_iff_threePackets :
    (Machine.run step ((create videoStream 0).setSlideShowMode true 0)
      [(threeArrival 0).call, (threeArrival 2).call, (threeArrival 1).call]).storedKeyframe =
        [0, 2, 1] :=
  (stored_iff videoStream 0 [] 0 threePackets 65535 10
    [threeArrival 0, threeArrival 2, threeArrival 1] rfl keyframe_threePackets
    (by
      simp only [List.forall_mem_cons, List.not_mem_nil, false_imp_iff, implies_true, and_true]
      exact ⟨of_threeArrival 0, of_threeArrival 2, of_threeArrival 1⟩)
    (by decide)).mpr ⟨by decide, rfl⟩

/-- When the first of two packets comes last, the one with the marker is all that is stored. -/
theorem not_stored_twoPackets :
    ¬∀ (stream : MediaStream) (start : ℤ) (calls : List Call) (activation : ℤ) (frame : List DetectedPacket)
      (first : UInt16) (stamp : UInt32) (arrivals : List Arrival),
      (Machine.run step (create stream start) calls).slideshowIsActive = false → Keyframe frame first stamp →
      (∀ arrival ∈ arrivals, arrival.Of frame) → (arrivals.map Arrival.index).Perm (List.range frame.length) →
      (Machine.run step ((Machine.run step (create stream start) calls).step (.setSlideShowMode true activation)).1
        (arrivals.map Arrival.call)).storedKeyframe =
          places (Machine.run step (create stream start) calls).packets.length frame.length
            (arrivals.map Arrival.index) := by
  intro stored
  have claimed := stored videoStream 0 [] 0 twoPackets 65535 10 [twoArrival 1, twoArrival 0] rfl keyframe_twoPackets
    (List.forall_mem_cons.mpr ⟨of_twoArrival 1, List.forall_mem_singleton.mpr (of_twoArrival 0)⟩) (List.Perm.swap 0 1 [])
  exact absurd claimed (by decide +kernel)

end RtpSlideShowHandler

end Erizo
