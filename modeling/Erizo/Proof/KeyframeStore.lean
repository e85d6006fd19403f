/-
**The stored keyframe of a slideshow.**

While a keyframe is collected, the packet at an index of the buffer has the number that far after the one of the
packet that started it, and its header has changed in the sequence number only (`Collects`). So what is taken from
the buffer up to the first marker is the beginning of one frame (`collect_spec`).

* `storedKeyframe_begins_frame`: that holds whenever the stored keyframe is replaced, in every run without VP9.
-/

import Erizo.Library.Machine
import Erizo.Model.RtpSlideShowHandler

namespace Erizo

open Library Library.Bytes

namespace RtpSlideShowHandler

/-! ### Packets as they were written -/

/-- The sequence number of a packet. -/
def number (packet : DetectedPacket) : UInt16 := RtpHeader.getSeqNumber packet.data

/-- The timestamp of a packet. -/
def timestamp (packet : DetectedPacket) : UInt32 := RtpHeader.getTimestamp packet.data

/-- The marker of a packet. -/
def marker (packet : DetectedPacket) : Bool := RtpHeader.getMarker packet.data

/-- The name of a packet's codec. -/
def codecName (remoteSdp : SdpInfo) (packet : DetectedPacket) : Option Text :=
  (remoteSdp.getCodecByExternalPayloadType (UInt32.ofNat (RtpHeader.getPayloadType packet.data))).map RtpMap.encodingName

/-- The packet of video that a call writes. -/
def picture : Call → Option DetectedPacket
  | .write packet _ _ _ => if packet.type ≠ .video ∨ RtcpHeader.isRtcp packet.data 0 = true then none else some packet
  | .setSlideShowMode _ _ => none

/-- A packet starts the building of a keyframe: it is one of VP8 or H264, flagged and new. -/
def startsBuild (handler : RtpSlideShowHandler) (remoteSdp : SdpInfo) (packet : DetectedPacket) : Bool :=
  (codecName remoteSdp packet = some "VP8".toList || codecName remoteSdp packet = some "H264".toList) &&
    handler.startsKeyframe packet

/-- The packet with which a call starts to build a keyframe. -/
def starts (handler : RtpSlideShowHandler) : Call → Option DetectedPacket
  | .write packet remoteSdp now later =>
      (picture (.write packet remoteSdp now later)).filter (handler.startsBuild remoteSdp)
  | .setSlideShowMode _ _ => none

/-- A call does not write a packet of VP9. -/
def NotVP9 : Call → Prop
  | .write packet remoteSdp _ _ => codecName remoteSdp packet ≠ some "VP9".toList
  | .setSlideShowMode _ _ => True

/-- A handler with the packets of video that were written, as they were then, and the packet that started the build. -/
structure History where
  handler : RtpSlideShowHandler
  written : List DetectedPacket
  build : Option DetectedPacket

/-- The history of a new handler. -/
def History.start (stream : MediaStream) (now : ℤ) : History := ⟨create stream now, [], none⟩

/-- A call. -/
def History.step (history : History) (call : Call) : History × Outcome :=
  (⟨(history.handler.step call).1, history.written ++ (picture call).toList,
    (history.handler.starts call).or history.build⟩, (history.handler.step call).2)

/-- The history of a run. -/
def History.after (stream : MediaStream) (now : ℤ) (calls : List Call) : History :=
  Machine.run History.step (History.start stream now) calls

/-- **The beginning of a frame**: places of packets with consecutive numbers from the one that started it on, with
its timestamp, of which the last one and no other has the marker. -/
structure WholePrefix (written : List DetectedPacket) (started : DetectedPacket) (places : List ℕ) : Prop where
  flagged : started.isKeyframe = true
  nonempty : places ≠ []
  packets : ∀ index place : ℕ, places[index]? = some place → ∃ packet, written[place]? = some packet ∧
    number packet = number started + UInt16.ofNat index ∧ timestamp packet = timestamp started ∧
      (marker packet = true ↔ index + 1 = places.length)

/-! ### Headers that are rewritten -/

/-- The packet at a place has the timestamp and the marker with which it was written. -/
def Intact (packets written : List DetectedPacket) (place : ℕ) : Prop :=
  ∃ packet original, packets[place]? = some packet ∧ written[place]? = some original ∧
    timestamp packet = timestamp original ∧ marker packet = marker original

theorem Intact.append {packets written : List DetectedPacket} {place : ℕ} (intact : Intact packets written place)
    (first second : DetectedPacket) : Intact (packets ++ [first]) (written ++ [second]) place := by
  obtain ⟨packet, original, found, recorded, same⟩ := intact
  have below := (List.getElem?_eq_some_iff.mp found).1
  have within := (List.getElem?_eq_some_iff.mp recorded).1
  refine ⟨packet, original, ?_, ?_, same⟩
  · rw [List.getElem?_append_left below, found]
  · rw [List.getElem?_append_left within, recorded]

/-- A change at one place that keeps timestamp and marker. -/
theorem Intact.modify {packets written : List DetectedPacket} {place : ℕ} (intact : Intact packets written place)
    (other : ℕ) (change : DetectedPacket → DetectedPacket)
    (keeps : other = place → ∀ packet, timestamp (change packet) = timestamp packet ∧
      marker (change packet) = marker packet) :
    Intact (packets.modify other change) written place := by
  obtain ⟨packet, original, found, recorded, same⟩ := intact
  rw [Intact, List.getElem?_modify, found, Option.map_eq_map, Option.map_some]
  by_cases here : other = place
  · rw [if_pos here]
    refine ⟨change packet, original, rfl, recorded, ?_⟩
    rw [(keeps here packet).1, (keeps here packet).2]
    exact same
  · rw [if_neg here]
    exact ⟨packet, original, rfl, recorded, same⟩

theorem timestamp_setSeqNumber (packet : DetectedPacket) (seqNum : UInt16) :
    timestamp { packet with data := RtpHeader.setSeqNumber packet.data seqNum } = timestamp packet :=
  read32_congr fun _ above _ => write16_of_disjoint _ _ (Or.inr above)

theorem marker_setSeqNumber (packet : DetectedPacket) (seqNum : UInt16) :
    marker { packet with data := RtpHeader.setSeqNumber packet.data seqNum } = marker packet := by
  have kept : RtpHeader.setSeqNumber packet.data seqNum 1 = packet.data 1 :=
    write16_of_disjoint _ _ (Or.inl (by decide))
  show decide ((RtpHeader.setSeqNumber packet.data seqNum 1).toNat / 128 ≠ 0) = _
  rw [kept]
  rfl

/-! ### Collecting -/

/-- A handler with a packet that is about to be written. -/
def arrived (handler : RtpSlideShowHandler) (packet : DetectedPacket) : RtpSlideShowHandler :=
  { handler with packets := handler.packets ++ [packet], lastTimestampReceived := timestamp packet }

/-- **What is known of a handler** between and within its calls: where its places lead, and, while a keyframe is
built, that they are where they belong. -/
structure Collects (handler : RtpSlideShowHandler) (written : List DetectedPacket) (build : Option DetectedPacket) :
    Prop where
  size : handler.packets.length = written.length
  stored : ∀ place ∈ handler.storedKeyframe, place < handler.packets.length
  buffered : ∀ index place : ℕ, handler.keyframeBuffer[index]? = some (some place) →
    place ∉ handler.storedKeyframe ∧ Intact handler.packets written place
  building : handler.isBuildingKeyframe = true → ∃ started, build = some started ∧ started.isKeyframe = true ∧
    handler.firstKeyframeSeqNum = number started ∧ handler.currentKeyframeTimestamp = timestamp started ∧
      ∀ index place : ℕ, handler.keyframeBuffer[index]? = some (some place) →
        ∃ packet, written[place]? = some packet ∧ number packet = number started + UInt16.ofNat index

section Collects

variable {handler : RtpSlideShowHandler} {written : List DetectedPacket} {build : Option DetectedPacket}

theorem emptyBuffer_none {index place : ℕ} : emptyBuffer[index]? ≠ some (some place) := by
  rw [emptyBuffer, List.getElem?_replicate]
  split
  · exact fun same => nomatch same
  · exact fun same => nomatch same

/-- Nothing is collected. -/
theorem collects_idle (size : handler.packets.length = written.length)
    (stored : ∀ place ∈ handler.storedKeyframe, place < handler.packets.length)
    (buffer : handler.keyframeBuffer = emptyBuffer) (idle : handler.isBuildingKeyframe = false) :
    Collects handler written build where
  size := size
  stored := stored
  buffered := by
    rw [buffer]
    exact fun _ _ found => absurd found emptyBuffer_none
  building := fun building => absurd (building.symm.trans idle) nofun

/-- A packet arrives. -/
theorem Collects.arrive (collects : Collects handler written build) (packet : DetectedPacket) :
    Collects (handler.arrived packet) (written ++ [packet]) build where
  size := by
    show (handler.packets ++ [packet]).length = _
    rw [List.length_append, List.length_append, collects.size]
  stored := fun place member => by
    show place < (handler.packets ++ [packet]).length
    rw [List.length_append]
    exact Nat.lt_add_right _ (collects.stored place member)
  buffered := fun index place found =>
    ⟨(collects.buffered index place found).1, (collects.buffered index place found).2.append packet packet⟩
  building := fun building => by
    obtain ⟨started, current, flagged, first, stamp, places⟩ := collects.building building
    refine ⟨started, current, flagged, first, stamp, fun index place found => ?_⟩
    obtain ⟨original, recorded, numbered⟩ := places index place found
    refine ⟨original, ?_, numbered⟩
    rw [List.getElem?_append_left (List.getElem?_eq_some_iff.mp recorded).1, recorded]

/-- The packets change, but not at the places of the buffer. -/
theorem Collects.change {changed : RtpSlideShowHandler} (collects : Collects handler written build)
    (size : changed.packets.length = handler.packets.length)
    (intact : ∀ place, place ∉ handler.storedKeyframe → Intact handler.packets written place →
      Intact changed.packets written place)
    (stored : changed.storedKeyframe = handler.storedKeyframe) (buffer : changed.keyframeBuffer = handler.keyframeBuffer)
    (building : changed.isBuildingKeyframe = handler.isBuildingKeyframe)
    (first : changed.firstKeyframeSeqNum = handler.firstKeyframeSeqNum)
    (stamp : changed.currentKeyframeTimestamp = handler.currentKeyframeTimestamp) : Collects changed written build where
  size := size.trans collects.size
  stored := by
    rw [stored, size]
    exact collects.stored
  buffered := by
    rw [buffer, stored]
    intro index place found
    obtain ⟨apart, kept⟩ := collects.buffered index place found
    exact ⟨apart, intact place apart kept⟩
  building := by
    rw [building, first, stamp, buffer]
    exact collects.building

/-- A packet of a keyframe is put into the buffer. -/
theorem Collects.store (collects : Collects handler written build) {place : ℕ} {packet : DetectedPacket}
    (fresh : place ∉ handler.storedKeyframe) (intact : Intact handler.packets written place)
    (recorded : written[place]? = some packet) :
    Collects (handler.storeKeyframePacket place packet) written build := by
  have slots : ∀ index other : ℕ, (handler.storeKeyframePacket place packet).keyframeBuffer[index]? = some (some other) →
      (index = (number packet - handler.firstKeyframeSeqNum).toNat ∧ other = place) ∨
        handler.keyframeBuffer[index]? = some (some other) := by
    intro index other found
    change (handler.keyframeBuffer.set (number packet - handler.firstKeyframeSeqNum).toNat (some place))[index]? =
      _ at found
    rw [List.getElem?_set] at found
    split at found
    · rename_i here
      split at found
      · refine Or.inl ⟨here.symm, ?_⟩
        simpa using found.symm
      · exact nomatch found
    · exact Or.inr found
  refine ⟨collects.size, collects.stored, fun index other found => ?_, fun building => ?_⟩
  · rcases slots index other found with ⟨-, rfl⟩ | old
    · exact ⟨fresh, intact⟩
    · exact collects.buffered index other old
  · obtain ⟨started, current, flagged, first, stamp, places⟩ := collects.building building
    refine ⟨started, current, flagged, first, stamp, fun index other found => ?_⟩
    rcases slots index other found with ⟨rfl, rfl⟩ | old
    · refine ⟨packet, recorded, ?_⟩
      rw [first, UInt16.ofNat_toNat]
      abel
    · exact places index other old

/-- The stored keyframe is sent: only its packets change. -/
theorem sendPackets_frame (handler : RtpSlideShowHandler) (places : List ℕ) :
    (handler.sendPackets places).1.packets.length = handler.packets.length ∧
      (∀ place, place ∉ places → Intact handler.packets written place →
        Intact (handler.sendPackets places).1.packets written place) ∧
      ∃ translator packets, (handler.sendPackets places).1 =
        { handler with translator := translator, packets := packets } := by
  induction places generalizing handler with
  | nil => exact ⟨rfl, fun _ _ intact => intact, handler.translator, handler.packets, rfl⟩
  | cons first rest ih =>
      obtain ⟨size, intact, translator, packets, same⟩ :=
        ih ({ handler.restamp first with translator := handler.translator.generate.1 }.renumber first
          handler.translator.generate.2.output)
      refine ⟨size.trans ?_, fun place apart kept => ?_, translator, packets, same⟩
      · show ((handler.packets.modify first _).modify first _).length = _
        rw [List.length_modify, List.length_modify]
      · obtain ⟨other, later⟩ := not_or.mp (mt List.mem_cons.mpr apart)
        refine intact place later ?_
        have restamped := kept.modify first (fun packet =>
          { packet with data := RtpHeader.setTimestamp packet.data handler.lastTimestampReceived })
          fun here => absurd here.symm other
        exact restamped.modify first _ fun here => absurd here.symm other

theorem Collects.maybeSend (collects : Collects handler written build) (now : ℤ) :
    Collects (handler.maybeSendStoredKeyframe now).1 written build ∧
      (handler.maybeSendStoredKeyframe now).1.storedKeyframe = handler.storedKeyframe := by
  unfold maybeSendStoredKeyframe
  split
  · obtain ⟨size, intact, translator, packets, same⟩ :=
      @sendPackets_frame written handler handler.storedKeyframe
    rw [same] at size intact
    simp only [same, and_true]
    exact collects.change size intact rfl rfl rfl rfl rfl
  · exact ⟨collects, rfl⟩

/-- The packet is forwarded under another number. -/
theorem Collects.forward (collects : Collects handler written build) (place : ℕ) (packetSeqNum : UInt16)
    (shouldSkipPacket : Bool) (now : ℤ) :
    Collects (handler.forward place packetSeqNum shouldSkipPacket now).1 written build ∧
      (handler.forward place packetSeqNum shouldSkipPacket now).1.storedKeyframe = handler.storedKeyframe := by
  unfold RtpSlideShowHandler.forward
  simp only
  split
  · refine ⟨collects.change ?_ (fun other _ intact => ?_) rfl rfl rfl rfl rfl, rfl⟩
    · exact List.length_modify _ _ _
    · exact intact.modify place _ fun _ packet => ⟨timestamp_setSeqNumber packet _, marker_setSeqNumber packet _⟩
  · exact ⟨collects.change rfl (fun _ _ intact => intact) rfl rfl rfl rfl rfl, rfl⟩

theorem Collects.maybeUpdate (collects : Collects handler written build) (seqNum : UInt16) :
    Collects (handler.maybeUpdateHighestSeqNum seqNum) written build ∧
      (handler.maybeUpdateHighestSeqNum seqNum).storedKeyframe = handler.storedKeyframe := by
  unfold maybeUpdateHighestSeqNum
  split
  · exact ⟨collects.change rfl (fun _ _ intact => intact) rfl rfl rfl rfl rfl, rfl⟩
  · exact ⟨collects, rfl⟩

end Collects

/-! ### Complete keyframes -/

section Collect

variable {packets : List DetectedPacket} {stamp : UInt32}

/-- A packet with the timestamp of the keyframe is taken. -/
theorem collect_cons {first : ℕ} {packet : DetectedPacket} (found : packets[first]? = some packet)
    (current : timestamp packet = stamp) (rest : List (Option ℕ)) :
    collect packets stamp (some first :: rest) =
      if marker packet then ([first], true)
      else (first :: (collect packets stamp rest).1, (collect packets stamp rest).2) := by
  rw [collect, found]
  exact if_neg (not_not_intro current)

/-- A keyframe that is complete begins with a packet. -/
theorem collect_complete {slots : List (Option ℕ)} (complete : (collect packets stamp slots).2 = true) :
    ∃ first rest packet, slots = some first :: rest ∧ packets[first]? = some packet ∧ timestamp packet = stamp := by
  match slots with
  | [] => exact absurd complete Bool.false_ne_true
  | none :: rest => exact absurd complete Bool.false_ne_true
  | some first :: rest =>
      rw [collect] at complete
      split at complete
      · exact absurd complete Bool.false_ne_true
      · rename_i packet found
        refine ⟨first, rest, packet, rfl, found, ?_⟩
        by_contra other
        rw [if_pos (show RtpHeader.getTimestamp packet.data ≠ stamp from other)] at complete
        exact absurd complete Bool.false_ne_true

/-- **What the loop takes from the slots** when it ends at a marker. -/
theorem collect_spec (slots : List (Option ℕ)) (complete : (collect packets stamp slots).2 = true) :
    (collect packets stamp slots).1 ≠ [] ∧
      ∀ index place : ℕ, (collect packets stamp slots).1[index]? = some place → slots[index]? = some (some place) ∧
        ∃ packet, packets[place]? = some packet ∧ timestamp packet = stamp ∧
          (marker packet = true ↔ index + 1 = (collect packets stamp slots).1.length) := by
  induction slots with
  | nil => exact absurd complete Bool.false_ne_true
  | cons slot rest ih =>
      obtain ⟨first, _, packet, same, found, current⟩ := collect_complete complete
      obtain ⟨rfl, rfl⟩ := List.cons.inj same
      rw [collect_cons found current] at complete ⊢
      by_cases marked : marker packet = true
      · rw [if_pos marked]
        refine ⟨List.cons_ne_nil _ _, fun index place taken => ?_⟩
        cases index with
        | zero =>
            obtain rfl := Option.some_injective _ taken
            exact ⟨rfl, packet, found, current, iff_of_true marked rfl⟩
        | succ index => exact nomatch taken
      · rw [if_neg marked] at complete ⊢
        obtain ⟨more, taken⟩ := ih complete
        refine ⟨List.cons_ne_nil _ _, fun index place member => ?_⟩
        cases index with
        | zero =>
            obtain rfl := Option.some_injective _ member
            refine ⟨rfl, packet, found, current, iff_of_false marked fun last => more ?_⟩
            exact List.length_eq_zero_iff.mp (Nat.succ_injective last).symm
        | succ index =>
            obtain ⟨slot, other, there, stamped, ends⟩ := taken index place member
            exact ⟨slot, other, there, stamped, ends.trans Nat.succ_inj.symm⟩

end Collect

section Consolidate

variable {handler : RtpSlideShowHandler} {written : List DetectedPacket} {build : Option DetectedPacket}

/-- **What is known of the stored keyframe** after a part of a call, given whether it was replaced. -/
def Replaces (handler changed : RtpSlideShowHandler) (written : List DetectedPacket) (build : Option DetectedPacket)
    (replaced : Bool) : Prop :=
  if replaced then ∃ started, build = some started ∧ WholePrefix written started changed.storedKeyframe
  else changed.storedKeyframe = handler.storedKeyframe

/-- **A keyframe is complete**, or none is. -/
theorem Collects.consolidate (collects : Collects handler written build) (building : handler.isBuildingKeyframe = true) :
    Collects handler.consolidateKeyframe.1 written build ∧
      Replaces handler handler.consolidateKeyframe.1 written build handler.consolidateKeyframe.2 := by
  unfold consolidateKeyframe
  simp only
  split
  · exact ⟨collects_idle collects.size collects.stored rfl rfl, rfl⟩
  · split
    · rename_i complete
      obtain ⟨started, current, flagged, first, stamp, places⟩ := collects.building building
      obtain ⟨nonempty, taken⟩ := collect_spec _ complete
      -- What is taken stands in the buffer, at the distance from the first number at which it was put there.
      have slots : ∀ index place : ℕ, (collect handler.packets handler.currentKeyframeTimestamp
          (handler.keyframeBuffer.take maxKeyframeSize)).1[index]? = some place →
            handler.keyframeBuffer[index]? = some (some place) := by
        intro index place member
        have slot := (taken index place member).1
        rw [List.getElem?_take] at slot
        split at slot
        · exact slot
        · exact nomatch slot
      refine ⟨?_, started, current, flagged, nonempty, fun index place member => ?_⟩
      · refine collects_idle collects.size (fun place member => ?_) rfl rfl
        obtain ⟨index, found⟩ := List.mem_iff_getElem?.mp member
        obtain ⟨-, packet, original, there, -⟩ := collects.buffered index place (slots index place found)
        exact (List.getElem?_eq_some_iff.mp there).1
      · obtain ⟨-, packet, found, stamped, marked⟩ := taken index place member
        obtain ⟨-, other, original, there, recorded, sameStamp, sameMarker⟩ :=
          collects.buffered index place (slots index place member)
        obtain ⟨numbered, again, follows⟩ := places index place (slots index place member)
        obtain rfl := Option.some_injective _ (found.symm.trans there)
        obtain rfl := Option.some_injective _ (recorded.symm.trans again)
        refine ⟨original, recorded, follows, ?_, ?_⟩
        · rw [← sameStamp, stamped, stamp]
        · rw [← sameMarker]
          exact marked
    · exact ⟨collects.change rfl (fun _ _ intact => intact) rfl rfl rfl rfl rfl, rfl⟩

end Consolidate

/-! ### Calls -/

section Calls

variable {handler : RtpSlideShowHandler} {written : List DetectedPacket} {build : Option DetectedPacket}

/-- Without VP9 a packet changes the building only when it starts one. -/
theorem isKeyframe_eq (handler : RtpSlideShowHandler) {remoteSdp : SdpInfo} {packet : DetectedPacket}
    (notVP9 : codecName remoteSdp packet ≠ some "VP9".toList) :
    (handler.isKeyframe remoteSdp packet).1 =
      if handler.startsBuild remoteSdp packet then
        { handler.resetKeyframeBuilding with
          currentKeyframeTimestamp := timestamp packet
          isBuildingKeyframe := true
          firstKeyframeSeqNum := number packet }
      else handler := by
  unfold isKeyframe startsBuild
  unfold codecName at notVP9 ⊢
  split
  · rename_i codec found
    rw [found] at notVP9 ⊢
    simp only [Option.map_some, Option.some_inj, ne_eq] at notVP9 ⊢
    rw [if_neg notVP9]
    split
    · rename_i known
      rw [isVP8OrH264Keyframe, ← Bool.decide_or, decide_eq_true known, Bool.true_and]
      simp only
      split <;> rfl
    · rename_i unknown
      rw [← Bool.decide_or, decide_eq_false unknown, Bool.false_and, if_neg Bool.false_ne_true]
  · rename_i unknown
    rw [unknown]
    exact (if_neg Bool.false_ne_true).symm

/-- A packet that starts a keyframe starts an empty buffer. -/
theorem Collects.detect (collects : Collects handler written build) {remoteSdp : SdpInfo} {packet : DetectedPacket}
    (notVP9 : codecName remoteSdp packet ≠ some "VP9".toList) :
    Collects (handler.isKeyframe remoteSdp packet).1 written
        (((some packet).filter (handler.startsBuild remoteSdp)).or build) ∧
      (handler.isKeyframe remoteSdp packet).1.storedKeyframe = handler.storedKeyframe ∧
        (handler.isKeyframe remoteSdp packet).1.packets = handler.packets := by
  rw [isKeyframe_eq handler notVP9]
  by_cases starting : handler.startsBuild remoteSdp packet = true
  · rw [if_pos starting, Option.filter_some_pos starting]
    refine ⟨⟨collects.size, collects.stored, fun _ _ found => absurd found emptyBuffer_none, fun _ => ?_⟩, rfl, rfl⟩
    have flagged : packet.isKeyframe = true := by
      rw [startsBuild, startsKeyframe, Bool.and_eq_true, Bool.and_eq_true] at starting
      exact starting.2.1
    exact ⟨packet, rfl, flagged, rfl, rfl, fun _ _ found => absurd found emptyBuffer_none⟩
  · rw [if_neg starting, Option.filter_some_neg (Bool.eq_false_iff.mpr starting)]
    exact ⟨collects, rfl, rfl⟩

/-- **What `write` does while the slideshow is active.** -/
theorem Collects.slideShow (collects : Collects handler written build) {place : ℕ} {packet : DetectedPacket}
    (fresh : place ∉ handler.storedKeyframe) (intact : Intact handler.packets written place)
    (recorded : written[place]? = some packet) (isKeyframe : Bool) (now : ℤ) :
    Collects (handler.slideShow place packet isKeyframe now).1 written build ∧
      Replaces handler (handler.slideShow place packet isKeyframe now).1 written build
        (handler.slideShow place packet isKeyframe now).2.replaced := by
  have stored : Collects (if isKeyframe then handler.storeKeyframePacket place packet else handler) written build ∧
      (if isKeyframe then handler.storeKeyframePacket place packet else handler).storedKeyframe =
        handler.storedKeyframe := by
    split
    · exact ⟨collects.store fresh intact recorded, rfl⟩
    · exact ⟨collects, rfl⟩
  unfold RtpSlideShowHandler.slideShow
  generalize (if isKeyframe then handler.storeKeyframePacket place packet else handler) = storing at stored
  obtain ⟨collecting, same⟩ := stored
  simp only
  split
  · rename_i building
    obtain ⟨consolidating, replaces⟩ := collecting.consolidate building
    obtain ⟨sending, kept⟩ := consolidating.maybeSend now
    refine ⟨sending, ?_⟩
    unfold Replaces at replaces ⊢
    rw [kept, ← same]
    exact replaces
  · obtain ⟨sending, kept⟩ := collecting.maybeSend now
    exact ⟨sending, kept.trans same⟩

/-- What `write` does with a packet of video: it is detected and shown, and then it is forwarded. -/
theorem write_media (handler : RtpSlideShowHandler) {packet : DetectedPacket} (remoteSdp : SdpInfo) (now later : ℤ)
    (media : ¬ (packet.type ≠ .video ∨ RtcpHeader.isRtcp packet.data 0 = true)) :
    ∃ (detected : RtpSlideShowHandler × Bool) (shown : RtpSlideShowHandler × Outcome) (seqNum : UInt16) (skipped : Bool),
      detected = (handler.arrived packet).isKeyframe remoteSdp packet ∧
      shown = (if detected.1.slideshowIsActive then detected.1.slideShow handler.packets.length packet detected.2 now
        else (detected.1, ⟨[], false⟩)) ∧
      (handler.write packet remoteSdp now later).1 = ((shown.1.maybeUpdateHighestSeqNum seqNum).forward
        handler.packets.length (number packet) skipped later).1 ∧
      (handler.write packet remoteSdp now later).2.replaced = shown.2.replaced := by
  have passes : ¬ ((decide (packet.type ≠ .video) || RtcpHeader.isRtcp packet.data 0) = true) := by
    rw [Bool.or_eq_true, decide_eq_true_iff]
    exact media
  rw [RtpSlideShowHandler.write, if_neg passes]
  exact ⟨_, _, _, _, rfl, rfl, rfl, rfl⟩

theorem picture_write {packet : DetectedPacket} (remoteSdp : SdpInfo) (now later : ℤ)
    (media : ¬ (packet.type ≠ .video ∨ RtcpHeader.isRtcp packet.data 0 = true)) :
    picture (.write packet remoteSdp now later) = some packet := if_neg media

/-- **A packet of video is written.** -/
theorem Collects.write (collects : Collects handler written build) {packet : DetectedPacket} {remoteSdp : SdpInfo}
    (now later : ℤ) (notVP9 : codecName remoteSdp packet ≠ some "VP9".toList)
    (media : ¬ (packet.type ≠ .video ∨ RtcpHeader.isRtcp packet.data 0 = true)) :
    Collects (handler.write packet remoteSdp now later).1 (written ++ [packet])
        (((some packet).filter (handler.startsBuild remoteSdp)).or build) ∧
      Replaces handler (handler.write packet remoteSdp now later).1 (written ++ [packet])
        (((some packet).filter (handler.startsBuild remoteSdp)).or build)
        (handler.write packet remoteSdp now later).2.replaced := by
  obtain ⟨detecting, sameStored, samePackets⟩ := (collects.arrive packet).detect notVP9
  have fresh : handler.packets.length ∉ handler.storedKeyframe := fun member =>
    lt_irrefl _ (collects.stored _ member)
  have placed : (handler.packets ++ [packet])[handler.packets.length]? = some packet := List.getElem?_concat_length
  have recorded : (written ++ [packet])[handler.packets.length]? = some packet := by
    rw [collects.size]
    exact List.getElem?_concat_length
  obtain ⟨detected, shown, seqNum, skipped, rfl, showing, after, replaced⟩ :=
    write_media handler remoteSdp now later media
  rw [after, replaced]
  change Collects _ _ (((some packet).filter (handler.startsBuild remoteSdp)).or build) at detecting
  generalize ((some packet).filter (handler.startsBuild remoteSdp)).or build = started at detecting ⊢
  have shows : Collects shown.1 (written ++ [packet]) started ∧
      Replaces handler shown.1 (written ++ [packet]) started shown.2.replaced := by
    rw [showing]
    split
    · have intact : Intact ((handler.arrived packet).isKeyframe remoteSdp packet).1.packets (written ++ [packet])
          handler.packets.length := by
        rw [samePackets]
        exact ⟨packet, packet, placed, recorded, rfl, rfl⟩
      obtain ⟨collecting, replaces⟩ := detecting.slideShow (sameStored ▸ fresh) intact recorded _ now
      unfold Replaces at replaces ⊢
      rw [← show (handler.arrived packet).storedKeyframe = handler.storedKeyframe from rfl, ← sameStored]
      exact ⟨collecting, replaces⟩
    · exact ⟨detecting, sameStored⟩
  obtain ⟨updating, kept⟩ := shows.1.maybeUpdate seqNum
  obtain ⟨forwarding, same⟩ := updating.forward handler.packets.length (number packet) skipped later
  have replaces := shows.2
  unfold Replaces at replaces ⊢
  rw [same, kept]
  exact ⟨forwarding, replaces⟩

end Calls

/-! ### Runs -/

/-- **What a call does to a history**: it keeps what is known of the handler, and says what is stored. -/
theorem History.step_collects (history : History) (call : Call) (notVP9 : NotVP9 call)
    (collects : Collects history.handler history.written history.build) :
    Collects (history.step call).1.handler (history.step call).1.written (history.step call).1.build ∧
      Replaces history.handler (history.step call).1.handler (history.step call).1.written (history.step call).1.build
        (history.step call).2.replaced := by
  cases call with
  | write packet remoteSdp now later =>
      by_cases other : packet.type ≠ .video ∨ RtcpHeader.isRtcp packet.data 0 = true
      · have nothing : picture (.write packet remoteSdp now later) = none := if_pos other
        have passes : (decide (packet.type ≠ .video) || RtcpHeader.isRtcp packet.data 0) = true := by
          rw [Bool.or_eq_true, decide_eq_true_iff]
          exact other
        have same : history.handler.write packet remoteSdp now later = (history.handler, ⟨[packet], false⟩) := by
          rw [RtpSlideShowHandler.write, if_pos passes]
        simp only [History.step, RtpSlideShowHandler.step, starts, nothing, same, Option.toList_none, List.append_nil,
          Option.filter_none, Option.none_or]
        exact ⟨collects, rfl⟩
      · simp only [History.step, RtpSlideShowHandler.step, starts, picture_write remoteSdp now later other,
          Option.toList_some]
        exact collects.write now later notVP9 other
  | setSlideShowMode active now =>
      simp only [History.step, RtpSlideShowHandler.step, starts, picture, Option.toList_none, List.append_nil,
        Option.none_or]
      unfold setSlideShowMode
      split
      · exact ⟨collects, rfl⟩
      · exact ⟨collects_idle collects.size collects.stored rfl rfl, rfl⟩

theorem History.after_collects (stream : MediaStream) (now : ℤ) (calls : List Call)
    (notVP9 : ∀ call ∈ calls, NotVP9 call) :
    Collects (History.after stream now calls).handler (History.after stream now calls).written
      (History.after stream now calls).build := by
  refine @Machine.run_invariant _ _ _ History.step
    (fun history => Collects history.handler history.written history.build) NotVP9 ?_ _ ?_ _ notVP9
  · exact fun history call allowed collects => (history.step_collects call allowed collects).1
  · exact collects_idle rfl (fun _ member => absurd member List.not_mem_nil) rfl rfl

/-- **The stored keyframe is the beginning of one frame.** In every run without VP9, a call that replaces the stored
keyframe puts places of packets with consecutive numbers there, as they were written, from the one that started the
build on. Every other call keeps the stored keyframe. -/
theorem storedKeyframe_begins_frame (stream : MediaStream) (now : ℤ) (calls : List Call) (call : Call)
    (notVP9 : ∀ other ∈ calls, NotVP9 other) (allowed : NotVP9 call) :
    (((History.after stream now calls).step call).2.replaced = true →
      ∃ started, ((History.after stream now calls).step call).1.build = some started ∧
        WholePrefix ((History.after stream now calls).step call).1.written started
          ((History.after stream now calls).step call).1.handler.storedKeyframe) ∧
    (((History.after stream now calls).step call).2.replaced = false →
      ((History.after stream now calls).step call).1.handler.storedKeyframe =
        (History.after stream now calls).handler.storedKeyframe) := by
  have replaces := ((History.after stream now calls).step_collects call allowed
    (History.after_collects stream now calls notVP9)).2
  refine ⟨fun replaced => ?_, fun kept => ?_⟩
  · rw [replaced] at replaces
    exact replaces
  · rw [kept] at replaces
    exact replaces

/-- A slideshow in which the first packet of a keyframe comes twice. -/
def firstTwice : List Call :=
  [.setSlideShowMode true 0, .write (picturePacket true 65535 10 false) vp8Description 0 0,
    .write (picturePacket true 65535 10 false) vp8Description 0 0]

/-- The second packet of that keyframe. -/
def lastPacket : Call := .write (picturePacket false 0 10 true) vp8Description 0 0

theorem storedKeyframe_begins_frame_firstTwice :
    ((History.after videoStream 0 firstTwice).step lastPacket).1.handler.storedKeyframe = [1, 2] ∧
    ∃ started, ((History.after videoStream 0 firstTwice).step lastPacket).1.build = some started ∧
      WholePrefix ((History.after videoStream 0 firstTwice).step lastPacket).1.written started
        ((History.after videoStream 0 firstTwice).step lastPacket).1.handler.storedKeyframe := by
  have notVP9 : ∀ packet, codecName vp8Description packet ≠ some "VP9".toList := by
    intro packet same
    rw [codecName, Option.map_eq_some_iff] at same
    obtain ⟨codec, found, name⟩ := same
    have listed : codec ∈ vp8Description.payloadVector := List.mem_of_find?_eq_some found
    obtain rfl := List.mem_singleton.mp listed
    exact absurd name (by decide)
  refine ⟨by decide +kernel,
    (storedKeyframe_begins_frame videoStream 0 firstTwice lastPacket ?_ (notVP9 _)).1 (by decide +kernel)⟩
  intro other member
  rcases List.mem_cons.mp member with rfl | member
  · trivial
  · rcases List.mem_cons.mp member with rfl | member
    · exact notVP9 _
    · obtain rfl := List.mem_singleton.mp member
      exact notVP9 _

end RtpSlideShowHandler

end Erizo
