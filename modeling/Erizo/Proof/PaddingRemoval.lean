/-
**What is left of a packet without its padding.**

The length of the padding is the last byte of the packet, and nothing compares it with the length of the payload.

* `removes_iff`: a packet keeps its header, loses its padding and its flag, and is dropped if it is nothing but padding,
  exactly when the padding is not longer than the payload.
-/

import Erizo.Model.RtpPaddingRemovalHandler

namespace Erizo

open Library Library.Bytes

namespace RtpPaddingRemovalHandler

open RtpHeader

/-- The packet is handled: it is not RTCP, it is video, and the handler is enabled. -/
def handles (handler : RtpPaddingRemovalHandler) (packet : DataPacket) : Bool :=
  !RtcpHeader.isRtcp packet.data 0 && handler.enabled && packet.type = .video

/-- The packet is dropped since it is nothing but padding. -/
def DropsPadding (handler : RtpPaddingRemovalHandler) (packet : DataPacket) : Prop :=
  handler.handles packet = true ∧
    (removePaddingBytes packet (handler.getTranslatorForSsrc (getSSRC packet.data))).1 = none

/-- The packet that is passed on has its whole header and no padding, and is otherwise the same. -/
structure Intact (packet passed : DataPacket) : Prop where
  whole : (getHeaderLength packet.data : ℤ) ≤ passed.length
  cleared : hasPadding passed.data = false
  flags : passed.data 0 = packet.data 0 &&& 0xDF
  same : ∀ address : ℕ, address ≠ 0 → address ≠ 2 → address ≠ 3 → (address : ℤ) < passed.length →
    passed.data address = packet.data address

/-- What is passed on is intact, and what is nothing but padding is dropped. -/
structure Removes (handler : RtpPaddingRemovalHandler) (packet : DataPacket) : Prop where
  passed : ∀ passed, (handler.read packet).2 = some passed → Intact packet passed
  dropped : handler.DropsPadding packet ↔
    packet.length - getHeaderLength packet.data ≤ RtpUtils.getPaddingLength packet

theorem hasPadding_clear (data : Memory) (number : UInt16) :
    hasPadding (setSeqNumber (clearPadding data) number) = false := by
  have byte : ∀ byte : Fin 256, (UInt8.ofNat byte &&& 0xDF).toNat / 32 % 2 = 0 := by decide +kernel
  have first : setSeqNumber (clearPadding data) number 0 = data 0 &&& 0xDF := write16_of_disjoint _ _ (Or.inl (by decide))
  have here := byte ⟨(data 0).toNat, (data 0).toNat_lt⟩
  rw [UInt8.ofNat_toNat] at here
  rw [hasPadding, first]
  exact decide_eq_false (not_not.mpr here)

/-- Without the flag, the byte of the flags is the same without it. -/
theorem flags_of_not_hasPadding {data : Memory} (plain : hasPadding data = false) : data 0 = data 0 &&& 0xDF := by
  have byte : ∀ byte : Fin 256, (UInt8.ofNat byte).toNat / 32 % 2 = 0 → UInt8.ofNat byte = UInt8.ofNat byte &&& 0xDF := by
    decide +kernel
  have here := byte ⟨(data 0).toNat, (data 0).toNat_lt⟩
  rw [UInt8.ofNat_toNat] at here
  exact here (not_not.mp (of_decide_eq_false plain))

section Read

variable {handler : RtpPaddingRemovalHandler} {packet : DataPacket}

/-- What `read` passes on of a packet that it handles. -/
theorem read_handled (handled : handler.handles packet = true) {passed : DataPacket}
    (here : (handler.read packet).2 = some passed) : ∃ number, passed = { packet with
      length := packet.length - RtpUtils.getPaddingLength packet
      data := setSeqNumber (clearPadding packet.data) number } := by
  unfold handles at handled
  unfold read at here
  rw [if_pos handled] at here
  dsimp only at here
  unfold removePaddingBytes at here
  split at here
  · exact absurd here.symm (Option.some_ne_none _)
  · next stripped translator removed =>
      dsimp only at removed
      split at removed
      · exact absurd (congrArg Prod.fst removed).symm (Option.some_ne_none _)
      · obtain ⟨rfl⟩ := Option.some.inj (congrArg Prod.fst removed)
        dsimp only at here
        split at here
        · exact absurd here.symm (Option.some_ne_none _)
        · exact ⟨_, (Option.some.inj here).symm⟩

theorem dropsPadding_iff : handler.DropsPadding packet ↔ handler.handles packet = true ∧
    ((RtpUtils.getPaddingLength packet + getHeaderLength packet.data : ℕ) : ℤ) = packet.length := by
  refine and_congr_right fun _ => ?_
  unfold removePaddingBytes
  dsimp only
  split
  · next same => exact iff_of_true rfl same
  · next other => exact iff_of_false (Option.some_ne_none _) other

/-- **A packet loses its padding and nothing else exactly when its padding is not longer than its payload.** While the
handler is disabled, it has to have none, and a payload. -/
theorem removes_iff (handler : RtpPaddingRemovalHandler) (packet : DataPacket) (video : packet.type = .video)
    (rtp : RtcpHeader.isRtcp packet.data 0 = false) (whole : (getHeaderLength packet.data : ℤ) ≤ packet.length) :
    handler.Removes packet ↔
      if handler.enabled then (RtpUtils.getPaddingLength packet : ℤ) ≤ packet.length - getHeaderLength packet.data
      else hasPadding packet.data = false ∧ (getHeaderLength packet.data : ℤ) < packet.length := by
  have handles : handler.handles packet = handler.enabled := by simp [RtpPaddingRemovalHandler.handles, video, rtp]
  have drops := @dropsPadding_iff handler packet
  rw [handles] at drops
  cases enabled : handler.enabled with
  | true =>
      rw [if_pos rfl]
      rw [enabled, and_iff_right rfl, Nat.cast_add] at drops
      constructor
      · intro removes
        by_contra longer
        have dropped := drops.mp (removes.dropped.mpr (by omega))
        omega
      · refine fun fits => ⟨fun passed here => ?_, drops.trans (by omega)⟩
        obtain ⟨number, rfl⟩ := read_handled (handles.trans enabled) here
        refine ⟨by show _ ≤ packet.length - _; omega, hasPadding_clear packet.data number, ?_, ?_⟩
        · exact write16_of_disjoint (clearPadding packet.data) number (Or.inl (show 0 < 2 by decide))
        · intro address not_flags high low _
          show setSeqNumber (clearPadding packet.data) number address = packet.data address
          rw [setSeqNumber, write16_of_disjoint _ _ (by omega), clearPadding]
          exact copy_of_le _ _ (by simp; omega)
  | false =>
      rw [if_neg Bool.false_ne_true]
      rw [enabled] at drops
      have passes : (handler.read packet).2 = some packet := by
        unfold read
        rw [if_neg]
        rw [show (!RtcpHeader.isRtcp packet.data 0 && handler.enabled && packet.type = .video) = false from
          handles.trans enabled]
        exact Bool.false_ne_true
      have none : ¬handler.DropsPadding packet := fun dropped => Bool.false_ne_true (drops.mp dropped).1
      constructor
      · intro removes
        have intact := removes.passed packet passes
        refine ⟨intact.cleared, lt_of_not_ge fun short => none (removes.dropped.mpr ?_)⟩
        omega
      · rintro ⟨plain, longer⟩
        refine ⟨fun passed here => ?_, iff_of_false none ?_⟩
        · obtain rfl := Option.some.inj (passes.symm.trans here)
          exact ⟨whole, plain, flags_of_not_hasPadding plain, fun _ _ _ _ _ => rfl⟩
        · rw [RtpUtils.getPaddingLength, plain]
          simpa using longer

end Read

/-- One byte of payload, which says that there are 255 bytes of padding. -/
def overPaddedPacket : DataPacket := videoPacket ([0xA0, 96] ++ encode16 1 ++ encode32 0 ++ encode32 7 ++ [255])

/-- Two bytes of payload and two of padding. -/
def paddedPacket : DataPacket := videoPacket ([0xA0, 96] ++ encode16 1 ++ encode32 0 ++ encode32 7 ++ [5, 6, 0, 2])

theorem removes_iff_padded : init.Removes paddedPacket :=
  (removes_iff init paddedPacket rfl (by decide) (by decide)).mpr (by decide)

/-- The packet with 13 bytes is passed on with a length of -242. -/
theorem not_removes_overPadded :
    (∃ passed, (init.read overPaddedPacket).2 = some passed ∧ passed.length = -242) ∧
      ¬init.Removes overPaddedPacket := by
  have passed : ((init.read overPaddedPacket).2.map fun passed => passed.length) = some (-242) := by decide +kernel
  obtain ⟨packet, here, length⟩ := Option.map_eq_some_iff.mp passed
  refine ⟨⟨packet, here, length⟩, fun removes => ?_⟩
  have whole := (removes.passed packet here).whole
  rw [length] at whole
  exact absurd whole (by decide)

end RtpPaddingRemovalHandler

end Erizo
