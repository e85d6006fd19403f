/-
**The padding of a marker, and the bytes there are for it.**

The remainder that is left for the last packet of padding can be shorter than a header. The subtraction then wraps around.

* `fits_iff`: the plan fits its budget exactly when nothing is divided by zero, and the remainder has room for a header
  or lacks a multiple of 256 bytes.
* `onPacketWithMarkerSet_bytes`: the bytes of a plan are those of the packets that a marker triggers.
-/

import Erizo.Model.PaddingRate

namespace Erizo

open Library Library.Bytes

namespace PaddingRate

open RtpPaddingGeneratorHandler

/-- The bytes of the packets of a plan, each with its header. -/
def Plan.bytes (plan : Plan) (headerLength : ℕ) : ℕ :=
  plan.numberOfFullPaddingPackets.toNat * (255 + headerLength) +
    if plan.lastPaddingPacketSize = 0 then 0 else plan.lastPaddingPacketSize.toNat + headerLength

/-- There is a plan, and it takes the bytes of a marker, or less by one header at most. -/
def FitsBudget (targetPaddingBitrate : Int64) (markerRate : UInt64) (header : Memory) : Prop :=
  ∃ made, plan targetPaddingBitrate markerRate (UInt32.ofNat (RtpHeader.getHeaderLength header)) = some made ∧
    made.bytes (RtpHeader.getHeaderLength header) ≤ made.bytesPerMarker.toNat ∧
    made.bytesPerMarker.toNat ≤ made.bytes (RtpHeader.getHeaderLength header) + RtpHeader.getHeaderLength header

/-- The divisor `marker_rate * 8`, in 64 bits. -/
def divisor (markerRate : UInt64) : ℕ := 8 * max markerRate.toNat 3 % 2 ^ 64

/-- What is left for the last packet. -/
def remainder (targetPaddingBitrate : Int64) (markerRate : UInt64) (header : Memory) : ℕ :=
  targetPaddingBitrate.toInt.toNat / divisor markerRate % (255 + RtpHeader.getHeaderLength header)

theorem getHeaderLength_le (header : Memory) : RtpHeader.getHeaderLength header ≤ 262216 := by
  have extension : RtpHeader.getExtension header ≤ 1 := Nat.le_of_lt_succ (Nat.mod_lt _ (by decide))
  have csrcs : RtpHeader.getCc header ≤ 15 := Nat.le_of_lt_succ (Nat.mod_lt _ (by decide))
  have words := (RtpHeader.getExtLength header).toNat_lt
  have most := Nat.mul_le_mul extension (show 4 + (RtpHeader.getExtLength header).toNat * 4 ≤ 4 + 65535 * 4 by omega)
  unfold RtpHeader.getHeaderLength
  omega

theorem toNat_divisor (markerRate : UInt64) : (max markerRate minMarkerRate * 8).toNat = divisor markerRate := by
  have larger : (max markerRate minMarkerRate).toNat = max markerRate.toNat 3 := by
    rw [show minMarkerRate = 3 from rfl]
    by_cases le : markerRate ≤ 3
    · rw [show max markerRate 3 = 3 from if_pos le]
      exact (max_eq_right (UInt64.le_iff_toNat_le.mp le)).symm
    · rw [show max markerRate 3 = markerRate from if_neg le]
      exact (max_eq_left (Nat.le_of_not_le fun below => le (UInt64.le_iff_toNat_le.mpr below))).symm
  rw [UInt64.toNat_mul, larger, Nat.mul_comm]
  rfl

/-- The last packet, by what is left for it. -/
theorem toNat_last {rest headerLength : UInt64} {length : ℕ} (same : headerLength.toNat = length)
    (small : length ≤ 262216) (below : rest.toNat < 255 + length) :
    ((rest - headerLength).toUInt8).toNat =
      if length ≤ rest.toNat then rest.toNat - length else (256 - (length - rest.toNat) % 256) % 256 := by
  rw [UInt64.toNat_toUInt8, UInt64.toNat_sub, same]
  split <;> omega

/-- **The plan fits its budget, by what is left for the last packet.** -/
theorem bytes_fit_iff {total full rest length last : ℕ} (whole : total = full * (255 + length) + rest)
    (below : rest < 255 + length)
    (size : last = if length ≤ rest then rest - length else (256 - (length - rest) % 256) % 256) :
    (full * (255 + length) + (if last = 0 then 0 else last + length) ≤ total ∧
      total ≤ full * (255 + length) + (if last = 0 then 0 else last + length) + length) ↔
      length ≤ rest ∨ 256 ∣ length - rest := by
  subst whole
  by_cases room : length ≤ rest
  · rw [if_pos room] at size
    refine iff_of_true ?_ (Or.inl room)
    split <;> omega
  · rw [if_neg room] at size
    rw [or_iff_right room]
    constructor
    · intro fits
      split at fits <;> omega
    · rintro ⟨count, wraps⟩
      have nothing : last = 0 := by omega
      rw [if_pos nothing]
      omega

theorem bytes_eq (plan : Plan) (length : ℕ) : plan.bytes length =
    plan.numberOfFullPaddingPackets.toNat * (255 + length) +
      if plan.lastPaddingPacketSize.toNat = 0 then 0 else plan.lastPaddingPacketSize.toNat + length := by
  simp only [Plan.bytes, ← UInt8.toNat_inj, UInt8.toNat_zero]

/-- **The plan fits its budget exactly when** there is nothing to pad, or the divisor is not zero and what is left for the
last packet has room for its header (or lacks a multiple of 256 bytes). -/
theorem fits_iff (targetPaddingBitrate : Int64) (markerRate : UInt64) (header : Memory) :
    FitsBudget targetPaddingBitrate markerRate header ↔
      targetPaddingBitrate ≤ 0 ∨ ¬2 ^ 61 ∣ max markerRate.toNat 3 ∧
        (RtpHeader.getHeaderLength header ≤ remainder targetPaddingBitrate markerRate header ∨
          256 ∣ RtpHeader.getHeaderLength header - remainder targetPaddingBitrate markerRate header) := by
  have small := getHeaderLength_le header
  unfold FitsBudget plan remainder
  generalize RtpHeader.getHeaderLength header = length at small ⊢
  by_cases idle : targetPaddingBitrate ≤ 0
  · rw [if_pos idle]
    exact iff_of_true ⟨_, rfl, by rw [bytes_eq]; simp, Nat.zero_le _⟩ (Or.inl idle)
  rw [if_neg idle, or_iff_right idle]
  dsimp only
  have header : (UInt32.ofNat length).toNat = length := by
    rw [UInt32.toNat_ofNat', Nat.mod_eq_of_lt (by omega)]
  have size : (maxPaddingSize.toUInt32 + UInt32.ofNat length).toNat = 255 + length := by
    rw [UInt32.toNat_add, header, show maxPaddingSize.toUInt32.toNat = 255 from rfl, Nat.mod_eq_of_lt (by omega)]
  have divides : max markerRate minMarkerRate * 8 = 0 ↔ 2 ^ 61 ∣ max markerRate.toNat 3 := by
    rw [← UInt64.toNat_inj, toNat_divisor, divisor, UInt64.toNat_zero]
    omega
  by_cases wraps : 2 ^ 61 ∣ max markerRate.toNat 3
  · rw [if_pos (Or.inl (divides.mpr wraps))]
    exact iff_of_false (fun ⟨_, made, _⟩ => absurd made.symm (Option.some_ne_none _)) fun both => both.1 wraps
  · have some_size : maxPaddingSize.toUInt32 + UInt32.ofNat length ≠ 0 := fun none => by
      rw [none, UInt32.toNat_zero] at size
      omega
    rw [if_neg (not_or.mpr ⟨fun zero => wraps (divides.mp zero), some_size⟩), and_iff_right wraps]
    simp only [Option.some.injEq, exists_eq_left', bytes_eq]
    have target : targetPaddingBitrate.toUInt64.toNat = targetPaddingBitrate.toInt.toNat :=
      Int64.toNat_toUInt64_of_le (Int64.le_of_lt (Int64.not_le.mp idle))
    have packet : (maxPaddingSize.toUInt32 + UInt32.ofNat length).toUInt64.toNat = 255 + length := size
    have rest : (targetPaddingBitrate.toUInt64 / (max markerRate minMarkerRate * 8) %
        (maxPaddingSize.toUInt32 + UInt32.ofNat length).toUInt64).toNat =
          targetPaddingBitrate.toInt.toNat / divisor markerRate % (255 + length) := by
      rw [UInt64.toNat_mod, packet, UInt64.toNat_div, toNat_divisor, target]
    have below : targetPaddingBitrate.toInt.toNat / divisor markerRate % (255 + length) < 255 + length :=
      Nat.mod_lt _ (by omega)
    refine bytes_fit_iff ?_ below ?_
    · rw [UInt64.toNat_div (_ / _), packet, ← rest, UInt64.toNat_mod, packet]
      exact (Nat.div_add_mod' _ _).symm
    · rw [toNat_last (show (UInt32.ofNat length).toUInt64.toNat = length from header) small (rest ▸ below), rest]

/-- One byte for a marker, less than a header: the last packet gets 245 bytes of padding, and 257 bytes are sent. -/
theorem not_fits_oneByte : ¬FitsBudget 24 3 fun _ => 0 := by
  rintro ⟨made, same, fits, -⟩
  rw [show plan 24 3 (UInt32.ofNat (RtpHeader.getHeaderLength fun _ => 0)) = some ⟨1, 0, 245⟩ by decide] at same
  rw [← Option.some.inj same] at fits
  exact absurd fits (by decide)

/-! ### The packets of a plan -/

section Packets

variable (handler : RtpPaddingGeneratorHandler) (packet : DataPacket)

/-- The bytes of the packets sent. -/
def sentBytes (sent : List Sent) : ℤ := (sent.map fun sent => sent.packet.length).sum

variable {packet} (short : RtpHeader.getHeaderLength packet.data + 255 < 2 ^ 16)
include short

/-- A packet of padding has its header and its padding. -/
theorem sendPaddingPacket_bytes (size : UInt8) :
    sentBytes (handler.sendPaddingPacket packet size true).2 =
      if size = 0 then 0 else (size.toNat : ℤ) + RtpHeader.getHeaderLength packet.data := by
  have byte := size.toNat_lt
  unfold sendPaddingPacket sentBytes
  split
  · rfl
  · rw [if_neg (by simp)]
    show ((RtpHeader.getHeaderLength packet.data + size.toNat) % 65536 : ℕ) + (0 : ℤ) = _
    rw [Nat.mod_eq_of_lt (by omega)]
    push_cast
    omega

theorem sendFullPaddingPackets_bytes (count : ℕ) :
    sentBytes (sendFullPaddingPackets packet (fun _ => true) count handler).2 =
      count * (255 + RtpHeader.getHeaderLength packet.data) := by
  induction count with
  | zero => rw [Nat.cast_zero, Int.zero_mul]; rfl
  | succ count ih =>
      have one := sendPaddingPacket_bytes (sendFullPaddingPackets packet (fun _ => true) count handler).1 short
        maxPaddingSize
      rw [if_neg (by decide), show maxPaddingSize.toNat = 255 from rfl] at one
      rw [sendFullPaddingPackets, sentBytes, List.map_append, List.sum_append]
      unfold sentBytes at ih one
      rw [ih, one]
      push_cast
      ring

omit short in
theorem lastPaddingPacketSize_sendFull (count : ℕ) :
    (sendFullPaddingPackets packet (fun _ => true) count handler).1.lastPaddingPacketSize =
      handler.lastPaddingPacketSize := by
  induction count with
  | zero => rfl
  | succ count ih => exact ih

/-- **The packets that a marker triggers, if the bucket grants them all, have the bytes of the plan.** -/
theorem onPacketWithMarkerSet_bytes (made : Plan)
    (full : handler.numberOfFullPaddingPackets = made.numberOfFullPaddingPackets.toNat)
    (last : handler.lastPaddingPacketSize = made.lastPaddingPacketSize) :
    sentBytes (handler.onPacketWithMarkerSet packet fun _ => true).2 =
      made.bytes (RtpHeader.getHeaderLength packet.data) := by
  have others := sendFullPaddingPackets_bytes handler short handler.numberOfFullPaddingPackets
  have final := sendPaddingPacket_bytes
    (sendFullPaddingPackets packet (fun _ => true) handler.numberOfFullPaddingPackets handler).1 short
    (sendFullPaddingPackets packet (fun _ => true) handler.numberOfFullPaddingPackets handler).1.lastPaddingPacketSize
  rw [onPacketWithMarkerSet, sentBytes, List.map_append, List.sum_append]
  unfold sentBytes at others final
  rw [others, final, lastPaddingPacketSize_sendFull handler, last, full, Plan.bytes]
  push_cast
  split <;> simp

end Packets

end PaddingRate

end Erizo
