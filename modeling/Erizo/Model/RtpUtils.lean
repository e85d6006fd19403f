/-
**Serial comparison and the walks over RTCP packets** (`rtp/RtpUtils.cpp`).

`numberLessThan first last bits` compares two numbers of `bits` bits. The difference
`first - last` is taken modulo `2 ^ bits` and counts as *negative* when it exceeds
`2 ^ (bits - 4) - 1`, so that `first` is "less" unless it is `last` or ahead of it by fewer than
`2 ^ (bits - 4)`. The comparison is not antisymmetric: two numbers far enough apart are each less
than the other.

`forEachRtcpBlock` and `forEachNack` call back for the blocks of a compound packet and for the items
of a NACK block. The callbacks may write to the packet, so both walks thread a state whose bytes they
read at every step, and a callback may fail. Their loops end because every round moves on by at least
four bytes; the number of rounds they are given is enough.
-/

import Erizo.Library.Serial
import Erizo.Model.RtpHeaders

namespace Erizo

namespace RtpUtils

open Library Library.Serial Library.Bytes

/-- `RtpUtils::numberLessThan`. -/
def numberLessThan (first last : UInt16) (bits : ℕ) : Bool :=
  let result : UInt16 := first - last
  let mark : UInt16 := UInt16.ofNat (2 ^ bits - 1)
  let result : UInt16 := result &&& mark
  let threshold : UInt16 :=
    if bits > 4 then UInt16.ofNat (2 ^ (bits - 4) - 1) else UInt16.ofNat (2 ^ bits - 1)
  decide (result > threshold)

/-- `RtpUtils::sequenceNumberLessThan`. -/
def sequenceNumberLessThan (first last : UInt16) : Bool := numberLessThan first last 16

/-- `RtpUtils::getPaddingLength`. A packet that is read has a last byte. -/
def getPaddingLength (packet : DataPacket) : ℕ :=
  if RtpHeader.hasPadding packet.data then (packet.data (packet.length - 1).toNat).toNat else 0

section Walks

variable {σ : Type} (bytes : σ → Memory)

/-- The `while` loop of `forEachNack`. -/
def nackLoop (f : UInt16 → UInt16 → ℕ → σ → Option σ) (length : ℕ) : ℕ → ℕ → ℕ → σ → Option σ
  | 0, _, _, state => some state
  | rounds + 1, currentPosition, auxPointer, state =>
      if currentPosition < length then do
        let initialSeqNum := RtcpHeader.getNackPid (bytes state) auxPointer
        let plb := RtcpHeader.getNackBlp (bytes state) auxPointer
        let state ← f initialSeqNum plb auxPointer state
        nackLoop f length rounds (currentPosition + 4) (auxPointer + 4) state
      else some state

/-- `RtpUtils::forEachNack`. The header handed to the callback is the block's own, moved on so that
the item is where the first item of a block is. -/
def forEachNack (chead : ℕ) (f : UInt16 → UInt16 → ℕ → σ → Option σ) (state : σ) : Option σ :=
  if RtcpHeader.getPacketType (bytes state) chead = RtcpHeader.rtpFeedbackPt then
    let length := RtcpHeader.blockLength (bytes state) chead
    nackLoop bytes f length length RtcpHeader.nackCommonHeaderLengthBytes chead state
  else some state

/-- The `do` loop of `forEachRtcpBlock`. -/
def blockLoop (f : ℕ → σ → Option σ) (len : ℤ) : ℕ → ℕ → ℕ → σ → Option σ
  | 0, _, _, state => some state
  | rounds + 1, movingBuffer, totalLength, state => do
      let rtcpLength := RtcpHeader.blockLength (bytes state) movingBuffer
      let totalLength := totalLength + rtcpLength
      let state ← f movingBuffer state
      if (totalLength : ℤ) < len then blockLoop f len rounds (movingBuffer + rtcpLength) totalLength state
      else some state

/-- `RtpUtils::forEachRtcpBlock`, on a packet of `len` bytes. -/
def forEachRtcpBlock (len : ℤ) (f : ℕ → σ → Option σ) (state : σ) : Option σ :=
  if RtcpHeader.isRtcp (bytes state) 0 then blockLoop bytes f len (len.toNat + 1) 0 0 state else some state

end Walks

/-- A block of payload-specific feedback in a compound packet. -/
def hasPsFeedback (fmt : ℕ) (packet : DataPacket) : Bool :=
  (forEachRtcpBlock (fun _ => packet.data) packet.length (fun chead found =>
    some (found || (RtcpHeader.getPacketType packet.data chead = RtcpHeader.psFeedbackPt &&
      RtcpHeader.getBlockCount packet.data chead = fmt))) false).getD false

/-- `RtpUtils::isPLI`. -/
def isPLI (packet : DataPacket) : Bool := hasPsFeedback RtcpHeader.pliFmt packet

/-- `RtpUtils::isFIR`. -/
def isFIR (packet : DataPacket) : Bool := hasPsFeedback RtcpHeader.firFmt packet

/-- `RtpUtils::createPLI`. -/
def createPLI (sourceSSRC sinkSSRC : UInt32) : DataPacket :=
  videoPacket ([0x81, 206] ++ encode16 2 ++ encode32 sinkSSRC ++ encode32 sourceSSRC)

/-- `RtpUtils::createFIR`. The reserved bytes are not set and are zero here. -/
def createFIR (sourceSSRC sinkSSRC : UInt32) (seqNumber : UInt8) : DataPacket :=
  videoPacket ([0x84, 206] ++ encode16 4 ++ encode32 sinkSSRC ++ encode32 sourceSSRC ++ encode32 sourceSSRC ++
    [seqNumber, 0, 0, 0])

/-- `RtpUtils::makePaddingPacket`. -/
def makePaddingPacket (packet : DataPacket) (paddingSize : UInt8) : DataPacket :=
  let headerLength := RtpHeader.getHeaderLength packet.data
  let packetLength := (headerLength + paddingSize.toNat) % 65536
  let packetBuffer : Memory := fun address => if address < headerLength then packet.data address else 0
  let packetBuffer := RtpHeader.clearMarker (RtpHeader.setPadding packetBuffer)
  ⟨copy packetBuffer (packetLength - 1) [paddingSize], packetLength, packet.type⟩

/-- **The comparison, as a distance.** For the widths in use, `first` is less than `last` unless
it is fewer than `2 ^ (bits - 4)` steps ahead of it. -/
theorem numberLessThan_iff (first last : UInt16) {bits : ℕ} (wide : 4 < bits) (narrow : bits ≤ 16) :
    numberLessThan first last bits = true ↔ 2 ^ (bits - 4) ≤ ahead bits last first := by
  have top : 2 ^ bits ≤ 2 ^ 16 := Nat.pow_le_pow_right (by norm_num) narrow
  have low : 2 ^ (bits - 4) ≤ 2 ^ 12 := Nat.pow_le_pow_right (by norm_num) (by omega)
  have positive : 0 < 2 ^ (bits - 4) := Nat.two_pow_pos _
  have mark : (UInt16.ofNat (2 ^ bits - 1)).toNat = 2 ^ bits - 1 := by
    rw [UInt16.toNat_ofNat', Nat.mod_eq_of_lt (by omega)]
  have threshold : (UInt16.ofNat (2 ^ (bits - 4) - 1)).toNat = 2 ^ (bits - 4) - 1 := by
    rw [UInt16.toNat_ofNat', Nat.mod_eq_of_lt (by omega)]
  simp only [numberLessThan, gt_iff_lt, wide, if_true, decide_eq_true_eq, UInt16.lt_iff_toNat_lt,
    threshold, UInt16.toNat_and, mark, Nat.and_two_pow_sub_one_eq_mod, ahead]
  omega

/-- The same comparison from the smaller side: `last` is ahead, by at most `15 / 16` of the range. -/
theorem numberLessThan_iff_ahead (first last : UInt16) {bits : ℕ} (wide : 4 < bits)
    (narrow : bits ≤ 16) :
    numberLessThan first last bits = true ↔
      0 < ahead bits first last ∧ ahead bits first last + 2 ^ (bits - 4) ≤ 2 ^ bits := by
  have positive : 0 < 2 ^ (bits - 4) := Nat.two_pow_pos _
  rw [numberLessThan_iff first last wide narrow]
  by_cases apart : ahead bits last first = 0
  · have meet : ahead bits first last = 0 := by
      by_contra away
      have back := ahead_swap narrow first last away
      have below := ahead_lt bits first last
      omega
    omega
  · have back := ahead_swap narrow last first apart
    have below := ahead_lt bits last first
    omega

end RtpUtils

end Erizo
