/-
**The receiver report generator** (`rtp/RtcpRrGenerator.cpp`).

A generator counts the packets of one SSRC, follows their highest sequence number across wraps, and
puts both into receiver reports. The counters are 32-bit words that wrap around; `max_seq` and
`base_seq` are 16-bit numbers or `-1`, here `none`.

The jitter estimate is floating-point arithmetic on timestamps. It is left out, with the fields only
it uses: a report is given the jitter, as it is given the time and the random interval to the next
report.
-/

import Erizo.Model.RtpUtils

namespace Erizo

open Library Library.Bytes

/-- `RrPacketInfo`. -/
structure RrPacketInfo where
  lastSrTs : UInt64
  nextPacketMs : UInt64
  lastPacketMs : UInt64
  lastSrMidNtp : UInt32
  lastRrTs : UInt32
  packetsReceived : UInt32
  extendedSeq : UInt32
  lost : UInt32
  expectedPrior : UInt32
  receivedPrior : UInt32
  maxSeq : Option UInt16
  baseSeq : Option UInt16
  cycle : UInt16
  fracLost : UInt8
  deriving DecidableEq, Repr

/-- The state of a `RtcpRrGenerator`. -/
structure RtcpRrGenerator where
  rrInfo : RrPacketInfo
  ssrc : UInt32
  type : PacketType
  deriving DecidableEq, Repr

namespace RtcpRrGenerator

/-- The constructor. -/
def init (ssrc : UInt32) (type : PacketType) : RtcpRrGenerator where
  rrInfo := ⟨0, 0, 0, 0, 0, 0, 0, 0, 0, 0, none, none, 0, 0⟩
  ssrc := ssrc
  type := type

/-- `selectInterval`. -/
def selectInterval (generator : RtcpRrGenerator) : UInt16 := if generator.type = .video then 1000 else 5000

/-- `max_seq` and `base_seq` as words: `-1` when there was no packet. -/
def seqWord : Option UInt16 → UInt32
  | none => -1
  | some seq => seq.toUInt32

/-! ### Incoming packets -/

/-- What `handleRtpPacket` does to the counters. -/
def countPacket (rrInfo : RrPacketInfo) (seqNum : UInt16) : RrPacketInfo :=
  let rrInfo := { rrInfo with packetsReceived := rrInfo.packetsReceived + 1 }
  let rrInfo := if rrInfo.baseSeq = none then { rrInfo with baseSeq := some seqNum } else rrInfo
  let rrInfo :=
    match rrInfo.maxSeq with
    | none => { rrInfo with maxSeq := some seqNum }
    | some maxSeq =>
        if !RtpUtils.sequenceNumberLessThan seqNum maxSeq then
          let rrInfo := if seqNum < maxSeq then { rrInfo with cycle := rrInfo.cycle + 1 } else rrInfo
          { rrInfo with maxSeq := some seqNum }
        else rrInfo
  { rrInfo with extendedSeq := (rrInfo.cycle.toUInt32 <<< 16) ||| seqWord rrInfo.maxSeq }

/-- `handleRtpPacket` at a time of the clock. -/
def handleRtpPacket (generator : RtcpRrGenerator) (nowMs : UInt64) (packet : DataPacket) : RtcpRrGenerator × Bool :=
  if generator.ssrc ≠ RtpHeader.getSSRC packet.data then (generator, false)
  else
    let rrInfo := countPacket generator.rrInfo (RtpHeader.getSeqNumber packet.data)
    if rrInfo.nextPacketMs = 0 then
      let selectedInterval := generator.selectInterval
      ({ generator with rrInfo := { rrInfo with nextPacketMs := nowMs + selectedInterval.toUInt64 } }, false)
    else ({ generator with rrInfo := rrInfo }, nowMs ≥ rrInfo.nextPacketMs)

/-- `handleSr`. -/
def handleSr (generator : RtcpRrGenerator) (receivedTimeMs : UInt64) (packet : DataPacket) : RtcpRrGenerator :=
  if generator.ssrc ≠ RtcpHeader.getSSRC packet.data 0 then generator
  else
    let rrInfo := { generator.rrInfo with
      lastSrMidNtp := RtcpHeader.get32MiddleNtp packet.data 0
      lastSrTs := receivedTimeMs }
    { generator with rrInfo := rrInfo }

/-! ### Reports -/

/-- What `generateReceiverReport` does to the counters. -/
def countInterval (rrInfo : RrPacketInfo) : RrPacketInfo :=
  let expected := rrInfo.extendedSeq - seqWord rrInfo.baseSeq + 1
  let expectedInterval := expected - rrInfo.expectedPrior
  let receivedInterval := rrInfo.packetsReceived - rrInfo.receivedPrior
  let lostInterval : ℤ := expectedInterval.toNat - receivedInterval.toNat
  let lostWord := UInt32.ofInt lostInterval
  let fraction : UInt8 :=
    if expectedInterval ≠ 0 ∧ lostInterval > 0 then ((lostWord <<< 8) / expectedInterval).toUInt8 else 0
  { rrInfo with
    expectedPrior := expected
    receivedPrior := rrInfo.packetsReceived
    lost := if lostInterval > 0 then rrInfo.lost + lostWord else rrInfo.lost
    fracLost := fraction }

/-- The header of a report as its setters leave it, 32 bytes. -/
def reportBytes (ssrc : UInt32) (rrInfo : RrPacketInfo) (jitter delaySinceLastSr : UInt32) : List UInt8 :=
  [2 * 64 + 1, RtcpHeader.receiverPt] ++ encode16 7 ++ encode32 ssrc ++ encode32 ssrc ++
    [rrInfo.fracLost] ++ encode24 rrInfo.lost.toNat ++ encode16 rrInfo.cycle ++ encode16 rrInfo.extendedSeq.toUInt16 ++
    encode32 jitter ++ encode32 rrInfo.lastSrMidNtp ++ encode32 delaySinceLastSr

/-- `generateReceiverReport` at a time of the clock. -/
def generateReceiverReport (generator : RtcpRrGenerator) (nowMs : UInt64) (jitter : UInt32) (interval : UInt16) :
    RtcpRrGenerator × DataPacket :=
  let delaySinceLastSr :=
    if generator.rrInfo.lastSrTs = 0 then 0 else (nowMs - generator.rrInfo.lastSrTs) * 65536 / 1000
  let rrInfo := countInterval generator.rrInfo
  let bytes := reportBytes generator.ssrc rrInfo jitter delaySinceLastSr.toUInt32
  let rrInfo := { rrInfo with
    lastRrTs := nowMs.toUInt32
    nextPacketMs := nowMs + interval.toUInt64
    lastPacketMs := nowMs }
  ({ generator with rrInfo := rrInfo }, ⟨fun address => bytes.getD address 0, bytes.length, generator.type⟩)

/-! ### Runs -/

/-- What a generator is given. -/
inductive Event
  | rtp (nowMs : UInt64) (packet : DataPacket)
  | sr (receivedTimeMs : UInt64) (packet : DataPacket)
  | report (nowMs : UInt64) (jitter : UInt32) (interval : UInt16)

/-- The state after an event, and the report it asked for. -/
def step (generator : RtcpRrGenerator) : Event → RtcpRrGenerator × Option DataPacket
  | .rtp nowMs packet => ((generator.handleRtpPacket nowMs packet).1, none)
  | .sr receivedTimeMs packet => (generator.handleSr receivedTimeMs packet, none)
  | .report nowMs jitter interval =>
      ((generator.generateReceiverReport nowMs jitter interval).1,
        some (generator.generateReceiverReport nowMs jitter interval).2)

end RtcpRrGenerator

end Erizo
