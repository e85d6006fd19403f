/-
**Packets and their headers** (`MediaDefinitions.h`, `rtp/RtpHeaders.h`).

A packet's `data` is the memory from its first byte on. The classes `RtpHeader` and `RtcpHeader`
are overlays: their fields are the bits and bytes of the memory from an address on, and words are
in network order. The bit fields of the first byte start at its low bits.
-/

import Erizo.Library.Bytes

namespace Erizo

open Library Library.Bytes

/-- `packetType`. -/
inductive PacketType
  | video
  | audio
  | other
  deriving DecidableEq, Repr

/-- `DataPacket`: the fields the RTP handlers use. `data` has 1500 bytes; what is read past them is
memory behind the packet. -/
structure DataPacket where
  data : Memory
  length : ℤ
  type : PacketType

/-- A `DataPacket` with the fields that are set before it gets to the handlers of outgoing media. -/
structure DetectedPacket extends DataPacket where
  isKeyframe : Bool
  codec : String

/-- A `DataPacket` with the fields that tell its layers and its picture. -/
structure LayeredPacket extends DetectedPacket where
  compatibleSpatialLayers : List ℤ
  compatibleTemporalLayers : List ℤ
  endingOfLayerFrame : Bool
  pictureId : ℤ
  tl0PicIdx : ℤ

namespace LayeredPacket

/-- `belongsToSpatialLayer`. -/
def belongsToSpatialLayer (packet : LayeredPacket) (spatialLayer : ℤ) : Bool :=
  packet.compatibleSpatialLayers.contains spatialLayer

/-- `belongsToTemporalLayer`. -/
def belongsToTemporalLayer (packet : LayeredPacket) (temporalLayer : ℤ) : Bool :=
  packet.compatibleTemporalLayers.contains temporalLayer

end LayeredPacket

/-- The size of `DataPacket::data`. -/
def DataPacket.capacity : ℕ := 1500

/-- A video packet with the given bytes. -/
def videoPacket (bytes : List UInt8) : DataPacket := ⟨fun address => bytes.getD address 0, bytes.length, .video⟩

/-- A packet of SSRC 7 with one byte of payload. -/
def mediaPacket (sequenceNumber : UInt16) : DataPacket :=
  videoPacket ([0x80, 96] ++ encode16 sequenceNumber ++ encode32 0 ++ encode32 7 ++ [1])

/-- A NACK for SSRC 7 with one item. -/
def nackPacket (pid blp : UInt16) : DataPacket :=
  videoPacket ([0x81, 205, 0, 3] ++ encode32 7 ++ encode32 7 ++ encode16 pid ++ encode16 blp)

/-- A receiver report for SSRC 7 with one report. -/
def reportPacket (cycles highest : UInt16) : DataPacket :=
  videoPacket ([0x81, 201, 0, 7] ++ encode32 7 ++ encode32 7 ++ encode32 0 ++ encode16 cycles ++ encode16 highest ++
    encode32 0 ++ encode32 0 ++ encode32 0)

namespace RtpHeader

/-- `cc`. -/
def getCc (data : Memory) : ℕ := (data 0).toNat % 16

/-- `hasextension`. -/
def getExtension (data : Memory) : ℕ := (data 0).toNat / 16 % 2

/-- `hasPadding`. -/
def hasPadding (data : Memory) : Bool := (data 0).toNat / 32 % 2 ≠ 0

/-- `padding = 0`. -/
def clearPadding (data : Memory) : Memory := copy data 0 [data 0 &&& 0xDF]

/-- `setPadding(true)`. -/
def setPadding (data : Memory) : Memory := copy data 0 [data 0 ||| 0x20]

/-- `getPayloadType`. -/
def getPayloadType (data : Memory) : ℕ := (data 1).toNat % 128

/-- `setPayloadType`. -/
def setPayloadType (data : Memory) (aType : UInt8) : Memory := copy data 1 [(data 1 &&& 0x80) ||| (aType &&& 0x7F)]

/-- `getMarker`. -/
def getMarker (data : Memory) : Bool := (data 1).toNat / 128 ≠ 0

/-- `setMarker(true)`. -/
def setMarker (data : Memory) : Memory := copy data 1 [data 1 ||| 0x80]

/-- `setMarker(false)`. -/
def clearMarker (data : Memory) : Memory := copy data 1 [data 1 &&& 0x7F]

/-- `getSeqNumber`. -/
def getSeqNumber (data : Memory) : UInt16 := read16 data 2

/-- `getTimestamp`. -/
def getTimestamp (data : Memory) : UInt32 := read32 data 4

/-- `setSeqNumber`. -/
def setSeqNumber (data : Memory) (sequenceNumber : UInt16) : Memory := write16 data 2 sequenceNumber

/-- `setTimestamp`. -/
def setTimestamp (data : Memory) (timestamp : UInt32) : Memory := copy data 4 (encode32 timestamp)

/-- `getSSRC`. -/
def getSSRC (data : Memory) : UInt32 := read32 data 8

/-- `setSSRC`. -/
def setSSRC (data : Memory) (ssrc : UInt32) : Memory := write32 data 8 ssrc

/-- `getExtId`: where the extension stands when there is no contributing source. -/
def getExtId (data : Memory) : UInt16 := read16 data 12

/-- `getExtLength`: where the extension stands when there is no contributing source. -/
def getExtLength (data : Memory) : UInt16 := read16 data 14

/-- `getHeaderLength`. -/
def getHeaderLength (data : Memory) : ℕ :=
  12 + getCc data * 4 + getExtension data * (4 + (getExtLength data).toNat * 4)

end RtpHeader

namespace RtcpHeader

/-- `RTCP_BYE`. -/
def bye : UInt8 := 203

/-- `RTCP_Sender_PT`. -/
def senderPt : UInt8 := 200

/-- `RTCP_Receiver_PT`. -/
def receiverPt : UInt8 := 201

/-- `RTCP_SDES_PT`. -/
def sdesPt : UInt8 := 202

/-- `RTCP_RTP_Feedback_PT`. -/
def rtpFeedbackPt : UInt8 := 205

/-- `RTCP_PS_Feedback_PT`. -/
def psFeedbackPt : UInt8 := 206

/-- `RTCP_MIN_PT`. -/
def minPt : UInt8 := 194

/-- `RTCP_MAX_PT`. -/
def maxPt : UInt8 := 223

/-- `RTCP_PLI_FMT`. -/
def pliFmt : ℕ := 1

/-- `RTCP_FIR_FMT`. -/
def firFmt : ℕ := 4

/-- `RTCP_AFB`. -/
def afb : ℕ := 15

/-- `kNackCommonHeaderLengthBytes`. -/
def nackCommonHeaderLengthBytes : ℕ := 12

variable (data : Memory) (chead : ℕ)

/-- `blockcount`. -/
def getBlockCount : ℕ := (data chead).toNat % 32

/-- `packettype`. -/
def getPacketType : UInt8 := data (chead + 1)

/-- `getLength`: the length of the block in words, less one. -/
def getLength : UInt16 := read16 data (chead + 2)

/-- `getSSRC`. -/
def getSSRC : UInt32 := read32 data (chead + 4)

/-- `setSSRC`. -/
def setSSRC (ssrc : UInt32) : Memory := write32 data (chead + 4) ssrc

/-- `getSourceSSRC`. -/
def getSourceSSRC : UInt32 := read32 data (chead + 8)

/-- `setSourceSSRC`. -/
def setSourceSSRC (sourceSsrc : UInt32) : Memory := write32 data (chead + 8) sourceSsrc

/-- `getFractionLost`. -/
def getFractionLost : UInt8 := data (chead + 12)

/-- `getLostPackets`. -/
def getLostPackets : ℕ := read24 data (chead + 13)

/-- `getSeqnumCycles`. -/
def getSeqnumCycles : UInt16 := read16 data (chead + 16)

/-- `getHighestSeqnum`. -/
def getHighestSeqnum : UInt16 := read16 data (chead + 18)

/-- `getJitter`. -/
def getJitter : UInt32 := read32 data (chead + 20)

/-- `getLastSr`. -/
def getLastSr : UInt32 := read32 data (chead + 24)

/-- `getDelaySinceLastSr`. -/
def getDelaySinceLastSr : UInt32 := read32 data (chead + 28)

/-- `setSeqnumCycles`. -/
def setSeqnumCycles (seqnumCycles : UInt16) : Memory := write16 data (chead + 16) seqnumCycles

/-- `setHighestSeqnum`. -/
def setHighestSeqnum (highest : UInt16) : Memory := write16 data (chead + 18) highest

/-- `getNtpTimestamp`. -/
def getNtpTimestamp : UInt64 := ((read32 data (chead + 8)).toUInt64 <<< 32) + (read32 data (chead + 12)).toUInt64

/-- `get32MiddleNtp`: the middle of the eight bytes of a sender report's time. -/
def get32MiddleNtp : UInt32 := read32 data (chead + 10)

/-- `getPacketsSent`. -/
def getPacketsSent : UInt32 := read32 data (chead + 20)

/-- `setPacketsSent`. -/
def setPacketsSent (packetsSent : UInt32) : Memory := write32 data (chead + 20) packetsSent

/-- `getOctetsSent`. -/
def getOctetsSent : UInt32 := read32 data (chead + 24)

/-- `setOctetsSent`. -/
def setOctetsSent (octetsSent : UInt32) : Memory := write32 data (chead + 24) octetsSent

/-- `getNackPid`. -/
def getNackPid : UInt16 := read16 data (chead + 12)

/-- `getNackBlp`. -/
def getNackBlp : UInt16 := read16 data (chead + 14)

/-- `setNackPid`. -/
def setNackPid (pid : UInt16) : Memory := write16 data (chead + 12) pid

/-- `setNackBlp`. -/
def setNackBlp (blp : UInt16) : Memory := write16 data (chead + 14) blp

/-- `getBrExp`. -/
def getBrExp : ℕ := (data (chead + 17)).toNat / 4

/-- `getBrMantis`. -/
def getBrMantis : ℕ :=
  (((data (chead + 17)).toNat * 256 + (data (chead + 18)).toNat) * 256 + (data (chead + 19)).toNat) % 2 ^ 18

/-- `getREMBBitRate`: the shift of a 32-bit word, which is undefined from 32 bits on. -/
def getREMBBitRate : Option UInt64 :=
  if getBrExp data chead < 32 then some (UInt64.ofNat (getBrMantis data chead * 2 ^ getBrExp data chead % 2 ^ 32))
  else none

/-- The `while` of `setREMBBitRate`, with as many rounds as `exp` is below 64. -/
def brExponent (bitRate : UInt64) : ℕ → UInt64 → ℕ → ℕ
  | 0, _, exp => exp
  | rounds + 1, max, exp => if bitRate ≥ max then brExponent bitRate rounds (max <<< 1) (exp + 1) else exp

/-- `setREMBBitRate`. The shift of a 64-bit word by 64 bits is undefined. -/
def setREMBBitRate (bitRate : UInt64) : Option Memory :=
  let exp := brExponent bitRate 64 0x3FFFF 0
  if exp < 64 then
    let mantissa := bitRate.toNat / 2 ^ exp % 2 ^ 18
    let line := mantissa + exp * 2 ^ 18
    some (write24 data (chead + 17) line)
  else none

/-- The unique identifier of application feedback is `REMB`. -/
def isRembId : Bool :=
  data (chead + 12) = 82 && data (chead + 13) = 69 && data (chead + 14) = 77 && data (chead + 15) = 66

/-- `getREMBNumSSRC`. -/
def getREMBNumSSRC : UInt8 := data (chead + 16)

/-- `getREMBFeedSSRC`. -/
def getREMBFeedSSRC (index : ℕ) : UInt32 := read32 data (chead + 20 + 4 * index)

/-- `setREMBFeedSSRC`. -/
def setREMBFeedSSRC (index : ℕ) (ssrc : UInt32) : Memory := write32 data (chead + 20 + 4 * index) ssrc

/-- `isFeedback`. -/
def isFeedback : Bool :=
  getPacketType data chead = receiverPt || getPacketType data chead = psFeedbackPt ||
    getPacketType data chead = rtpFeedbackPt

/-- `isREMB`. -/
def isREMB : Bool := getPacketType data chead = psFeedbackPt && getBlockCount data chead = afb

/-- `isRtcp`. -/
def isRtcp : Bool := minPt ≤ getPacketType data chead && getPacketType data chead ≤ maxPt

/-- The bytes of a block: `(length + 1) * 4`. -/
def blockLength : ℕ := ((getLength data chead).toNat + 1) * 4

end RtcpHeader

end Erizo
