/-
**The slideshow handler** (`rtp/RtpSlideShowHandler.cpp`).

While the slideshow is active only keyframes are forwarded, and the last complete one is sent again when nothing has
been sent for a while. A keyframe is collected in a buffer, by the distance of its packets from the first one.

The buffers refer to packets whose headers are rewritten when they are forwarded: `packets` has what is referred to,
in the order in which it was written, and the buffers have its places there. Every write brings a new packet. The
clock's readings are given in nanoseconds.
-/

import Erizo.Model.BandwidthDistribution
import Erizo.Model.SdpInfo
import Erizo.Model.SequenceNumberTranslator

namespace Erizo

open Library Library.Bytes

/-- `RtpSlideShowHandler`. -/
structure RtpSlideShowHandler where
  stream : MediaStream
  translator : SequenceNumberTranslator .standard
  highestSeqNumInitialized : Bool
  isBuildingKeyframe : Bool
  highestSeqNum : UInt16
  packetsReceivedWhileBuilding : UInt16
  firstKeyframeSeqNum : UInt16
  slideshowIsActive : Bool
  currentKeyframeTimestamp : UInt32
  lastTimestampReceived : UInt32
  keyframeBuffer : List (Option ℕ)
  storedKeyframe : List ℕ
  lastKeyframeSentTime : ℤ
  packets : List DetectedPacket

namespace RtpSlideShowHandler

/-- `kMaxKeyframeSize`. -/
def maxKeyframeSize : ℕ := 20

/-- `kFallbackKeyframeTimeout`. -/
def fallbackKeyframeTimeout : ℤ := 5000000000

/-- A buffer without packets. -/
def emptyBuffer : List (Option ℕ) := List.replicate maxKeyframeSize none

/-- The constructor, for a pipeline with a stream. -/
def create (stream : MediaStream) (now : ℤ) : RtpSlideShowHandler where
  stream := stream
  translator := .init .standard
  highestSeqNumInitialized := false
  isBuildingKeyframe := false
  highestSeqNum := 0
  packetsReceivedWhileBuilding := 0
  firstKeyframeSeqNum := 0
  slideshowIsActive := false
  currentKeyframeTimestamp := 0
  lastTimestampReceived := 0
  keyframeBuffer := emptyBuffer
  storedKeyframe := []
  lastKeyframeSentTime := now
  packets := []

/-! ### Keyframes -/

/-- `resetKeyframeBuilding`. -/
def resetKeyframeBuilding (handler : RtpSlideShowHandler) : RtpSlideShowHandler :=
  { handler with
    packetsReceivedWhileBuilding := 0
    firstKeyframeSeqNum := 0
    isBuildingKeyframe := false
    keyframeBuffer := emptyBuffer }

/-- A packet starts a keyframe of VP8 or H264: it is flagged and new. -/
def startsKeyframe (handler : RtpSlideShowHandler) (packet : DetectedPacket) : Bool :=
  packet.isKeyframe &&
    (RtpUtils.sequenceNumberLessThan handler.highestSeqNum (RtpHeader.getSeqNumber packet.data) ||
      !handler.highestSeqNumInitialized)

/-- `isVP8OrH264Keyframe`. -/
def isVP8OrH264Keyframe (handler : RtpSlideShowHandler) (packet : DetectedPacket) : RtpSlideShowHandler × Bool :=
  let timestamp := RtpHeader.getTimestamp packet.data
  if handler.startsKeyframe packet then
    ({ handler.resetKeyframeBuilding with
        currentKeyframeTimestamp := timestamp
        isBuildingKeyframe := true
        firstKeyframeSeqNum := RtpHeader.getSeqNumber packet.data }, true)
  else (handler, timestamp = handler.currentKeyframeTimestamp)

/-- `isVP9Keyframe`. Its loop makes no round: it runs up to the number it starts with. -/
def isVP9Keyframe (handler : RtpSlideShowHandler) (packet : DetectedPacket) : RtpSlideShowHandler × Bool :=
  let seqNum := RtpHeader.getSeqNumber packet.data
  let timestamp := RtpHeader.getTimestamp packet.data
  if packet.isKeyframe then
    let handler :=
      if RtpUtils.sequenceNumberLessThan seqNum handler.firstKeyframeSeqNum then
        { handler with firstKeyframeSeqNum := seqNum }
      else handler
    let handler :=
      if timestamp ≠ handler.currentKeyframeTimestamp then
        { handler.resetKeyframeBuilding with
          firstKeyframeSeqNum := seqNum
          currentKeyframeTimestamp := timestamp
          isBuildingKeyframe := true }
      else handler
    (handler, true)
  else (handler, false)

/-- Whether a packet is of a keyframe, by its codec. -/
def isKeyframe (handler : RtpSlideShowHandler) (remoteSdp : SdpInfo) (packet : DetectedPacket) :
    RtpSlideShowHandler × Bool :=
  match remoteSdp.getCodecByExternalPayloadType (UInt32.ofNat (RtpHeader.getPayloadType packet.data)) with
  | some codec =>
      if codec.encodingName = "VP8".toList ∨ codec.encodingName = "H264".toList then handler.isVP8OrH264Keyframe packet
      else if codec.encodingName = "VP9".toList then handler.isVP9Keyframe packet
      else (handler, false)
  | none => (handler, false)

/-- `storeKeyframePacket`. -/
def storeKeyframePacket (handler : RtpSlideShowHandler) (place : ℕ) (packet : DetectedPacket) : RtpSlideShowHandler :=
  let index := (RtpHeader.getSeqNumber packet.data - handler.firstKeyframeSeqNum).toNat
  { handler with keyframeBuffer := handler.keyframeBuffer.set index (some place) }

/-- `maybeUpdateHighestSeqNum`. -/
def maybeUpdateHighestSeqNum (handler : RtpSlideShowHandler) (seqNum : UInt16) : RtpSlideShowHandler :=
  if RtpUtils.sequenceNumberLessThan handler.highestSeqNum seqNum || !handler.highestSeqNumInitialized then
    { handler with highestSeqNum := seqNum, highestSeqNumInitialized := true }
  else handler

/-- The `for` loop of `consolidateKeyframe`: the packets it takes, and whether they end in one with the marker. -/
def collect (packets : List DetectedPacket) (timestamp : UInt32) : List (Option ℕ) → List ℕ × Bool
  | some place :: rest =>
      match packets[place]? with
      | none => ([], false)
      | some packet =>
          if RtpHeader.getTimestamp packet.data ≠ timestamp then ([], false)
          else if RtpHeader.getMarker packet.data then ([place], true)
          else
            let (places, complete) := collect packets timestamp rest
            (place :: places, complete)
  | _ => ([], false)

/-- `consolidateKeyframe`, with whether the stored keyframe is replaced. -/
def consolidateKeyframe (handler : RtpSlideShowHandler) : RtpSlideShowHandler × Bool :=
  let received := handler.packetsReceivedWhileBuilding
  let handler := { handler with packetsReceivedWhileBuilding := received + 1 }
  if received.toNat > maxKeyframeSize then (handler.resetKeyframeBuilding, false)
  else
    let (tempKeyframe, keyframeComplete) :=
      collect handler.packets handler.currentKeyframeTimestamp (handler.keyframeBuffer.take maxKeyframeSize)
    if keyframeComplete then ({ handler with storedKeyframe := tempKeyframe }.resetKeyframeBuilding, true)
    else (handler, false)

/-! ### Writing -/

/-- The packet at a place gets another sequence number. -/
def renumber (handler : RtpSlideShowHandler) (place : ℕ) (seqNum : UInt16) : RtpSlideShowHandler :=
  { handler with
    packets := handler.packets.modify place fun packet =>
      { packet with data := RtpHeader.setSeqNumber packet.data seqNum } }

/-- The packet at a place gets the timestamp received last. -/
def restamp (handler : RtpSlideShowHandler) (place : ℕ) : RtpSlideShowHandler :=
  { handler with
    packets := handler.packets.modify place fun packet =>
      { packet with data := RtpHeader.setTimestamp packet.data handler.lastTimestampReceived } }

/-- The `for` loop of `maybeSendStoredKeyframe`, with what is sent. -/
def sendPackets (handler : RtpSlideShowHandler) : List ℕ → RtpSlideShowHandler × List DetectedPacket
  | [] => (handler, [])
  | place :: places =>
      let handler := handler.restamp place
      let (translator, sequenceNumber) := handler.translator.generate
      let handler := { handler with translator := translator }.renumber place sequenceNumber.output
      let (sentHandler, sent) := handler.sendPackets places
      (sentHandler, handler.packets[place]?.toList ++ sent)

/-- `maybeSendStoredKeyframe`. -/
def maybeSendStoredKeyframe (handler : RtpSlideShowHandler) (now : ℤ) : RtpSlideShowHandler × List DetectedPacket :=
  if now - handler.lastKeyframeSentTime > fallbackKeyframeTimeout then
    let (handler, sent) := handler.sendPackets handler.storedKeyframe
    ({ handler with lastKeyframeSentTime := now }, sent)
  else (handler, [])

/-- What a call hands on, and whether it replaces the stored keyframe. -/
structure Outcome where
  written : List DetectedPacket
  replaced : Bool

/-- What `write` does while the slideshow is active. -/
def slideShow (handler : RtpSlideShowHandler) (place : ℕ) (packet : DetectedPacket) (isKeyframe : Bool) (now : ℤ) :
    RtpSlideShowHandler × Outcome :=
  let handler := if isKeyframe then handler.storeKeyframePacket place packet else handler
  let (handler, replaced) := if handler.isBuildingKeyframe then handler.consolidateKeyframe else (handler, false)
  let (handler, sent) := handler.maybeSendStoredKeyframe now
  (handler, ⟨sent, replaced⟩)

/-- The end of `write`: the packet is forwarded unless it is skipped. -/
def forward (handler : RtpSlideShowHandler) (place : ℕ) (packetSeqNum : UInt16) (shouldSkipPacket : Bool) (now : ℤ) :
    RtpSlideShowHandler × List DetectedPacket :=
  let (translator, info) := handler.translator.get packetSeqNum shouldSkipPacket
  let handler := { handler with translator := translator }
  if !shouldSkipPacket && info.type = .valid then
    let handler := { handler.renumber place info.output with lastKeyframeSentTime := now }
    (handler, handler.packets[place]?.toList)
  else (handler, [])

/-- `write`, at two readings of the clock. -/
def write (handler : RtpSlideShowHandler) (packet : DetectedPacket) (remoteSdp : SdpInfo) (now later : ℤ) :
    RtpSlideShowHandler × Outcome :=
  if packet.type ≠ .video || RtcpHeader.isRtcp packet.data 0 then (handler, ⟨[packet], false⟩)
  else
    let place := handler.packets.length
    let handler :=
      { handler with
        packets := handler.packets ++ [packet]
        lastTimestampReceived := RtpHeader.getTimestamp packet.data }
    let packetSeqNum := RtpHeader.getSeqNumber packet.data
    let (handler, isKeyframe) := handler.isKeyframe remoteSdp packet
    let shouldSkipPacket := handler.slideshowIsActive && !isKeyframe
    let (handler, outcome) :=
      if handler.slideshowIsActive then handler.slideShow place packet isKeyframe now else (handler, ⟨[], false⟩)
    -- The packet may be one of the keyframe that has just been sent again, and have another number by now.
    let seqNum := ((handler.packets[place]?).map fun packet => RtpHeader.getSeqNumber packet.data).getD packetSeqNum
    let handler := handler.maybeUpdateHighestSeqNum seqNum
    let (handler, forwarded) := handler.forward place packetSeqNum shouldSkipPacket later
    (handler, ⟨outcome.written ++ forwarded, outcome.replaced⟩)

/-- `setSlideShowMode`. When the mode changes, a PLI is sent and feedback reports are switched, too. -/
def setSlideShowMode (handler : RtpSlideShowHandler) (active : Bool) (now : ℤ) : RtpSlideShowHandler :=
  if handler.slideshowIsActive = active then handler
  else { { handler with lastKeyframeSentTime := now }.resetKeyframeBuilding with slideshowIsActive := active }

/-- The calls that change a handler. -/
inductive Call
  | write (packet : DetectedPacket) (remoteSdp : SdpInfo) (now later : ℤ)
  | setSlideShowMode (active : Bool) (now : ℤ)

/-- A call. -/
def step (handler : RtpSlideShowHandler) : Call → RtpSlideShowHandler × Outcome
  | .write packet remoteSdp now later => handler.write packet remoteSdp now later
  | .setSlideShowMode active now => (handler.setSlideShowMode active now, ⟨[], false⟩)

/-! ### Feedback -/

/-- The callback of `read`. -/
def translateBlock (translator : SequenceNumberTranslator .standard) (chead : ℕ) (data : Memory) : Option Memory :=
  let packetType := RtcpHeader.getPacketType data chead
  if packetType = RtcpHeader.receiverPt then
    let incomingSeqNum := RtcpHeader.getHighestSeqnum data chead
    let inputSeqNum := translator.reverse incomingSeqNum
    if inputSeqNum.type ≠ .valid then some data
    else
      let data :=
        if RtpUtils.sequenceNumberLessThan inputSeqNum.input incomingSeqNum then
          RtcpHeader.setSeqnumCycles data chead (RtcpHeader.getSeqnumCycles data chead - 1)
        else data
      some (RtcpHeader.setHighestSeqnum data chead inputSeqNum.input)
  else if packetType = RtcpHeader.rtpFeedbackPt then
    let inputSeqNum := translator.reverse (RtcpHeader.getNackPid data chead)
    if inputSeqNum.type = .valid then some (RtcpHeader.setNackPid data chead inputSeqNum.input) else some data
  else some data

/-- `read`, with the packet that is passed on. -/
def read (handler : RtpSlideShowHandler) (packet : DataPacket) : Option DataPacket :=
  if handler.stream.videoSinkSSRC ≠ RtcpHeader.getSourceSSRC packet.data 0 then some packet
  else do
    let data ← RtpUtils.forEachRtcpBlock id packet.length (translateBlock handler.translator) packet.data
    some { packet with data := data }

/-! ### A stream of VP8 -/

/-- A packet of VP8, with its timestamp and marker. -/
def picturePacket (isKeyframe : Bool) (sequenceNumber : UInt16) (timestamp : UInt32) (marker : Bool) : DetectedPacket :=
  { videoPacket ([0x80, if marker then 224 else 96] ++ encode16 sequenceNumber ++ encode32 timestamp ++
    encode32 7 ++ [1]) with
    isKeyframe := isKeyframe
    codec := "VP8" }

/-- A description with VP8 as payload type 96. -/
def vp8Description : SdpInfo :=
  { SdpInfo.init ⟨90000, .video, 1, false, 0, .sendrecv, .sendrecv⟩ [] with
    payloadVector := [⟨96, "VP8".toList, 90000, .video, 1, [], ∅⟩] }

/-- A stream whose video has SSRC 7. -/
def videoStream : MediaStream := ⟨0, 0, [0], 0, 7, 300, false, false, 0, 0⟩

end RtpSlideShowHandler

end Erizo
