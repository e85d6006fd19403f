/-
**The padding generator** (`rtp/RtpPaddingGeneratorHandler.cpp`).

Outgoing video packets are renumbered by a translator, and packets of padding with numbers of their own are inserted
behind those with the marker. How many there are is worked out from bitrates, and a token bucket may hold them back:
what the statistics, the clock and the bucket say comes with the events (`Surroundings`).

What is written is given with the answer of the translator for it.
-/

import Erizo.Model.SequenceNumberTranslator

namespace Erizo

open Library Library.Bytes

/-- `RtpPaddingGeneratorHandler`. -/
structure RtpPaddingGeneratorHandler where
  translator : SequenceNumberTranslator .standard
  higherSequenceNumber : UInt16
  numberOfFullPaddingPackets : ℕ
  lastPaddingPacketSize : UInt8
  enabled : Bool
  firstPacketReceived : Bool
  scheduledTask : Option DataPacket

namespace RtpPaddingGeneratorHandler

/-- `kMaxPaddingSize`. -/
def maxPaddingSize : UInt8 := 255

/-- The constructor. -/
def create : RtpPaddingGeneratorHandler where
  translator := .init .standard
  higherSequenceNumber := 0
  numberOfFullPaddingPackets := 0
  lastPaddingPacketSize := 0
  enabled := false
  firstPacketReceived := false
  scheduledTask := none

/-- A packet that is written, and what the translator returned for it if it was asked. -/
structure Sent where
  packet : DataPacket
  answer : Option SequenceNumber

/-- What an event finds around the handler: the numbers `recalculatePaddingRate` comes to, when it is time for it; the
answer of the bucket to each request; and the bytes of the packet after the handlers behind this one had it. -/
structure Surroundings where
  paddingRate : Option (ℕ × UInt8)
  consume : ℕ → Bool
  passed : Memory → Memory

/-- `sendPaddingPacket`. -/
def sendPaddingPacket (handler : RtpPaddingGeneratorHandler) (packet : DataPacket) (paddingSize : UInt8)
    (consume : Bool) : RtpPaddingGeneratorHandler × List Sent :=
  if paddingSize = 0 then (handler, [])
  else if !consume then (handler, [])
  else
    let (translator, sequenceNumber) := handler.translator.generate
    let paddingPacket := RtpUtils.makePaddingPacket packet paddingSize
    ({ handler with translator := translator },
      [⟨{ paddingPacket with data := RtpHeader.setSeqNumber paddingPacket.data sequenceNumber.output },
        some sequenceNumber⟩])

/-- The `for` loop of `onPacketWithMarkerSet`. -/
def sendFullPaddingPackets (packet : DataPacket) (consume : ℕ → Bool) :
    ℕ → RtpPaddingGeneratorHandler → RtpPaddingGeneratorHandler × List Sent
  | 0, handler => (handler, [])
  | count + 1, handler =>
      let (handler, earlier) := sendFullPaddingPackets packet consume count handler
      let (handler, sent) := handler.sendPaddingPacket packet maxPaddingSize (consume count)
      (handler, earlier ++ sent)

/-- `onPacketWithMarkerSet`. It is scheduled again, with the same packet. -/
def onPacketWithMarkerSet (handler : RtpPaddingGeneratorHandler) (packet : DataPacket) (consume : ℕ → Bool) :
    RtpPaddingGeneratorHandler × List Sent :=
  let count := handler.numberOfFullPaddingPackets
  let (handler, full) := sendFullPaddingPackets packet consume count handler
  let (handler, last) := handler.sendPaddingPacket packet handler.lastPaddingPacketSize (consume count)
  ({ handler with scheduledTask := some packet }, full ++ last)

/-- `isHigherSequenceNumber`, with the answer of the translator. -/
def isHigherSequenceNumber (handler : RtpPaddingGeneratorHandler) (packet : DataPacket) :
    RtpPaddingGeneratorHandler × Sent × Bool :=
  let newSequenceNumber := RtpHeader.getSeqNumber packet.data
  let (translator, sequenceNumber) := handler.translator.get newSequenceNumber false
  let sent : Sent :=
    ⟨{ packet with data := RtpHeader.setSeqNumber packet.data sequenceNumber.output }, some sequenceNumber⟩
  if handler.firstPacketReceived && RtpUtils.sequenceNumberLessThan newSequenceNumber handler.higherSequenceNumber then
    ({ handler with translator := translator }, sent, false)
  else ({ handler with translator := translator, higherSequenceNumber := newSequenceNumber }, sent, true)

/-- `recalculatePaddingRate`. -/
def recalculatePaddingRate (handler : RtpPaddingGeneratorHandler) (paddingRate : Option (ℕ × UInt8)) :
    RtpPaddingGeneratorHandler :=
  match paddingRate with
  | none => handler
  | some (full, last) => { handler with numberOfFullPaddingPackets := full, lastPaddingPacketSize := last }

/-- `onVideoPacket`. -/
def onVideoPacket (handler : RtpPaddingGeneratorHandler) (packet : DataPacket) (surroundings : Surroundings) :
    RtpPaddingGeneratorHandler × List Sent :=
  if !handler.enabled then (handler, [])
  else
    let handler := handler.recalculatePaddingRate surroundings.paddingRate
    if RtpHeader.getMarker packet.data then handler.onPacketWithMarkerSet packet surroundings.consume
    else (handler, [])

/-- A video packet that is not RTCP. -/
def isVideoRtp (packet : DataPacket) : Bool := packet.type = .video && !RtcpHeader.isRtcp packet.data 0

/-- `write`. -/
def write (handler : RtpPaddingGeneratorHandler) (packet : DataPacket) (surroundings : Surroundings) :
    RtpPaddingGeneratorHandler × List Sent :=
  if isVideoRtp packet then
    let handler := { handler with scheduledTask := none }
    let (handler, sent, isHigherSequenceNumber) := handler.isHigherSequenceNumber packet
    let handler := { handler with firstPacketReceived := true }
    if isHigherSequenceNumber then
      let passed := { sent.packet with data := surroundings.passed sent.packet.data }
      let (handler, padding) := handler.onVideoPacket passed surroundings
      (handler, sent :: padding)
    else (handler, [sent])
  else (handler, [⟨packet, none⟩])

/-- `enablePadding`. -/
def enablePadding (handler : RtpPaddingGeneratorHandler) : RtpPaddingGeneratorHandler :=
  { handler with enabled := true, numberOfFullPaddingPackets := 0, lastPaddingPacketSize := 0 }

/-- `disablePadding`. -/
def disablePadding (handler : RtpPaddingGeneratorHandler) : RtpPaddingGeneratorHandler :=
  { handler with enabled := false }

/-- `notifyUpdate`. -/
def notifyUpdate (handler : RtpPaddingGeneratorHandler) (isPaddingEnabled : Bool) : RtpPaddingGeneratorHandler :=
  if isPaddingEnabled && !handler.enabled then handler.enablePadding
  else if !isPaddingEnabled && handler.enabled then handler.disablePadding
  else handler

/-! ### Runs -/

/-- What happens to the handler. `expire` is the scheduled task. -/
inductive Event
  | write (packet : DataPacket) (surroundings : Surroundings)
  | expire (surroundings : Surroundings)
  | notifyUpdate (isPaddingEnabled : Bool)

/-- One event. -/
def step (handler : RtpPaddingGeneratorHandler) : Event → RtpPaddingGeneratorHandler × List Sent
  | .write packet surroundings => handler.write packet surroundings
  | .expire surroundings =>
      match handler.scheduledTask with
      | none => (handler, [])
      | some packet => handler.onPacketWithMarkerSet packet surroundings.consume
  | .notifyUpdate isPaddingEnabled => (handler.notifyUpdate isPaddingEnabled, [])

end RtpPaddingGeneratorHandler

end Erizo
