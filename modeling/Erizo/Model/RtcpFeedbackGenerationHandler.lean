/-
**The feedback generation handler** (`rtp/RtcpFeedbackGenerationHandler.cpp`).

It keeps a pair of generators for each SSRC of the stream, one for receiver reports and, for video, one for NACKs. An
incoming packet goes to the pair of its SSRC; when a report is due, or packets are missing, one is written.

The clock is read wherever the generators need it, so a packet comes with those times, and with the jitter and the
interval to the next report that go into a report.
-/

import Erizo.Model.RtcpNackGenerator
import Erizo.Model.RtcpRrGenerator

namespace Erizo

open Library.Bytes

/-- `RtcpGeneratorPair`. -/
structure RtcpGeneratorPair where
  rrGenerator : RtcpRrGenerator
  nackGenerator : Option RtcpNackGenerator
  deriving DecidableEq, Repr

/-- The state of a `RtcpFeedbackGenerationHandler`. -/
structure RtcpFeedbackGenerationHandler where
  initialized : Bool
  nacksEnabled : Bool
  generatorsMap : UInt32 → Option RtcpGeneratorPair

namespace RtcpFeedbackGenerationHandler

/-- The constructor. -/
def create (nacksEnabled : Bool) : RtcpFeedbackGenerationHandler := ⟨false, nacksEnabled, fun _ => none⟩

/-- What a packet brings with it: the times at which it is handled and a report on it is made. -/
structure Moment where
  receivedTimeMs : UInt64
  handledMs : UInt64
  reportMs : UInt64
  nackMs : UInt64
  jitter : UInt32
  interval : UInt16

/-- A new pair for a video SSRC, or for the audio SSRC. -/
def createPair (nacksEnabled : Bool) (type : PacketType) (ssrc : UInt32) : RtcpGeneratorPair where
  rrGenerator := .init ssrc type
  nackGenerator := if nacksEnabled && type = .video then some (.init ssrc) else none

/-- `notifyUpdate`, when there is a stream, with its SSRCs. -/
def notifyUpdate (handler : RtcpFeedbackGenerationHandler) (videoSourceSSRCList : List UInt32)
    (audioSourceSSRC : UInt32) : RtcpFeedbackGenerationHandler :=
  if handler.initialized then handler
  else
    { handler with
      initialized := true
      generatorsMap := fun ssrc =>
        if ssrc = 0 then handler.generatorsMap ssrc
        else if ssrc = audioSourceSSRC then some (createPair handler.nacksEnabled .audio ssrc)
        else if ssrc ∈ videoSourceSSRCList then some (createPair handler.nacksEnabled .video ssrc)
        else handler.generatorsMap ssrc }

/-- `generateReceiverReport` and `addNackPacketToRr`. The loops of the latter come to an end. -/
def generateReport (pair : RtcpGeneratorPair) (moment : Moment) : RtcpGeneratorPair × DataPacket :=
  let (rrGenerator, rtcpPacket) :=
    pair.rrGenerator.generateReceiverReport moment.reportMs moment.jitter moment.interval
  match pair.nackGenerator.bind fun nackGenerator => nackGenerator.addNackPacketToRr moment.nackMs rtcpPacket with
  | none => ({ pair with rrGenerator := rrGenerator }, rtcpPacket)
  | some (nackGenerator, rtcpPacket, _) => (⟨rrGenerator, some nackGenerator⟩, rtcpPacket)

/-- What an RTP packet does to the pair of its SSRC, and the report that is written. Where there is no NACK generator,
`handleRtpPacket` is called on none; it returns for a packet that is not video. For video, which comes there if audio and
video have one SSRC, it follows the null pointer, and that is undefined; here it does nothing. -/
def handleRtpPacket (pair : RtcpGeneratorPair) (moment : Moment) (packet : DataPacket) :
    RtcpGeneratorPair × Option DataPacket :=
  let (rrGenerator, shouldSendRr) := pair.rrGenerator.handleRtpPacket moment.handledMs packet
  let handled := pair.nackGenerator.map (·.handleRtpPacket packet)
  let pair : RtcpGeneratorPair := ⟨rrGenerator, handled.map Prod.fst⟩
  if shouldSendRr || handled.any Prod.snd then
    let (pair, rtcpPacket) := generateReport pair moment
    (pair, some rtcpPacket)
  else (pair, none)

/-- The map with the pair of an SSRC replaced. -/
def store (handler : RtcpFeedbackGenerationHandler) (ssrc : UInt32) (pair : RtcpGeneratorPair) :
    RtcpFeedbackGenerationHandler :=
  { handler with generatorsMap := Function.update handler.generatorsMap ssrc (some pair) }

/-- `read`, with the report that is written. The packet is passed on in any case. -/
def read (handler : RtcpFeedbackGenerationHandler) (moment : Moment) (packet : DataPacket) :
    RtcpFeedbackGenerationHandler × Option DataPacket :=
  if !handler.initialized then (handler, none)
  else if RtcpHeader.getPacketType packet.data 0 = RtcpHeader.senderPt then
    let ssrc := RtcpHeader.getSSRC packet.data 0
    match handler.generatorsMap ssrc with
    | none => (handler, none)
    | some pair =>
        (handler.store ssrc { pair with rrGenerator := pair.rrGenerator.handleSr moment.receivedTimeMs packet }, none)
  else if !RtcpHeader.isRtcp packet.data 0 then
    let ssrc := RtpHeader.getSSRC packet.data
    match handler.generatorsMap ssrc with
    | none => (handler, none)
    | some pair =>
        let (pair, report) := handleRtpPacket pair moment packet
        (handler.store ssrc pair, report)
  else (handler, none)

/-- What happens to a handler. -/
inductive Event
  | notifyUpdate (videoSourceSSRCList : List UInt32) (audioSourceSSRC : UInt32)
  | read (moment : Moment) (packet : DataPacket)

def step (handler : RtcpFeedbackGenerationHandler) : Event → RtcpFeedbackGenerationHandler × Option DataPacket
  | .notifyUpdate videoSourceSSRCList audioSourceSSRC =>
      (handler.notifyUpdate videoSourceSSRCList audioSourceSSRC, none)
  | .read moment packet => handler.read moment packet

end RtcpFeedbackGenerationHandler

end Erizo
