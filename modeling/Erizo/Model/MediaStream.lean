/-
**The media stream: its rate control and its ends** (`MediaStream.cpp`).

`sendPacket` hands the packets of a stream to the pipeline and, if a rate is set, is to hold back video. The clock's
readings are arguments, in nanoseconds.

The ends are where the packets of the transports and of the sinks come in and go out. On the way in the payload types and
the identifiers of extensions are made those that are used inside, on the way out those of the remote description. The
numbers of sinks stand for pointers.
-/

import Erizo.Model.OneToManyProcessor
import Erizo.Model.RtpExtensionProcessor

namespace Erizo

open Library Library.Bytes

namespace MediaStream

/-- `MediaStream`: the fields that the two functions use. `pipeline` says that there is one. -/
structure Sender where
  sending : Bool
  slideShowMode : Bool
  shouldSendFeedback : Bool
  videoEnabled : Bool
  rateControl : UInt32
  mark : ℤ
  pipelineInitialized : Bool
  pipeline : Bool

/-- `kBitrateControlPeriod`, in nanoseconds. -/
def kBitrateControlPeriod : ℤ := 100000000

namespace Sender

variable (stream : Sender)

/-- `setFeedbackReports`. -/
def setFeedbackReports (willSendFb : Bool) (targetBitrate : UInt32) : Sender :=
  let targetBitrate := if stream.slideShowMode then 0 else targetBitrate
  let stream := { stream with shouldSendFeedback := willSendFb }
  let stream := if targetBitrate = 1 then { stream with videoEnabled := false } else stream
  { stream with rateControl := targetBitrate }

/-- The packet is handed to the pipeline, if there is one. -/
def writeToPipeline (p : DataPacket) : Sender × Option DataPacket :=
  if stream.pipelineInitialized && stream.pipeline then (stream, some p) else (stream, none)

/-- `sendPacket`: the stream and the packet that is handed to the pipeline. The counters are local variables, and what is
added to `sentVideoBytes` at the end is lost. -/
def sendPacket (now : ℤ) (p : DataPacket) : Sender × Option DataPacket :=
  if !stream.sending then (stream, none)
  else
    let sentVideoBytes : UInt64 := 0
    let lastSecondVideoBytes : UInt64 := 0
    if stream.rateControl ≠ 0 ∧ stream.slideShowMode = false ∧ p.type = .video then
      if stream.rateControl = 1 then (stream, none)
      else
        let (stream, lastSecondVideoBytes) :=
          if now - stream.mark ≥ kBitrateControlPeriod then ({ stream with mark := now }, sentVideoBytes)
          else (stream, lastSecondVideoBytes)
        let partialBitrate := ((sentVideoBytes - lastSecondVideoBytes) * 8 * 10).toUInt32
        if partialBitrate > stream.rateControl then (stream, none) else stream.writeToPipeline p
    else stream.writeToPipeline p

end Sender

/-- `MediaStream`: the fields that the ends use. -/
structure Ends where
  bundle : Bool
  remoteSdp : SdpInfo
  extProcessor : RtpExtensionProcessor
  audioSourceSSRC : UInt32
  videoSourceSSRCList : List UInt32
  audioSink : Option ℕ
  videoSink : Option ℕ
  fbSink : Option ℕ
  shouldSendFeedback : Bool
  audioEnabled : Bool
  videoEnabled : Bool
  sending : Bool

/-- A call to one of the sinks. -/
inductive SinkCall
  | audio (sink : ℕ) (packet : DataPacket)
  | video (sink : ℕ) (packet : DataPacket)
  | feedback (sink : ℕ) (packet : DataPacket)

namespace Ends

variable (stream : Ends)

/-- `isVideoSourceSSRC`. -/
def isVideoSourceSSRC (ssrc : UInt32) : Bool := stream.videoSourceSSRCList.contains ssrc

/-- `isAudioSourceSSRC`. -/
def isAudioSourceSSRC (ssrc : UInt32) : Bool := stream.audioSourceSSRC = ssrc

/-- `getVideoSourceSSRC`. -/
def getVideoSourceSSRC : UInt32 :=
  match stream.videoSourceSSRCList with
  | [] => 0
  | ssrc :: _ => ssrc

/-- `setVideoSourceSSRC`. -/
def setVideoSourceSSRC (ssrc : UInt32) : Ends :=
  { stream with videoSourceSSRCList := ssrc :: stream.videoSourceSSRCList.tail }

/-- What both changes of the payload type do with it. -/
def changePayloadType (other : UInt32 → UInt32) (data : Memory) : Memory :=
  if RtcpHeader.isRtcp data 0 then data
  else
    let payloadType := UInt32.ofNat (RtpHeader.getPayloadType data)
    if payloadType ≠ other payloadType then RtpHeader.setPayloadType data (other payloadType).toUInt8 else data

/-- `parseIncomingPayloadType`. -/
def parseIncomingPayloadType (type : PacketType) : Memory → Memory :=
  changePayloadType fun externalPT =>
    match type with
    | .audio => stream.remoteSdp.getAudioInternalPT externalPT
    | .video => stream.remoteSdp.getVideoInternalPT externalPT
    | .other => externalPT

/-- `changeDeliverPayloadType`. -/
def changeDeliverPayloadType (type : PacketType) : Memory → Memory :=
  changePayloadType fun internalPT =>
    match type with
    | .audio => stream.remoteSdp.getAudioExternalPT internalPT
    | .video => stream.remoteSdp.getVideoExternalPT internalPT
    | .other => internalPT

/-- `onTransportData`: the packet that is read through the pipeline, which is there. -/
def onTransportData (mediaType : MediaType) (incomingPacket : DataPacket) : Option DataPacket :=
  if stream.audioSink = none ∧ stream.videoSink = none ∧ stream.fbSink = none then none
  else
    let packet :=
      match mediaType with
      | .audio => { incomingPacket with type := .audio }
      | .video => { incomingPacket with type := .video }
      | .other => incomingPacket
    let recvSSRC := RtpHeader.getSSRC packet.data
    if RtcpHeader.isRtcp packet.data 0 then some packet
    else if stream.isVideoSourceSSRC recvSSRC then some { packet with type := .video }
    else if stream.isAudioSourceSSRC recvSSRC then some { packet with type := .audio }
    else some packet

/-- The packet of a call, parsed. -/
def parseIncoming (type : PacketType) (packet : DataPacket) : Option DataPacket := do
  let data ← stream.extProcessor.parseIncomingExtensionId type (stream.parseIncomingPayloadType type packet.data)
  some { packet with data := data }

/-- `read`: the stream, which may have discovered an SSRC, and the calls. -/
def read (packet : DataPacket) : Option (Ends × List SinkCall) :=
  let recvSSRC :=
    if !RtcpHeader.isRtcp packet.data 0 then RtpHeader.getSSRC packet.data
    else if RtcpHeader.getPacketType packet.data 0 = RtcpHeader.senderPt ∨
        RtcpHeader.getPacketType packet.data 0 = RtcpHeader.sdesPt then RtcpHeader.getSSRC packet.data 0
    else 0
  if RtcpHeader.isFeedback packet.data 0 then
    match stream.fbSink with
    | some sink => if stream.shouldSendFeedback then some (stream, [.feedback sink packet]) else some (stream, [])
    | none => some (stream, [])
  else if stream.bundle then
    match stream.isVideoSourceSSRC recvSSRC, stream.videoSink, stream.isAudioSourceSSRC recvSSRC, stream.audioSink with
    | true, some sink, _, _ => do
        let packet ← stream.parseIncoming .video packet
        some (stream, [.video sink packet])
    | _, _, true, some sink => do
        let packet ← stream.parseIncoming .audio packet
        some (stream, [.audio sink packet])
    | _, _, _, _ => some (stream, [])
  else
    match packet.type, stream.audioSink, stream.videoSink with
    | .audio, some sink, _ => do
        let packet ← stream.parseIncoming .audio packet
        let stream := if stream.audioSourceSSRC = 0 then { stream with audioSourceSSRC := recvSSRC } else stream
        some (stream, [.audio sink packet])
    | .video, _, some sink => do
        let packet ← stream.parseIncoming .video packet
        let stream := if stream.getVideoSourceSSRC = 0 then stream.setVideoSourceSSRC recvSSRC else stream
        some (stream, [.video sink packet])
    | _, _, _ => some (stream, [])

/-- `sendPacketAsync`: the packet that is left to `sendPacket`. -/
def sendPacketAsync (packet : DataPacket) : Option (List DataPacket) :=
  if !stream.sending then some []
  else do
    let data ← stream.extProcessor.changeDeliverExtensionId packet.type
      (stream.changeDeliverPayloadType packet.type packet.data)
    some [{ packet with data := data }]

/-- `deliverAudioData_`. -/
def deliverAudioData (audioPacket : DataPacket) : Option (List DataPacket) :=
  if stream.audioEnabled then stream.sendPacketAsync audioPacket else some []

/-- `deliverVideoData_`. -/
def deliverVideoData (videoPacket : DataPacket) : Option (List DataPacket) :=
  if stream.videoEnabled then stream.sendPacketAsync videoPacket else some []

/-- The SSRC that `deliverFeedback_` goes by. -/
def feedbackSSRC (data : Memory) : UInt32 :=
  let named := (List.range (RtcpHeader.getREMBNumSSRC data 0).toNat).map (RtcpHeader.getREMBFeedSSRC data 0)
  if RtcpHeader.isREMB data 0 then (named.find? stream.isVideoSourceSSRC).getD (RtcpHeader.getSourceSSRC data 0)
  else RtcpHeader.getSourceSSRC data 0

/-- `deliverFeedback_`. -/
def deliverFeedback (fbPacket : DataPacket) : Option (List DataPacket) :=
  let recvSSRC := stream.feedbackSSRC fbPacket.data
  if stream.isVideoSourceSSRC recvSSRC then stream.sendPacketAsync { fbPacket with type := .video }
  else if stream.isAudioSourceSSRC recvSSRC then stream.sendPacketAsync { fbPacket with type := .audio }
  else some []

end Ends

end MediaStream

end Erizo
