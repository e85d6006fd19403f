/-
**One publisher and its subscribers** (`OneToManyProcessor.cpp`, and `MediaSource`, `MediaSink` and `FeedbackSource` of
`MediaDefinitions.h`).

The processor hands what its publisher sends to every subscriber, with the SSRC of that subscriber, and the feedback of
the subscribers to the publisher, with the SSRCs of the publisher. There is one packet for all subscribers: its SSRC is
rewritten before each call, and a subscriber copies the packet at once.

A call that goes through a publisher that is missing has no value. `closeAll` lets go of the publisher before it takes
the lock that the other calls take, so that it has two steps.
-/

import Erizo.Model.RtpUtils
import Erizo.Model.StringUtil
import Std.Data.ExtTreeMap

namespace Erizo

open Library Library.Bytes StringUtil

/-- `MediaSource`: what is asked of a publisher. -/
structure MediaSource where
  audioSourceSSRC : UInt32
  videoSourceSSRCList : List UInt32
  feedbackSink : Option ℕ
  deriving DecidableEq, Repr

/-- `getVideoSourceSSRC`. -/
def MediaSource.getVideoSourceSSRC (source : MediaSource) : UInt32 :=
  match source.videoSourceSSRCList with
  | [] => 0
  | ssrc :: _ => ssrc

/-- `MediaSink`: what is asked of a subscriber. Sinks are shared by pointer; `object` tells two of them apart. -/
structure MediaSink where
  object : ℕ
  audioSinkSSRC : UInt32
  videoSinkSSRC : UInt32
  feedbackSource : Option ℕ
  deriving DecidableEq, Repr

/-- `OneToManyProcessor`. `attached` are the feedback sources whose sink it is. -/
structure OneToManyProcessor where
  subscribers : Std.ExtTreeMap Text MediaSink
  publisher : Option MediaSource
  feedbackSink : Option ℕ
  attached : ℕ → Bool

namespace OneToManyProcessor

/-- The constructor. -/
def create : OneToManyProcessor := ⟨∅, none, none, fun _ => false⟩

/-- A call to a subscriber, or to the feedback sink of the publisher. -/
inductive Delivery
  | audio (sink : MediaSink) (packet : DataPacket)
  | video (sink : MediaSink) (packet : DataPacket)
  | feedback (sink : ℕ) (packet : DataPacket)

variable (processor : OneToManyProcessor)

/-- The subscribers in the order of a loop over the map. -/
def sinks : List MediaSink := processor.subscribers.toList.map Prod.snd

/-- The loops of `deliverAudioData_` and `deliverVideoData_`: the SSRC of the packet is set for a subscriber, and the
packet is handed to it. -/
def deliverLoop (setSSRC : MediaSink → Memory → Memory) (deliver : MediaSink → DataPacket → Delivery)
    (packet : DataPacket) : Memory → List MediaSink → List Delivery
  | _, [] => []
  | data, sink :: sinks =>
      let data := setSSRC sink data
      deliver sink { packet with data := data } :: deliverLoop setSSRC deliver packet data sinks

/-- `deliverAudioData_`. -/
def deliverAudioData (audioPacket : DataPacket) : List Delivery :=
  if audioPacket.length ≤ 0 then []
  else
    deliverLoop (fun sink data => RtpHeader.setSSRC data sink.audioSinkSSRC) .audio audioPacket audioPacket.data
      processor.sinks

/-- `isSSRCFromAudio`. -/
def isSSRCFromAudio (ssrc : UInt32) : Bool := processor.sinks.any fun sink => sink.audioSinkSSRC == ssrc

/-- The SSRC of the publisher that stands for one of the subscribers. -/
def sourceSSRC (publisher : MediaSource) (ssrc : UInt32) : UInt32 :=
  if processor.isSSRCFromAudio ssrc then publisher.audioSourceSSRC else publisher.getVideoSourceSSRC

/-- What `deliverFeedback_` does with a block. -/
def translateBlock (chead : ℕ) (data : Memory) : Option Memory := do
  let publisher ← processor.publisher
  let data :=
    if RtcpHeader.isREMB data chead then
      (List.range (RtcpHeader.getREMBNumSSRC data chead).toNat).foldl (fun data index =>
        RtcpHeader.setREMBFeedSSRC data chead index
          (processor.sourceSSRC publisher (RtcpHeader.getREMBFeedSSRC data chead index))) data
    else data
  some (RtcpHeader.setSourceSSRC data chead (processor.sourceSSRC publisher (RtcpHeader.getSourceSSRC data chead)))

/-- `deliverFeedback_`. -/
def deliverFeedback (fbPacket : DataPacket) : Option (List Delivery) :=
  match processor.feedbackSink with
  | none => some []
  | some sink => do
      let data ← RtpUtils.forEachRtcpBlock id fbPacket.length processor.translateBlock fbPacket.data
      some [.feedback sink { fbPacket with data := data }]

/-- `translateAndMaybeAdaptForSimulcast`. -/
def translateAndMaybeAdaptForSimulcast (origSsrc : UInt32) : Option UInt32 :=
  processor.publisher.map fun publisher => origSsrc - publisher.getVideoSourceSSRC

/-- The SSRC of a video packet, which may be RTCP. -/
def getVideoSSRC (data : Memory) : UInt32 :=
  if RtcpHeader.isRtcp data 0 then RtcpHeader.getSSRC data 0 else RtpHeader.getSSRC data

/-- The SSRC of a video packet is set. -/
def setVideoSSRC (data : Memory) (ssrc : UInt32) : Memory :=
  if RtcpHeader.isRtcp data 0 then RtcpHeader.setSSRC data 0 ssrc else RtpHeader.setSSRC data ssrc

/-- `deliverVideoData_`. -/
def deliverVideoData (videoPacket : DataPacket) : Option (List Delivery) :=
  if videoPacket.length ≤ 0 then some []
  else if RtcpHeader.isFeedback videoPacket.data 0 then processor.deliverFeedback videoPacket
  else if processor.subscribers.isEmpty then some []
  else do
    let ssrcOffset ← processor.translateAndMaybeAdaptForSimulcast (getVideoSSRC videoPacket.data)
    some (deliverLoop (fun sink data => setVideoSSRC data (sink.videoSinkSSRC + ssrcOffset)) .video videoPacket
      videoPacket.data processor.sinks)

/-- `setPublisher`. -/
def setPublisher (publisherStream : MediaSource) : OneToManyProcessor :=
  { processor with publisher := some publisherStream, feedbackSink := publisherStream.feedbackSink }

/-- `addSubscriber`. -/
def addSubscriber (subscriberStream : MediaSink) (peerId : Text) : OneToManyProcessor :=
  { processor with
    attached := fun source => subscriberStream.feedbackSource = some source || processor.attached source
    subscribers := (processor.subscribers.erase peerId).insert peerId subscriberStream }

/-- `removeSubscriber`. -/
def removeSubscriber (peerId : Text) : OneToManyProcessor :=
  { processor with subscribers := processor.subscribers.erase peerId }

/-- The first part of `closeAll`, without the lock. -/
def letGo : OneToManyProcessor := { processor with feedbackSink := none, publisher := none }

/-- The second part of `closeAll`. -/
def clear : OneToManyProcessor :=
  { processor with
    attached := fun source =>
      processor.attached source && !(processor.sinks.any fun sink => sink.feedbackSource = some source)
    subscribers := ∅ }

/-! ### Runs -/

/-- The calls, those of several threads in the order of the lock. -/
inductive Event
  | setPublisher (publisherStream : MediaSource)
  | addSubscriber (subscriberStream : MediaSink) (peerId : Text)
  | removeSubscriber (peerId : Text)
  | deliverAudioData (audioPacket : DataPacket)
  | deliverVideoData (videoPacket : DataPacket)
  | deliverFeedback (fbPacket : DataPacket)
  | letGo
  | clear

/-- A call, and the calls it makes in turn. -/
def step : OneToManyProcessor → Event → OneToManyProcessor × Option (List Delivery)
  | processor, .setPublisher publisherStream => (processor.setPublisher publisherStream, some [])
  | processor, .addSubscriber subscriberStream peerId => (processor.addSubscriber subscriberStream peerId, some [])
  | processor, .removeSubscriber peerId => (processor.removeSubscriber peerId, some [])
  | processor, .deliverAudioData audioPacket => (processor, some (processor.deliverAudioData audioPacket))
  | processor, .deliverVideoData videoPacket => (processor, processor.deliverVideoData videoPacket)
  | processor, .deliverFeedback fbPacket => (processor, processor.deliverFeedback fbPacket)
  | processor, .letGo => (processor.letGo, some [])
  | processor, .clear => (processor.clear, some [])

end OneToManyProcessor

end Erizo
