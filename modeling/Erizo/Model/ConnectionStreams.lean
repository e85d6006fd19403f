/-
**The streams of a connection** (`WebRtcConnection.cpp`).

A connection has a list of streams and, in its local description, the SSRCs of those that send, by label. Streams are
removed with `std::remove_if`, which leaves unspecified pointers at the end, and an `erase` of one position there. The
lambdas go through the pointers, which is undefined for a null pointer, as is erasing the end.
-/

import Erizo.Library.Machine
import Erizo.Model.SdpInfo

namespace Erizo

open Library StringUtil

/-- `MediaStream`: what a connection asks its streams. -/
structure LocalStream where
  id : Text
  label : Text
  isPublisher : Bool
  isReady : Bool
  audioSinkSSRC : UInt32
  videoSinkSSRC : UInt32
  deriving DecidableEq

/-- `WebRtcConnection`: its streams, and the fields of its local description that depend on them. -/
structure ConnectionStreams where
  mediaStreams : List (Option LocalStream)
  audioSsrcMap : Std.ExtTreeMap Text UInt32
  videoSsrcMap : Std.ExtTreeMap Text (List UInt32)
  audioEnabled : Bool
  videoEnabled : Bool
  audioDirection : StreamDirection
  videoDirection : StreamDirection

namespace ConnectionStreams

/-- `kDefaultVideoSinkSSRC`. -/
def kDefaultVideoSinkSSRC : UInt32 := 55543

/-- `kDefaultAudioSinkSSRC`. -/
def kDefaultAudioSinkSSRC : UInt32 := 44444

/-- The constructor. -/
def create : ConnectionStreams := ⟨[], ∅, ∅, false, false, .sendrecv, .sendrecv⟩

variable (connection : ConnectionStreams)

/-- The streams, if none of the pointers to them is null. -/
def streams : Option (List LocalStream) := connection.mediaStreams.mapM id

/-- `addMediaStream`. -/
def addMediaStream (mediaStream : LocalStream) : ConnectionStreams :=
  { connection with mediaStreams := connection.mediaStreams ++ [some mediaStream] }

/-- `removeMediaStream`, where `std::remove_if` leaves `unspecified` pointers. -/
def removeMediaStream (streamId : Text) (unspecified : ℕ → Option LocalStream) : Option ConnectionStreams := do
  let streams ← connection.streams
  let removed := streams.filter fun stream => stream.id = streamId
  if removed = [] then none
  else
    let kept := streams.filter fun stream => ¬stream.id = streamId
    some { connection with
      mediaStreams := kept.map some ++ (List.range (removed.length - 1)).map fun index => unspecified (index + 1)
      audioSsrcMap := removed.foldl (fun map stream => map.erase stream.label) connection.audioSsrcMap
      videoSsrcMap := removed.foldl (fun map stream => map.erase stream.label) connection.videoSsrcMap }

/-- The audio SSRC of a stream is put in the description. -/
def writeAudio (map : Std.ExtTreeMap Text UInt32) (stream : LocalStream) : Std.ExtTreeMap Text UInt32 :=
  if !stream.isReady || stream.isPublisher then map
  else if stream.audioSinkSSRC ≠ kDefaultAudioSinkSSRC ∧ stream.audioSinkSSRC ≠ 0 then
    map.insert stream.label stream.audioSinkSSRC
  else map

/-- The video SSRC of a stream is put in the description. -/
def writeVideo (map : Std.ExtTreeMap Text (List UInt32)) (stream : LocalStream) : Std.ExtTreeMap Text (List UInt32) :=
  if !stream.isReady || stream.isPublisher then map
  else
    let videoSsrcList :=
      if stream.videoSinkSSRC ≠ kDefaultVideoSinkSSRC ∧ stream.videoSinkSSRC ≠ 0 then [stream.videoSinkSSRC] else []
    if videoSsrcList ≠ [] then map.insert stream.label videoSsrcList else map

/-- `createOfferSync`, as far as it writes the SSRCs, and `createOfferSdp` the directions. -/
def createOfferSync (videoEnabled audioEnabled : Bool) : Option ConnectionStreams := do
  let streams ← connection.streams
  some { connection with
    videoEnabled := videoEnabled
    audioEnabled := audioEnabled
    videoDirection := .sendrecv
    audioDirection := .sendrecv
    videoSsrcMap := if videoEnabled then streams.foldl writeVideo connection.videoSsrcMap else connection.videoSsrcMap
    audioSsrcMap := if audioEnabled then streams.foldl writeAudio connection.audioSsrcMap else connection.audioSsrcMap }

/-- The direction of a medium. -/
def direction (sending receiving : Bool) : StreamDirection :=
  if !sending && receiving then .recvonly else if sending && !receiving then .sendonly else .sendrecv

/-- `getLocalSdpInfoSync`, with whether there are SSRCs in the remote description. -/
def getLocalSdpInfoSync (receivingAudio receivingVideo : Bool) : Option ConnectionStreams := do
  let streams ← connection.streams
  let audioSsrcMap := streams.foldl writeAudio connection.audioSsrcMap
  let videoSsrcMap := streams.foldl writeVideo connection.videoSsrcMap
  let sendingAudio := audioSsrcMap.size > 0
  let sendingVideo := videoSsrcMap.size > 0
  some { connection with
    audioSsrcMap := audioSsrcMap
    videoSsrcMap := videoSsrcMap
    audioEnabled := sendingAudio || receivingAudio
    videoEnabled := sendingVideo || receivingVideo
    audioDirection := direction sendingAudio receivingAudio
    videoDirection := direction sendingVideo receivingVideo }

/-- The streams with an identifier get ready, when they are given their remote description, or are closed. -/
def setReady (streamId : Text) (ready : Bool) : ConnectionStreams :=
  { connection with
    mediaStreams := connection.mediaStreams.map
      (Option.map fun stream => if stream.id = streamId then { stream with isReady := ready } else stream) }

/-- What happens to the streams of a connection that is not closed. -/
inductive Event
  | addMediaStream (mediaStream : LocalStream)
  | removeMediaStream (streamId : Text) (unspecified : ℕ → Option LocalStream)
  | createOffer (videoEnabled audioEnabled : Bool)
  | getLocalSdpInfo (receivingAudio receivingVideo : Bool)
  | setReady (streamId : Text) (ready : Bool)

/-- A step, which may be undefined. -/
def step (connection : ConnectionStreams) : Event → Option ConnectionStreams
  | .addMediaStream mediaStream => some (connection.addMediaStream mediaStream)
  | .removeMediaStream streamId unspecified => connection.removeMediaStream streamId unspecified
  | .createOffer videoEnabled audioEnabled => connection.createOfferSync videoEnabled audioEnabled
  | .getLocalSdpInfo receivingAudio receivingVideo => connection.getLocalSdpInfoSync receivingAudio receivingVideo
  | .setReady streamId ready => some (connection.setReady streamId ready)

end ConnectionStreams

end Erizo
