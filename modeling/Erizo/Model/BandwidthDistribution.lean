/-
**Distributing a REMB among streams** (`bandwidth/MaxVideoBWDistributor.cpp`,
`bandwidth/TargetVideoBWDistributor.cpp`, and what they ask of `MediaStream.cpp`).

A distributor sorts the streams by what they can take and then gives each the lesser of that and the
average of what is left. `std::sort` may leave streams that compare equal in any order, so the sort is
a parameter: `SortsByMax` and `SortsByTarget` say what is relied on.

A division by zero has no value. The subtractions are those of the unsigned types, so a round is kept
with what remained before it.
-/

import Erizo.Library.FairShare
import Mathlib.Data.UInt

namespace Erizo

/-- `MediaStream`: its SSRCs and what a distributor asks it for. Streams are shared by pointer;
`object` tells two of them apart. -/
structure MediaStream where
  object : ℕ
  audioSourceSSRC : UInt32
  videoSourceSSRCList : List UInt32
  audioSinkSSRC : UInt32
  videoSinkSSRC : UInt32
  maxVideoBW : UInt32
  isSimulcast : Bool
  isSlideShowModeEnabled : Bool
  videoBitrate : UInt32
  bitrateFromMaxQualityLayer : UInt32
  deriving DecidableEq, Repr

namespace MediaStream

variable (stream : MediaStream) (ssrc : UInt32)

/-- `isVideoSourceSSRC`. -/
def isVideoSourceSSRC : Bool := stream.videoSourceSSRCList.any fun knownSsrc => knownSsrc == ssrc

/-- `isAudioSourceSSRC`. -/
def isAudioSourceSSRC : Bool := stream.audioSourceSSRC == ssrc

/-- `isSourceSSRC`. -/
def isSourceSSRC : Bool := stream.isVideoSourceSSRC ssrc || stream.isAudioSourceSSRC ssrc

/-- `isVideoSinkSSRC`. -/
def isVideoSinkSSRC : Bool := ssrc == stream.videoSinkSSRC

/-- `isAudioSinkSSRC`. -/
def isAudioSinkSSRC : Bool := ssrc == stream.audioSinkSSRC

/-- `isSinkSSRC`. -/
def isSinkSSRC : Bool := stream.isVideoSinkSSRC ssrc || stream.isAudioSinkSSRC ssrc

end MediaStream

/-- What `createREMB` is called with. -/
structure GeneratedRemb where
  ssrc : UInt32
  ssrcList : List UInt32
  bitrate : UInt32
  deriving DecidableEq, Repr

namespace MaxVideoBWDistributor

/-- A round of `for_each`: the stream, what remained before it, and the REMB it is sent. -/
structure Round where
  stream : MediaStream
  remainingBitrate : UInt32
  remainingStreams : UInt8
  generatedRemb : GeneratedRemb
  deriving DecidableEq, Repr

/-- The `for_each` of `distribute`. -/
def forEachStream (ssrc : UInt32) : List MediaStream → UInt32 → UInt8 → Option (List Round)
  | [], _, _ => some []
  | stream :: streams, remainingBitrate, remainingStreams =>
      if remainingStreams = 0 then none
      else do
        let maxBitrate := stream.maxVideoBW
        let remainingAvgBitrate := remainingBitrate / remainingStreams.toUInt32
        let bitrate := min maxBitrate remainingAvgBitrate
        let generatedRemb := ⟨ssrc, [stream.videoSinkSSRC], bitrate⟩
        let rounds ← forEachStream ssrc streams (remainingBitrate - bitrate) (remainingStreams - 1)
        some (⟨stream, remainingBitrate, remainingStreams, generatedRemb⟩ :: rounds)

/-- What `std::sort` promises of the sort by `getMaxVideoBW`. -/
structure SortsByMax (sort : List MediaStream → List MediaStream) : Prop where
  perm : ∀ streams, (sort streams).Perm streams
  sorted : ∀ streams, (sort streams).Pairwise fun i j => ¬ j.maxVideoBW < i.maxVideoBW

/-- `distribute`. -/
def distribute (sort : List MediaStream → List MediaStream) (remb ssrc : UInt32) (streams : List MediaStream) :
    Option (List Round) :=
  let streams := sort streams
  forEachStream ssrc streams remb (UInt8.ofNat streams.length)

end MaxVideoBWDistributor

/-- `MediaStreamInfo`: what is read from a stream before the sort. -/
structure MediaStreamInfo where
  stream : MediaStream
  isSimulcast : Bool
  isSlideshow : Bool
  bitrateSent : UInt32
  maxVideoBW : UInt32
  bitrateFromMaxQualityLayer : UInt32
  deriving DecidableEq, Repr

namespace TargetVideoBWDistributor

/-- The entry of `stream_infos` for a stream. -/
def streamInfo (stream : MediaStream) : MediaStreamInfo where
  stream := stream
  isSimulcast := stream.isSimulcast
  isSlideshow := stream.isSlideShowModeEnabled
  bitrateSent := stream.videoBitrate
  maxVideoBW := stream.maxVideoBW
  bitrateFromMaxQualityLayer := stream.bitrateFromMaxQualityLayer

/-- `getTargetVideoBW`. -/
def getTargetVideoBW (stream : MediaStreamInfo) : UInt32 :=
  let maxBitrate := stream.maxVideoBW
  let targetBitrate := if stream.isSimulcast then min stream.bitrateFromMaxQualityLayer maxBitrate else maxBitrate
  if stream.isSlideshow then min stream.bitrateSent maxBitrate else targetBitrate

/-- A round of `for_each`: the stream, what remained before it, what it reserves, and the REMB it is
sent. -/
structure Round where
  stream : MediaStreamInfo
  remainingBitrate : UInt32
  remainingStreams : UInt8
  bitrate : UInt32
  generatedRemb : GeneratedRemb
  deriving DecidableEq, Repr

/-- The `for_each` of `distribute`. -/
def forEachStream (ssrc : UInt32) : List MediaStreamInfo → UInt32 → UInt8 → Option (List Round)
  | [], _, _ => some []
  | stream :: streams, remainingBitrate, remainingStreams =>
      if remainingStreams = 0 then none
      else do
        let maxBitrate := stream.maxVideoBW
        let targetBitrate := getTargetVideoBW stream
        let remainingAvgBitrate := remainingBitrate / remainingStreams.toUInt32
        let bitrate := min targetBitrate remainingAvgBitrate
        let remb := min maxBitrate remainingAvgBitrate
        let generatedRemb := ⟨ssrc, [stream.stream.videoSinkSSRC], remb⟩
        let rounds ← forEachStream ssrc streams (remainingBitrate - bitrate) (remainingStreams - 1)
        some (⟨stream, remainingBitrate, remainingStreams, bitrate, generatedRemb⟩ :: rounds)

/-- What `std::sort` promises of the sort by `getTargetVideoBW`. -/
structure SortsByTarget (sort : List MediaStreamInfo → List MediaStreamInfo) : Prop where
  perm : ∀ streamInfos, (sort streamInfos).Perm streamInfos
  sorted : ∀ streamInfos, (sort streamInfos).Pairwise fun i j => ¬ getTargetVideoBW j < getTargetVideoBW i

/-- `distribute`. -/
def distribute (sort : List MediaStreamInfo → List MediaStreamInfo) (remb ssrc : UInt32) (streams : List MediaStream) :
    Option (List Round) :=
  let streamInfos := sort (streams.map streamInfo)
  forEachStream ssrc streamInfos remb (UInt8.ofNat streams.length)

end TargetVideoBWDistributor

end Erizo
