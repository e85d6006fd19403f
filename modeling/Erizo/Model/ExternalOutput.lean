/-
**The writer of a recording** (`media/ExternalOutput.cpp`).

The thread of `sendLoop` takes packets out of the queues and gives them to `writeAudioData` and `writeVideoData`, one at a
time. What the libraries for codecs and files do is a parameter (`Libav`): which encoders there are, whether the file can
be opened, and what becomes of the time bases when its header is written.

A write carries what its time was computed from: the time of the packet, the divisor and the offset. A division by zero
and what makes a depacketizer fail end the run.
-/

import Erizo.Model.Depacketizer
import Erizo.Model.SdpInfo

namespace Erizo

open Library RtpHeader

/-- `AVCodecID`, as far as it is used. -/
inductive AVCodecID
  | none
  | opus
  | pcmMulaw
  | vp8
  | h264
  deriving DecidableEq, Repr

/-- The libraries. -/
structure Libav where
  /-- `avcodec_find_encoder` finds one. -/
  findEncoder : AVCodecID → Bool
  /-- `avio_open` succeeds. -/
  avioOpen : Bool
  /-- What `avformat_write_header` makes of the denominators of the time bases, of video and audio. -/
  writeHeader : ℕ → ℕ → ℕ × ℕ

/-- A depacketizer of one of the classes. -/
inductive VideoDepacketizer
  | vp8 (depacketizer : Vp8Depacketizer)
  | h264 (depacketizer : H264Depacketizer)

namespace VideoDepacketizer

/-- `reset`. -/
def reset : VideoDepacketizer → VideoDepacketizer
  | .vp8 depacketizer => .vp8 depacketizer.reset
  | .h264 depacketizer => .h264 (Depacketizer.reset depacketizer)

/-- `fetchPacket`. -/
def fetchPacket (packet : DataPacket) : VideoDepacketizer → VideoDepacketizer
  | .vp8 depacketizer => .vp8 (depacketizer.fetchPacket packet)
  | .h264 depacketizer => .h264 (H264Depacketizer.fetchPacket depacketizer packet)

/-- `processPacket`. -/
def processPacket : VideoDepacketizer → Option (VideoDepacketizer × Bool)
  | .vp8 depacketizer => (Vp8Depacketizer.processPacket depacketizer).map fun (after, deliver) => (.vp8 after, deliver)
  | .h264 depacketizer => (H264Depacketizer.processPacket depacketizer).map fun (after, deliver) => (.h264 after, deliver)

/-- `frame`, up to `frameSize`. -/
def frame : VideoDepacketizer → List UInt8
  | .vp8 depacketizer => depacketizer.buffer
  | .h264 depacketizer => depacketizer.buffer

end VideoDepacketizer

/-- The streams of a file, which have the numbers 0 and 1. -/
inductive StreamIndex
  | video
  | audio
  deriving DecidableEq, Repr

/-- A packet for the file (`AVPacket`), and what its `pts` was computed from. -/
structure AVPacket where
  streamIndex : StreamIndex
  pts : ℤ
  data : List UInt8
  timestamp : UInt32
  divisor : ℕ
  offset : ℤ

/-- What the writer does: it resets its depacketizer after a gap in the numbers, or writes a packet. -/
inductive RecordingEffect
  | reset
  | write (packet : AVPacket)

/-- `ExternalOutput`: the fields of the writer. -/
structure ExternalOutput where
  videoMaps : ℕ → Option RtpMap
  audioMaps : ℕ → Option RtpMap
  videoMap : RtpMap
  audioMap : RtpMap
  videoCodec : AVCodecID
  audioCodec : AVCodecID
  /-- The denominator of `video_stream_->time_base`. -/
  videoStream : Option ℕ
  /-- `audio_stream_->codec->sample_rate`, and the denominator of `audio_stream_->time_base`. -/
  audioStream : Option (ℕ × ℕ)
  firstVideoTimestamp : ℤ
  firstAudioTimestamp : ℤ
  videoOffsetMs : ℤ
  audioOffsetMs : ℤ
  lastVideoSequenceNumber : UInt16
  lastAudioSequenceNumber : UInt16
  depacketizer : Option VideoDepacketizer

namespace ExternalOutput

variable (libav : Libav) (output : ExternalOutput)

/-- `initContext`. Its answer is not used. -/
def initContext : ExternalOutput :=
  if output.videoCodec ≠ .none ∧ output.audioCodec ≠ .none ∧ output.videoStream = none ∧ output.audioStream = none then
    if libav.findEncoder output.videoCodec then
      let output := { output with videoStream := some 30 }
      if libav.findEncoder output.audioCodec then
        let sampleRate := output.audioMap.clockRate.toNat
        if libav.avioOpen then
          let (videoDen, audioDen) := libav.writeHeader 30 sampleRate
          { output with videoStream := some videoDen, audioStream := some (sampleRate, audioDen) }
        else { output with audioStream := some (sampleRate, sampleRate) }
      else output
    else output
  else output

/-- `updateAudioCodec`. -/
def updateAudioCodec (map : RtpMap) : ExternalOutput :=
  if output.audioCodec ≠ .none then output
  else
    let output := { output with audioMap := map }
    if map.encodingName = "opus".toList then { output with audioCodec := .opus }
    else if map.encodingName = "PCMU".toList then { output with audioCodec := .pcmMulaw }
    else output

/-- `updateVideoCodec`. -/
def updateVideoCodec (map : RtpMap) : ExternalOutput :=
  if output.videoCodec ≠ .none then output
  else
    let output := { output with videoMap := map }
    if map.encodingName = "VP8".toList then
      { output with depacketizer := some (.vp8 .create), videoCodec := .vp8 }
    else if map.encodingName = "H264".toList then
      { output with depacketizer := some (.h264 .create), videoCodec := .h264 }
    else output

/-- `timestamp_to_write`, before the offset is added. -/
def timestampToWrite (first : ℤ) (timestamp : UInt32) (divisor : ℕ) : ℤ :=
  let current : ℤ := timestamp.toNat
  let current := if current - first < 0 then current + 0xFFFFFFFF else current
  (current - first).tdiv divisor

/-- What both functions write, where they do not divide by zero. -/
def writeFrame (streamIndex : StreamIndex) (first : ℤ) (timestamp : UInt32) (divisor : ℕ) (offsetMs : ℤ) (den : ℕ)
    (data : List UInt8) : Option AVPacket :=
  if divisor = 0 ∨ 1000 / den = 0 then none
  else
    let offset := offsetMs.tdiv (1000 / den : ℕ)
    some { streamIndex, pts := timestampToWrite first timestamp divisor + offset, data, timestamp, divisor, offset }

/-- What `writeAudioData` does before it looks whether there is a stream. -/
def prepareAudio (packet : DataPacket) : ExternalOutput :=
  let output := { output with lastAudioSequenceNumber := getSeqNumber packet.data }
  let output :=
    if output.firstAudioTimestamp = -1 then { output with firstAudioTimestamp := (getTimestamp packet.data).toNat }
    else output
  let output :=
    match output.audioMaps (getPayloadType packet.data) with
    | some map => output.updateAudioCodec map
    | none => output
  output.initContext libav

/-- `writeAudioData`: the writer after it, unless it has failed, and what it did. -/
def writeAudioData (packet : DataPacket) : Option ExternalOutput × List RecordingEffect :=
  let output := output.prepareAudio libav packet
  match output.audioStream with
  | none => (some output, [])
  | some (sampleRate, den) =>
      match writeFrame .audio output.firstAudioTimestamp (getTimestamp packet.data) (sampleRate / den)
          output.audioOffsetMs den packet.payload with
      | none => (none, [])
      | some written => (some output, [.write written])

/-- `maybeWriteVideoPacket`. -/
def maybeWriteVideoPacket (packet : DataPacket) : Option ExternalOutput × List RecordingEffect :=
  match output.depacketizer.bind fun depacketizer => (depacketizer.fetchPacket packet).processPacket with
  | none => (none, [])
  | some (depacketizer, deliver) =>
      let output := initContext libav { output with depacketizer := some depacketizer }
      match output.videoStream with
      | none => (some output, [])
      | some den =>
          if deliver then
            match writeFrame .video output.firstVideoTimestamp (getTimestamp packet.data)
                (output.videoMap.clockRate.toNat / den) output.videoOffsetMs den depacketizer.frame with
            | none => (none, [])
            | some written => (some { output with depacketizer := some depacketizer.reset }, [.write written])
          else (some output, [])

/-- A packet does not have the number after the last one. The sum is one of `int`s. -/
def isUnexpected (packet : DataPacket) : Bool :=
  ((getSeqNumber packet.data).toNat : ℤ) ≠ output.lastVideoSequenceNumber.toNat + 1

/-- What `writeVideoData` does before it looks up the payload type. -/
def prepareVideo (packet : DataPacket) : ExternalOutput :=
  let output :=
    if output.isUnexpected packet then { output with depacketizer := output.depacketizer.map VideoDepacketizer.reset }
    else output
  let output := { output with lastVideoSequenceNumber := getSeqNumber packet.data }
  if output.firstVideoTimestamp = -1 then { output with firstVideoTimestamp := (getTimestamp packet.data).toNat }
  else output

/-- `writeVideoData`. -/
def writeVideoData (packet : DataPacket) : Option ExternalOutput × List RecordingEffect :=
  let resets := if output.isUnexpected packet && output.depacketizer.isSome then [RecordingEffect.reset] else []
  let output := output.prepareVideo packet
  match output.videoMaps (getPayloadType packet.data) with
  | none => (some output, resets)
  | some map =>
      let output := output.updateVideoCodec map
      if map.encodingName = "VP8".toList ∨ map.encodingName = "H264".toList then
        let (after, effects) := output.maybeWriteVideoPacket libav packet
        (after, resets ++ effects)
      else (some output, resets)

/-- What comes out of the queues. -/
inductive Event
  | audio (packet : DataPacket)
  | video (packet : DataPacket)

/-- The writer takes a packet, if it has not failed. -/
def step : Option ExternalOutput → Event → Option ExternalOutput × List RecordingEffect
  | none, _ => (none, [])
  | some output, .audio packet => output.writeAudioData libav packet
  | some output, .video packet => output.writeVideoData libav packet

end ExternalOutput

end Erizo
