/-
**The track mute handler** (`rtp/RtpTrackMuteHandler.cpp`), with the black keyframe of `rtp/RtpUtils.cpp`.

A muted track forwards nothing, or black keyframes in place of the keyframes of VP8. What it forwards later is
renumbered: `lastOriginalSeqNum` and `lastSentSeqNum` are kept for the difference, which is taken when the mute
ends. A video track is muted until the next keyframe. Feedback has the difference added back.

The two numbers are 32-bit signed in the source and stay far below its bounds. A keyframe's header fits into the
packet it is copied to.
-/

import Erizo.Library.Machine
import Erizo.Model.BandwidthDistribution
import Erizo.Model.RtpUtils

namespace Erizo

open Library Library.Bytes

/-! ### Black keyframes -/

namespace RtpUtils

/-- `vp8_keyframe`. -/
def vp8Keyframe : List UInt8 :=
  [0x90, 0xe0, 0x80, 0x01, 0x00, 0x20, 0x10, 0x0f, 0x00, 0x9d, 0x01, 0x2a, 0x40, 0x01, 0xb4, 0x00, 0x07, 0x07, 0x09,
    0x03, 0x0b, 0x0b, 0x11, 0x33, 0x09, 0x10, 0x4b, 0x00, 0x00, 0x0c, 0x2c, 0x09, 0xee, 0x0d, 0x02, 0xc9, 0x3e, 0xd7,
    0xb7, 0x36] ++
    (List.replicate 31 [0x4e, 0x70, 0xf6]).flatten ++ [0x4e, 0x5c, 0x00, 0xfe, 0xef, 0xb9, 0x00]

/-- `makeVP8BlackKeyframePacket`: the header of a packet, with its marker set, and a black picture. What follows
in the buffer does not belong to the packet and is zero here. -/
def makeVP8BlackKeyframePacket (packet : DetectedPacket) : DetectedPacket where
  data :=
    let headerLength := RtpHeader.getHeaderLength packet.data
    let header := (List.range headerLength).map packet.data
    RtpHeader.setMarker (copy (copy (fun _ => 0) 0 header) headerLength vp8Keyframe)
  length := (RtpHeader.getHeaderLength packet.data + vp8Keyframe.length) % 2 ^ 16
  type := packet.type
  isKeyframe := true
  codec := ""

end RtpUtils

/-! ### A track -/

/-- The labels of the two tracks. -/
inductive Track
  | audio
  | video
  deriving DecidableEq, Repr

/-- `TrackMuteInfo`. -/
structure TrackMuteInfo where
  label : Track
  lastOriginalSeqNum : ℤ
  seqNumOffset : UInt16
  lastSentSeqNum : ℤ
  muteIsActive : Bool
  unmuteRequested : Bool
  deriving DecidableEq, Repr

namespace TrackMuteInfo

/-- The constructor. -/
def create (label : Track) : TrackMuteInfo := ⟨label, -1, 0, -1, false, false⟩

/-- `updateOffset`. -/
def updateOffset (info : TrackMuteInfo) : TrackMuteInfo :=
  { info with seqNumOffset := UInt16.ofInt (info.lastOriginalSeqNum - info.lastSentSeqNum) }

/-- `setPacketSeqNumber`. -/
def setPacketSeqNumber (packet : DetectedPacket) (seqNumber : UInt16) : DetectedPacket :=
  if RtcpHeader.isRtcp packet.data 0 then packet
  else { packet with data := RtpHeader.setSeqNumber packet.data seqNumber }

/-- The end of `handlePacket`: the packet is forwarded. -/
def forward (info : TrackMuteInfo) (packet : DetectedPacket) : TrackMuteInfo × DetectedPacket :=
  let info := { info with lastSentSeqNum := info.lastOriginalSeqNum - info.seqNumOffset.toNat }
  (info,
    if 0 < info.seqNumOffset then setPacketSeqNumber packet (UInt16.ofInt info.lastSentSeqNum) else packet)

/-- The beginning of `handlePacket`. -/
def remember (info : TrackMuteInfo) (packet : DetectedPacket) : TrackMuteInfo :=
  let info := { info with lastOriginalSeqNum := (RtpHeader.getSeqNumber packet.data).toNat }
  if info.lastSentSeqNum = -1 then { info with lastSentSeqNum := info.lastOriginalSeqNum } else info

/-- `handlePacket`, with the packet if one is forwarded. -/
def handlePacket (info : TrackMuteInfo) (packet : DetectedPacket) : TrackMuteInfo × Option DetectedPacket :=
  let info := info.remember packet
  if info.muteIsActive then
    if packet.isKeyframe then
      if info.unmuteRequested then
        let info := { info with muteIsActive := false, unmuteRequested := false }
        let (info, packet) := info.updateOffset.forward packet
        (info, some packet)
      else if packet.codec = "VP8" then
        let (info, packet) := info.updateOffset.forward (RtpUtils.makeVP8BlackKeyframePacket packet)
        (info, some packet)
      else (info, none)
    else (info, none)
  else
    let (info, packet) := info.forward packet
    (info, some packet)

/-- `muteTrack`, with whether a PLI is sent to the source of the video. -/
def muteTrack (info : TrackMuteInfo) (active : Bool) : TrackMuteInfo × Bool :=
  if info.muteIsActive = active then (info, false)
  else if !active then
    if info.label = .video then ({ info with unmuteRequested := true }, true)
    else ({ info with muteIsActive := active }.updateOffset, false)
  else ({ info with muteIsActive := active }, false)

end TrackMuteInfo

/-! ### The handler -/

/-- `RtpTrackMuteHandler`. -/
structure RtpTrackMuteHandler where
  audioInfo : TrackMuteInfo
  videoInfo : TrackMuteInfo
  stream : MediaStream

namespace RtpTrackMuteHandler

/-- The constructor, for a pipeline with a stream. -/
def create (stream : MediaStream) : RtpTrackMuteHandler where
  audioInfo := .create .audio
  videoInfo := .create .video
  stream := stream

/-- A packet that is handed on, with the track it was handled for. -/
structure Written where
  track : Option Track
  packet : DetectedPacket

/-- `write`, with the packet if it is handed on. -/
def write (handler : RtpTrackMuteHandler) (packet : DetectedPacket) : RtpTrackMuteHandler × Option Written :=
  if RtcpHeader.isRtcp packet.data 0 then (handler, some ⟨none, packet⟩)
  else
    match packet.type with
    | .audio =>
        let (info, forwarded) := handler.audioInfo.handlePacket packet
        ({ handler with audioInfo := info }, forwarded.map fun packet => ⟨some .audio, packet⟩)
    | .video =>
        let (info, forwarded) := handler.videoInfo.handlePacket packet
        ({ handler with videoInfo := info }, forwarded.map fun packet => ⟨some .video, packet⟩)
    | .other => (handler, some ⟨none, packet⟩)

/-- `muteAudio`. -/
def muteAudio (handler : RtpTrackMuteHandler) (active : Bool) : RtpTrackMuteHandler :=
  { handler with audioInfo := (handler.audioInfo.muteTrack active).1 }

/-- `muteVideo`. -/
def muteVideo (handler : RtpTrackMuteHandler) (active : Bool) : RtpTrackMuteHandler :=
  { handler with videoInfo := (handler.videoInfo.muteTrack active).1 }

/-- `notifyUpdate`, with what the stream says of the tracks. -/
def notifyUpdate (handler : RtpTrackMuteHandler) (isAudioMuted isVideoMuted : Bool) : RtpTrackMuteHandler :=
  (handler.muteAudio isAudioMuted).muteVideo isVideoMuted

/-- The calls that change a handler. -/
inductive Call
  | write (packet : DetectedPacket)
  | muteAudio (active : Bool)
  | muteVideo (active : Bool)
  | notifyUpdate (isAudioMuted isVideoMuted : Bool)

/-- A call, with the packet if one is handed on. -/
def step (handler : RtpTrackMuteHandler) : Call → RtpTrackMuteHandler × Option Written
  | .write packet => handler.write packet
  | .muteAudio active => (handler.muteAudio active, none)
  | .muteVideo active => (handler.muteVideo active, none)
  | .notifyUpdate isAudioMuted isVideoMuted => (handler.notifyUpdate isAudioMuted isVideoMuted, none)

/-! ### Feedback -/

/-- What `handleFeedback` does with a block. The comparison is one of integers. -/
def shiftBlock (offset : UInt16) (chead : ℕ) (data : Memory) : Option Memory :=
  let packetType := RtcpHeader.getPacketType data chead
  if packetType = RtcpHeader.receiverPt then
    let highest := RtcpHeader.getHighestSeqnum data chead
    let data :=
      if highest.toNat + offset.toNat < highest.toNat then
        RtcpHeader.setSeqnumCycles data chead (RtcpHeader.getSeqnumCycles data chead + 1)
      else data
    some (RtcpHeader.setHighestSeqnum data chead (RtcpHeader.getHighestSeqnum data chead + offset))
  else if packetType = RtcpHeader.rtpFeedbackPt then
    some (RtcpHeader.setNackPid data chead (RtcpHeader.getNackPid data chead + offset))
  else some data

/-- `handleFeedback`. Its loop is that of `forEachRtcpBlock`. -/
def handleFeedback (info : TrackMuteInfo) (packet : DataPacket) : Option DataPacket :=
  let offset := info.seqNumOffset
  if 0 < offset then do
    let data ← RtpUtils.blockLoop id (shiftBlock offset) packet.length (packet.length.toNat + 1) 0 0 packet.data
    some { packet with data := data }
  else some packet

/-- `read`, with the packet that is passed on. -/
def read (handler : RtpTrackMuteHandler) (packet : DataPacket) : Option DataPacket :=
  let source := RtcpHeader.getSourceSSRC packet.data 0
  if handler.stream.audioSinkSSRC = source then handleFeedback handler.audioInfo packet
  else if handler.stream.videoSinkSSRC = source then handleFeedback handler.videoInfo packet
  else some packet

end RtpTrackMuteHandler

end Erizo
