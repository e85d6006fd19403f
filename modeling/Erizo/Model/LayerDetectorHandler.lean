/-
**The layer detector** (`rtp/LayerDetectorHandler.cpp`).

The handler reads from incoming video which layers a packet belongs to, and keeps lists: the SSRCs of the source, the
width and height of each spatial layer, the frame rate of each temporal layer. The statistics of the last list are
copies of one, and point to one vector of samples. Readings of the clock are in nanoseconds and are given to `read`.

Every index into a list is put down as an `Access`. An index out of range writes nothing here, and reads a zero or no
rate; in the source that is undefined. So is a VP9 payload that the parser reads behind `DataPacket::data`: here the
first byte behind is put down, and the packet goes on as it is. No list is longer than an `int` can count.
`initialized_` is never set, and what is logged is left out.
-/

import Erizo.Library.Machine
import Erizo.Library.SharedCells
import Erizo.Model.MovingIntervalRateStat
import Erizo.Model.RtpH264Parser
import Erizo.Model.RtpVP9Parser

namespace Erizo

open Library

/-- `LayerInfoChangedEvent`. -/
structure LayerInfoChangedEvent where
  videoFrameWidthList : List UInt32
  videoFrameHeightList : List UInt32
  videoFrameRateList : List UInt64
  deriving DecidableEq, Repr

/-- An index that is used, and the size of the list or of the bytes. -/
structure Access where
  index : ℕ
  size : ℕ
  deriving DecidableEq, Repr

namespace Access

/-- An `int` as an index. A negative one is far behind every list. -/
def toIndex : ℤ → ℕ
  | .ofNat position => position
  | .negSucc position => 2 ^ 64 - (position + 1)

/-- The use of a position in a list. -/
def of {α : Type*} (list : List α) (position : ℤ) : Access := ⟨toIndex position, list.length⟩

/-- The index is in range. -/
def Valid (access : Access) : Prop := access.index < access.size

instance (access : Access) : Decidable access.Valid := inferInstanceAs (Decidable (_ < _))

end Access

/-- `LayerDetectorHandler`. `hasStream` says that `stream_` is set. -/
structure LayerDetectorHandler where
  hasStream : Bool
  enabled : Bool
  videoSsrcList : List UInt32
  videoFrameHeightList : List UInt32
  videoFrameWidthList : List UInt32
  videoFrameRateList : SharedCells MovingIntervalRateStat.Fields (List UInt64)
  lastEventSent : ℤ

namespace LayerDetectorHandler

/-- `kMaxTemporalLayers`. -/
def maxTemporalLayers : ℕ := 4

/-- `kMaxSpatialLayers`. -/
def maxSpatialLayers : ℕ := 4

/-- `kMinNotifyLayerInfoInterval`. -/
def minNotifyLayerInfoInterval : ℤ := 5000000000

/-- The statistic that the list of frame rates is made of. -/
def rateStat : MovingIntervalRateStat := .create 500 10

/-- The scale of the frame rates. -/
def rateScale : ℚ := 1 / 2

/-- The constructor. -/
def create (now : ℤ) : LayerDetectorHandler where
  hasStream := false
  enabled := true
  videoSsrcList := List.replicate maxSpatialLayers 0
  videoFrameHeightList := List.replicate maxSpatialLayers 0
  videoFrameWidthList := List.replicate maxSpatialLayers 0
  videoFrameRateList := .copies MovingIntervalRateStat.split rateStat maxTemporalLayers
  lastEventSent := now

/-- `timePointToMs`. -/
def timePointToMs (reading : ℤ) : UInt64 := UInt64.ofInt (reading.tdiv 1000000)

/-- The readings in `notifyLayerInfoChangedEvent`: for each frame rate, and at the end. -/
structure NotifyReadings where
  asked : ℕ → ℤ
  sent : ℤ

/-- The readings in `read`: where a temporal layer is counted, where a change is notified, where it is seen how long ago
the last event was sent, and where that is notified. -/
structure Readings where
  counted : ℕ → ℤ
  changed : NotifyReadings
  checked : ℤ
  due : NotifyReadings

/-- A frame that is counted: its temporal layer and the reading of the clock. -/
structure Frame where
  layer : ℕ
  time : ℤ

/-- A handler while it reads a packet, with what it has done. -/
structure Detection where
  handler : LayerDetectorHandler
  packet : LayeredPacket
  accesses : List Access
  frames : List Frame
  events : List LayerInfoChangedEvent

/-- `getSsrcPosition`. -/
def getSsrcPosition (handler : LayerDetectorHandler) (ssrc : UInt32) : ℤ :=
  let index := handler.videoSsrcList.idxOf ssrc
  if index ≠ handler.videoSsrcList.length then index else -1

/-- `video_frame_rate_list_[temporal_layer].value()`. -/
def rateValue (handler : LayerDetectorHandler) (temporalLayer : ℕ) (now : ℤ) : UInt64 :=
  match handler.videoFrameRateList.load MovingIntervalRateStat.split temporalLayer with
  | some stat => stat.value rateScale (timePointToMs now)
  | none => 0

/-- A statistic counts a frame. -/
def countFrame (time : ℤ) (stat : MovingIntervalRateStat) : MovingIntervalRateStat := stat.add (timePointToMs time) 1

/-- `video_frame_rate_list_[temporal_layer]++`. -/
def increment (handler : LayerDetectorHandler) (frame : Frame) : LayerDetectorHandler :=
  { handler with
    videoFrameRateList :=
      handler.videoFrameRateList.change MovingIntervalRateStat.split frame.layer (countFrame frame.time) }

namespace Detection

variable (detection : Detection) (readings : Readings)

/-- `notifyLayerInfoChangedEvent`. -/
def notifyLayerInfoChangedEvent (times : NotifyReadings) : Detection :=
  let handler := detection.handler
  let layers := List.range handler.videoFrameRateList.objects.length
  { detection with
    handler := { handler with lastEventSent := times.sent }
    accesses := detection.accesses ++ layers.map fun layer => ⟨layer, handler.videoFrameRateList.objects.length⟩
    events := detection.events ++
      if handler.hasStream then
        [{ videoFrameWidthList := handler.videoFrameWidthList
           videoFrameHeightList := handler.videoFrameHeightList
           videoFrameRateList := layers.map fun layer => handler.rateValue layer (times.asked layer) }]
      else [] }

/-- `notifyLayerInfoChangedEventMaybe`. -/
def notifyLayerInfoChangedEventMaybe : Detection :=
  if readings.checked - detection.handler.lastEventSent > minNotifyLayerInfoInterval then
    detection.notifyLayerInfoChangedEvent readings.due
  else detection

/-- `addTemporalLayerAndCalculateRate`. -/
def addTemporalLayerAndCalculateRate (newFrame : Bool) (temporalLayer : ℕ) : Detection :=
  let frame : Frame := ⟨temporalLayer, readings.counted temporalLayer⟩
  let detection :=
    if newFrame then
      { detection with
        handler := detection.handler.increment frame
        accesses := detection.accesses ++ [⟨temporalLayer, detection.handler.videoFrameRateList.objects.length⟩]
        frames := detection.frames ++ [frame] }
    else detection
  { detection with
    packet := { detection.packet with
      compatibleTemporalLayers := detection.packet.compatibleTemporalLayers ++ [(temporalLayer : ℤ)] } }

/-- The `switch` over the temporal layer of a packet, whose cases fall through. -/
def addTemporalLayers (newFrame : Bool) (temporalLayers : List ℕ) : Detection :=
  temporalLayers.foldl (fun detection layer => detection.addTemporalLayerAndCalculateRate readings newFrame layer) detection

/-- The width and height at a position are set. -/
def setResolution (position : ℤ) (width height : UInt32) : Detection :=
  let handler := detection.handler
  { detection with
    handler := { handler with
      videoFrameWidthList := handler.videoFrameWidthList.set (Access.toIndex position) width
      videoFrameHeightList := handler.videoFrameHeightList.set (Access.toIndex position) height }
    accesses := detection.accesses ++
      [Access.of handler.videoFrameWidthList position, Access.of handler.videoFrameHeightList position] }

end Detection

variable (handler : LayerDetectorHandler) (packet : LayeredPacket) (readings : Readings)

/-- The bytes from the payload on. -/
def bytesFrom (packet : LayeredPacket) (count : ℕ) : List UInt8 :=
  (List.range count).map fun index => packet.data (RtpHeader.getHeaderLength packet.data + index)

/-- The length of the payload. It may be negative. -/
def payloadLength (packet : LayeredPacket) : ℤ := packet.length - RtpHeader.getHeaderLength packet.data

/-- What `parseVP8` makes of the payload. It reads a byte even where there is none. -/
def payloadVP8 (packet : LayeredPacket) : RTPPayloadVP8 :=
  RtpVP8Parser.parseVP8 (bytesFrom packet (max 1 (payloadLength packet).toNat))

/-- What `parseVP9` makes of the payload, if it does not read behind `DataPacket::data`. -/
def payloadVP9 (packet : LayeredPacket) : Option RTPPayloadVP9 :=
  RtpVP9Parser.parseVP9 (bytesFrom packet (DataPacket.capacity - RtpHeader.getHeaderLength packet.data))
    (payloadLength packet)

/-- What `parseH264` makes of the payload. It reads a byte of any payload whose length is not zero. -/
def payloadH264 (packet : LayeredPacket) : RTPPayloadH264 :=
  RtpH264Parser.parseH264
    (bytesFrom packet (if payloadLength packet = 0 then 0 else max 1 (payloadLength packet).toNat))

/-- The temporal layers of a VP8 packet. -/
def temporalLayersVP8 (payload : RTPPayloadVP8) : List ℕ :=
  if payload.tID = 0 then [0, 1, 2] else if payload.tID = 1 then [1, 2] else if payload.tID = 2 then [2] else [0]

/-- The temporal layers of a VP9 packet. -/
def temporalLayersVP9 (payload : RTPPayloadVP9) : List ℕ :=
  if payload.temporalID = 0 then [0, 1, 2, 3]
  else if payload.temporalID = 2 then [1, 2, 3]
  else if payload.temporalID = 1 then [2, 3]
  else if payload.temporalID = 3 then [3]
  else [0]

/-- The spatial layers of a VP9 packet: from 5 down to its own. -/
def spatialLayersVP9 (payload : RTPPayloadVP9) : List ℤ :=
  (List.range (6 - payload.spatialID).toNat).map fun count => 5 - (count : ℤ)

/-- The end of `parseLayerInfoFromVP8`: a new resolution is set and notified. -/
def followResolutionVP8 (detection : Detection) (payload : RTPPayloadVP8) (position : ℤ) : Detection :=
  if payload.frameWidth ≠ -1 then
    let handler := detection.handler
    let detection :=
      { detection with accesses := detection.accesses ++ [Access.of handler.videoFrameWidthList position] }
    if UInt32.ofInt payload.frameWidth ≠ handler.videoFrameWidthList.getD (Access.toIndex position) 0 then
      (detection.setResolution position (.ofInt payload.frameWidth)
        (.ofInt payload.frameHeight)).notifyLayerInfoChangedEvent
        readings.changed
    else detection
  else detection

/-- `parseLayerInfoFromVP8`. -/
def parseLayerInfoFromVP8 (detection : Detection) : Detection :=
  let packet := detection.packet
  let payload := payloadVP8 packet
  let position := detection.handler.getSsrcPosition (RtpHeader.getSSRC packet.data)
  let detection := { detection with
    packet := { packet with
      pictureId := if payload.hasPictureID then payload.pictureID else packet.pictureId
      tl0PicIdx := if payload.hasTl0PicIdx then payload.tl0PicIdx else packet.tl0PicIdx
      compatibleTemporalLayers := [] } }
  let detection := detection.addTemporalLayers readings payload.beginningOfPartition (temporalLayersVP8 payload)
  let detection := { detection with
    packet := { detection.packet with
      compatibleSpatialLayers := [position]
      isKeyframe := decide (payload.frameType = .iFrame) } }
  (followResolutionVP8 readings detection payload position).notifyLayerInfoChangedEventMaybe readings

/-- The resolutions of a VP9 packet are set, and notified if there are any. -/
def followResolutionsVP9 (detection : Detection) (payload : RTPPayloadVP9) : Detection :=
  let detection := payload.resolutions.zipIdx.foldl
    (fun detection (resolution, position) =>
      detection.setResolution position (.ofInt resolution.width) (.ofInt resolution.height)) detection
  if payload.resolutions ≠ [] then detection.notifyLayerInfoChangedEvent readings.changed else detection

/-- `parseLayerInfoFromVP9`. -/
def parseLayerInfoFromVP9 (detection : Detection) : Detection :=
  let packet := detection.packet
  match payloadVP9 packet with
  | none => { detection with accesses := detection.accesses ++ [⟨DataPacket.capacity, DataPacket.capacity⟩] }
  | some payload =>
      let detection := { detection with
        packet := { packet with
          pictureId := if payload.hasPictureID then payload.pictureID else packet.pictureId
          compatibleSpatialLayers := spatialLayersVP9 payload
          compatibleTemporalLayers := [] } }
      let detection := detection.addTemporalLayers readings payload.beginningOfLayerFrame (temporalLayersVP9 payload)
      let detection :=
        { detection with packet := { detection.packet with isKeyframe := decide (payload.frameType = .iFrame) } }
      let detection := (followResolutionsVP9 readings detection payload).notifyLayerInfoChangedEventMaybe readings
      { detection with packet := { detection.packet with endingOfLayerFrame := payload.endingOfLayerFrame } }

/-- `parseLayerInfoFromH264`. -/
def parseLayerInfoFromH264 (detection : Detection) : Detection :=
  let packet := detection.packet
  let payload := payloadH264 packet
  let position := detection.handler.getSsrcPosition (RtpHeader.getSSRC packet.data)
  let detection := { detection with
    packet := { packet with
      compatibleSpatialLayers := [position]
      isKeyframe := decide (payload.frameType = H264FrameTypes.iFrame) } }
  (detection.addTemporalLayers readings payload.startBit [0]).notifyLayerInfoChangedEventMaybe readings

/-- The layers of a packet are looked at. -/
def Examined : Prop := ¬RtcpHeader.isRtcp packet.data 0 ∧ handler.enabled ∧ packet.type = .video

instance : Decidable (Examined handler packet) := inferInstanceAs (Decidable (_ ∧ _ ∧ _))

/-- `read`. -/
def read : Detection :=
  let detection : Detection := ⟨handler, packet, [], [], []⟩
  if Examined handler packet then
    if packet.codec = "VP8" then parseLayerInfoFromVP8 readings detection
    else if packet.codec = "VP9" then parseLayerInfoFromVP9 readings detection
    else if packet.codec = "H264" then parseLayerInfoFromH264 readings detection
    else detection
  else detection

/-- `notifyUpdate`: it finds the list of the stream, if there is a stream. -/
def notifyUpdate (videoSourceSsrcList : Option (List UInt32)) : LayerDetectorHandler :=
  match videoSourceSsrcList with
  | some list => { handler with hasStream := true, videoSsrcList := list }
  | none => handler

/-- What the handler is called for. -/
inductive Input
  | read (packet : LayeredPacket) (readings : Readings)
  | notifyUpdate (videoSourceSsrcList : Option (List UInt32))
  | enable
  | disable

/-- What a call does: the packet that goes on, the indices used, the frames counted, the events sent. -/
structure Output where
  packet : Option LayeredPacket
  accesses : List Access
  frames : List Frame
  events : List LayerInfoChangedEvent

/-- A call. -/
def step (handler : LayerDetectorHandler) : Input → LayerDetectorHandler × Output
  | .read packet readings =>
      let detection := handler.read packet readings
      (detection.handler, ⟨detection.packet, detection.accesses, detection.frames, detection.events⟩)
  | .notifyUpdate list => (handler.notifyUpdate list, ⟨none, [], [], []⟩)
  | .enable => ({ handler with enabled := true }, ⟨none, [], [], []⟩)
  | .disable => ({ handler with enabled := false }, ⟨none, [], [], []⟩)

/-- Readings of a clock that stands still. -/
def Readings.still (time : ℤ) : Readings := ⟨fun _ => time, ⟨fun _ => time, time⟩, time, ⟨fun _ => time, time⟩⟩

end LayerDetectorHandler

/-- A video packet with a payload, before its layers are known. -/
def codedPacket (codec : String) (ssrc : UInt32) (payload : List UInt8) : LayeredPacket where
  toDataPacket := videoPacket ([0x80, 96, 0, 1, 0, 0, 0, 0] ++ Bytes.encode32 ssrc ++ payload)
  isKeyframe := false
  codec := codec
  compatibleSpatialLayers := []
  compatibleTemporalLayers := []
  endingOfLayerFrame := false
  pictureId := -1
  tl0PicIdx := -1

end Erizo
