/-
**The quality filter** (`rtp/QualityFilterHandler.cpp`).

The filter lets through the packets of one spatial and one temporal layer. It numbers them anew: what is dropped leaves
no gap in the numbers and in the picture ids, and at a change of the SSRC they go on where they were, as the timestamps
do. The layers that the quality manager wants and the readings of the clock, in nanoseconds, are arguments of `write`.

Reading feedback, `stream_`, `max_video_bw_` and `initialized_` are left out, as `write` has nothing to do with them. The
stream's SSRCs are given to the constructor.
-/

import Erizo.Model.RtpVP8Parser
import Erizo.Model.SequenceNumberTranslator

namespace Erizo

open Library

/-- `QualityFilterHandler`. -/
structure QualityFilterHandler where
  translator : SequenceNumberTranslator .standard
  pictureIdTranslator : SequenceNumberTranslator .pictureId
  enabled : Bool
  receivingMultipleSsrc : Bool
  changingSpatialLayer : Bool
  isScalable : Bool
  targetSpatialLayer : ℤ
  futureSpatialLayer : ℤ
  targetTemporalLayer : ℤ
  videoSinkSsrc : UInt32
  videoSourceSsrc : UInt32
  lastSsrcReceived : UInt32
  lastTimestampSent : UInt32
  timestampOffset : UInt32
  timeChangeStarted : ℤ
  tl0PicIdxOffset : UInt8
  lastTl0PicIdxSent : UInt8

/-- What `write` finds: the layers the quality manager wants, and the time when it looks for them and when a change of
layers is looked at. -/
structure Situation where
  spatialLayer : ℤ
  temporalLayer : ℤ
  checked : ℤ
  received : ℤ

namespace QualityFilterHandler

/-- `kSwitchTimeout`. -/
def switchTimeout : ℤ := 3000000000

/-- The constructor. -/
def create (now : ℤ) (videoSinkSsrc videoSourceSsrc : UInt32) : QualityFilterHandler where
  translator := .init .standard
  pictureIdTranslator := .init .pictureId
  enabled := true
  receivingMultipleSsrc := false
  changingSpatialLayer := false
  isScalable := false
  targetSpatialLayer := 0
  futureSpatialLayer := -1
  targetTemporalLayer := 0
  videoSinkSsrc := videoSinkSsrc
  videoSourceSsrc := videoSourceSsrc
  lastSsrcReceived := 0
  lastTimestampSent := 0
  timestampOffset := 0
  timeChangeStarted := now
  tl0PicIdxOffset := 0
  lastTl0PicIdxSent := 0

variable (handler : QualityFilterHandler) (packet : LayeredPacket) (situation : Situation)

/-- `sendPLI`. -/
def sendPLI : DataPacket := RtpUtils.createPLI handler.videoSinkSsrc handler.videoSourceSsrc

/-- `detectVideoScalability`. -/
def detectVideoScalability : QualityFilterHandler :=
  if handler.isScalable || packet.type ≠ .video then handler
  else if packet.belongsToTemporalLayer 1 || packet.belongsToSpatialLayer 1 then { handler with isScalable := true }
  else handler

/-- `checkLayers`, with what it fires. -/
def checkLayers : QualityFilterHandler × List DataPacket :=
  let newSpatialLayer := situation.spatialLayer
  let (handler, fired) :=
    if newSpatialLayer ≠ handler.targetSpatialLayer ∧ !handler.changingSpatialLayer then
      ({ handler with
          futureSpatialLayer := newSpatialLayer
          changingSpatialLayer := true
          timeChangeStarted := situation.checked }, [handler.sendPLI])
    else (handler, [])
  ({ handler with targetTemporalLayer := situation.temporalLayer }, fired)

/-- `changeSpatialLayerOnKeyframeReceived`, with what it fires. -/
def changeSpatialLayerOnKeyframeReceived : QualityFilterHandler × List DataPacket :=
  let changed := { handler with
    targetSpatialLayer := handler.futureSpatialLayer
    futureSpatialLayer := -1
    changingSpatialLayer := false }
  if handler.futureSpatialLayer = -1 then (handler, [])
  else if packet.belongsToSpatialLayer handler.futureSpatialLayer &&
      packet.belongsToTemporalLayer handler.targetTemporalLayer && packet.isKeyframe then (changed, [])
  else if situation.received - handler.timeChangeStarted > switchTimeout then (changed, [handler.sendPLI])
  else (handler, [])

/-- `picture_id` as the translator takes it. -/
def pictureNumber : UInt16 := UInt16.ofInt packet.pictureId

/-- A packet is dropped, on record. -/
def skip : QualityFilterHandler :=
  { handler with
    translator := (handler.translator.get (RtpHeader.getSeqNumber packet.data) true).1
    pictureIdTranslator := (handler.pictureIdTranslator.get (pictureNumber packet) true).1 }

/-- `checkSSRCChange`. -/
def checkSSRCChange (ssrc : UInt32) : QualityFilterHandler × Bool :=
  ({ handler with lastSsrcReceived := ssrc }, handler.lastSsrcReceived ≠ ssrc)

/-- What `write` does at a change of the SSRC. -/
def followSsrc : QualityFilterHandler :=
  let (handler, changed) := handler.checkSSRCChange (RtpHeader.getSSRC packet.data)
  if changed then
    let tl0PicIdx : UInt8 := UInt8.ofInt packet.tl0PicIdx
    { handler with
      translator := handler.translator.reset
      pictureIdTranslator := handler.pictureIdTranslator.reset
      timestampOffset :=
        if handler.lastTimestampSent > 0 then handler.lastTimestampSent - RtpHeader.getTimestamp packet.data + 1
        else handler.timestampOffset
      tl0PicIdxOffset :=
        if handler.lastTl0PicIdxSent > 0 then handler.lastTl0PicIdxSent - tl0PicIdx + 1 else handler.tl0PicIdxOffset }
  else handler

/-- `updatePictureID`. -/
def updatePictureID (packet : LayeredPacket) (newPictureId : UInt16) : LayeredPacket :=
  if packet.codec = "VP8" then
    let headerLength := RtpHeader.getHeaderLength packet.data
    { packet with
      data := RtpVP8Parser.setVP8PictureID packet.data headerLength (packet.length - headerLength) newPictureId }
  else packet

/-- `updateTL0PicIdx`. -/
def updateTL0PicIdx (packet : LayeredPacket) (newTl0PicIdx : UInt8) : LayeredPacket :=
  if packet.codec = "VP8" then
    let headerLength := RtpHeader.getHeaderLength packet.data
    { packet with
      data := RtpVP8Parser.setVP8TL0PicIdx packet.data headerLength (packet.length - headerLength) newTl0PicIdx }
  else packet

/-- `removeVP8OptionalPayload`. -/
def removeVP8OptionalPayload (packet : LayeredPacket) : LayeredPacket :=
  if packet.codec = "VP8" then
    let headerLength := RtpHeader.getHeaderLength packet.data
    let (data, packetLength) := RtpVP8Parser.removePictureID packet.data headerLength (packet.length - headerLength)
    let (data, packetLength) := RtpVP8Parser.removeTl0PicIdx data headerLength packetLength
    let (data, packetLength) := RtpVP8Parser.removeTIDAndKeyIdx data headerLength packetLength
    { packet with data := data, length := packetLength + RtpHeader.getHeaderLength data }
  else packet

/-- The header that a packet is sent with. -/
def newHeader (sequenceNumber : UInt16) : Bytes.Memory :=
  let data :=
    if packet.compatibleSpatialLayers.getLast? = some handler.targetSpatialLayer && packet.endingOfLayerFrame then
      RtpHeader.setMarker packet.data
    else packet.data
  let data := RtpHeader.setSeqNumber (RtpHeader.setSSRC data handler.videoSinkSsrc) sequenceNumber
  RtpHeader.setTimestamp data (RtpHeader.getTimestamp packet.data + handler.timestampOffset)

/-- A packet is sent under the numbers that the translators have for it. -/
def send (sequenceNumber pictureId : UInt16) : QualityFilterHandler × LayeredPacket :=
  let lastTimestampSent := RtpHeader.getTimestamp packet.data + handler.timestampOffset
  let sent := updatePictureID { packet with data := handler.newHeader packet sequenceNumber } (pictureId &&& 0x7FFF)
  let tl0PicIdxSent : UInt8 := UInt8.ofInt packet.tl0PicIdx + handler.tl0PicIdxOffset
  let lastTl0PicIdxSent :=
    if RtpUtils.numberLessThan handler.lastTl0PicIdxSent.toUInt16 tl0PicIdxSent.toUInt16 8 then tl0PicIdxSent
    else handler.lastTl0PicIdxSent
  ({ handler with lastTimestampSent, lastTl0PicIdxSent }, updateTL0PicIdx sent tl0PicIdxSent)

/-- The translators are asked for the numbers of a packet, one after the other. -/
def translate : QualityFilterHandler × Option LayeredPacket :=
  let (translator, sequenceNumberInfo) := handler.translator.get (RtpHeader.getSeqNumber packet.data) false
  let handler := { handler with translator }
  if sequenceNumberInfo.type ≠ .valid then (handler, none)
  else
    let (pictureIdTranslator, pictureIdInfo) := handler.pictureIdTranslator.get (pictureNumber packet) false
    let handler := { handler with pictureIdTranslator }
    if pictureIdInfo.type ≠ .valid then (handler, none)
    else
      let (handler, sent) := handler.send packet sequenceNumberInfo.output pictureIdInfo.output
      (handler, some sent)

/-- What `write` does before it filters, with what it fires. -/
def prepare : QualityFilterHandler × List DataPacket :=
  let (handler, firstFired) := handler.checkLayers situation
  let ssrc := RtpHeader.getSSRC packet.data
  let handler :=
    if handler.lastSsrcReceived ≠ 0 ∧ ssrc ≠ handler.lastSsrcReceived then { handler with receivingMultipleSsrc := true }
    else handler
  let (handler, secondFired) := handler.changeSpatialLayerOnKeyframeReceived packet situation
  (handler, firstFired ++ secondFired)

/-- The filter of `write`. -/
def filter : QualityFilterHandler × Option LayeredPacket :=
  if !packet.belongsToSpatialLayer handler.targetSpatialLayer then
    (if !handler.receivingMultipleSsrc then handler.skip packet else handler, none)
  else
    let handler := handler.followSsrc packet
    if !packet.belongsToTemporalLayer handler.targetTemporalLayer then (handler.skip packet, none)
    else handler.translate packet

/-- A video packet that is not RTCP. -/
def isVideoRtp : Bool := !RtcpHeader.isRtcp packet.data 0 && packet.type = .video

/-- What `write` fires: the PLIs to the source, and the packet if it goes on. -/
structure Written where
  read : List DataPacket
  write : Option LayeredPacket

/-- `write`. -/
def write : QualityFilterHandler × Written :=
  let handler := handler.detectVideoScalability packet
  if handler.isScalable && handler.enabled && isVideoRtp packet then
    let (handler, fired) := handler.prepare packet situation
    let (handler, sent) := handler.filter packet
    (handler, ⟨fired, sent⟩)
  else (handler, ⟨[], some packet⟩)

end QualityFilterHandler

end Erizo
