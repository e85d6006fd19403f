/-
**The header extensions of RTP packets** (`rtp/RtpExtensionProcessor.cpp`, and the two loops over extensions in
`MediaStream.cpp`).

The three functions that look at extensions have one loop, which goes from header byte to header byte and calls back at
each of them (`extensionLoop`). The place in the extension is counted in 16 bits; in the 1500 bytes of a packet it does
not wrap around, and the rounds that the loop is given are enough. A map that is read or written at an index of 15 or more
has no value, and neither has a header byte that is read behind the 1500. The time that is written comes from a
floating-point product and is an argument, for each element.
-/

import Mathlib.Data.Vector.Basic
import Erizo.Model.RtpHeaders
import Erizo.Model.SdpInfo

namespace Erizo

open Library Library.Bytes RtpHeader

/-- `RTPExtensions`. -/
inductive RTPExtensions
  | unknown
  | ssrcAudioLevel
  | absSendTime
  | toffset
  | videoOrientation
  | transportCc
  | playbackTime
  | rtpId
  deriving DecidableEq, Repr

/-- The number of an extension. -/
def RTPExtensions.value : RTPExtensions → ℕ
  | .unknown => 0
  | .ssrcAudioLevel => 1
  | .absSendTime => 2
  | .toffset => 3
  | .videoOrientation => 4
  | .transportCc => 5
  | .playbackTime => 6
  | .rtpId => 7

/-- `VideoRotation`. -/
inductive VideoRotation
  | rotation0
  | rotation90
  | rotation180
  | rotation270
  deriving DecidableEq, Repr

/-- `convertCVOByteToVideoRotation`. -/
def VideoRotation.ofCVOByte (cvoByte : UInt8) : VideoRotation :=
  match cvoByte.toNat % 4 with
  | 0 => .rotation0
  | 1 => .rotation90
  | 2 => .rotation180
  | _ => .rotation270

/-- An extension map. -/
abbrev ExtensionMap := Vector RTPExtensions 15

/-- `RtpExtensionProcessor`. -/
structure RtpExtensionProcessor where
  extMappings : List ExtMap
  extMapVideo : ExtensionMap
  extMapAudio : ExtensionMap
  videoOrientation : VideoRotation

namespace RtpExtensionProcessor

/-- `translationMap_`. -/
def translationMap : List (Text × RTPExtensions) :=
  [("urn:ietf:params:rtp-hdrext:ssrc-audio-level".toList, .ssrcAudioLevel),
    ("http://www.webrtc.org/experiments/rtp-hdrext/abs-send-time".toList, .absSendTime),
    ("urn:ietf:params:rtp-hdrext:toffset".toList, .toffset),
    ("urn:3gpp:video-orientation".toList, .videoOrientation),
    ("http://www.ietf.org/id/draft-holmer-rmcat-transport-wide-cc-extensions-01".toList, .transportCc),
    ("http://www.webrtc.org/experiments/rtp-hdrext/playout-delay".toList, .playbackTime),
    ("urn:ietf:params:rtp-hdrext:sdes:rtp-stream-id".toList, .rtpId)]

/-- `translationMap_.find`. -/
def translate (uri : Text) : Option RTPExtensions := translationMap.lookup uri

/-- The constructor. -/
def create (extMappings : List ExtMap) : RtpExtensionProcessor where
  extMappings := extMappings
  extMapVideo := Vector.replicate 15 .unknown
  extMapAudio := Vector.replicate 15 .unknown
  videoOrientation := .rotation0

variable (processor : RtpExtensionProcessor)

/-- `isValidExtension`. -/
def isValidExtension (uri : Text) : Bool :=
  (processor.extMappings.any fun extension => uri = extension.uri) && (translate uri).isSome

/-- An array is written. -/
def assign (extMap : ExtensionMap) (index : ℕ) (extension : RTPExtensions) : Option ExtensionMap :=
  if index < 15 then some (extMap.setIfInBounds index extension) else none

/-- A round of `setSdpInfo`. -/
def addExtension (theMap : ExtMap) : Option RtpExtensionProcessor :=
  if processor.isValidExtension theMap.uri then do
    let extension := (translate theMap.uri).getD .unknown
    match theMap.mediaType with
    | .video =>
        let extMapVideo ← assign processor.extMapVideo theMap.value.toNat extension
        some { processor with extMapVideo }
    | .audio =>
        let extMapAudio ← assign processor.extMapAudio theMap.value.toNat extension
        some { processor with extMapAudio }
    | .other => some processor
  else some processor

/-- `setSdpInfo`, with the extensions of the description. -/
def setSdpInfo (extMapVector : List ExtMap) : Option RtpExtensionProcessor :=
  extMapVector.foldlM addExtension processor

/-- `getVideoExtensionMap` or `getAudioExtensionMap`, by the type of a packet. -/
def extensionMap : PacketType → Option ExtensionMap
  | .video => some processor.extMapVideo
  | .audio => some processor.extMapAudio
  | .other => none

/-! ### The loop over the extensions -/

/-- The identifier of an element, in its header byte. -/
def elementId (data : Memory) (element : ℕ) : ℕ := (data element).toNat / 16

/-- The length in the header byte of an element. -/
def elementLength (data : Memory) (element : ℕ) : ℕ := (data element).toNat % 16

/-- The loop over the extensions of a packet: `f` is called at the header bytes. -/
def extensionLoop {σ : Type} (bytes : σ → Memory) (f : ℕ → σ → Option σ) (totalExtLength : UInt16) :
    ℕ → ℕ → UInt16 → σ → Option σ
  | 0, _, _, _ => none
  | rounds + 1, extBuffer, currentPlace, state =>
      if currentPlace.toNat < totalExtLength.toNat * 4 then
        if extBuffer < DataPacket.capacity then do
          let extLength := elementLength (bytes state) extBuffer
          let state ← f extBuffer state
          extensionLoop bytes f totalExtLength rounds (extBuffer + extLength + 2)
            (currentPlace + UInt16.ofNat extLength + 2) state
        else none
      else some state

/-- What all three functions do with the extension of a packet, if it has the one-byte form. -/
def forEachExtension {σ : Type} (bytes : σ → Memory) (f : ℕ → σ → Option σ) (state : σ) : Option σ :=
  let totalExtLength := getExtLength (bytes state)
  if getExtId (bytes state) = 0xBEDE then
    extensionLoop bytes f totalExtLength (totalExtLength.toNat * 4 + 1) 16 1 state
  else some state

/-! ### Processing -/

/-- A packet while its extensions are processed: its bytes and the rotation, with the header bytes that were looked at,
the elements that were rewritten and those whose rotation was recorded. -/
structure Processing where
  data : Memory
  videoOrientation : VideoRotation
  examined : List ℕ := []
  rewritten : List ℕ := []
  recorded : List ℕ := []

/-- `processAbsSendTime`. -/
def processAbsSendTime (absecs : ℕ → UInt32) (buf : ℕ) (processing : Processing) : Processing :=
  { processing with
    data := write24 processing.data (buf + 1) (absecs buf).toNat
    rewritten := processing.rewritten ++ [buf] }

/-- `processVideoOrientation`. -/
def processVideoOrientation (buf : ℕ) (processing : Processing) : Processing :=
  { processing with
    videoOrientation := .ofCVOByte (processing.data (buf + 1))
    recorded := processing.recorded ++ [buf] }

/-- A round of the loop of `processRtpExtensions`. -/
def processExtension (extMap : ExtensionMap) (absecs : ℕ → UInt32) (extBuffer : ℕ) (processing : Processing) :
    Option Processing :=
  let extId := elementId processing.data extBuffer
  let processing := { processing with examined := processing.examined ++ [extBuffer] }
  if extId = 0 then some processing
  else
    match extMap[extId]? with
    | none => none
    | some extension =>
        if extension = .unknown then some processing
        else if extId = RTPExtensions.absSendTime.value then some (processAbsSendTime absecs extBuffer processing)
        else if extId = RTPExtensions.videoOrientation.value then some (processVideoOrientation extBuffer processing)
        else some processing

/-- `processRtpExtensions`: what becomes of the packet, and the length that is returned. -/
def processRtpExtensions (absecs : ℕ → UInt32) (p : DataPacket) : Option (Processing × UInt32) := do
  let start : Processing := { data := p.data, videoOrientation := processor.videoOrientation }
  if getExtension p.data = 1 then
    match processor.extensionMap p.type with
    | some extMap =>
        let processing ← forEachExtension Processing.data (processExtension extMap absecs) start
        some (processing, UInt32.ofInt p.length)
    | none => some (start, 0)
  else some (start, UInt32.ofInt p.length)

/-! ### The identifiers in a packet (`MediaStream.cpp`) -/

/-- The identifier of an element is written, with the masks of the source. -/
def setElementId (data : Memory) (element id : ℕ) : Memory :=
  copy data element [(data element ||| 0xF0) &&& ((UInt8.ofNat id <<< (4 : UInt8)) ||| 0x0F)]

/-- A round of the loop of `parseIncomingExtensionId`. -/
def parseExtension (extMap : ExtensionMap) (extBuffer : ℕ) (data : Memory) : Option Memory :=
  let extId := elementId data extBuffer
  if extId = 0 then some data
  else
    match extMap[extId]? with
    | none => none
    | some extension =>
        if extension = .unknown then some data else some (setElementId data extBuffer extension.value)

/-- A round of the loop of `changeDeliverExtensionId`. -/
def deliverExtension (extMap : ExtensionMap) (extBuffer : ℕ) (data : Memory) : Option Memory :=
  let extId := elementId data extBuffer
  if extId ≠ 0 then
    some ((List.range' 1 14).foldl (fun data i =>
      if extMap[i]?.map RTPExtensions.value = some extId then setElementId data extBuffer i else data) data)
  else some data

/-- What both functions do with a packet. -/
def changeExtensionIds (change : ExtensionMap → ℕ → Memory → Option Memory) (type : PacketType) (data : Memory) :
    Option Memory :=
  if RtcpHeader.isRtcp data 0 then some data
  else if getExtension data = 1 then
    match processor.extensionMap type with
    | some extMap => forEachExtension id (change extMap) data
    | none => some data
  else some data

/-- `parseIncomingExtensionId`, with the extension processor of the stream. -/
def parseIncomingExtensionId : PacketType → Memory → Option Memory := processor.changeExtensionIds parseExtension

/-- `changeDeliverExtensionId`, with the extension processor of the stream. -/
def changeDeliverExtensionId : PacketType → Memory → Option Memory := processor.changeExtensionIds deliverExtension

end RtpExtensionProcessor

end Erizo
