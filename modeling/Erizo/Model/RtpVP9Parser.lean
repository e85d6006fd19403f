/-
**The VP9 payload parser** (`rtp/RtpVP9Parser.cpp`).

The parser is given the bytes that can be read from the payload on, and the length it is told. It does not look at the
length while it reads. It has no value where it reads behind the bytes. Words are those of a little-endian machine.
-/

import Erizo.Library.Cursor
import Erizo.Model.RtpVP8Parser

namespace Erizo

/-- `VP9ResolutionLayer`. -/
structure VP9ResolutionLayer where
  width : ℤ
  height : ℤ
  deriving DecidableEq, Repr

/-- `VP9FrameTypes`. -/
inductive VP9FrameTypes
  | iFrame
  | pFrame
  deriving DecidableEq, Repr

/-- `RTPPayloadVP9`. `data` is where the pointer stands, counted from the payload on. -/
structure RTPPayloadVP9 where
  hasPictureID : Bool := false
  interPicturePrediction : Bool := false
  hasLayerIndices : Bool := false
  flexibleMode : Bool := false
  beginningOfLayerFrame : Bool := false
  endingOfLayerFrame : Bool := false
  hasScalabilityStructure : Bool := false
  largePictureID : Bool := false
  pictureID : ℤ := -1
  temporalID : ℤ := -1
  isSwitchingUp : Bool := false
  spatialID : ℤ := -1
  isInterLayeredDepUsed : Bool := false
  tl0PicIdx : ℤ := -1
  referenceIdx : ℤ := -1
  additionalReferenceIdx : Bool := false
  spatialLayers : ℤ := -1
  hasResolution : Bool := false
  hasGof : Bool := false
  numberOfFramesInGof : ℤ := -1
  resolutions : List VP9ResolutionLayer := []
  data : ℕ := 0
  dataLength : UInt32 := 0
  frameType : VP9FrameTypes := .pFrame
  deriving DecidableEq, Repr

namespace RtpVP9Parser

open RtpVP8Parser (bit)

/-- `dataPtr`, with the bytes from there on. `dataPtr++` and `len--` always go together. -/
abbrev Cursor := Library.Cursor UInt8

/-- `ntohs`. -/
def ntohs (value : UInt16) : UInt16 := UInt16.ofNat (value.toNat % 256 * 256 + value.toNat / 256)

/-- The picture id. -/
def parsePictureID (vp9 : RTPPayloadVP9) (cursor : Cursor) : Option (RTPPayloadVP9 × Cursor) :=
  if vp9.hasPictureID then do
    let byte ← cursor.read
    let vp9 := { vp9 with largePictureID := bit byte 0x80, pictureID := (byte &&& 0x7F).toNat }
    if vp9.largePictureID then
      let cursor := cursor.skip 1
      let byte ← cursor.read
      let number := ntohs (UInt16.ofInt (vp9.pictureID * 2 ^ 16 + byte.toNat))
      some ({ vp9 with pictureID := number.toNat }, cursor.skip 1)
    else some (vp9, cursor.skip 1)
  else some (vp9, cursor)

/-- The `do` loop, which ends with the pointer at the last byte it has read. -/
def parseReferences (vp9 : RTPPayloadVP9) : List UInt8 → ℕ → Option (RTPPayloadVP9 × Cursor)
  | [], _ => none
  | byte :: rest, position =>
      let vp9 :=
        { vp9 with referenceIdx := (byte &&& 0xFE).toNat / 2, additionalReferenceIdx := bit byte 0x01 }
      if vp9.additionalReferenceIdx then parseReferences vp9 rest (position + 1) else some (vp9, ⟨byte :: rest, position⟩)

/-- The layer indices, and what comes with them. -/
def parseLayerIndices (vp9 : RTPPayloadVP9) (cursor : Cursor) : Option (RTPPayloadVP9 × Cursor) :=
  let vp9 := { vp9 with temporalID := 0, spatialID := 0 }
  if vp9.hasLayerIndices then do
    let byte ← cursor.read
    let vp9 :=
      { vp9 with
        temporalID := (byte &&& 0xE0).toNat / 32
        isSwitchingUp := bit byte 0x10
        spatialID := (byte &&& 0x0E).toNat / 2
        isInterLayeredDepUsed := bit byte 0x01 }
    let cursor := cursor.skip 1
    if vp9.flexibleMode then do
      let (vp9, cursor) ← parseReferences vp9 cursor.rest cursor.position
      some (vp9, cursor.skip 1)
    else do
      let byte ← cursor.read
      some ({ vp9 with tl0PicIdx := byte.toNat }, cursor.skip 1)
  else some (vp9, cursor)

/-- The loop over the resolutions, so many rounds. -/
def parseResolutions : ℕ → RTPPayloadVP9 → Cursor → Option (RTPPayloadVP9 × Cursor)
  | 0, vp9, cursor => some (vp9, cursor)
  | count + 1, vp9, cursor => do
      let widthHigh ← cursor.read
      let cursor := cursor.skip 1
      let widthLow ← cursor.read
      let cursor := cursor.skip 1
      let heightHigh ← cursor.read
      let cursor := cursor.skip 1
      let heightLow ← cursor.read
      let cursor := cursor.skip 1
      let resolution : VP9ResolutionLayer :=
        ⟨widthHigh.toNat * 256 + widthLow.toNat, heightHigh.toNat * 256 + heightLow.toNat⟩
      parseResolutions count { vp9 with resolutions := vp9.resolutions ++ [resolution] } cursor

/-- The loop over the frames of a group. The bytes of the reference indices are not read. -/
def parseGof : ℕ → Cursor → Option Cursor
  | 0, cursor => some cursor
  | count + 1, cursor => do
      let byte ← cursor.read
      let referenceIndices := (byte &&& 0x0C).toNat / 4
      parseGof count ((cursor.skip 1).skip referenceIndices)

/-- The group of frames. -/
def parseGroup (vp9 : RTPPayloadVP9) (cursor : Cursor) : Option (RTPPayloadVP9 × Cursor) :=
  if vp9.hasGof then do
    let byte ← cursor.read
    let cursor ← parseGof byte.toNat (cursor.skip 1)
    some ({ vp9 with numberOfFramesInGof := byte.toNat }, cursor)
  else some (vp9, cursor)

/-- The scalability structure. -/
def parseScalabilityStructure (vp9 : RTPPayloadVP9) (cursor : Cursor) : Option (RTPPayloadVP9 × Cursor) :=
  if vp9.hasScalabilityStructure then do
    let byte ← cursor.read
    let spatialLayers := (byte &&& 0xE0).toNat / 32
    let vp9 :=
      { vp9 with spatialLayers := spatialLayers, hasResolution := bit byte 0x10, hasGof := bit byte 0x08 }
    let (vp9, cursor) ← parseResolutions (if vp9.hasResolution then spatialLayers + 1 else 0) vp9 (cursor.skip 1)
    parseGroup vp9 cursor
  else some (vp9, cursor)

/-- What the first byte says. -/
def parseFlags (byte : UInt8) : RTPPayloadVP9 :=
  { hasPictureID := bit byte 0x80
    interPicturePrediction := bit byte 0x40
    frameType := if bit byte 0x40 then .pFrame else .iFrame
    hasLayerIndices := bit byte 0x20
    flexibleMode := bit byte 0x10
    beginningOfLayerFrame := bit byte 0x08
    endingOfLayerFrame := bit byte 0x04
    hasScalabilityStructure := bit byte 0x02 }

/-- `parseVP9`. -/
def parseVP9 (bytes : List UInt8) (dataLength : ℤ) : Option RTPPayloadVP9 := do
  let cursor : Cursor := ⟨bytes, 0⟩
  let byte ← cursor.read
  let (vp9, cursor) ← parsePictureID (parseFlags byte) (cursor.skip 1)
  let (vp9, cursor) ← parseLayerIndices vp9 cursor
  let (vp9, cursor) ← parseScalabilityStructure vp9 cursor
  some { vp9 with data := cursor.position, dataLength := UInt32.ofInt (dataLength - cursor.position) }

end RtpVP9Parser

end Erizo
