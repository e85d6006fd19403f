/-
**The VP8 payload parser** (`rtp/RtpVP8Parser.cpp`).

A payload that is parsed is the list of its bytes. `data` and `dataLength` have no value until they are set at the end
of `parseVP8`: `data` stands for both, and is `none` then. What the parser logs is left out.
-/

import Erizo.Model.RtpHeaders

namespace Erizo

open Library

/-- `VP8FrameTypes`. -/
inductive VP8FrameTypes
  | iFrame
  | pFrame
  deriving DecidableEq, Repr

/-- `RTPPayloadVP8`. -/
structure RTPPayloadVP8 where
  nonReferenceFrame : Bool := false
  beginningOfPartition : Bool := false
  partitionID : ℤ := -1
  hasPictureID : Bool := false
  hasTl0PicIdx : Bool := false
  hasTID : Bool := false
  hasKeyIdx : Bool := false
  pictureID : ℤ := -1
  tl0PicIdx : ℤ := -1
  tID : ℤ := -1
  layerSync : Bool := false
  keyIdx : ℤ := -1
  frameWidth : ℤ := -1
  frameHeight : ℤ := -1
  frameType : VP8FrameTypes := .pFrame
  data : Option (List UInt8) := none
  deriving DecidableEq, Repr

namespace RtpVP8Parser

/-- A bit of a byte. -/
def bit (byte mask : UInt8) : Bool := byte &&& mask ≠ 0

/-- `ParseVP8PictureID`, with the bytes behind it. It may end with a new picture id and no bytes. -/
def parseVP8PictureID (vp8 : RTPPayloadVP8) : List UInt8 → RTPPayloadVP8 × Option (List UInt8)
  | [] => (vp8, none)
  | first :: rest =>
      let pictureID : ℤ := (first &&& 0x7F).toNat
      if bit first 0x80 then
        match rest with
        | [] => ({ vp8 with pictureID := pictureID }, none)
        | second :: rest => ({ vp8 with pictureID := pictureID * 256 + second.toNat }, some rest)
      else ({ vp8 with pictureID := pictureID }, some rest)

/-- `ParseVP8Tl0PicIdx`. -/
def parseVP8Tl0PicIdx (vp8 : RTPPayloadVP8) : List UInt8 → RTPPayloadVP8 × Option (List UInt8)
  | [] => (vp8, none)
  | byte :: rest => ({ vp8 with tl0PicIdx := byte.toNat }, some rest)

/-- `ParseVP8TIDAndKeyIdx`. -/
def parseVP8TIDAndKeyIdx (vp8 : RTPPayloadVP8) : List UInt8 → RTPPayloadVP8 × Option (List UInt8)
  | [] => (vp8, none)
  | byte :: rest =>
      let vp8 :=
        if vp8.hasTID then { vp8 with tID := byte.toNat / 64 % 4, layerSync := bit byte 0x20 } else vp8
      let vp8 := if vp8.hasKeyIdx then { vp8 with keyIdx := (byte &&& 0x1F).toNat } else vp8
      (vp8, some rest)

/-- `ParseVP8FrameSize`. -/
def parseVP8FrameSize (vp8 : RTPPayloadVP8) (data : List UInt8) : RTPPayloadVP8 :=
  if vp8.frameType ≠ .iFrame then vp8
  else if data.length < 10 then vp8
  else
    { vp8 with
      frameWidth := ((data.getD 7 0).toNat * 256 + (data.getD 6 0).toNat) % 2 ^ 14
      frameHeight := ((data.getD 9 0).toNat * 256 + (data.getD 8 0).toNat) % 2 ^ 14 }

/-- A part of the extension that is there or not. -/
def optionally (present : Bool) (parse : RTPPayloadVP8 → List UInt8 → RTPPayloadVP8 × Option (List UInt8)) :
    RTPPayloadVP8 × Option (List UInt8) → RTPPayloadVP8 × Option (List UInt8)
  | (vp8, none) => (vp8, none)
  | (vp8, some data) => if present then parse vp8 data else (vp8, some data)

/-- `ParseVP8Extension`, with the bytes behind it. -/
def parseVP8Extension (vp8 : RTPPayloadVP8) : List UInt8 → RTPPayloadVP8 × Option (List UInt8)
  | [] => (vp8, none)
  | flags :: data =>
      let vp8 :=
        { vp8 with
          hasPictureID := bit flags 0x80
          hasTl0PicIdx := bit flags 0x40
          hasTID := bit flags 0x20
          hasKeyIdx := bit flags 0x10 }
      optionally (vp8.hasTID || vp8.hasKeyIdx) parseVP8TIDAndKeyIdx
        (optionally vp8.hasTl0PicIdx parseVP8Tl0PicIdx (optionally vp8.hasPictureID parseVP8PictureID (vp8, some data)))

/-- The end of `parseVP8`: the payload behind the descriptor. -/
def parseVP8Payload (vp8 : RTPPayloadVP8) : List UInt8 → RTPPayloadVP8
  | [] => vp8
  | first :: rest =>
      let vp8 :=
        if vp8.beginningOfPartition ∧ vp8.partitionID = 0 then
          { vp8 with frameType := if bit first 0x01 then .pFrame else .iFrame }
        else { vp8 with frameType := .pFrame }
      { parseVP8FrameSize vp8 (first :: rest) with data := some (first :: rest) }

/-- `parseVP8`. A payload without bytes has no descriptor to read. -/
def parseVP8 : List UInt8 → RTPPayloadVP8
  | [] => {}
  | descriptor :: data =>
      let vp8 : RTPPayloadVP8 :=
        { nonReferenceFrame := bit descriptor 0x20
          beginningOfPartition := bit descriptor 0x10
          partitionID := (descriptor &&& 0x0F).toNat }
      if 8 < vp8.partitionID then vp8
      else if bit descriptor 0x80 then
        match parseVP8Extension vp8 data with
        | (vp8, none) => vp8
        | (vp8, some data) => parseVP8Payload vp8 data
      else parseVP8Payload vp8 data

/-! ### Changing a payload

The payload is the memory from an address on, of `dataLength` bytes. -/

open Bytes

/-- `setVP8PictureID`. -/
def setVP8PictureID (data : Memory) (start : ℕ) (dataLength : ℤ) (pictureID : UInt16) : Memory :=
  if bit (data start) 0x80 then
    if dataLength - 1 ≤ 0 then data
    else if bit (data (start + 1)) 0x80 then
      if dataLength - 2 ≤ 0 then data
      else
        let pictureIDLen : ℕ := if bit (data (start + 2)) 0x80 then 2 else 1
        if (pictureIDLen : ℤ) > dataLength - 2 then data
        else if pictureIDLen = 2 then
          copy data (start + 2) [(0x80 : UInt8) ||| ((pictureID >>> 8).toUInt8 &&& 0x7F), pictureID.toUInt8]
        else copy data (start + 2) [pictureID.toUInt8 &&& 0x7F]
    else data
  else data

/-- `setVP8TL0PicIdx`. -/
def setVP8TL0PicIdx (data : Memory) (start : ℕ) (dataLength : ℤ) (tl0PicIdx : UInt8) : Memory :=
  if bit (data start) 0x80 then
    if dataLength - 1 ≤ 0 then data
    else
      let hasPictureID := bit (data (start + 1)) 0x80
      let hasTl0PicIdx := bit (data (start + 1)) 0x40
      let pictureIDLen : ℕ := if bit (data (start + 2)) 0x80 then 2 else 1
      if hasPictureID ∧ dataLength - 2 ≤ 0 then data
      else
        let skipped : ℕ := if hasPictureID then pictureIDLen else 0
        if hasTl0PicIdx then
          if dataLength - 2 - skipped ≤ 0 then data else copy data (start + 2 + skipped) [tl0PicIdx]
        else data
  else data

/-- `removePictureID`, with the length it returns. -/
def removePictureID (data : Memory) (start : ℕ) (dataLength : ℤ) : Memory × ℤ :=
  if bit (data start) 0x80 then
    if dataLength - 1 ≤ 0 then (data, dataLength)
    else
      let hasPictureID := bit (data (start + 1)) 0x80
      let data := copy data (start + 1) [data (start + 1) &&& 0x7F]
      if hasPictureID then
        if dataLength - 2 ≤ 0 then (data, dataLength)
        else
          let pictureIDLen : ℕ := if bit (data (start + 2)) 0x80 then 2 else 1
          if (pictureIDLen : ℤ) > dataLength - 2 then (data, dataLength)
          else
            (move data (start + 2) (start + 2 + pictureIDLen) (dataLength - 2 - pictureIDLen).toNat,
              dataLength - pictureIDLen)
      else (data, dataLength)
  else (data, dataLength)

/-- `removeTl0PicIdx`, with the length it returns. -/
def removeTl0PicIdx (data : Memory) (start : ℕ) (dataLength : ℤ) : Memory × ℤ :=
  if bit (data start) 0x80 then
    if dataLength - 1 ≤ 0 then (data, dataLength)
    else
      let hasPictureID := bit (data (start + 1)) 0x80
      let hasTl0PicIdx := bit (data (start + 1)) 0x40
      let data := copy data (start + 1) [data (start + 1) &&& 0xBF]
      let pictureIDLen : ℕ := if bit (data (start + 2)) 0x80 then 2 else 1
      if hasPictureID ∧ dataLength - 2 ≤ 0 then (data, dataLength)
      else
        let skipped : ℕ := if hasPictureID then pictureIDLen else 0
        if hasTl0PicIdx then
          if dataLength - 2 - skipped ≤ 0 then (data, dataLength)
          else
            (move data (start + 2 + skipped) (start + 2 + skipped + 1) (dataLength - 2 - skipped - 1).toNat,
              dataLength - 1)
        else (data, dataLength)
  else (data, dataLength)

/-- `removeTIDAndKeyIdx`, with the length it returns. -/
def removeTIDAndKeyIdx (data : Memory) (start : ℕ) (dataLength : ℤ) : Memory × ℤ :=
  if bit (data start) 0x80 then
    if dataLength - 1 ≤ 0 then (data, dataLength)
    else
      let hasPictureID := bit (data (start + 1)) 0x80
      let hasTl0PicIdx := bit (data (start + 1)) 0x40
      let hasTID := bit (data (start + 1)) 0x20
      let hasKeyIdx := bit (data (start + 1)) 0x10
      let data := copy data (start + 1) [data (start + 1) &&& 0xDF &&& 0xEF]
      let pictureIDLen : ℕ := if bit (data (start + 2)) 0x80 then 2 else 1
      if hasPictureID ∧ dataLength - 2 ≤ 0 then (data, dataLength)
      else
        let skipped : ℕ := if hasPictureID then pictureIDLen else 0
        if hasTl0PicIdx ∧ dataLength - 2 - skipped ≤ 0 then (data, dataLength)
        else
          let skipped := if hasTl0PicIdx then skipped + 1 else skipped
          if hasTID ∨ hasKeyIdx then
            if dataLength - 2 - skipped ≤ 0 then (data, dataLength)
            else
              (move data (start + 2 + skipped) (start + 2 + skipped + 1) (dataLength - 2 - skipped - 1).toNat,
                dataLength - 1)
          else (data, dataLength)
  else (data, dataLength)

end RtpVP8Parser

end Erizo
