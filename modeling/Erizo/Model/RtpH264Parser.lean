/-
**The H264 payload parser** (`rtp/RtpH264Parser.cpp`).

A payload is the list of its bytes. `data` has `dataLength` bytes and stands for both. The pointer is not set where the
length is zero. For aggregates there are the passes with their pointers as well (`unpack`), and what they access.
-/

import Erizo.Model.RtpHeaders

namespace Erizo

open Library Library.Bytes

/-- `H264FrameTypes`. -/
inductive H264FrameTypes
  | iFrame
  | pFrame
  deriving DecidableEq, Repr

/-- `NALTypes`. -/
inductive NALTypes
  | single
  | fragmented
  | aggregated
  deriving DecidableEq, Repr

/-- `RTPPayloadH264`. -/
structure RTPPayloadH264 where
  frameType : H264FrameTypes := .pFrame
  nalType : NALTypes := .single
  data : List UInt8 := []
  fragmentNalHeader : UInt8 := 0
  fragmentNalHeaderLen : ℕ := 0
  startBit : Bool := false
  endBit : Bool := false
  unpackedData : List UInt8 := []
  unpackedDataLen : ℕ := 0
  deriving DecidableEq, Repr

namespace RTPPayloadH264

/-- `start_sequence`. -/
def startSequence : List UInt8 := [0, 0, 0, 1]

end RTPPayloadH264

namespace RtpH264Parser

open RTPPayloadH264

/-- The type of a NAL unit, by its first byte. -/
def nalTypeOf (nal : UInt8) : UInt8 := nal &&& 0x1F

/-- `parse_packet_fu_a`. -/
def parsePacketFuA : List UInt8 → RTPPayloadH264
  | fuIndicator :: fuHeader :: byte :: rest =>
      let startBit := fuHeader >>> 7 = 1
      let nalType := nalTypeOf fuHeader
      { frameType := if nalType = 5 ∧ startBit then .iFrame else .pFrame
        nalType := .fragmented
        startBit := startBit
        endBit := fuHeader &&& 0x40 ≠ 0
        fragmentNalHeader := (fuIndicator &&& 0xE0) ||| nalType
        fragmentNalHeaderLen := 1
        data := byte :: rest }
  | _ => {}

/-- The `while` loop of `parse_aggregated_packet`, with what a pass does for a unit: it gets the bytes from the unit on
and the unit's size. Every round takes two bytes at least, so that as many rounds as there are bytes are enough. -/
def forEachNal {σ : Type} (f : List UInt8 → ℕ → σ → σ) : ℕ → List UInt8 → σ → Option σ
  | rounds + 1, high :: low :: byte :: rest, state =>
      let nalSize := high.toNat * 256 + low.toNat
      let src := byte :: rest
      if nalSize ≤ src.length then forEachNal f rounds (src.drop nalSize) (f src nalSize state) else none
  | _, _, state => some state

/-- The first pass of `parse_aggregated_packet`. -/
def countNal (_src : List UInt8) (nalSize totalLength : ℕ) : ℕ := totalLength + startSequence.length + nalSize

/-- The second pass of `parse_aggregated_packet`. -/
def copyNal (src : List UInt8) (nalSize : ℕ) (state : List UInt8 × H264FrameTypes) : List UInt8 × H264FrameTypes :=
  (state.1 ++ startSequence ++ src.take nalSize, if nalTypeOf (src.headD 0) = 5 then .iFrame else state.2)

/-- `parse_aggregated_packet`. -/
def parseAggregatedPacket (buf : List UInt8) : RTPPayloadH264 :=
  match forEachNal countNal buf.length buf 0, forEachNal copyNal buf.length buf ([], .pFrame) with
  | some totalLength, some (unpackedData, frameType) =>
      { frameType := frameType
        nalType := .aggregated
        unpackedData := unpackedData
        unpackedDataLen := totalLength }
  | _, _ => { nalType := .aggregated }

/-! ### The passes over an aggregate, with their pointers -/

/-- Bytes that are read or written: their address, and how many there are. -/
structure Stretch where
  address : ℕ
  count : ℕ
  deriving DecidableEq, Repr

/-- The variables of `parse_aggregated_packet`, with what it has read of `buf` and written to `unpacked_data`. `dst` is
the number of bytes in front of the pointer. -/
structure Pass where
  totalLength : ℕ
  dst : ℕ
  unpackedData : Memory
  frameType : H264FrameTypes
  reads : List Stretch
  writes : List Stretch

/-- Bytes of `buf` are read. -/
def Pass.read (pass : Pass) (address count : ℕ) : Pass := { pass with reads := pass.reads ++ [⟨address, count⟩] }

/-- `memcpy` to `dst`, which is moved. -/
def Pass.write (pass : Pass) (bytes : List UInt8) : Pass :=
  { pass with
    unpackedData := copy pass.unpackedData pass.dst bytes
    dst := pass.dst + bytes.length
    writes := pass.writes ++ [⟨pass.dst, bytes.length⟩] }

/-- What the first pass does for a unit. -/
def countAt (_src nalSize : ℕ) (pass : Pass) : Pass :=
  { pass with totalLength := pass.totalLength + (startSequence.length + nalSize) }

/-- What the second pass does for a unit. The byte at `src` is read for a unit without bytes, too. -/
def copyAt (buf : Memory) (src nalSize : ℕ) (pass : Pass) : Pass :=
  let pass := ((pass.write startSequence).read src nalSize).write (slice buf src nalSize)
  let pass := pass.read src 1
  { pass with frameType := if nalTypeOf (buf src) = 5 then .iFrame else pass.frameType }

/-- The `while` loop, and whether it comes to its end. -/
def passLoop (buf : Memory) (handle : ℕ → ℕ → Pass → Pass) : ℕ → ℕ → ℕ → Pass → Pass × Bool
  | 0, _, _, pass => (pass, true)
  | rounds + 1, src, srcLen, pass =>
      if srcLen > 2 then
        let nalSize := (read16 buf src).toNat
        let pass := pass.read src 2
        let src := src + 2
        let srcLen := srcLen - 2
        if nalSize ≤ srcLen then passLoop buf handle rounds (src + nalSize) (srcLen - nalSize) (handle src nalSize pass)
        else (pass, false)
      else (pass, true)

/-- The first pass. -/
def firstPass (buf : Memory) (len : ℕ) : Pass × Bool := passLoop buf countAt len 0 len ⟨0, 0, fun _ => 0, .pFrame, [], []⟩

/-- The second pass, into memory of the size that the first one has found. -/
def secondPass (buf : Memory) (len : ℕ) : Pass × Bool := passLoop buf (copyAt buf) len 0 len (firstPass buf len).1

/-- What the passes leave. -/
def unpack (buf : Memory) (len : ℕ) : RTPPayloadH264 :=
  if (firstPass buf len).2 then
    { frameType := (secondPass buf len).1.frameType
      nalType := .aggregated
      unpackedData := slice (secondPass buf len).1.unpackedData 0 (firstPass buf len).1.totalLength
      unpackedDataLen := (firstPass buf len).1.totalLength }
  else { nalType := .aggregated }

/-! ### Payloads -/

/-- `parseH264`. -/
def parseH264 : List UInt8 → RTPPayloadH264
  | [] => {}
  | nal :: rest =>
      let buf := nal :: rest
      let type := nalTypeOf nal
      let type := if 1 ≤ type ∧ type ≤ 23 ∧ type ≠ 5 then 1 else type
      if type = 5 then { frameType := .iFrame, nalType := .single, data := buf }
      else if type = 0 ∨ type = 1 then { nalType := .single, data := buf }
      else if type = 24 then parseAggregatedPacket rest
      else if type = 28 then parsePacketFuA buf
      else {}

end RtpH264Parser

end Erizo
