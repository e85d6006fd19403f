/-
**Depacketizers** (`media/Depacketizer.cpp`).

A depacketizer collects the payloads of packets in a buffer until they make up a frame. `buffer` is what stands in
`buffer_` up to `buffer_ptr_`. Packets are at least as long as their headers, and their lengths are far from the
range of an `int`.

`processPacket` has no value where it reads through a pointer that was cleared, or a length that was never set.
-/

import Erizo.Library.Machine
import Erizo.Model.RtpH264Parser
import Erizo.Model.RtpVP8Parser

namespace Erizo

open Library

/-- The bytes of a packet behind its header. -/
def DataPacket.payload (packet : DataPacket) : List UInt8 :=
  (List.range (packet.length - RtpHeader.getHeaderLength packet.data).toNat).map fun index =>
    packet.data (RtpHeader.getHeaderLength packet.data + index)

/-- `SearchState`. -/
inductive SearchState
  | lookingForStart
  | lookingForEnd
  deriving DecidableEq, Repr

/-- `Depacketizer`, with the last payload that its classes keep. -/
structure Depacketizer (π : Type) where
  buffer : List UInt8
  searchState : SearchState
  lastPayload : Option π

namespace Depacketizer

variable {π : Type}

/-- `kUnpackageBufferSize`. -/
def unpackageBufferSize : ℕ := 1000000

/-- The constructors. -/
def create : Depacketizer π := ⟨[], .lookingForStart, none⟩

/-- `resetBuffer`. -/
def resetBuffer (depacketizer : Depacketizer π) : Depacketizer π := { depacketizer with buffer := [] }

/-- `resetImpl`, which is the same in both classes. -/
def resetImpl (depacketizer : Depacketizer π) : Depacketizer π :=
  { depacketizer with lastPayload := none, searchState := .lookingForStart }

/-- `reset`. -/
def reset (depacketizer : Depacketizer π) : Depacketizer π := depacketizer.resetImpl.resetBuffer

/-- The answer of `bufferCheck`. Where it is false, the depacketizer has been reset. -/
def bufferCheck (depacketizer : Depacketizer π) (len : ℕ) : Bool :=
  len + depacketizer.buffer.length < unpackageBufferSize

/-- `memcpy` to the buffer pointer, which is moved. -/
def append (depacketizer : Depacketizer π) (bytes : List UInt8) : Depacketizer π :=
  { depacketizer with buffer := depacketizer.buffer ++ bytes }

/-- What comes of a packet: a frame, nothing, or a `fault` where `processPacket` has no value. -/
inductive Outcome
  | fault
  | quiet
  | delivered (frame : List UInt8)
  deriving DecidableEq, Repr

end Depacketizer

/-! ### H264 -/

/-- `H264Depacketizer`. -/
abbrev H264Depacketizer := Depacketizer RTPPayloadH264

namespace H264Depacketizer

open RTPPayloadH264

/-- `fetchPacket`. -/
def fetchPacket (depacketizer : H264Depacketizer) (packet : DataPacket) : H264Depacketizer :=
  { depacketizer with lastPayload := some (RtpH264Parser.parseH264 packet.payload) }

/-- `isKeyframe`. -/
def isKeyframe (depacketizer : H264Depacketizer) : Bool :=
  depacketizer.lastPayload.any fun payload => payload.frameType = .iFrame

/-- `processPacket` for a single NAL unit. -/
def processSingle (depacketizer : H264Depacketizer) : Option (H264Depacketizer × Bool) := do
  let depacketizer := if depacketizer.searchState = .lookingForEnd then depacketizer.reset else depacketizer
  let payload ← depacketizer.lastPayload
  if payload.data.length = 0 then some (depacketizer, false)
  else if depacketizer.bufferCheck (payload.data.length + startSequence.length) then
    some ((depacketizer.append startSequence).append payload.data, true)
  else some (depacketizer.reset, false)

/-- What `processPacket` does for a start fragment before it copies the payload. -/
def processStart (depacketizer : H264Depacketizer) : Option H264Depacketizer := do
  let depacketizer := if depacketizer.searchState = .lookingForEnd then depacketizer.reset else depacketizer
  let depacketizer := Depacketizer.append { depacketizer with searchState := .lookingForEnd } startSequence
  let payload ← depacketizer.lastPayload
  some (depacketizer.append ([payload.fragmentNalHeader].take payload.fragmentNalHeaderLen))

/-- `processPacket` for a fragment. -/
def processFragment (depacketizer : H264Depacketizer) : Option (H264Depacketizer × Bool) := do
  let payload ← depacketizer.lastPayload
  if payload.data.length = 0 then some (depacketizer, false)
  else if depacketizer.bufferCheck (payload.data.length + startSequence.length + payload.fragmentNalHeaderLen) then
    let depacketizer ← if payload.startBit then processStart depacketizer else some depacketizer
    let payload ← depacketizer.lastPayload
    let depacketizer := depacketizer.append payload.data
    if payload.endBit then some ({ depacketizer with searchState := .lookingForStart }, true)
    else some (depacketizer, false)
  else some (depacketizer.reset, false)

/-- `processPacket` for an aggregate. -/
def processAggregate (depacketizer : H264Depacketizer) : Option (H264Depacketizer × Bool) := do
  let payload ← depacketizer.lastPayload
  if payload.unpackedDataLen = 0 then some (depacketizer, false)
  else if depacketizer.bufferCheck payload.unpackedDataLen then
    some (depacketizer.append (payload.unpackedData.take payload.unpackedDataLen), true)
  else some (depacketizer.reset, false)

/-- `processPacket`. -/
def processPacket (depacketizer : H264Depacketizer) : Option (H264Depacketizer × Bool) := do
  let payload ← depacketizer.lastPayload
  match payload.nalType with
  | .single => processSingle depacketizer
  | .fragmented => processFragment depacketizer
  | .aggregated => processAggregate depacketizer

/-- What is done with a depacketizer. -/
inductive Event
  | packet (packet : DataPacket)
  | reset

/-- A packet is fetched and processed, or the depacketizer is reset. -/
def step (depacketizer : H264Depacketizer) : Event → H264Depacketizer × Depacketizer.Outcome
  | .packet packet =>
      match processPacket (fetchPacket depacketizer packet) with
      | none => (depacketizer.reset, .fault)
      | some (depacketizer, true) => (depacketizer, .delivered depacketizer.buffer)
      | some (depacketizer, false) => (depacketizer, .quiet)
  | .reset => (depacketizer.reset, .quiet)

end H264Depacketizer

/-! ### VP8 -/

/-- `Vp8Depacketizer`. The marker of the packet is all that it reads through `head_`. -/
structure Vp8Depacketizer extends Depacketizer RTPPayloadVP8 where
  marker : Bool

namespace Vp8Depacketizer

/-- The constructor. -/
def create : Vp8Depacketizer := ⟨.create, false⟩

/-- `fetchPacket`. -/
def fetchPacket (depacketizer : Vp8Depacketizer) (packet : DataPacket) : Vp8Depacketizer :=
  { depacketizer with
    marker := RtpHeader.getMarker packet.data
    lastPayload := some (RtpVP8Parser.parseVP8 packet.payload) }

/-- `isKeyframe`. -/
def isKeyframe (depacketizer : Vp8Depacketizer) : Bool :=
  depacketizer.lastPayload.any fun payload => payload.frameType = .iFrame

/-- The payload is copied to the buffer if it fits. The length is read before. -/
def store (depacketizer : Depacketizer RTPPayloadVP8) (data : Option (List UInt8))
    (stored : Depacketizer RTPPayloadVP8 → Depacketizer RTPPayloadVP8 × Bool) :
    Option (Depacketizer RTPPayloadVP8 × Bool) := do
  let data ← data
  if depacketizer.bufferCheck data.length then some (stored (depacketizer.append data))
  else some (depacketizer.reset, false)

/-- The `switch` of `processPacket`. -/
def processPayload (depacketizer : Depacketizer RTPPayloadVP8) (startOfFrame endOfFrame : Bool)
    (data : Option (List UInt8)) : Option (Depacketizer RTPPayloadVP8 × Bool) :=
  match depacketizer.searchState, startOfFrame, endOfFrame with
  | .lookingForStart, true, true => store depacketizer.resetBuffer data fun depacketizer => (depacketizer, true)
  | .lookingForStart, false, false => some (depacketizer.resetBuffer, false)
  | .lookingForStart, true, false =>
      store depacketizer data fun depacketizer => ({ depacketizer with searchState := .lookingForEnd }, false)
  | .lookingForStart, false, true => some (depacketizer.resetBuffer, false)
  | .lookingForEnd, true, true =>
      store depacketizer.resetBuffer data fun depacketizer => (depacketizer.resetImpl, true)
  | .lookingForEnd, false, false => store depacketizer data fun depacketizer => (depacketizer, false)
  | .lookingForEnd, true, false => store depacketizer.resetBuffer data fun depacketizer => (depacketizer, false)
  | .lookingForEnd, false, true =>
      store { depacketizer with searchState := .lookingForStart } data fun depacketizer => (depacketizer, true)

/-- `processPacket`. -/
def processPacket (depacketizer : Vp8Depacketizer) : Option (Vp8Depacketizer × Bool) :=
  match depacketizer.lastPayload with
  | none => some (depacketizer, false)
  | some payload => do
      let (processed, deliver) ← processPayload depacketizer.toDepacketizer payload.beginningOfPartition
        depacketizer.marker payload.data
      some ({ depacketizer with toDepacketizer := processed }, deliver)

/-- `reset`. -/
def reset (depacketizer : Vp8Depacketizer) : Vp8Depacketizer :=
  { depacketizer with toDepacketizer := depacketizer.toDepacketizer.reset }

/-- What `ExternalOutput` does with its depacketizer: `maybeWriteVideoPacket`, with whether there is a video stream once
the context was to be initialised, and the reset of `writeVideoData` after a gap. -/
inductive Event
  | maybeWriteVideoPacket (packet : DataPacket) (hasStream : Bool)
  | reset

/-- An event. The depacketizer is reset after a frame that is written, and not after one that is not. -/
def step (depacketizer : Vp8Depacketizer) : Event → Vp8Depacketizer × Depacketizer.Outcome
  | .maybeWriteVideoPacket packet hasStream =>
      match processPacket (fetchPacket depacketizer packet) with
      | none => (depacketizer.reset, .fault)
      | some (depacketizer, true) =>
          (if hasStream then depacketizer.reset else depacketizer, .delivered depacketizer.buffer)
      | some (depacketizer, false) => (depacketizer, .quiet)
  | .reset => (depacketizer.reset, .quiet)

end Vp8Depacketizer

end Erizo
