/-
**Splitting a VP8 frame into packets** (`rtp/RtpVP8Fragmenter.cpp`, `OutputProcessor::packageVideo` of
`media/MediaProcessor.cpp`).

The lengths of frames are far from the range of an `unsigned int`. The timestamp, which comes from the clock or from the
frame's presentation time, is given.
-/

import Erizo.Model.RtpHeaders

namespace Erizo

open Library Library.Bytes

/-- `RtpVP8Fragmenter::Fragment`. -/
structure RtpVP8Fragmenter.Fragment where
  position : ℕ
  size : ℕ
  first : Bool
  deriving DecidableEq, Repr

/-- `RtpVP8Fragmenter`. -/
structure RtpVP8Fragmenter where
  totalData : List UInt8
  fragmentQueue : List RtpVP8Fragmenter.Fragment
  deriving DecidableEq, Repr

namespace RtpVP8Fragmenter

/-- `MAX_SIZE`. -/
def maxSize : ℕ := 1100

/-- The `while` loop of `calculatePackets`. What remains gets smaller in every round. -/
def calculateLoop : ℕ → ℕ → ℕ → List Fragment
  | rounds + 1, currentPos, remaining =>
      if 0 < remaining then
        let size := if remaining > maxSize - 1 then maxSize - 1 else remaining
        ⟨currentPos, size, currentPos = 0⟩ :: calculateLoop rounds (currentPos + size) (remaining - size)
      else []
  | 0, _, _ => []

/-- `calculatePackets`. -/
def calculatePackets (totalLength : ℕ) : List Fragment := calculateLoop totalLength 0 totalLength

/-- The constructor. -/
def create (data : List UInt8) : RtpVP8Fragmenter := ⟨data, calculatePackets data.length⟩

/-- `writeFragment`. -/
def writeFragment (fragmenter : RtpVP8Fragmenter) (fragment : Fragment) : List UInt8 :=
  (if fragment.first then 0x10 else 0) :: (fragmenter.totalData.drop fragment.position).take fragment.size

/-- `getPacket`: the bytes, which are left as they were when there is no fragment, and whether it was the last one. -/
def getPacket (fragmenter : RtpVP8Fragmenter) : RtpVP8Fragmenter × List UInt8 × Bool :=
  match fragmenter.fragmentQueue with
  | [] => (fragmenter, [], false)
  | fragment :: rest => ({ fragmenter with fragmentQueue := rest }, fragmenter.writeFragment fragment, rest.isEmpty)

/-- The `do` loop of `packageVideo`, from the sequence number on: as many rounds as there are fragments. -/
def packageLoop (timestamp : UInt32) : ℕ → RtpVP8Fragmenter → UInt16 → List DataPacket
  | 0, _, _ => []
  | rounds + 1, fragmenter, seqnum =>
      let (fragmenter, outBuff, lastFrame) := fragmenter.getPacket
      let packet := videoPacket ([0x80, (if lastFrame then 0x80 else 0) + 100] ++ encode16 seqnum ++ encode32 timestamp ++
        encode32 55543 ++ outBuff)
      if lastFrame then [packet] else packet :: packageLoop timestamp rounds fragmenter (seqnum + 1)

/-- `OutputProcessor::packageVideo`: the packets that are sent for a frame. -/
def packageVideo (inBuff : List UInt8) (timestamp : UInt32) (seqnum : UInt16) : List DataPacket :=
  packageLoop timestamp (create inBuff).fragmentQueue.length (create inBuff) seqnum

/-- Frames and their timestamps are packaged one after the other, each with its packets. -/
def packageFrames : UInt16 → List (List UInt8 × UInt32) → List (List UInt8 × List DataPacket)
  | _, [] => []
  | seqnum, (inBuff, timestamp) :: rest =>
      let packets := packageVideo inBuff timestamp seqnum
      (inBuff, packets) :: packageFrames (seqnum + UInt16.ofNat packets.length) rest

end RtpVP8Fragmenter

end Erizo
