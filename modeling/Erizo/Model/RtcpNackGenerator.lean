/-
**The NACK generator** (`rtp/RtcpNackGenerator.cpp`).

A generator keeps a list of the numbers its stream skipped. A receiver report takes those that are
due with it, packed into PID/BLP items; a number that was requested twice leaves the list when it is
due again.

The two loops of `addNackPacketToRr` walk one vector with one `uint16_t` index, erasing entries on
the way. They are given a number of rounds and have no value when they need more.
-/

import Erizo.Model.RtpUtils

namespace Erizo

open Library Library.Bytes

/-- `NackInfo`. -/
structure NackInfo where
  seqNum : UInt16
  retransmits : UInt16
  sentTime : UInt64
  deriving DecidableEq, Repr

/-- `NackBlock`. -/
structure NackBlock where
  pid : UInt16
  blp : UInt16
  deriving DecidableEq, Repr

/-- The state of a `RtcpNackGenerator`. -/
structure RtcpNackGenerator where
  initialized : Bool
  highestSeqNum : UInt16
  ssrc : UInt32
  nackInfoList : List NackInfo
  deriving DecidableEq, Repr

namespace RtcpNackGenerator

/-- `kMaxRetransmits`. -/
def maxRetransmits : UInt16 := 2

/-- `kMaxNacks`. -/
def maxNacks : ℕ := 150

/-- `kMinNackDelayMs`. -/
def minNackDelayMs : UInt64 := 20

/-- `kNackCommonHeaderLengthRtcp`. -/
def nackCommonHeaderLengthRtcp : ℕ := RtcpHeader.nackCommonHeaderLengthBytes / 4 - 1

/-- The constructor. -/
def init (ssrc : UInt32) : RtcpNackGenerator where
  initialized := false
  highestSeqNum := 0
  ssrc := ssrc
  nackInfoList := []

/-! ### Incoming packets -/

/-- The `for` loop of `addNacks`. -/
def insertNacks (seqNum : UInt16) : ℕ → UInt16 → List NackInfo → List NackInfo
  | 0, _, nackInfoList => nackInfoList
  | rounds + 1, currentSeqNum, nackInfoList =>
      if currentSeqNum ≠ seqNum then
        insertNacks seqNum rounds (currentSeqNum + 1) (nackInfoList ++ [⟨currentSeqNum, 0, 0⟩])
      else nackInfoList

/-- The `while` loop of `addNacks`. -/
def trimNacks : ℕ → List NackInfo → List NackInfo
  | 0, nackInfoList => nackInfoList
  | rounds + 1, nackInfoList =>
      if nackInfoList.length > maxNacks then trimNacks rounds nackInfoList.dropLast else nackInfoList

/-- `addNacks`. A `uint16_t` meets `seqNum` within `2 ^ 16` steps. -/
def addNacks (generator : RtcpNackGenerator) (seqNum : UInt16) : RtcpNackGenerator × Bool :=
  let inserted := insertNacks seqNum (2 ^ 16) (generator.highestSeqNum + 1) generator.nackInfoList
  let nackInfoList := trimNacks inserted.length inserted
  ({ generator with nackInfoList := nackInfoList }, !nackInfoList.isEmpty)

/-- `handleRtpPacket`. -/
def handleRtpPacket (generator : RtcpNackGenerator) (packet : DataPacket) : RtcpNackGenerator × Bool :=
  if packet.type ≠ .video then (generator, false)
  else
    let seqNum := RtpHeader.getSeqNumber packet.data
    if RtpHeader.getSSRC packet.data ≠ generator.ssrc then (generator, false)
    else if !generator.initialized then
      ({ generator with highestSeqNum := seqNum, initialized := true }, false)
    else if seqNum = generator.highestSeqNum then (generator, false)
    else if RtpUtils.sequenceNumberLessThan seqNum generator.highestSeqNum then
      ({ generator with
        nackInfoList := generator.nackInfoList.eraseP fun nackInfo => nackInfo.seqNum = seqNum }, false)
    else
      let (generator, availableNacks) := generator.addNacks seqNum
      ({ generator with highestSeqNum := seqNum }, availableNacks)

/-! ### Receiver reports -/

/-- `isTimeToRetransmit`. -/
def isTimeToRetransmit (nackInfo : NackInfo) (currentTimeMs : UInt64) : Bool :=
  nackInfo.sentTime = 0 || currentTimeMs - nackInfo.sentTime > minNackDelayMs

/-- An entry that goes out with a report. -/
def markSent (nowMs : UInt64) (nackInfo : NackInfo) : NackInfo :=
  { nackInfo with sentTime := nowMs, retransmits := nackInfo.retransmits + 1 }

/-- The inner loop of `addNackPacketToRr`: the list, the index and the BLP it ends with. -/
def packBlp (nowMs : UInt64) (pid : UInt16) :
    ℕ → List NackInfo → UInt16 → UInt16 → Option (List NackInfo × UInt16 × UInt16)
  | 0, _, _, _ => none
  | rounds + 1, nackInfoList, index, blp =>
      match nackInfoList[index.toNat + 1]? with
      | none => some (nackInfoList, index, blp)
      | some blpNackInfo =>
          let distance : UInt16 := blpNackInfo.seqNum - pid - 1
          if distance ≤ 15 then
            if !isTimeToRetransmit blpNackInfo nowMs then
              packBlp nowMs pid rounds nackInfoList (index + 1) blp
            else if blpNackInfo.retransmits ≥ maxRetransmits then
              packBlp nowMs pid rounds (nackInfoList.eraseIdx (index.toNat + 1)) index blp
            else
              packBlp nowMs pid rounds (nackInfoList.set (index.toNat + 1) (markSent nowMs blpNackInfo))
                (index + 1) (blp ||| UInt16.ofNat (2 ^ distance.toNat))
          else some (nackInfoList, index, blp)

/-- The outer loop of `addNackPacketToRr`: the list it ends with and the items. -/
def packNacks (nowMs : UInt64) :
    ℕ → List NackInfo → UInt16 → List NackBlock → Option (List NackInfo × List NackBlock)
  | 0, _, _, _ => none
  | rounds + 1, nackInfoList, index, nackVector =>
      match nackInfoList[index.toNat]? with
      | none => some (nackInfoList, nackVector)
      | some baseNackInfo =>
          if !isTimeToRetransmit baseNackInfo nowMs then
            packNacks nowMs rounds nackInfoList (index + 1) nackVector
          else if baseNackInfo.retransmits ≥ maxRetransmits then
            packNacks nowMs rounds (nackInfoList.eraseIdx index.toNat) (index - 1 + 1) nackVector
          else do
            let pid := baseNackInfo.seqNum
            let nackInfoList := nackInfoList.set index.toNat (markSent nowMs baseNackInfo)
            let (nackInfoList, index, blp) ← packBlp nowMs pid (nackInfoList.length + 1) nackInfoList index 0
            packNacks nowMs rounds nackInfoList (index + 1) (nackVector ++ [⟨pid, blp⟩])

/-- The bytes of a `NackBlock`. -/
def nackBlockBytes (block : NackBlock) : List UInt8 := encode16 block.pid ++ encode16 block.blp

/-- The common header of a NACK, as its setters leave it: version 2, one block, the packet type, the
length and the SSRC twice. -/
def nackPacketBytes (ssrc : UInt32) (length : UInt16) : List UInt8 :=
  [2 * 64 + 1, RtcpHeader.rtpFeedbackPt] ++ encode16 length ++ encode32 ssrc ++ encode32 ssrc

/-- `addNackPacketToRr` at a time of the clock, with the report as it leaves it. -/
def addNackPacketToRr (generator : RtcpNackGenerator) (nowMs : UInt64) (rrPacket : DataPacket) :
    Option (RtcpNackGenerator × DataPacket × Bool) := do
  let (nackInfoList, nackVector) ←
    packNacks nowMs (generator.nackInfoList.length + 1) generator.nackInfoList 0 []
  let generator := { generator with nackInfoList := nackInfoList }
  if nackVector.length = 0 then some (generator, rrPacket, false)
  else
    let buffer := rrPacket.length.toNat
    let length := UInt16.ofNat (nackCommonHeaderLengthRtcp + nackVector.length)
    let data := copy rrPacket.data buffer (nackPacketBytes generator.ssrc length)
    let buffer := buffer + RtcpHeader.nackCommonHeaderLengthBytes
    let data := copy data buffer (nackVector.flatMap nackBlockBytes)
    let nackLength := (length.toNat + 1) * 4
    some (generator, { rrPacket with data := data, length := rrPacket.length + nackLength }, true)

/-! ### Runs -/

/-- What a generator is given. -/
inductive Event
  | packet (packet : DataPacket)
  | report (nowMs : UInt64) (rrPacket : DataPacket)

/-- The state after an event. -/
def step (generator : RtcpNackGenerator) : Event → Option RtcpNackGenerator
  | .packet packet => some (generator.handleRtpPacket packet).1
  | .report nowMs rrPacket => (generator.addNackPacketToRr nowMs rrPacket).map fun result => result.1

/-- The state after the first events of a run. A state without a next one would be kept. -/
def stateAt (ssrc : UInt32) (events : ℕ → Event) : ℕ → RtcpNackGenerator
  | 0 => init ssrc
  | time + 1 => (step (stateAt ssrc events time) (events time)).getD (stateAt ssrc events time)

end RtcpNackGenerator

end Erizo
