/-
**The sender's bandwidth estimation** (`rtp/SenderBandwidthEstimantionHandler.cpp`).

The handler remembers the sender reports that it sees go out, and takes the round-trip time from the receiver reports
that come back. The estimator behind it is a parameter, and so are the readings of the clock, in nanoseconds: `read` finds
one for each block. A shift of a bitrate that is undefined gives some value (`farShift`). The loss and the round-trip time
that the estimator gives back only go to the listener and are left out, as are the statistics.
-/

import Erizo.Model.LayerDetectorHandler
import Erizo.Model.RtcpAggregator

namespace Erizo

open Library Library.Bytes RtcpHeader
open LayerDetectorHandler (timePointToMs)

/-- The arguments of `UpdateReceiverBlock`. -/
structure ReceiverBlock where
  fractionLoss : UInt8
  rtt : Int64
  numberOfPackets : Int32
  nowMs : Int64

/-- `SendSideBandwidthEstimation`; `CurrentEstimate` gives the bitrate. -/
structure SendSideBandwidthEstimation (ε : Type) where
  updateReceiverBlock : ReceiverBlock → ε → ε
  updateReceiverEstimate : Int64 → UInt32 → ε → ε
  updateEstimate : Int64 → ε → ε
  currentEstimate : ε → Int32

/-- `SenderBandwidthEstimationHandler`, with the SSRC of `stream_` and the bandwidth of `processor_`. -/
structure SenderBandwidthEstimationHandler (ε : Type) where
  videoSinkSSRC : UInt32
  maxVideoBW : UInt32
  receivedRemb : Bool := false
  periodPacketsSent : UInt32 := 0
  estimatedBitrate : Int32 := 0
  lastEstimateUpdate : ℤ
  senderBwe : ε
  srDelayData : List SrDelayData := []

namespace SenderBandwidthEstimationHandler

/-- `kMaxSrListSize`. -/
def kMaxSrListSize : ℕ := 20

/-- `kMinUpdateEstimateInterval`, in nanoseconds. -/
def kMinUpdateEstimateInterval : ℤ := 25000000

variable {ε : Type} (estimation : SendSideBandwidthEstimation ε) (farShift : ℕ → ℕ → UInt64)

/-- The constructor; the estimator is as `SetSendBitrate` leaves it. -/
def create (videoSinkSSRC maxVideoBW : UInt32) (now : ℤ) (senderBwe : ε) : SenderBandwidthEstimationHandler ε where
  videoSinkSSRC := videoSinkSSRC
  maxVideoBW := maxVideoBW
  lastEstimateUpdate := now
  senderBwe := senderBwe

/-- `updateEstimate`. -/
def updateEstimate (handler : SenderBandwidthEstimationHandler ε) : SenderBandwidthEstimationHandler ε :=
  { handler with estimatedBitrate := estimation.currentEstimate handler.senderBwe }

/-- `analyzeSr`. -/
def analyzeSr (now : ℤ) (data : Memory) (handler : SenderBandwidthEstimationHandler ε) :
    SenderBandwidthEstimationHandler ε :=
  let srDelayData := handler.srDelayData ++ [⟨get32MiddleNtp data 0, timePointToMs now⟩]
  { handler with srDelayData := if srDelayData.length ≥ kMaxSrListSize then srDelayData.tail else srDelayData }

/-- A handler while it reads a packet, with the bytes and the calls of `UpdateReceiverBlock`. -/
structure Reading (ε : Type) where
  handler : SenderBandwidthEstimationHandler ε
  data : Memory
  updates : List ReceiverBlock

/-- The branch for a receiver report. -/
def readReport (now : ℕ → ℤ) (chead : ℕ) (reading : Reading ε) : Reading ε :=
  let handler := reading.handler
  if getSourceSSRC reading.data chead ≠ handler.videoSinkSSRC then reading
  else
    let delaySinceLastMs := (getDelaySinceLastSr reading.data chead * 1000) / 65536
    let nowMs := timePointToMs (now chead)
    let lastSr := getLastSr reading.data chead
    match handler.srDelayData.find? fun srInfo => srInfo.srNtp = lastSr with
    | some value =>
        if handler.receivedRemb then
          let delay := (nowMs - value.srSendTime - delaySinceLastMs.toUInt64).toUInt32
          let block : ReceiverBlock := {
            fractionLoss := getFractionLost reading.data chead
            rtt := delay.toUInt64.toInt64
            numberOfPackets := handler.periodPacketsSent.toInt32
            nowMs := nowMs.toInt64 }
          let handler := { handler with
            senderBwe := estimation.updateReceiverBlock block handler.senderBwe
            periodPacketsSent := 0 }
          { reading with handler := handler.updateEstimate estimation, updates := reading.updates ++ [block] }
        else reading
    | none => reading

/-- The branch for a REMB, which gets another bitrate. -/
def readRemb (now : ℕ → ℤ) (chead : ℕ) (reading : Reading ε) : Option (Reading ε) := do
  let handler := { reading.handler with receivedRemb := true }
  let nowMs := timePointToMs (now chead)
  let rembBitrate := (getREMBBitRate reading.data chead).getD
    (farShift (getBrMantis reading.data chead) (getBrExp reading.data chead))
  let bitrate :=
    if handler.estimatedBitrate ≠ 0 then handler.estimatedBitrate.toInt64.toUInt64 else rembBitrate
  let cappedBitrate := if bitrate < handler.maxVideoBW.toUInt64 then bitrate else handler.maxVideoBW.toUInt64
  let data ← setREMBBitRate reading.data chead cappedBitrate
  let handler := { handler with
    senderBwe := estimation.updateReceiverEstimate nowMs.toInt64 rembBitrate.toUInt32 handler.senderBwe }
  some { reading with handler := handler.updateEstimate estimation, data := data }

/-- The `switch` of `read`. -/
def readBlock (now : ℕ → ℤ) (chead : ℕ) (reading : Reading ε) : Option (Reading ε) :=
  if getPacketType reading.data chead = receiverPt then some (readReport estimation now chead reading)
  else if getPacketType reading.data chead = psFeedbackPt ∧ getBlockCount reading.data chead = afb ∧
      isRembId reading.data chead = true then readRemb estimation farShift now chead reading
  else some reading

/-- `read`: the handler, the packet it passes on and the calls of `UpdateReceiverBlock`. -/
def read (now : ℕ → ℤ) (packet : DataPacket) (handler : SenderBandwidthEstimationHandler ε) :
    Option (SenderBandwidthEstimationHandler ε × DataPacket × List ReceiverBlock) := do
  if isFeedback packet.data 0 then
    let reading ← RtpUtils.blockLoop Reading.data (readBlock estimation farShift now) packet.length
      (packet.length.toNat + 1) 0 0 ⟨handler, packet.data, []⟩
    some (reading.handler, { packet with data := reading.data }, reading.updates)
  else some (handler, packet, [])

/-- `write`, which passes the packet on. -/
def write (now : ℤ) (packet : DataPacket) (handler : SenderBandwidthEstimationHandler ε) :
    SenderBandwidthEstimationHandler ε :=
  if !isRtcp packet.data 0 && packet.type = .video then
    let handler := { handler with periodPacketsSent := handler.periodPacketsSent + 1 }
    if handler.receivedRemb ∧ now - handler.lastEstimateUpdate > kMinUpdateEstimateInterval then
      let handler := { handler with
        senderBwe := estimation.updateEstimate (timePointToMs now).toInt64 handler.senderBwe }
      { handler.updateEstimate estimation with lastEstimateUpdate := now }
    else handler
  else if getPacketType packet.data 0 = senderPt ∧ getSSRC packet.data 0 = handler.videoSinkSSRC then
    handler.analyzeSr now packet.data
  else handler

/-- A packet in one of the two directions. -/
inductive Event
  | read (now : ℕ → ℤ) (packet : DataPacket)
  | write (now : ℤ) (packet : DataPacket)

/-- What the handler does with a packet: the packet that goes on, and the calls of `UpdateReceiverBlock`. -/
def step (handler : SenderBandwidthEstimationHandler ε) :
    Event → SenderBandwidthEstimationHandler ε × Option (DataPacket × List ReceiverBlock)
  | .read now packet =>
      match handler.read estimation farShift now packet with
      | some (next, result) => (next, some result)
      | none => (handler, none)
  | .write now packet => (handler.write estimation now packet, some (packet, []))

end SenderBandwidthEstimationHandler

end Erizo
