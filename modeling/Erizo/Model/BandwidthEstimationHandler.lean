/-
**The receiver's bandwidth estimation** (`rtp/BandwidthEstimationHandler.cpp`).

The estimator calls `OnReceiveBitrateChanged` with a new estimate, which the handler sends to the publisher as a REMB, at
once or from time to time. The handler reads the clock twice in a call, in nanoseconds; the first reading matters only
when the estimate has fallen. The fields that these calls do not touch are left out.
-/

import Erizo.Model.LayerDetectorHandler
import Erizo.Model.RtpHeaders

namespace Erizo

open Library.Bytes RtcpHeader
open LayerDetectorHandler (timePointToMs)

/-- `BandwidthEstimationHandler`, with the SSRCs of `stream_`. -/
structure BandwidthEstimationHandler where
  videoSinkSSRC : UInt32
  videoSourceSSRC : UInt32
  bitrate : UInt32 := 0
  lastSendBitrate : UInt32 := 0
  maxVideoBw : UInt32
  lastRembTime : UInt64 := 0
  active : Bool := true

namespace BandwidthEstimationHandler

/-- `kRembSendIntervallMs`. -/
def kRembSendIntervallMs : UInt64 := 200

/-- `kRembMinimumBitrate`. -/
def kRembMinimumBitrate : UInt32 := 20000

/-- `kSendThresholdPercent`. -/
def kSendThresholdPercent : UInt32 := 97

/-- The constructor. -/
def create (videoSinkSSRC videoSourceSSRC maxVideoBw : UInt32) : BandwidthEstimationHandler where
  videoSinkSSRC := videoSinkSSRC
  videoSourceSSRC := videoSourceSSRC
  maxVideoBw := maxVideoBw

variable (handler : BandwidthEstimationHandler)

/-- `sendREMBPacket`: the packet that is written, if the handler is active. -/
def sendREMBPacket : Option (Option DataPacket) := do
  let rembPacket := copy (fun _ => 0) 0 ([0x8F, psFeedbackPt] ++ encode16 5 ++ encode32 handler.videoSinkSSRC ++
    encode32 handler.videoSourceSSRC ++ [82, 69, 77, 66, 1, 0, 0, 0] ++ encode32 handler.videoSourceSSRC)
  let cappedBitrate := if handler.maxVideoBw > 0 then min handler.maxVideoBw handler.bitrate else handler.bitrate
  let rembPacket ← setREMBBitRate rembPacket 0 cappedBitrate.toUInt64
  some (if handler.active then some ⟨rembPacket, 24, .other⟩ else none)

/-- The estimate has fallen below the threshold, as the first lines of `OnReceiveBitrateChanged` see it. -/
def hasFallen (bitrate : UInt32) : Bool :=
  handler.lastSendBitrate > 0 &&
    handler.lastSendBitrate - handler.bitrate + bitrate < kSendThresholdPercent * handler.lastSendBitrate / 100

/-- `OnReceiveBitrateChanged`: the handler and the REMB that is sent. -/
def onReceiveBitrateChanged (asked now : Int64) (bitrate : UInt32) :
    Option (BandwidthEstimationHandler × Option DataPacket) := do
  let lastRembTime :=
    if handler.hasFallen bitrate then timePointToMs asked.toInt - kRembSendIntervallMs else handler.lastRembTime
  let bitrate := if bitrate < kRembMinimumBitrate then kRembMinimumBitrate else bitrate
  let handler := { handler with lastRembTime := lastRembTime, bitrate := bitrate }
  let now := timePointToMs now.toInt
  if now - lastRembTime < kRembSendIntervallMs then some (handler, none)
  else
    let handler := { handler with lastRembTime := now, lastSendBitrate := bitrate }
    let sent ← handler.sendREMBPacket
    some (handler, sent)

/-- A call: the two readings of the clock, and the new estimate. -/
structure Estimate where
  asked : Int64
  now : Int64
  bitrate : UInt32

/-- A call and the REMB that it sends. -/
def step (estimate : Estimate) : BandwidthEstimationHandler × Option (Option DataPacket) :=
  match handler.onReceiveBitrateChanged estimate.asked estimate.now estimate.bitrate with
  | some (next, sent) => (next, some sent)
  | none => (handler, none)

end BandwidthEstimationHandler

end Erizo
