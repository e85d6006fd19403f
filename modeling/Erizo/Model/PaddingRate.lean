/-
**How much padding there is** (`RtpPaddingGeneratorHandler::recalculatePaddingRate`).

From time to time the padding generator works out how many packets of padding it sends behind a packet with the marker,
from the bit rates and the rate of the markers. What the statistics and the clock say are arguments (`Readings`); times
are in nanoseconds. A division by zero has no value.
-/

import Erizo.Model.RtpPaddingGeneratorHandler
import Erizo.Model.RtpRetransmissionHandler

namespace Erizo

/-- The fields of `RtpPaddingGeneratorHandler` that `recalculatePaddingRate` uses. -/
structure PaddingRate where
  maxVideoBw : UInt64
  numberOfFullPaddingPackets : UInt64
  lastPaddingPacketSize : UInt8
  lastRateCalculationTime : ℤ
  slideshowModeActive : Bool
  rtpHeaderLength : UInt32
  bucket : TokenBucket
  deriving DecidableEq, Repr

namespace PaddingRate

open RtpPaddingGeneratorHandler

/-- `kStatsPeriod`. -/
def statsPeriod : ℤ := 100000000

/-- `kMinMarkerRate`. -/
def minMarkerRate : UInt64 := 3

/-- `kInitialBitrate`. -/
def initialBitrate : UInt64 := 300000

/-- `kMaxBurstPackets`. -/
def maxBurstPackets : UInt64 := 200

/-- `kSlideShowBurstPackets`. -/
def slideShowBurstPackets : UInt64 := 20

/-- What the clock and the statistics say. A statistic `bitrateCalculated` that is not there counts as zero. -/
structure Readings where
  now : ℤ
  bitrateCalculated : UInt64
  paddingBitrate : UInt64
  senderBitrateEstimation : Option UInt64
  markerRate : UInt64

/-- `isTimeToCalculateBitrate`. -/
def isTimeToCalculateBitrate (rate : PaddingRate) (now : ℤ) : Bool := now - rate.lastRateCalculationTime ≥ statsPeriod

/-- `getTargetBitrate`. -/
def getTargetBitrate (rate : PaddingRate) (readings : Readings) : UInt64 :=
  let targetBitrate := readings.senderBitrateEstimation.getD initialBitrate
  if rate.maxVideoBw > 0 then min targetBitrate rate.maxVideoBw else targetBitrate

/-- `getBurstSize`. -/
def getBurstSize (rate : PaddingRate) : UInt64 :=
  let burstPackets :=
    if rate.slideshowModeActive then slideShowBurstPackets else min (rate.numberOfFullPaddingPackets + 1) maxBurstPackets
  burstPackets * maxPaddingSize.toUInt64

/-- `target_padding_bitrate`. -/
def targetPaddingBitrate (rate : PaddingRate) (readings : Readings) : Int64 :=
  let mediaBitrate := readings.bitrateCalculated.toInt64 - readings.paddingBitrate.toInt64
  let mediaBitrate := if mediaBitrate < 0 then 0 else mediaBitrate
  (rate.getTargetBitrate readings - mediaBitrate.toUInt64).toInt64

/-- The numbers that `recalculatePaddingRate` comes to, with the bytes it has for a marker. -/
structure Plan where
  bytesPerMarker : UInt64
  numberOfFullPaddingPackets : UInt64
  lastPaddingPacketSize : UInt8
  deriving DecidableEq, Repr

/-- The end of `recalculatePaddingRate`. -/
def plan (targetPaddingBitrate : Int64) (markerRate : UInt64) (rtpHeaderLength : UInt32) : Option Plan :=
  if targetPaddingBitrate ≤ 0 then some ⟨0, 0, 0⟩
  else
    let markerRate := max markerRate minMarkerRate
    let packetSize := maxPaddingSize.toUInt32 + rtpHeaderLength
    if markerRate * 8 = 0 ∨ packetSize = 0 then none
    else
      let bytesPerMarker := targetPaddingBitrate.toUInt64 / (markerRate * 8)
      some ⟨bytesPerMarker, bytesPerMarker / packetSize.toUInt64,
        (bytesPerMarker % packetSize.toUInt64 - rtpHeaderLength.toUInt64).toUInt8⟩

/-- `recalculatePaddingRate`. -/
def recalculatePaddingRate (rate : PaddingRate) (readings : Readings) : Option PaddingRate :=
  if !rate.isTimeToCalculateBitrate readings.now then some rate
  else
    let target := rate.targetPaddingBitrate readings
    (plan target readings.markerRate rate.rtpHeaderLength).map fun plan =>
      { rate with
        lastRateCalculationTime := readings.now
        bucket := .init (if target < 0 then 0 else target).toUInt64 rate.getBurstSize
        numberOfFullPaddingPackets := plan.numberOfFullPaddingPackets
        lastPaddingPacketSize := plan.lastPaddingPacketSize }

end PaddingRate

end Erizo
