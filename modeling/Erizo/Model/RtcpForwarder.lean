/-
**The RTCP forwarder** (`rtp/RtcpForwarder.cpp`).

Feedback on its way to a publisher is rewritten in place: receiver reports get the SSRC of the sink, and the bitrate of
a REMB is capped. What the forwarder remembers of sender reports and their sources is left out: feedback is not
rewritten by it.

`analyzeFeedback` has no value where a shift is undefined.
-/

import Erizo.Model.RtpUtils

namespace Erizo

open Library Library.Bytes RtcpHeader

/-- `RtcpForwarder`, with the SSRCs of `rtcpSource_` and `rtcpSink_`. -/
structure RtcpForwarder where
  maxVideoBw : UInt32
  videoSourceSSRCList : List UInt32
  videoSinkSSRC : UInt32
  audioSinkSSRC : UInt32

namespace RtcpForwarder

/-- `rtcpSource_->isVideoSourceSSRC`. -/
def isVideoSourceSSRC (forwarder : RtcpForwarder) (ssrc : UInt32) : Bool := forwarder.videoSourceSSRCList.contains ssrc

/-- The branch for a receiver report. -/
def rewriteReport (forwarder : RtcpForwarder) (chead : ℕ) (data : Memory) : Memory :=
  if forwarder.isVideoSourceSSRC (getSourceSSRC data chead) then setSSRC data chead forwarder.videoSinkSSRC
  else setSSRC data chead forwarder.audioSinkSSRC

/-- The branch for a REMB. -/
def rewriteRemb (forwarder : RtcpForwarder) (chead : ℕ) (data : Memory) : Option Memory := do
  let bitrate ← getREMBBitRate data chead
  let cappedBitrate := if bitrate < forwarder.maxVideoBw.toUInt64 then bitrate else forwarder.maxVideoBw.toUInt64
  setREMBBitRate data chead cappedBitrate

/-- The `switch` of `analyzeFeedback`, without the branch for `RTCP_BYE`. -/
def analyzeBlock (forwarder : RtcpForwarder) (chead : ℕ) (data : Memory) : Option Memory :=
  if getPacketType data chead = receiverPt then some (forwarder.rewriteReport chead data)
  else if isREMB data chead && isRembId data chead then forwarder.rewriteRemb chead data
  else some data

/-- The `do` loop of `analyzeFeedback`. Every round moves on by at least four bytes. -/
def analyzeLoop (forwarder : RtcpForwarder) (len : ℤ) : ℕ → ℕ → ℕ → Memory → Option (ℤ × Memory)
  | 0, _, _, data => some (len, data)
  | rounds + 1, movingBuf, totalLength, data =>
      let rtcpLength := blockLength data movingBuf
      let totalLength := totalLength + rtcpLength
      if getPacketType data movingBuf = bye then some (0, data)
      else do
        let data ← forwarder.analyzeBlock movingBuf data
        if (totalLength : ℤ) < len then analyzeLoop forwarder len rounds (movingBuf + rtcpLength) totalLength data
        else some (len, data)

/-- `analyzeFeedback`: what is returned, and the bytes of the packet. -/
def analyzeFeedback (forwarder : RtcpForwarder) (data : Memory) (len : ℤ) : Option (ℤ × Memory) :=
  if isFeedback data 0 then
    if getBlockCount data 0 = 0 ∧ blockLength data 0 = len then some (0, data)
    else forwarder.analyzeLoop len (len.toNat + 1) 0 0 data
  else some (0, data)

end RtcpForwarder

end Erizo
