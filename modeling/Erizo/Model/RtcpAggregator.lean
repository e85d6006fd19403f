/-
**The RTCP aggregator** (`rtp/RtcpAggregator.cpp`, `RtcpData` of `rtp/RtcpProcessor.h`).

The aggregator collects what the subscribers report of each source, and from time to time sends one report of its own to
the publisher. The fields of `RtcpData` that nothing reads are left out.

The time of a call is an argument, and so is the random interval to the next report. `checkRtcpFb` has no value where an
integer is divided by zero or a number that is too large becomes a byte. A shift of a bitrate that is undefined gives
some value (`farShift`).
-/

import Erizo.Library.Table
import Erizo.Model.RtpUtils
import Erizo.Model.SdpInfo

namespace Erizo

open Library Library.Bytes RtcpHeader

/-- `SrDelayData`. -/
structure SrDelayData where
  srNtp : UInt32
  srSendTime : UInt64

/-- `RtcpData`. -/
structure RtcpData where
  rrsReceivedInPeriod : UInt16 := 0
  totalPacketsLost : UInt32 := 0
  prevTotalPacketsLost : UInt32 := 0
  ratioLost : UInt8 := 0
  highestSeqNumReceived : UInt16 := 0
  seqNumCycles : UInt16 := 0
  extendedSeqNo : UInt32 := 0
  prevExtendedSeqNo : UInt32 := 0
  lastSr : UInt32 := 0
  reportedBandwidth : UInt64 := 0
  delaySinceLastSr : UInt32 := 0
  nextPacketInMs : UInt32 := 0
  lastDelay : UInt32 := 0
  jitter : UInt32 := 0
  nackSeqnum : UInt16 := 0
  nackBlp : UInt16 := 0
  lastSrUpdated : UInt64 := 0
  lastRembSent : UInt64 := 0
  lastRrWasScheduled : UInt64 := 0
  lastRrSent : UInt64 := 0
  shouldSendPli : Bool := false
  shouldSendREMB : Bool := false
  shouldSendNACK : Bool := false
  requestRr : Bool := false
  shouldReset : Bool := false
  mediaType : MediaType
  senderReports : List SrDelayData := []
  nackedPackets : List ℕ := []

/-- `MAP_NACK_SIZE`. -/
def mapNackSize : ℕ := 50

/-- `RtcpAggregator`, with the SSRCs of `rtcpSource_` and `rtcpSink_`. -/
structure RtcpAggregator where
  rtcpData : Std.ExtTreeMap UInt32 RtcpData
  defaultVideoBw : UInt32
  audioSourceSSRC : UInt32
  videoSourceSSRCList : List UInt32
  audioSinkSSRC : UInt32
  videoSinkSSRC : UInt32
  farShift : ℕ → ℕ → UInt64

/-! ### What is heard of a source -/

namespace RtcpData

/-- The branch for a receiver report, with the local variable `delay`. -/
def analyzeReport (buf : Memory) (nowms : UInt64) (chead : ℕ) (theData : RtcpData) (delay : UInt32) : RtcpData × UInt32 :=
  let fractionLost := getFractionLost buf chead
  let lostPackets := UInt32.ofNat (getLostPackets buf chead)
  let theData : RtcpData := { theData with
    rrsReceivedInPeriod := theData.rrsReceivedInPeriod + 1
    ratioLost := if theData.ratioLost > fractionLost then theData.ratioLost else fractionLost
    totalPacketsLost := if theData.totalPacketsLost > lostPackets then theData.totalPacketsLost else lostPackets }
  let extendedSeqNo := ((getSeqnumCycles buf chead).toUInt32 <<< 16) + (getHighestSeqnum buf chead).toUInt32
  let theData : RtcpData :=
    if extendedSeqNo > theData.extendedSeqNo then
      { theData with
        extendedSeqNo := extendedSeqNo
        highestSeqNumReceived := getHighestSeqnum buf chead
        seqNumCycles := getSeqnumCycles buf chead }
    else theData
  let jitter := if theData.jitter > getJitter buf chead then theData.jitter else getJitter buf chead
  let theData : RtcpData := { theData with jitter := jitter }
  let calculateLastSr := getLastSr buf chead
  let calculatedlsr := (getDelaySinceLastSr buf chead * 1000) / 65536
  let delay : UInt32 := theData.senderReports.foldl (fun (delay : UInt32) report =>
    if report.srNtp = calculateLastSr then (nowms - report.srSendTime - calculatedlsr.toUInt64).toUInt32 else delay) delay
  if theData.lastSr = 0 ∨ theData.lastDelay < delay then
    ({ theData with
        lastSr := getLastSr buf chead
        delaySinceLastSr := getDelaySinceLastSr buf chead
        lastSrUpdated := nowms
        lastDelay := delay }, delay)
  else (theData, delay)

/-- `std::set::insert`: the set, and whether the number is new. -/
def insertNacked (nackedPackets : List ℕ) (number : ℕ) : List ℕ × Bool :=
  if number ∈ nackedPackets then (nackedPackets, false) else (nackedPackets.orderedInsert (· ≤ ·) number, true)

/-- The branch for a NACK. -/
def analyzeNack (buf : Memory) (chead : ℕ) (theData : RtcpData) : RtcpData :=
  let pid := (getNackPid buf chead).toNat
  let blp := (getNackBlp buf chead).toNat
  let (nackedPackets, isNew) := insertNacked theData.nackedPackets pid
  let nackedPackets := if isNew then nackedPackets else nackedPackets.drop (nackedPackets.length + 1 - mapNackSize)
  let (nackedPackets, shouldSendNACK) := (List.range 16).foldl (fun (nackedPackets, shouldSendNACK) bit =>
    if blp.testBit bit then
      let (nackedPackets, isNew) := insertNacked nackedPackets (pid + 1 + bit)
      (nackedPackets, shouldSendNACK || isNew)
    else (nackedPackets, shouldSendNACK)) (nackedPackets, isNew)
  let theData := { theData with nackedPackets, shouldSendNACK }
  if shouldSendNACK then
    { theData with nackSeqnum := getNackPid buf chead, nackBlp := getNackBlp buf chead, requestRr := true }
  else theData

/-- The branch for a REMB, with the bitrate. -/
def analyzeRemb (bitrate : UInt64) (defaultVideoBw : UInt32) (theData : RtcpData) : RtcpData :=
  if bitrate < defaultVideoBw.toUInt64 then { theData with reportedBandwidth := bitrate, shouldSendREMB := true }
  else { theData with reportedBandwidth := defaultVideoBw.toUInt64 }

/-- `resetData`. For 32-bit numbers, `0.6` is three fifths. -/
def resetData (data : RtcpData) (bandwidth : UInt32) : RtcpData :=
  { data with
    ratioLost := 0
    requestRr := false
    shouldReset := false
    jitter := 0
    rrsReceivedInPeriod := 0
    reportedBandwidth := if data.reportedBandwidth > bandwidth.toUInt64 then bandwidth.toUInt64 else data.reportedBandwidth
    lastDelay := UInt32.ofNat (data.lastDelay.toNat * 3 / 5) }

/-- A report is to be sent. -/
def isDue (data : RtcpData) (now : UInt64) : Bool :=
  (data.requestRr || (now - data.lastRrSent).toUInt32 ≥ data.nextPacketInMs || data.shouldSendREMB) && data.lastSr > 0

end RtcpData

namespace RtcpAggregator

variable (aggregator : RtcpAggregator)

/-- The constructor. -/
def create (maxVideoBw audioSourceSSRC : UInt32) (videoSourceSSRCList : List UInt32)
    (audioSinkSSRC videoSinkSSRC : UInt32) (farShift : ℕ → ℕ → UInt64) : RtcpAggregator :=
  ⟨∅, maxVideoBw / 2, audioSourceSSRC, videoSourceSSRCList, audioSinkSSRC, videoSinkSSRC, farShift⟩

/-- `rtcpSource_->getVideoSourceSSRC`. -/
def getVideoSourceSSRC : UInt32 := aggregator.videoSourceSSRCList.headD 0

/-- `rtcpSource_->isVideoSourceSSRC`. -/
def isVideoSourceSSRC (ssrc : UInt32) : Bool := aggregator.videoSourceSSRCList.contains ssrc

/-- What `addSourceSsrc` enters for a source. -/
def newData (ssrc : UInt32) : RtcpData := { mediaType := if ssrc = aggregator.audioSourceSSRC then .audio else .video }

/-- `addSourceSsrc`. -/
def addSourceSsrc (ssrc : UInt32) : RtcpAggregator :=
  if aggregator.rtcpData.contains ssrc then aggregator
  else { aggregator with rtcpData := aggregator.rtcpData.insert ssrc (aggregator.newData ssrc) }

/-- `rtcpData_[ssrc]` is changed; it was added before. -/
def change (ssrc : UInt32) (f : RtcpData → RtcpData) : RtcpAggregator :=
  { aggregator with
    rtcpData := aggregator.rtcpData.insert ssrc (f (aggregator.rtcpData[ssrc]?.getD (aggregator.newData ssrc))) }

/-- `analyzeSr`. -/
def analyzeSr (now : UInt64) (chead : Memory) : RtcpAggregator :=
  let recvSSRC := getSSRC chead 0
  (aggregator.addSourceSsrc recvSSRC).change recvSSRC fun theData =>
    let ntp := ((getNtpTimestamp chead 0 &&& 0xFFFFFFFF0000) >>> 16).toUInt32
    let senderReports := theData.senderReports ++ [⟨ntp, now⟩]
    { theData with senderReports := if senderReports.length > 20 then senderReports.tail else senderReports }

/-- The `switch` of `analyzeFeedback`, on the data and the local variable `delay`. -/
def analyzeBlock (buf : Memory) (nowms : UInt64) (chead : ℕ) (state : RtcpData × UInt32) : RtcpData × UInt32 :=
  let (theData, delay) := state
  if getPacketType buf chead = receiverPt then theData.analyzeReport buf nowms chead delay
  else if getPacketType buf chead = rtpFeedbackPt then (theData.analyzeNack buf chead, delay)
  else if getPacketType buf chead = psFeedbackPt then
    if getBlockCount buf chead = pliFmt then ({ theData with shouldSendPli := true }, delay)
    else if getBlockCount buf chead = afb && isRembId buf chead then
      let bitrate := (getREMBBitRate buf chead).getD (aggregator.farShift (getBrMantis buf chead) (getBrExp buf chead))
      (theData.analyzeRemb bitrate aggregator.defaultVideoBw, delay)
    else state
  else state

/-- The feedback is not ignored. -/
def isHeard (buf : Memory) (len : ℤ) : Bool :=
  isFeedback buf 0 && !(getBlockCount buf 0 = 0 && (blockLength buf 0 : ℤ) = len)

/-- `analyzeFeedback`. The loop goes from block to block as that of `forEachRtcpBlock` does. -/
def analyzeFeedback (nowms : UInt64) (buf : Memory) (len : ℤ) : RtcpAggregator :=
  if isHeard buf len then
    let sourceSsrc := getSourceSSRC buf 0
    (aggregator.addSourceSsrc sourceSsrc).change sourceSsrc fun theData =>
      ((RtpUtils.blockLoop (fun _ => buf) (fun chead state => some (aggregator.analyzeBlock buf nowms chead state)) len
        (len.toNat + 1) 0 0 (theData, 0)).getD (theData, 0)).1
  else aggregator

/-! ### What is sent -/

/-- `ratio`, and the byte it becomes: the quotient of the integers times 256. -/
def fractionLost (packetsLostInInterval packetsReceivedinInterval : UInt32) : Option UInt8 :=
  if packetsReceivedinInterval = 0 then none
  else
    let ratio := packetsLostInInterval.toNat / packetsReceivedinInterval.toNat
    if ratio * 256 < 256 then some (UInt8.ofNat (ratio * 256)) else none

/-- `addNACK`. -/
def addNACK (buf : Memory) (len : ℕ) (seqNum blp : UInt16) (sourceSsrc sinkSsrc : UInt32) : Memory × ℕ :=
  (copy buf len ([0x81, 205] ++ encode16 3 ++ encode32 sinkSsrc ++ encode32 sourceSsrc ++ encode16 seqNum ++ encode16 blp),
    len + 16)

/-- `addREMB`. -/
def addREMB (buf : Memory) (len : ℕ) (bitrate : UInt32) : Option (Memory × ℕ) := do
  let buf := copy buf len ([0x8F, 206] ++ encode16 5 ++ encode32 aggregator.videoSinkSSRC ++
    encode32 aggregator.getVideoSourceSSRC ++ [82, 69, 77, 66, 1, 0, 0, 0] ++ encode32 aggregator.getVideoSourceSSRC)
  let buf ← setREMBBitRate buf len bitrate.toUInt64
  some (buf, len + 24)

/-- The data of a source and `packet_`, as `checkRtcpFb` fills it. -/
structure Draft where
  data : RtcpData
  packet : Memory
  length : ℕ

/-- The receiver report. -/
def putReport (ssrc reportedSsrc : UInt32) (fractionLost : UInt8) (edlsr : UInt32) (rtcpData : RtcpData) : Draft where
  data := { rtcpData with
    requestRr := false
    prevTotalPacketsLost := rtcpData.totalPacketsLost
    prevExtendedSeqNo := rtcpData.extendedSeqNo }
  packet := copy (fun _ => 0) 0 ([0x81, 201] ++ encode16 7 ++ encode32 ssrc ++ encode32 reportedSsrc ++ [fractionLost] ++
    encode24 rtcpData.totalPacketsLost.toNat ++ encode16 rtcpData.seqNumCycles ++ encode16 rtcpData.highestSeqNumReceived ++
    encode32 rtcpData.jitter ++ encode32 rtcpData.lastSr ++
    encode32 (rtcpData.delaySinceLastSr + edlsr * 65536 / 1000))
  length := 32

/-- The NACK, if there is one to be sent. -/
def putNACK (sourceSsrc sinkSsrc : UInt32) (draft : Draft) : Draft :=
  if draft.data.shouldSendNACK then
    let (packet, length) :=
      addNACK draft.packet draft.length draft.data.nackSeqnum draft.data.nackBlp sourceSsrc sinkSsrc
    ⟨{ draft.data with shouldSendNACK := false, nackSeqnum := 0, nackBlp := 0 }, packet, length⟩
  else draft

/-- The REMB of a video source; the last one is sent again after `REMB_TIMEOUT`. -/
def putREMB (now : UInt64) (draft : Draft) : Option Draft :=
  if draft.data.mediaType = .video ∧
      (draft.data.shouldSendREMB = true ∨ (now - draft.data.lastRembSent).toUInt32 > 1000) then do
    let (packet, length) ← aggregator.addREMB draft.packet draft.length draft.data.reportedBandwidth.toUInt32
    some ⟨{ draft.data with shouldSendREMB := false, lastRembSent := now }, packet, length⟩
  else some draft

/-- What `checkRtcpFb` leaves of the data after a report. -/
def scheduleNext (now : UInt64) (nextPacketInMs : UInt32) (rtcpData : RtcpData) : RtcpData :=
  let dtScheduled := (now - rtcpData.lastRrWasScheduled).toUInt32
  let shouldReset := rtcpData.shouldReset || dtScheduled > rtcpData.nextPacketInMs
  let rtcpData := { rtcpData with lastRrSent := now, shouldReset, lastRrWasScheduled := now, nextPacketInMs }
  if shouldReset then rtcpData.resetData aggregator.defaultVideoBw else rtcpData

/-- The report of `checkRtcpFb` for a source. -/
def sendReport (sourceSsrc : UInt32) (now : UInt64) (nextPacketInMs : UInt32) (rtcpData : RtcpData) :
    Option (RtcpData × DataPacket) := do
  let isAudio := sourceSsrc = aggregator.audioSourceSSRC
  let sinkSsrc := if isAudio then aggregator.audioSinkSSRC else aggregator.videoSinkSSRC
  let reportedSsrc := if isAudio then aggregator.audioSourceSSRC else aggregator.getVideoSourceSSRC
  let edlsr := (now - rtcpData.lastSrUpdated).toUInt32
  let fraction ← fractionLost (rtcpData.totalPacketsLost - rtcpData.prevTotalPacketsLost)
    (rtcpData.extendedSeqNo - rtcpData.prevExtendedSeqNo)
  let draft ← aggregator.putREMB now
    (putNACK sourceSsrc sinkSsrc (putReport sinkSsrc reportedSsrc fraction edlsr rtcpData))
  let type : PacketType := if aggregator.isVideoSourceSSRC sourceSsrc then .video else .audio
  some (aggregator.scheduleNext now nextPacketInMs draft.data, ⟨draft.packet, draft.length, type⟩)

/-- What a round of `checkRtcpFb` does: the data it leaves, the report it delivers and whether it calls `sendPLI`. -/
structure Checked where
  sourceSsrc : UInt32
  data : RtcpData
  report : Option DataPacket
  sendPLI : Bool

/-- A round of the loop of `checkRtcpFb`. -/
def checkSource (sourceSsrc : UInt32) (now : UInt64) (nextPacketInMs : UInt32) (rtcpData : RtcpData) : Option Checked := do
  let (rtcpData, report) ←
    if rtcpData.isDue now then
      (aggregator.sendReport sourceSsrc now nextPacketInMs rtcpData).map fun sent => (sent.1, some sent.2)
    else some (rtcpData, none)
  some ⟨sourceSsrc, { rtcpData with shouldSendPli := false }, report, rtcpData.shouldSendPli⟩

/-- `checkRtcpFb`: source after source, with the time and the interval that each of them finds. -/
def checkRtcpFb (now : UInt32 → UInt64) (nextPacketInMs : UInt32 → UInt32) : Option (RtcpAggregator × List Checked) := do
  let checked ← aggregator.rtcpData.toList.mapM fun source =>
    aggregator.checkSource source.1 (now source.1) (nextPacketInMs source.1) source.2
  some ({ aggregator with rtcpData := Table.fill Checked.sourceSsrc Checked.data aggregator.rtcpData checked }, checked)

/-! ### Runs -/

/-- A call. -/
inductive Event
  | analyzeSr (now : UInt64) (chead : Memory)
  | analyzeFeedback (nowms : UInt64) (buf : Memory) (len : ℤ)
  | checkRtcpFb (now : UInt32 → UInt64) (nextPacketInMs : UInt32 → UInt32)

/-- A call and what it does. There is nothing after a call that has no value. -/
def step (aggregator : RtcpAggregator) : Event → RtcpAggregator × Option (List Checked)
  | .analyzeSr now chead => (aggregator.analyzeSr now chead, some [])
  | .analyzeFeedback nowms buf len => (aggregator.analyzeFeedback nowms buf len, some [])
  | .checkRtcpFb now nextPacketInMs =>
      match aggregator.checkRtcpFb now nextPacketInMs with
      | some (next, checked) => (next, some checked)
      | none => (aggregator, none)

end RtcpAggregator

end Erizo
