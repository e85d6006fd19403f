/-
**What the calls do to the data of a source.**

`dataOf aggregator ssrc` is the data of a source, also before the source is added. A sender report adds to the data of
its source, and feedback leaves there what its blocks do. The rounds of the timer leave alone what the data remembers:
the numbers that were nacked and the sender reports.
-/

import Erizo.Proof.IntervalLoss

namespace Erizo

open Library Library.Bytes RtcpHeader RtpUtils

namespace RtcpData

/-- What the data remembers between the calls. -/
def remembered (data : RtcpData) : List ℕ × List SrDelayData := (data.nackedPackets, data.senderReports)

/-- The data with a sender report that comes; the last twenty of them stay. -/
def addReport (data : RtcpData) (report : SrDelayData) : RtcpData :=
  { data with
    senderReports :=
      if (data.senderReports ++ [report]).length > 20 then (data.senderReports ++ [report]).tail
      else data.senderReports ++ [report] }

end RtcpData

namespace RtcpAggregator

open RtcpData

/-! ### What a block leaves alone -/

section Block

variable (aggregator : RtcpAggregator) (buf : Memory) (nowms : UInt64) (chead : ℕ)

theorem remembered_analyzeReport (data : RtcpData) (delay : UInt32) :
    (data.analyzeReport buf nowms chead delay).1.remembered = data.remembered := by
  by_cases further : ((getSeqnumCycles buf chead).toUInt32 <<< 16) + (getHighestSeqnum buf chead).toUInt32 >
      data.extendedSeqNo
  · unfold analyzeReport
    simp only [further, if_true]
    split
    · rfl
    · rfl
  · unfold analyzeReport
    simp only [further, if_false]
    split
    · rfl
    · rfl

theorem remembered_analyzeRemb (bitrate : UInt64) (defaultVideoBw : UInt32) (data : RtcpData) :
    (data.analyzeRemb bitrate defaultVideoBw).remembered = data.remembered := by
  unfold analyzeRemb
  split
  · rfl
  · rfl

/-- A block that is no feedback to RTP leaves alone what the data remembers. -/
theorem remembered_analyzeBlock {state : RtcpData × UInt32} (other : getPacketType buf chead ≠ rtpFeedbackPt) :
    (aggregator.analyzeBlock buf nowms chead state).1.remembered = state.1.remembered := by
  obtain ⟨data, delay⟩ := state
  unfold analyzeBlock
  simp only
  split
  · exact remembered_analyzeReport buf nowms chead data delay
  · split
    · split
      · rfl
      · split
        · exact remembered_analyzeRemb _ _ data
        · rfl
    · rfl

theorem senderReports_analyzeNack (data : RtcpData) : (data.analyzeNack buf chead).senderReports = data.senderReports := by
  unfold analyzeNack
  simp only
  rw [apply_ite RtcpData.senderReports]
  exact ite_self _

theorem analyzeBlock_of_feedback {data : RtcpData} {delay : UInt32} (feedback : getPacketType buf chead = rtpFeedbackPt) :
    aggregator.analyzeBlock buf nowms chead (data, delay) = (data.analyzeNack buf chead, delay) := by
  have report : getPacketType buf chead ≠ receiverPt := by
    rw [feedback]
    decide
  unfold analyzeBlock
  simp only
  rw [if_neg report, if_pos feedback]

/-- No block leaves other sender reports. -/
theorem senderReports_analyzeBlock (state : RtcpData × UInt32) :
    (aggregator.analyzeBlock buf nowms chead state).1.senderReports = state.1.senderReports := by
  by_cases feedback : getPacketType buf chead = rtpFeedbackPt
  · obtain ⟨data, delay⟩ := state
    rw [aggregator.analyzeBlock_of_feedback buf nowms chead feedback]
    exact senderReports_analyzeNack buf chead data
  · exact congrArg Prod.snd (aggregator.remembered_analyzeBlock buf nowms chead feedback)

end Block

/-! ### What a round leaves alone -/

section Round

variable (aggregator : RtcpAggregator) {data : RtcpData} {sourceSsrc : UInt32} {now : UInt64} {nextPacketInMs : UInt32}

theorem remembered_putNACK (sinkSsrc : UInt32) (draft : Draft) :
    (putNACK sourceSsrc sinkSsrc draft).data.remembered = draft.data.remembered := by
  unfold putNACK
  split
  · rfl
  · rfl

theorem remembered_putREMB {draft after : Draft} (put : aggregator.putREMB now draft = some after) :
    after.data.remembered = draft.data.remembered := by
  unfold putREMB at put
  split at put
  · obtain ⟨packet, -, same⟩ := Option.bind_eq_some_iff.mp put
    rw [← Option.some_injective _ same]
    rfl
  · rw [← Option.some_injective _ put]

theorem remembered_scheduleNext : (aggregator.scheduleNext now nextPacketInMs data).remembered = data.remembered := by
  unfold scheduleNext
  simp only
  rw [apply_ite RtcpData.remembered]
  exact ite_self _

theorem remembered_sendReport {sent : RtcpData × DataPacket}
    (value : aggregator.sendReport sourceSsrc now nextPacketInMs data = some sent) :
    sent.1.remembered = data.remembered := by
  unfold sendReport at value
  obtain ⟨fraction, -, value⟩ := Option.bind_eq_some_iff.mp value
  obtain ⟨draft, put, same⟩ := Option.bind_eq_some_iff.mp value
  rw [← Option.some_injective _ same]
  exact (aggregator.remembered_scheduleNext).trans ((aggregator.remembered_putREMB put).trans (remembered_putNACK _ _))

/-- **A round leaves alone** what the data remembers. -/
theorem remembered_checkSource {checked : Checked}
    (value : aggregator.checkSource sourceSsrc now nextPacketInMs data = some checked) :
    checked.data.remembered = data.remembered := by
  unfold checkSource at value
  split at value
  · obtain ⟨⟨after, report⟩, value, same⟩ := Option.bind_eq_some_iff.mp value
    obtain ⟨sent, delivered, pair⟩ := Option.map_eq_some_iff.mp value
    rw [← Option.some_injective _ same]
    obtain rfl : sent.1 = after := congrArg Prod.fst pair
    exact aggregator.remembered_sendReport delivered
  · rw [← Option.some_injective _ value]
    rfl

end Round

/-! ### The data of a source -/

/-- The data of a source; it is as good as new before the source is added. -/
def dataOf (aggregator : RtcpAggregator) (ssrc : UInt32) : RtcpData :=
  aggregator.rtcpData[ssrc]?.getD (aggregator.newData ssrc)

section DataOf

variable {aggregator : RtcpAggregator}

theorem dataOf_eq {ssrc : UInt32} {data : RtcpData} (entry : aggregator.rtcpData[ssrc]? = some data) :
    aggregator.dataOf ssrc = data := by
  rw [dataOf, entry]
  rfl

theorem dataOf_of_absent {ssrc : UInt32} (absent : aggregator.rtcpData[ssrc]? = none) :
    aggregator.dataOf ssrc = aggregator.newData ssrc := by
  rw [dataOf, absent]
  rfl

theorem dataOf_create (maxVideoBw audioSourceSSRC : UInt32) (videoSourceSSRCList : List UInt32)
    (audioSinkSSRC videoSinkSSRC : UInt32) (farShift : ℕ → ℕ → UInt64) (ssrc : UInt32) :
    (create maxVideoBw audioSourceSSRC videoSourceSSRCList audioSinkSSRC videoSinkSSRC farShift).dataOf ssrc =
      (create maxVideoBw audioSourceSSRC videoSourceSSRCList audioSinkSSRC videoSinkSSRC farShift).newData ssrc :=
  dataOf_of_absent Std.ExtTreeMap.getElem?_empty

theorem dataOf_insert (ssrc : UInt32) (data : RtcpData) (asked : UInt32) :
    dataOf { aggregator with rtcpData := aggregator.rtcpData.insert ssrc data } asked =
      if ssrc = asked then data else aggregator.dataOf asked := by
  unfold dataOf
  rw [Table.getElem?_insert_eq]
  split
  · rfl
  · rfl

theorem dataOf_addSourceSsrc (ssrc asked : UInt32) :
    (aggregator.addSourceSsrc ssrc).dataOf asked = aggregator.dataOf asked := by
  unfold addSourceSsrc
  split
  · rfl
  · rename_i absent
    rw [dataOf_insert]
    split
    · rename_i same
      subst same
      refine (dataOf_of_absent ?_).symm
      exact Std.ExtTreeMap.getElem?_eq_none fun present => absent (Std.ExtTreeMap.contains_iff_mem.mpr present)
    · rfl

theorem dataOf_change (ssrc : UInt32) (f : RtcpData → RtcpData) (asked : UInt32) :
    (aggregator.change ssrc f).dataOf asked =
      if ssrc = asked then f (aggregator.dataOf ssrc) else aggregator.dataOf asked := dataOf_insert _ _ _

/-- **A sender report comes.** -/
theorem dataOf_analyzeSr (now : UInt64) (chead : Memory) (asked : UInt32) :
    (aggregator.analyzeSr now chead).dataOf asked =
      if getSSRC chead 0 = asked then
        (aggregator.dataOf asked).addReport ⟨((getNtpTimestamp chead 0 &&& 0xFFFFFFFF0000) >>> 16).toUInt32, now⟩
      else aggregator.dataOf asked := by
  unfold analyzeSr
  simp only
  rw [dataOf_change, dataOf_addSourceSsrc, dataOf_addSourceSsrc]
  split
  · rename_i same
    rw [← same]
    rfl
  · rfl

/-- **Feedback is heard**: its source has what the blocks leave of its data. -/
theorem dataOf_analyzeFeedback (nowms : UInt64) {buf : Memory} {len : ℤ} (hears : isHeard buf len = true)
    (asked : UInt32) :
    (aggregator.analyzeFeedback nowms buf len).dataOf asked =
      if getSourceSSRC buf 0 = asked then
        ((rtcpBlocksFrom buf len (len.toNat + 1) 0).foldl
          (fun state chead => aggregator.analyzeBlock buf nowms chead state) (aggregator.dataOf asked, 0)).1
      else aggregator.dataOf asked := by
  unfold analyzeFeedback
  rw [if_pos hears]
  simp only
  rw [dataOf_change, dataOf_addSourceSsrc, dataOf_addSourceSsrc, blockLoop_analyzeBlock, Option.getD_some]
  split
  · rename_i same
    rw [← same]
  · rfl

/-- **The timer** leaves alone what the data of every source remembers. -/
theorem remembered_timer (now : UInt32 → UInt64) (nextPacketInMs : UInt32 → UInt32) (asked : UInt32) :
    ((aggregator.step (.checkRtcpFb now nextPacketInMs)).1.dataOf asked).remembered =
      (aggregator.dataOf asked).remembered := by
  cases visited : aggregator.rtcpData.toList.mapM (visit aggregator now nextPacketInMs) with
  | none => rw [step_of_none visited]
  | some checked =>
      rw [step_of_some visited]
      rcases Table.getElem?_fill_visited Checked.sourceSsrc Checked.data
        (fun entry result one => checkSource_sourceSsrc aggregator one) visited asked with
        ⟨before, result, stood, one, filled⟩ | ⟨absent, filled⟩
      · rw [dataOf_eq filled, dataOf_eq stood]
        exact aggregator.remembered_checkSource one
      · rw [dataOf_of_absent filled, dataOf_of_absent absent]
        rfl

end DataOf

end RtcpAggregator

end Erizo
