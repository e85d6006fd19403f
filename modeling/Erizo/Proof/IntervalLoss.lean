/-
**The loss of an interval, as the aggregator reports it.**

What the subscribers report of a source is watched from outside (`Reported`): the largest cumulative loss and the largest
extended number so far, and what these were when the last report was sent. The fields of `RtcpData` agree with it in
every run (`Agrees`). The quotient of two integers below one is zero, so that a report is right exactly when less than
one part in 256 was lost.

* `wellDefined_iff`: every report of a run is right exactly when that was so whenever one was sent.
-/

import Erizo.Library.Machine
import Erizo.Model.RtcpAggregator
import Erizo.Proof.RembBitRate
import Erizo.Proof.RtcpWalk

namespace Erizo

open Library Library.Bytes RtcpHeader RtpUtils

/-- What the subscribers report of a source, now and when the last report was sent. -/
@[ext]
structure Reported where
  loss : ℕ := 0
  highest : ℕ := 0
  lossSent : ℕ := 0
  highestSent : ℕ := 0

namespace Reported

/-- A block is heard. -/
def hear (buf : Memory) (reported : Reported) (block : ℕ) : Reported :=
  if getPacketType buf block = receiverPt then
    { reported with
      loss := max reported.loss (getLostPackets buf block)
      highest := max reported.highest ((getSeqnumCycles buf block).toNat * 2 ^ 16 + (getHighestSeqnum buf block).toNat) }
  else reported

/-- A report is sent. -/
def send (reported : Reported) : Reported :=
  { reported with lossSent := reported.loss, highestSent := reported.highest }

/-- Nothing shrinks. -/
structure Ordered (reported : Reported) : Prop where
  loss : reported.lossSent ≤ reported.loss
  highest : reported.highestSent ≤ reported.highest

theorem ordered_default : Ordered {} := ⟨le_rfl, le_rfl⟩

theorem ordered_send (reported : Reported) : reported.send.Ordered := ⟨le_rfl, le_rfl⟩

theorem Ordered.hear {reported : Reported} (ordered : reported.Ordered) (buf : Memory) (block : ℕ) :
    (reported.hear buf block).Ordered := by
  unfold Reported.hear
  split
  · exact ⟨le_trans ordered.loss (le_max_left _ _), le_trans ordered.highest (le_max_left _ _)⟩
  · exact ordered

theorem Ordered.foldl {buf : Memory} (blocks : List ℕ) {reported : Reported} (ordered : reported.Ordered) :
    (blocks.foldl (Reported.hear buf) reported).Ordered := by
  induction blocks generalizing reported with
  | nil => exact ordered
  | cons block rest ih => exact ih (ordered.hear buf block)

end Reported

/-! ### The fields of the data -/

namespace RtcpData

/-- What the data says of the reports. -/
def reported (data : RtcpData) : Reported where
  loss := data.totalPacketsLost.toNat
  highest := data.extendedSeqNo.toNat
  lossSent := data.prevTotalPacketsLost.toNat
  highestSent := data.prevExtendedSeqNo.toNat

theorem toNat_lostPackets (buf : Memory) (chead : ℕ) :
    (UInt32.ofNat (getLostPackets buf chead)).toNat = getLostPackets buf chead := by
  have first := (buf (chead + 13)).toNat_lt
  have second := (buf (chead + 13 + 1)).toNat_lt
  have third := (buf (chead + 13 + 2)).toNat_lt
  rw [UInt32.toNat_ofNat', getLostPackets, read24]
  exact Nat.mod_eq_of_lt (by omega)

theorem toNat_extended (cycles highest : UInt16) :
    ((cycles.toUInt32 <<< 16) + highest.toUInt32).toNat = cycles.toNat * 2 ^ 16 + highest.toNat := by
  have upper := cycles.toNat_lt
  have lower := highest.toNat_lt
  have shifted : (cycles.toUInt32 <<< 16).toNat = cycles.toNat * 2 ^ 16 := by
    rw [UInt32.toNat_shiftLeft, UInt16.toNat_toUInt32, Nat.shiftLeft_eq]
    exact Nat.mod_eq_of_lt (by change cycles.toNat * 2 ^ 16 < 2 ^ 32; omega)
  rw [UInt32.toNat_add, shifted, UInt16.toNat_toUInt32]
  exact Nat.mod_eq_of_lt (by omega)

/-- The larger of two words. -/
theorem toNat_larger (first second : UInt32) :
    (if first > second then first else second).toNat = max first.toNat second.toNat := by
  split
  · rename_i more
    exact (max_eq_left (UInt32.lt_iff_toNat_lt.mp more).le).symm
  · rename_i less
    exact (max_eq_right (UInt32.le_iff_toNat_le.mp (UInt32.not_lt.mp less))).symm

/-- A receiver report is heard. -/
theorem reported_analyzeReport (buf : Memory) (nowms : UInt64) {chead : ℕ} (data : RtcpData) (delay : UInt32)
    (report : getPacketType buf chead = receiverPt) :
    (data.analyzeReport buf nowms chead delay).1.reported = data.reported.hear buf chead := by
  have lost := toNat_larger data.totalPacketsLost (UInt32.ofNat (getLostPackets buf chead))
  rw [toNat_lostPackets] at lost
  have value := toNat_extended (getSeqnumCycles buf chead) (getHighestSeqnum buf chead)
  rw [Reported.hear, if_pos report]
  by_cases further : ((getSeqnumCycles buf chead).toUInt32 <<< 16) + (getHighestSeqnum buf chead).toUInt32 >
      data.extendedSeqNo
  · have larger := UInt32.lt_iff_toNat_lt.mp further
    rw [value] at larger
    unfold analyzeReport
    simp only [further, if_true]
    split
    · exact Reported.ext lost (value.trans (max_eq_right larger.le).symm) rfl rfl
    · exact Reported.ext lost (value.trans (max_eq_right larger.le).symm) rfl rfl
  · have smaller := UInt32.le_iff_toNat_le.mp (UInt32.not_lt.mp further)
    rw [value] at smaller
    unfold analyzeReport
    simp only [further, if_false]
    split
    · exact Reported.ext lost (max_eq_left smaller).symm rfl rfl
    · exact Reported.ext lost (max_eq_left smaller).symm rfl rfl

theorem reported_analyzeNack (buf : Memory) (chead : ℕ) (data : RtcpData) :
    (data.analyzeNack buf chead).reported = data.reported := by
  unfold analyzeNack
  simp only
  rw [apply_ite RtcpData.reported]
  exact ite_self _

theorem reported_analyzeRemb (bitrate : UInt64) (defaultVideoBw : UInt32) (data : RtcpData) :
    (data.analyzeRemb bitrate defaultVideoBw).reported = data.reported := by
  unfold analyzeRemb
  split
  · rfl
  · rfl

end RtcpData

namespace RtcpAggregator

open RtcpData

variable (aggregator : RtcpAggregator)

/-- **A block is heard.** -/
theorem reported_analyzeBlock (buf : Memory) (nowms : UInt64) (chead : ℕ) (state : RtcpData × UInt32) :
    (aggregator.analyzeBlock buf nowms chead state).1.reported = state.1.reported.hear buf chead := by
  obtain ⟨data, delay⟩ := state
  unfold analyzeBlock
  simp only
  by_cases report : getPacketType buf chead = receiverPt
  · rw [if_pos report]
    exact reported_analyzeReport buf nowms data delay report
  · rw [if_neg report, Reported.hear, if_neg report]
    split
    · exact reported_analyzeNack buf chead data
    · split
      · split
        · rfl
        · split
          · exact reported_analyzeRemb _ _ data
          · rfl
      · rfl

theorem reported_foldl (buf : Memory) (nowms : UInt64) (blocks : List ℕ) (state : RtcpData × UInt32) :
    (blocks.foldl (fun state chead => aggregator.analyzeBlock buf nowms chead state) state).1.reported =
      blocks.foldl (Reported.hear buf) state.1.reported := by
  induction blocks generalizing state with
  | nil => rfl
  | cons block rest ih => rw [List.foldl_cons, List.foldl_cons, ih, reported_analyzeBlock]

/-- The loop goes through the blocks. -/
theorem blockLoop_analyzeBlock (buf : Memory) (nowms : UInt64) (len : ℤ) (state : RtcpData × UInt32) :
    blockLoop (fun _ => buf) (fun chead state => some (aggregator.analyzeBlock buf nowms chead state)) len
        (len.toNat + 1) 0 0 state =
      some ((rtcpBlocksFrom buf len (len.toNat + 1) 0).foldl
        (fun state chead => aggregator.analyzeBlock buf nowms chead state) state) := by
  rw [blockLoop_eq (fun _ _ _ _ _ _ => rfl)]
  exact List.foldlM_pure

/-! ### What is sent -/

theorem fractionLost_of_lt {lost received : UInt32} (less : lost.toNat < received.toNat) :
    fractionLost lost received = some 0 := by
  have some_received : received ≠ 0 := by
    rintro rfl
    exact absurd less (Nat.not_lt_zero _)
  unfold fractionLost
  rw [if_neg some_received, Nat.div_eq_of_lt less]
  rfl

theorem fractionLost_of_le {lost received : UInt32} (more : received.toNat ≤ lost.toNat) :
    fractionLost lost received = none := by
  unfold fractionLost
  by_cases nothing : received = 0
  · exact if_pos nothing
  · have positive : 0 < received.toNat := by
      refine Nat.pos_of_ne_zero fun zero => nothing ?_
      exact UInt32.toNat_inj.mp zero
    have whole : 1 ≤ lost.toNat / received.toNat := (Nat.one_le_div_iff positive).mpr more
    rw [if_neg nothing]
    exact if_neg (by omega)

/-- What is put behind a report leaves it alone. -/
theorem addREMB_spec (buf : Memory) (len : ℕ) (bitrate : UInt32) :
    ∃ after, aggregator.addREMB buf len bitrate = some (after, len + 24) ∧
      ∀ address < len, after address = buf address := by
  obtain ⟨after, written, -, rest⟩ := setREMBBitRate_spec
    (copy buf len ([0x8F, 206] ++ encode16 5 ++ encode32 aggregator.videoSinkSSRC ++
      encode32 aggregator.getVideoSourceSSRC ++ [82, 69, 77, 66, 1, 0, 0, 0] ++ encode32 aggregator.getVideoSourceSSRC))
    len bitrate
  refine ⟨after, ?_, fun address before => ?_⟩
  · unfold addREMB
    simp only [written, Option.bind_eq_bind, Option.bind_some]
  · rw [rest address (Or.inl (by omega))]
    exact copy_of_lt buf _ before

theorem putNACK_spec (sourceSsrc sinkSsrc : UInt32) (draft : Draft) :
    (putNACK sourceSsrc sinkSsrc draft).data.reported = draft.data.reported ∧
      draft.length ≤ (putNACK sourceSsrc sinkSsrc draft).length ∧
      ∀ address < draft.length, (putNACK sourceSsrc sinkSsrc draft).packet address = draft.packet address := by
  unfold putNACK
  split
  · exact ⟨rfl, Nat.le_add_right _ _, fun address before => copy_of_lt draft.packet _ before⟩
  · exact ⟨rfl, le_rfl, fun _ _ => rfl⟩

theorem putREMB_spec (now : UInt64) (draft : Draft) :
    ∃ after, aggregator.putREMB now draft = some after ∧ after.data.reported = draft.data.reported ∧
      ∀ address < draft.length, after.packet address = draft.packet address := by
  unfold putREMB
  split
  · obtain ⟨packet, added, rest⟩ := aggregator.addREMB_spec draft.packet draft.length
      draft.data.reportedBandwidth.toUInt32
    rw [added]
    exact ⟨_, rfl, rfl, rest⟩
  · exact ⟨draft, rfl, rfl, fun _ _ => rfl⟩

theorem reported_scheduleNext (now : UInt64) (nextPacketInMs : UInt32) (data : RtcpData) :
    (aggregator.scheduleNext now nextPacketInMs data).reported = data.reported := by
  unfold scheduleNext
  simp only
  rw [apply_ite RtcpData.reported]
  exact ite_self _

section Report

variable {data : RtcpData} {sourceSsrc : UInt32} {now : UInt64} {nextPacketInMs : UInt32}

/-- No report is sent if the loss has no value. -/
theorem sendReport_of_none (nothing : fractionLost (data.totalPacketsLost - data.prevTotalPacketsLost)
      (data.extendedSeqNo - data.prevExtendedSeqNo) = none) :
    aggregator.sendReport sourceSsrc now nextPacketInMs data = none := by
  unfold sendReport
  rw [nothing]
  rfl

/-- **A report that is sent** has the loss, and the data remembers it. -/
theorem sendReport_of_some {fraction : UInt8} (value : fractionLost (data.totalPacketsLost - data.prevTotalPacketsLost)
      (data.extendedSeqNo - data.prevExtendedSeqNo) = some fraction) :
    ∃ after packet, aggregator.sendReport sourceSsrc now nextPacketInMs data = some (after, packet) ∧
      after.reported = data.reported.send ∧ getFractionLost packet.data 0 = fraction := by
  unfold sendReport
  rw [value]
  simp only [Option.bind_eq_bind, Option.bind_some]
  generalize (if sourceSsrc = aggregator.audioSourceSSRC then aggregator.audioSinkSSRC else aggregator.videoSinkSSRC) = sink
  generalize (if sourceSsrc = aggregator.audioSourceSSRC then aggregator.audioSourceSSRC
    else aggregator.getVideoSourceSSRC) = reportedSsrc
  obtain ⟨draft, report⟩ : ∃ draft,
      draft = putReport sink reportedSsrc fraction (now - data.lastSrUpdated).toUInt32 data := ⟨_, rfl⟩
  have first : draft.packet 12 = fraction := by
    rw [report]
    rfl
  have length : draft.length = 32 := by rw [report]; rfl
  obtain ⟨sameNack, further, packetNack⟩ := putNACK_spec sourceSsrc sink draft
  obtain ⟨after, put, sameRemb, packetRemb⟩ := aggregator.putREMB_spec now (putNACK sourceSsrc sink draft)
  rw [← report, put]
  refine ⟨_, _, rfl, ?_, ?_⟩
  · rw [reported_scheduleNext, sameRemb, sameNack, report]
    rfl
  · show after.packet 12 = fraction
    rw [packetRemb 12 (by omega), packetNack 12 (by omega), first]

/-- **A round for a source.** It has no value if a report is due and the loss has none. -/
theorem checkSource_cases (due : data.isDue now = true) :
    (∃ fraction checked, fractionLost (data.totalPacketsLost - data.prevTotalPacketsLost)
        (data.extendedSeqNo - data.prevExtendedSeqNo) = some fraction ∧
      aggregator.checkSource sourceSsrc now nextPacketInMs data = some checked ∧
      checked.sourceSsrc = sourceSsrc ∧ checked.data.reported = data.reported.send ∧
      ∃ packet, checked.report = some packet ∧ getFractionLost packet.data 0 = fraction) ∨
    (fractionLost (data.totalPacketsLost - data.prevTotalPacketsLost)
        (data.extendedSeqNo - data.prevExtendedSeqNo) = none ∧
      aggregator.checkSource sourceSsrc now nextPacketInMs data = none) := by
  unfold checkSource
  rw [if_pos due]
  cases value : fractionLost (data.totalPacketsLost - data.prevTotalPacketsLost)
      (data.extendedSeqNo - data.prevExtendedSeqNo) with
  | none =>
      rw [aggregator.sendReport_of_none value]
      exact Or.inr ⟨rfl, rfl⟩
  | some fraction =>
      obtain ⟨after, packet, sent, same, read⟩ := aggregator.sendReport_of_some value
      rw [sent]
      exact Or.inl ⟨fraction, _, rfl, rfl, rfl, same, packet, rfl, read⟩

theorem checkSource_of_not_due (waiting : data.isDue now ≠ true) :
    ∃ checked, aggregator.checkSource sourceSsrc now nextPacketInMs data = some checked ∧
      checked.sourceSsrc = sourceSsrc ∧ checked.data.reported = data.reported ∧ checked.report = none := by
  unfold checkSource
  rw [if_neg waiting]
  exact ⟨_, rfl, rfl, rfl, rfl⟩

theorem checkSource_sourceSsrc {checked : Checked}
    (value : aggregator.checkSource sourceSsrc now nextPacketInMs data = some checked) :
    checked.sourceSsrc = sourceSsrc := by
  by_cases due : data.isDue now = true
  · rcases aggregator.checkSource_cases due with ⟨_, other, -, same, source, -⟩ | ⟨-, none⟩
    · rw [value] at same
      rw [Option.some_injective _ same, source]
    · rw [value] at none
      exact nomatch none
  · obtain ⟨other, same, source, -⟩ := aggregator.checkSource_of_not_due due
    rw [value] at same
    rw [Option.some_injective _ same, source]

end Report

/-! ### What is watched -/

/-- What the aggregator has of a source. -/
def heard (ssrc : UInt32) : Reported := (aggregator.rtcpData[ssrc]?.map RtcpData.reported).getD {}

theorem heard_eq {ssrc : UInt32} {data : RtcpData} (entry : aggregator.rtcpData[ssrc]? = some data) :
    aggregator.heard ssrc = data.reported := by
  rw [heard, entry]
  rfl

theorem heard_addSourceSsrc (ssrc : UInt32) : (aggregator.addSourceSsrc ssrc).heard = aggregator.heard := by
  unfold addSourceSsrc
  split
  · rfl
  · rename_i absent
    funext asked
    unfold heard
    rw [Table.getElem?_insert_eq]
    split
    · rename_i same
      subst same
      rw [Std.ExtTreeMap.getElem?_eq_none (fun present => absent (Std.ExtTreeMap.contains_iff_mem.mpr present))]
      rfl
    · rfl

theorem heard_change (ssrc : UInt32) {f : RtcpData → RtcpData} {g : Reported → Reported}
    (hears : ∀ data, (f data).reported = g data.reported) :
    (aggregator.change ssrc f).heard = Function.update aggregator.heard ssrc (g (aggregator.heard ssrc)) := by
  funext asked
  unfold heard change
  rw [Table.getElem?_insert_eq]
  by_cases same : ssrc = asked
  · subst same
    rw [if_pos rfl, Function.update_self, Option.map_some, Option.getD_some, hears]
    cases aggregator.rtcpData[ssrc]? with
    | none => rfl
    | some data => rfl
  · rw [if_neg same, Function.update_of_ne (Ne.symm same)]

/-- What is reported of each source, after a call. -/
def watch (seen : UInt32 → Reported) : Event → Option (List Checked) → UInt32 → Reported
  | .analyzeSr _ _, _ => seen
  | .analyzeFeedback _ buf len, _ =>
      if isHeard buf len then
        Function.update seen (getSourceSSRC buf 0)
          ((rtcpBlocksFrom buf len (len.toNat + 1) 0).foldl (Reported.hear buf) (seen (getSourceSSRC buf 0)))
      else seen
  | .checkRtcpFb _ _, output => fun ssrc =>
      if (output.getD []).any fun checked => checked.sourceSsrc = ssrc && checked.report.isSome then (seen ssrc).send
      else seen ssrc

/-- The aggregator, watched: a round comes with what was reported of its source before. -/
def watched (state : RtcpAggregator × (UInt32 → Reported)) (event : Event) :
    (RtcpAggregator × (UInt32 → Reported)) × Option (List (Checked × Reported)) :=
  (((state.1.step event).1, watch state.2 event (state.1.step event).2),
    (state.1.step event).2.map fun rounds => rounds.map fun checked => (checked, state.2 checked.sourceSsrc))

/-- **The data says what was reported.** -/
structure Agrees (state : RtcpAggregator × (UInt32 → Reported)) : Prop where
  same : state.2 = state.1.heard
  ordered : ∀ ssrc, (state.2 ssrc).Ordered

/-- **A call is well defined**: it has a value, and the reports that it sends have the loss of the interval, which has
packets. -/
def WellDefined (output : Option (List (Checked × Reported))) : Prop :=
  ∃ rounds, output = some rounds ∧ ∀ round ∈ rounds, ∀ packet ∈ round.1.report,
    0 < round.2.highest - round.2.highestSent ∧
    (getFractionLost packet.data 0).toNat =
      min 255 (256 * (round.2.loss - round.2.lossSent) / (round.2.highest - round.2.highestSent))

/-- **Less than one part in 256 was lost** of every source a report is due for. -/
def FewLost (state : RtcpAggregator × (UInt32 → Reported)) : Event → Prop
  | .checkRtcpFb now _ => ∀ ssrc (data : RtcpData), state.1.rtcpData[ssrc]? = some data → data.isDue (now ssrc) = true →
      256 * (data.totalPacketsLost.toNat - data.prevTotalPacketsLost.toNat) <
        data.extendedSeqNo.toNat - data.prevExtendedSeqNo.toNat
  | _ => True

/-! ### Rounds -/

section Rounds

variable {aggregator} {now : UInt32 → UInt64} {nextPacketInMs : UInt32 → UInt32} {checked : List Checked}

/-- The rounds of a call. -/
abbrev visit (aggregator : RtcpAggregator) (now : UInt32 → UInt64) (nextPacketInMs : UInt32 → UInt32)
    (source : UInt32 × RtcpData) : Option Checked :=
  aggregator.checkSource source.1 (now source.1) (nextPacketInMs source.1) source.2

theorem step_of_none (failed : aggregator.rtcpData.toList.mapM (visit aggregator now nextPacketInMs) = none) :
    aggregator.step (.checkRtcpFb now nextPacketInMs) = (aggregator, none) := by
  unfold step checkRtcpFb
  simp only [failed, Option.bind_eq_bind, Option.bind_none]

theorem step_of_some (visited : aggregator.rtcpData.toList.mapM (visit aggregator now nextPacketInMs) = some checked) :
    aggregator.step (.checkRtcpFb now nextPacketInMs) =
      ({ aggregator with rtcpData := Table.fill Checked.sourceSsrc Checked.data aggregator.rtcpData checked },
        some checked) := by
  unfold step checkRtcpFb
  simp only [visited, Option.bind_eq_bind, Option.bind_some]

/-- What is watched of a source tells whether a report was sent for it. -/
theorem any_report (visited : aggregator.rtcpData.toList.mapM (visit aggregator now nextPacketInMs) = some checked)
    {ssrc : UInt32} {data : RtcpData} {result : Checked} (entry : aggregator.rtcpData[ssrc]? = some data)
    (one : visit aggregator now nextPacketInMs (ssrc, data) = some result) :
    (checked.any fun checked => checked.sourceSsrc = ssrc && checked.report.isSome) = result.report.isSome := by
  rw [Bool.eq_iff_iff, List.any_eq_true]
  constructor
  · rintro ⟨other, member, both⟩
    rw [Bool.and_eq_true, decide_eq_true_eq] at both
    obtain ⟨source, stood, there, same⟩ := (Table.mem_results_iff visited other).mp member
    obtain rfl : source = ssrc := (checkSource_sourceSsrc aggregator same).symm.trans both.1
    rw [entry] at there
    obtain rfl := Option.some_injective _ there
    rw [Option.some_injective _ (one.symm.trans same)]
    exact both.2
  · intro sent
    refine ⟨result, (Table.mem_results_iff visited result).mpr ⟨ssrc, data, entry, one⟩, ?_⟩
    rw [Bool.and_eq_true, decide_eq_true_eq]
    exact ⟨checkSource_sourceSsrc aggregator one, sent⟩

/-- **What a call leaves of a source.** -/
theorem heard_checkRtcpFb (visited : aggregator.rtcpData.toList.mapM (visit aggregator now nextPacketInMs) = some checked)
    (ssrc : UInt32) :
    heard { aggregator with
        rtcpData := Table.fill Checked.sourceSsrc Checked.data aggregator.rtcpData checked } ssrc =
      if checked.any fun checked => checked.sourceSsrc = ssrc && checked.report.isSome then (aggregator.heard ssrc).send
      else aggregator.heard ssrc := by
  rcases Table.getElem?_fill_visited Checked.sourceSsrc Checked.data
    (fun entry result one => checkSource_sourceSsrc aggregator one) visited ssrc with
    ⟨data, result, entry, one, filled⟩ | ⟨absent, filled⟩
  · rw [heard_eq _ filled, any_report visited entry one, aggregator.heard_eq entry]
    by_cases due : data.isDue (now ssrc) = true
    · rcases aggregator.checkSource_cases due with ⟨_, other, -, same, -, sent, packet, report, -⟩ | ⟨-, none⟩
      · obtain rfl := Option.some_injective _ (one.symm.trans same)
        rw [report, sent]
        rfl
      · exact nomatch one.symm.trans none
    · obtain ⟨other, same, -, kept, report⟩ := aggregator.checkSource_of_not_due due
      obtain rfl := Option.some_injective _ (one.symm.trans same)
      rw [report, kept]
      rfl
  · have nobody : (checked.any fun checked => checked.sourceSsrc = ssrc && checked.report.isSome) = false := by
      refine List.any_eq_false.mpr fun other member both => ?_
      rw [Bool.and_eq_true, decide_eq_true_eq] at both
      obtain ⟨source, stood, there, same⟩ := (Table.mem_results_iff visited other).mp member
      obtain rfl : source = ssrc := (checkSource_sourceSsrc aggregator same).symm.trans both.1
      rw [absent] at there
      exact nomatch there
    rw [nobody, heard, heard, filled, absent]
    rfl

end Rounds

variable {aggregator}

theorem heard_analyzeSr (now : UInt64) (chead : Memory) : (aggregator.analyzeSr now chead).heard = aggregator.heard := by
  refine (@heard_change (aggregator.addSourceSsrc (getSSRC chead 0)) (getSSRC chead 0) _ id ?_).trans ?_
  · exact fun _ => rfl
  · rw [id, Function.update_eq_self, heard_addSourceSsrc]

theorem heard_analyzeFeedback (nowms : UInt64) {buf : Memory} {len : ℤ} (hears : isHeard buf len = true) :
    (aggregator.analyzeFeedback nowms buf len).heard =
      Function.update aggregator.heard (getSourceSSRC buf 0)
        ((rtcpBlocksFrom buf len (len.toNat + 1) 0).foldl (Reported.hear buf)
          (aggregator.heard (getSourceSSRC buf 0))) := by
  unfold analyzeFeedback
  rw [if_pos hears]
  simp only
  rw [@heard_change _ _ _ ((rtcpBlocksFrom buf len (len.toNat + 1) 0).foldl (Reported.hear buf)) fun data => ?_,
    heard_addSourceSsrc]
  rw [blockLoop_analyzeBlock, Option.getD_some, reported_foldl]

/-- **Every call keeps the data in agreement.** -/
theorem agrees_watched (state : RtcpAggregator × (UInt32 → Reported)) (event : Event) (agrees : Agrees state) :
    Agrees (watched state event).1 := by
  cases event with
  | analyzeSr now chead => exact ⟨agrees.same.trans (heard_analyzeSr now chead).symm, agrees.ordered⟩
  | analyzeFeedback nowms buf len =>
      by_cases hears : isHeard buf len = true
      · have seen : watch state.2 (.analyzeFeedback nowms buf len) (some []) = _ := if_pos hears
        refine ⟨?_, fun ssrc => ?_⟩
        · show watch state.2 (.analyzeFeedback nowms buf len) (some []) = (state.1.analyzeFeedback nowms buf len).heard
          rw [heard_analyzeFeedback nowms hears, seen, agrees.same]
        · show (watch state.2 (.analyzeFeedback nowms buf len) (some []) ssrc).Ordered
          rw [seen]
          by_cases same : ssrc = getSourceSSRC buf 0
          · rw [same, Function.update_self]
            exact (agrees.ordered _).foldl _
          · rw [Function.update_of_ne same]
            exact agrees.ordered ssrc
      · have seen : watch state.2 (.analyzeFeedback nowms buf len) (some []) = state.2 := if_neg hears
        refine ⟨?_, fun ssrc => ?_⟩
        · show watch state.2 (.analyzeFeedback nowms buf len) (some []) = (state.1.analyzeFeedback nowms buf len).heard
          rw [seen, analyzeFeedback, if_neg hears, agrees.same]
        · show (watch state.2 (.analyzeFeedback nowms buf len) (some []) ssrc).Ordered
          rw [seen]
          exact agrees.ordered ssrc
  | checkRtcpFb now nextPacketInMs =>
      unfold watched
      cases visited : state.1.rtcpData.toList.mapM (visit state.1 now nextPacketInMs) with
      | none =>
          rw [step_of_none visited]
          exact ⟨agrees.same, agrees.ordered⟩
      | some checked =>
          rw [step_of_some visited]
          refine ⟨funext fun ssrc => ?_, fun ssrc => ?_⟩
          · refine Eq.trans ?_ (heard_checkRtcpFb visited ssrc).symm
            rw [← agrees.same]
            rfl
          · unfold watch
            simp only
            split
            · exact Reported.ordered_send _
            · exact agrees.ordered ssrc

/-! ### Losses -/

theorem toNat_sub {first second : UInt32} (ordered : second.toNat ≤ first.toNat) :
    (first - second).toNat = first.toNat - second.toNat := UInt32.toNat_sub_of_le _ _ (UInt32.le_iff_toNat_le.mpr ordered)

/-- A report of nothing is right exactly when little was lost. -/
theorem zero_eq_fraction_iff {lost received : ℕ} (less : lost < received) :
    0 = min 255 (256 * lost / received) ↔ 256 * lost < received := by
  have positive : 0 < received := Nat.zero_lt_of_lt less
  rw [← Nat.div_eq_zero_iff_lt positive]
  omega

section Check

variable {state : RtcpAggregator × (UInt32 → Reported)} {now : UInt32 → UInt64} {nextPacketInMs : UInt32 → UInt32}
  {ssrc : UInt32} {data : RtcpData}

theorem Agrees.seen (agrees : Agrees state) (entry : state.1.rtcpData[ssrc]? = some data) :
    state.2 ssrc = data.reported := by
  rw [agrees.same, heard_eq _ entry]

/-- The words that are divided are the growth of what was reported. -/
theorem Agrees.interval (agrees : Agrees state) (entry : state.1.rtcpData[ssrc]? = some data) :
    (data.totalPacketsLost - data.prevTotalPacketsLost).toNat =
        data.totalPacketsLost.toNat - data.prevTotalPacketsLost.toNat ∧
      (data.extendedSeqNo - data.prevExtendedSeqNo).toNat =
        data.extendedSeqNo.toNat - data.prevExtendedSeqNo.toNat := by
  have ordered := agrees.ordered ssrc
  rw [agrees.seen entry] at ordered
  exact ⟨toNat_sub ordered.loss, toNat_sub ordered.highest⟩

/-- The loss of a source of which little was lost. -/
theorem FewLost.fractionLost_eq (few : FewLost state (.checkRtcpFb now nextPacketInMs)) (agrees : Agrees state)
    (entry : state.1.rtcpData[ssrc]? = some data) (due : data.isDue (now ssrc) = true) :
    fractionLost (data.totalPacketsLost - data.prevTotalPacketsLost)
      (data.extendedSeqNo - data.prevExtendedSeqNo) = some 0 := by
  have lost := few ssrc data entry due
  rw [← (agrees.interval entry).1, ← (agrees.interval entry).2] at lost
  exact fractionLost_of_lt (by omega)

/-- Where little was lost, no round is without a value. -/
theorem FewLost.visited (few : FewLost state (.checkRtcpFb now nextPacketInMs)) (agrees : Agrees state) :
    ∃ checked, state.1.rtcpData.toList.mapM (visit state.1 now nextPacketInMs) = some checked := by
  refine Table.exists_mapM fun source member => ?_
  have entry := Std.ExtTreeMap.mem_toList_iff_getElem?_eq_some.mp member
  by_cases due : source.2.isDue (now source.1) = true
  · rcases state.1.checkSource_cases due with ⟨_, result, -, one, -⟩ | ⟨nothing, -⟩
    · exact ⟨result, one⟩
    · exact nomatch nothing.symm.trans (few.fractionLost_eq agrees entry due)
  · obtain ⟨result, one, -⟩ := state.1.checkSource_of_not_due due
    exact ⟨result, one⟩

theorem FewLost.wellDefined (few : FewLost state (.checkRtcpFb now nextPacketInMs)) (agrees : Agrees state) :
    WellDefined (watched state (.checkRtcpFb now nextPacketInMs)).2 := by
  obtain ⟨checked, visited⟩ := few.visited agrees
  unfold watched
  rw [step_of_some visited]
  refine ⟨_, rfl, fun round member packet report => ?_⟩
  obtain ⟨result, inside, rfl⟩ := List.mem_map.mp member
  obtain ⟨ssrc, data, entry, one⟩ := (Table.mem_results_iff visited result).mp inside
  by_cases due : data.isDue (now ssrc) = true
  · rcases state.1.checkSource_cases due with ⟨fraction, other, value, same, source, -, sent, sentReport, read⟩ | ⟨-, none⟩
    · obtain rfl := Option.some_injective _ (one.symm.trans same)
      obtain rfl := Option.some_injective _ (report.symm.trans sentReport)
      obtain rfl := Option.some_injective _ (value.symm.trans (few.fractionLost_eq agrees entry due))
      have lost := few ssrc data entry due
      have less : data.totalPacketsLost.toNat - data.prevTotalPacketsLost.toNat <
          data.extendedSeqNo.toNat - data.prevExtendedSeqNo.toNat := by omega
      rw [source, agrees.seen entry, read]
      exact ⟨Nat.zero_lt_of_lt less, (zero_eq_fraction_iff less).mpr lost⟩
    · exact absurd (one.symm.trans none) (Option.some_ne_none _)
  · obtain ⟨other, same, -, -, silent⟩ := state.1.checkSource_of_not_due due
    obtain rfl := Option.some_injective _ (one.symm.trans same)
    exact absurd (silent.symm.trans report) (Option.some_ne_none _).symm

theorem WellDefined.fewLost (agrees : Agrees state)
    (defined : WellDefined (watched state (.checkRtcpFb now nextPacketInMs)).2) :
    FewLost state (.checkRtcpFb now nextPacketInMs) := by
  obtain ⟨rounds, returned, right⟩ := defined
  intro ssrc data entry due
  unfold watched at returned
  cases visited : state.1.rtcpData.toList.mapM (visit state.1 now nextPacketInMs) with
  | none =>
      rw [step_of_none visited] at returned
      exact nomatch returned
  | some checked =>
      rw [step_of_some visited] at returned
      obtain rfl := Option.some_injective _ returned
      obtain ⟨result, member, one⟩ := Table.exists_result visited entry
      rcases state.1.checkSource_cases due with ⟨fraction, other, value, same, source, -, packet, report, read⟩ | ⟨-, none⟩
      · obtain rfl := Option.some_injective _ (one.symm.trans same)
        have less : (data.totalPacketsLost - data.prevTotalPacketsLost).toNat <
            (data.extendedSeqNo - data.prevExtendedSeqNo).toNat := by
          by_contra more
          exact nomatch value.symm.trans (fractionLost_of_le (not_lt.mp more))
        obtain rfl := Option.some_injective _ (value.symm.trans (fractionLost_of_lt less))
        have sound := (right _ (List.mem_map.mpr ⟨result, member, rfl⟩) packet report).2
        rw [source, agrees.seen entry, read] at sound
        rw [(agrees.interval entry).1, (agrees.interval entry).2] at less
        exact (zero_eq_fraction_iff less).mp sound
      · exact nomatch one.symm.trans none

end Check

/-- **A call is well defined** exactly when little was lost. -/
theorem fewLost_iff (state : RtcpAggregator × (UInt32 → Reported)) (event : Event) (agrees : Agrees state) :
    FewLost state event ↔ WellDefined (watched state event).2 := by
  cases event with
  | analyzeSr now chead => exact iff_of_true trivial ⟨[], rfl, fun _ absent => absurd absent List.not_mem_nil⟩
  | analyzeFeedback nowms buf len => exact iff_of_true trivial ⟨[], rfl, fun _ absent => absurd absent List.not_mem_nil⟩
  | checkRtcpFb now nextPacketInMs => exact ⟨fun few => few.wellDefined agrees, WellDefined.fewLost agrees⟩

/-- **The loss of an interval.** In every run, every report is well defined exactly when less than one part in 256 was
lost whenever one was sent. -/
theorem wellDefined_iff (maxVideoBw audioSourceSSRC : UInt32) (videoSourceSSRCList : List UInt32)
    (audioSinkSSRC videoSinkSSRC : UInt32) (farShift : ℕ → ℕ → UInt64) (events : List Event) :
    (∀ output ∈ Machine.outputs watched
        (create maxVideoBw audioSourceSSRC videoSourceSSRCList audioSinkSSRC videoSinkSSRC farShift, fun _ => {}) events,
      WellDefined output) ↔
      Machine.Guarded watched FewLost
        (create maxVideoBw audioSourceSSRC videoSourceSSRCList audioSinkSSRC videoSinkSSRC farShift,
          fun _ => {}) events := by
  refine (Machine.guarded_iff_outputs_of_invariant agrees_watched fewLost_iff ⟨?_, fun _ => Reported.ordered_default⟩
    events).symm
  funext ssrc
  show _ = ((∅ : Std.ExtTreeMap UInt32 RtcpData)[ssrc]?.map RtcpData.reported).getD {}
  rw [Std.ExtTreeMap.getElem?_empty]
  rfl

/-- An aggregator for the video source 7. -/
def videoAggregator : RtcpAggregator := create 300000 0 [7] 1 2 fun _ _ => 0

/-- A report of source 7, after a sender report. -/
def subscriberReport (highest : UInt16) : Memory :=
  (videoPacket ([0x81, 201, 0, 7] ++ encode32 3 ++ encode32 7 ++ encode32 0 ++ encode16 0 ++ encode16 highest ++
    encode32 0 ++ encode32 1 ++ encode32 0)).data

/-- **One report is heard, and the timer expires twice**: the second time, zero is divided by zero. -/
theorem not_wellDefined_timer :
    ¬∀ output ∈ Machine.outputs watched (videoAggregator, fun _ => {})
      [.analyzeFeedback 0 (subscriberReport 5) 32, .checkRtcpFb (fun _ => 1000) (fun _ => 1000),
        .checkRtcpFb (fun _ => 2000) (fun _ => 1000)], WellDefined output := by
  intro all
  have values : (Machine.outputs watched (videoAggregator, fun _ => {})
      [.analyzeFeedback 0 (subscriberReport 5) 32, .checkRtcpFb (fun _ => 1000) (fun _ => 1000),
        .checkRtcpFb (fun _ => 2000) (fun _ => 1000)]).map Option.isSome = [true, true, false] := by decide
  have failed : false ∈ [true, true, false] := by decide
  rw [← values] at failed
  obtain ⟨output, member, nothing⟩ := List.mem_map.mp failed
  obtain ⟨rounds, rfl, -⟩ := all output member
  exact nomatch nothing

end RtcpAggregator

end Erizo
