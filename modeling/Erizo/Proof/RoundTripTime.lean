/-
**The time of a round trip.**

Two components take it from a receiver report: the aggregator, and the sender's bandwidth estimation. What was sent is
watched from outside, as the list of the timestamps and times of the sender reports. Both remember the middle of the
timestamps, which they compute in two ways (`middle_masked`, `middle_getNtpTimestamp`), and both subtract words.

* `delayed_iff`: the difference of the words is the time of the round trip exactly if nothing wraps.
* `roundTrips_iff`: so it is in every run of either of them.
-/

import Erizo.Library.Recent
import Erizo.Model.SenderBandwidthEstimationHandler
import Erizo.Proof.SourceData

namespace Erizo

open Library Library.Bytes RtcpHeader RtpUtils
open LayerDetectorHandler (timePointToMs)

namespace RoundTrip

/-! ### The time of a round trip -/

/-- The middle of a timestamp. -/
def middle (ntp : UInt64) : UInt32 := (ntp >>> 16).toUInt32

theorem middle_masked (ntp : UInt64) : ((ntp &&& 0xFFFFFFFF0000) >>> 16).toUInt32 = middle ntp := by
  refine UInt32.toNat_inj.mp ?_
  have shifted : ((ntp &&& 0xFFFFFFFF0000) >>> 16).toNat = (ntp.toNat / 2 ^ 16) % 2 ^ 32 := by
    rw [UInt64.toNat_shiftRight, UInt64.toNat_and, Nat.shiftRight_and_distrib, ← Nat.shiftRight_eq_div_pow,
      ← Nat.and_two_pow_sub_one_eq_mod]
    rfl
  rw [middle, UInt64.toNat_toUInt32, UInt64.toNat_toUInt32, shifted, Nat.mod_mod, UInt64.toNat_shiftRight,
    Nat.shiftRight_eq_div_pow]
  rfl

theorem middle_getNtpTimestamp (data : Memory) (chead : ℕ) :
    middle (getNtpTimestamp data chead) = get32MiddleNtp data chead := by
  refine UInt32.toNat_inj.mp ?_
  have upper := (read16 data (chead + 8)).toNat_lt
  have second := (read16 data (chead + 8 + 2)).toNat_lt
  have third := (read16 data (chead + 12)).toNat_lt
  have lower := (read16 data (chead + 12 + 2)).toNat_lt
  have whole : (getNtpTimestamp data chead).toNat =
      (read32 data (chead + 8)).toNat * 2 ^ 32 + (read32 data (chead + 12)).toNat := by
    have first := (read32 data (chead + 8)).toNat_lt
    have rest := (read32 data (chead + 12)).toNat_lt
    have shifted : ((read32 data (chead + 8)).toUInt64 <<< 32).toNat = (read32 data (chead + 8)).toNat * 2 ^ 32 := by
      rw [UInt64.toNat_shiftLeft, UInt32.toNat_toUInt64, Nat.shiftLeft_eq]
      exact Nat.mod_eq_of_lt (by change (read32 data (chead + 8)).toNat * 2 ^ 32 < 2 ^ 64; omega)
    rw [getNtpTimestamp, UInt64.toNat_add, shifted, UInt32.toNat_toUInt64]
    exact Nat.mod_eq_of_lt (by omega)
  rw [middle, UInt64.toNat_toUInt32, UInt64.toNat_shiftRight, Nat.shiftRight_eq_div_pow, whole, get32MiddleNtp,
    toNat_read32, toNat_read32, toNat_read32]
  show _ / 2 ^ 16 % 2 ^ 32 = (read16 data (chead + 8 + 2)).toNat * 2 ^ 16 + (read16 data (chead + 12)).toNat
  omega

/-- The time of a round trip in milliseconds: what went by since the report was sent, without the time the other side held
it. -/
def roundTripTime (now sent : UInt64) (held : UInt32) : ℤ :=
  max 0 ((now.toNat : ℤ) - sent.toNat - (1000 * held.toNat / 65536 : ℕ))

/-- The delay as both compute it. -/
def delay (now sent : UInt64) (held : UInt32) : UInt32 := (now - sent - (held * 1000 / 65536).toUInt64).toUInt32

/-- **The delay does not wrap**: the product fits a word and the difference is one; or nothing is left, and by chance
nothing is left of the words either. -/
def Fits (now sent : UInt64) (held : UInt32) : Prop :=
  (1000 * held.toNat < 2 ^ 32 ∧ ((1000 * held.toNat / 65536 : ℕ) : ℤ) ≤ (now.toNat : ℤ) - sent.toNat ∧
      (now.toNat : ℤ) - sent.toNat - (1000 * held.toNat / 65536 : ℕ) < 2 ^ 32) ∨
    ((now.toNat : ℤ) - sent.toNat < (1000 * held.toNat / 65536 : ℕ) ∧
      ((now.toNat : ℤ) - sent.toNat - (1000 * held.toNat % 2 ^ 32 / 65536 : ℕ)) % 2 ^ 32 = 0)

instance (now sent : UInt64) (held : UInt32) : Decidable (Fits now sent held) := by
  unfold Fits
  infer_instance

theorem toNat_delay (now sent : UInt64) (held : UInt32) :
    ((delay now sent held).toNat : ℤ) =
      ((now.toNat : ℤ) - sent.toNat - (1000 * held.toNat % 2 ^ 32 / 65536 : ℕ)) % 2 ^ 32 := by
  have later := now.toNat_lt
  have earlier := sent.toNat_lt
  have word := held.toNat_lt
  have product : (held * 1000 / 65536).toUInt64.toNat = 1000 * held.toNat % 2 ^ 32 / 65536 := by
    rw [UInt32.toNat_toUInt64, UInt32.toNat_div, UInt32.toNat_mul, Nat.mul_comm]
    rfl
  rw [delay, UInt64.toNat_toUInt32, UInt64.toNat_sub, UInt64.toNat_sub, product]
  omega

/-- **The delay is the time of the round trip** exactly if it does not wrap. -/
theorem delayed_iff (now sent : UInt64) (held : UInt32) :
    Fits now sent held ↔ ((delay now sent held).toNat : ℤ) = roundTripTime now sent held := by
  have word := held.toNat_lt
  have whole : 1000 * held.toNat / 65536 = 65536 * (1000 * held.toNat / 2 ^ 32) + 1000 * held.toNat % 2 ^ 32 / 65536 := by
    omega
  have small : 1000 * held.toNat < 2 ^ 32 ↔ 1000 * held.toNat / 2 ^ 32 = 0 := (Nat.div_eq_zero_iff_lt (by decide)).symm
  have lost : 1000 * held.toNat / 2 ^ 32 < 1000 := by omega
  have kept : 1000 * held.toNat % 2 ^ 32 / 65536 < 65536 := by omega
  rw [toNat_delay]
  unfold Fits roundTripTime
  rw [small, whole]
  generalize 1000 * held.toNat / 2 ^ 32 = wraps at lost ⊢
  generalize 1000 * held.toNat % 2 ^ 32 / 65536 = rest at kept ⊢
  generalize (now.toNat : ℤ) - sent.toNat = elapsed
  rcases le_total 0 (elapsed - (65536 * wraps + rest : ℕ)) with some | none
  · rw [max_eq_right some]
    omega
  · rw [max_eq_left none]
    omega

/-! ### What is remembered -/

/-- A sender report that went by: its timestamp, and when. -/
structure SentReport where
  ntp : UInt64
  time : UInt64

/-- What is remembered of it. -/
def SentReport.delayData (report : SentReport) : SrDelayData := ⟨middle report.ntp, report.time⟩

/-- What a block makes of the delay, and what it has to. -/
structure Verdict where
  delays : List ℤ
  roundTrips : List ℤ

/-- Sender reports that are looked for by what is remembered of them. -/
theorem find?_delayData (reports : List SentReport) (lastSr : UInt32) :
    (reports.map SentReport.delayData).find? (fun report => report.srNtp = lastSr) =
      (reports.find? fun report => middle report.ntp = lastSr).map SentReport.delayData := by
  rw [List.find?_map]
  rfl

end RoundTrip

namespace RtcpAggregator

open RtcpData RoundTrip

/-! ### The aggregator -/

/-- The sender report that a report answers, for the aggregator: the last of the last twenty. -/
def answered (history : List SentReport) (lastSr : UInt32) : Option SentReport :=
  (recent 20 history).reverse.find? fun report => middle report.ntp = lastSr

/-- A block and what the local variable `delay` is after it: a time of a round trip, or what it was. -/
def delayVerdict (aggregator : RtcpAggregator) (buf : Memory) (nowms : UInt64) (history : List SentReport)
    (visit : ℕ × (RtcpData × UInt32)) : Verdict :=
  if getPacketType buf visit.1 = receiverPt then
    { delays := [(aggregator.analyzeBlock buf nowms visit.1 visit.2).2.toNat]
      roundTrips := [((answered history (getLastSr buf visit.1)).map fun report =>
        roundTripTime nowms report.time (getDelaySinceLastSr buf visit.1)).getD visit.2.2.toNat] }
  else ⟨[], []⟩

/-- The blocks that `analyzeFeedback` comes to. -/
def feedbackVisits (aggregator : RtcpAggregator) (nowms : UInt64) (buf : Memory) (len : ℤ) :
    List (ℕ × (RtcpData × UInt32)) :=
  blockVisits (fun _ => buf) (fun chead state => some (aggregator.analyzeBlock buf nowms chead state)) len
    (len.toNat + 1) 0 0 (aggregator.dataOf (getSourceSSRC buf 0), 0)

/-- The aggregator, with the sender reports that came from each source. -/
def watchedDelays (state : RtcpAggregator × (UInt32 → List SentReport)) (event : Event) :
    (RtcpAggregator × (UInt32 → List SentReport)) × List Verdict :=
  match event with
  | .analyzeSr now chead =>
      (((state.1.step event).1, Function.update state.2 (getSSRC chead 0)
        (state.2 (getSSRC chead 0) ++ [⟨getNtpTimestamp chead 0, now⟩])), [])
  | .analyzeFeedback nowms buf len =>
      (((state.1.step event).1, state.2),
        if isHeard buf len then
          (state.1.feedbackVisits nowms buf len).map
            (state.1.delayVerdict buf nowms (state.2 (getSourceSSRC buf 0)))
        else [])
  | .checkRtcpFb _ _ => (((state.1.step event).1, state.2), [])

/-- Nothing wraps in a call. -/
def DelaysFit (state : RtcpAggregator × (UInt32 → List SentReport)) : Event → Prop
  | .analyzeFeedback nowms buf len => isHeard buf len = true → ∀ visit ∈ state.1.feedbackVisits nowms buf len,
      getPacketType buf visit.1 = receiverPt →
        ∀ report ∈ answered (state.2 (getSourceSSRC buf 0)) (getLastSr buf visit.1),
          Fits nowms report.time (getDelaySinceLastSr buf visit.1)
  | _ => True

/-- **The aggregator remembers** the last twenty sender reports of every source. -/
def RemembersReports (state : RtcpAggregator × (UInt32 → List SentReport)) : Prop :=
  ∀ ssrc, (state.1.dataOf ssrc).senderReports = (recent 20 (state.2 ssrc)).map SentReport.delayData

/-- The blocks of a call leave the sender reports alone. -/
theorem senderReports_foldl (aggregator : RtcpAggregator) (buf : Memory) (nowms : UInt64) (blocks : List ℕ)
    (state : RtcpData × UInt32) :
    (blocks.foldl (fun state chead => aggregator.analyzeBlock buf nowms chead state) state).1.senderReports =
      state.1.senderReports := by
  induction blocks generalizing state with
  | nil => rfl
  | cons block rest ih => rw [List.foldl_cons, ih, senderReports_analyzeBlock]

theorem RemembersReports.step {state : RtcpAggregator × (UInt32 → List SentReport)} (event : Event)
    (remembers : RemembersReports state) : RemembersReports (watchedDelays state event).1 := by
  intro asked
  cases event with
  | analyzeSr now chead =>
      show ((state.1.analyzeSr now chead).dataOf asked).senderReports =
        (recent 20 (Function.update state.2 (getSSRC chead 0) _ asked)).map SentReport.delayData
      rw [dataOf_analyzeSr]
      split
      · rename_i same
        subst same
        rw [Function.update_self, map_recent, List.map_append, List.map_singleton, recent_snoc, ← map_recent,
          ← remembers (getSSRC chead 0)]
        show (if _ then _ else _) = _
        rw [middle_masked]
        rfl
      · rename_i other
        rw [Function.update_of_ne (Ne.symm other)]
        exact remembers asked
  | checkRtcpFb now nextPacketInMs =>
      exact (congrArg Prod.snd (remembered_timer now nextPacketInMs asked)).trans (remembers asked)
  | analyzeFeedback nowms buf len =>
      show ((state.1.analyzeFeedback nowms buf len).dataOf asked).senderReports = _
      by_cases hears : isHeard buf len = true
      · rw [dataOf_analyzeFeedback nowms hears]
        split
        · rw [senderReports_foldl]
          exact remembers asked
        · exact remembers asked
      · rw [analyzeFeedback, if_neg hears]
        exact remembers asked

/-- The delay of a report: that of the last sender report it answers, or what it was. -/
theorem delay_analyzeReport (buf : Memory) (nowms : UInt64) (chead : ℕ) (data : RtcpData) (before : UInt32) :
    (data.analyzeReport buf nowms chead before).2 =
      ((data.senderReports.reverse.find? fun report => report.srNtp = getLastSr buf chead).map fun report =>
        delay nowms report.srSendTime (getDelaySinceLastSr buf chead)).getD before := by
  rw [← foldl_overwrite]
  by_cases further : ((getSeqnumCycles buf chead).toUInt32 <<< 16) + (getHighestSeqnum buf chead).toUInt32 >
      data.extendedSeqNo
  · unfold analyzeReport
    simp only [further, if_true, decide_eq_true_eq]
    split
    · rfl
    · rfl
  · unfold analyzeReport
    simp only [further, if_false, decide_eq_true_eq]
    split
    · rfl
    · rfl

/-- **The verdict on a block.** -/
theorem delayVerdict_iff {aggregator : RtcpAggregator} {buf : Memory} {nowms : UInt64} {history : List SentReport}
    {visit : ℕ × (RtcpData × UInt32)}
    (remembers : visit.2.1.senderReports = (recent 20 history).map SentReport.delayData) :
    (getPacketType buf visit.1 = receiverPt → ∀ report ∈ answered history (getLastSr buf visit.1),
        Fits nowms report.time (getDelaySinceLastSr buf visit.1)) ↔
      (aggregator.delayVerdict buf nowms history visit).delays =
        (aggregator.delayVerdict buf nowms history visit).roundTrips := by
  obtain ⟨chead, data, before⟩ := visit
  unfold delayVerdict
  by_cases report : getPacketType buf chead = receiverPt
  · have after : (aggregator.analyzeBlock buf nowms chead (data, before)).2 =
        ((answered history (getLastSr buf chead)).map fun report =>
          delay nowms report.time (getDelaySinceLastSr buf chead)).getD before := by
      have branch : aggregator.analyzeBlock buf nowms chead (data, before) = data.analyzeReport buf nowms chead before :=
        if_pos report
      rw [branch, delay_analyzeReport, show data.senderReports = _ from remembers, ← List.map_reverse,
        find?_delayData, Option.map_map]
      rfl
    simp only [report, if_true, true_imp_iff, after]
    cases answered history (getLastSr buf chead) with
    | none => exact iff_of_true (fun _ absent => nomatch absent) rfl
    | some found =>
        rw [List.singleton_inj]
        refine Iff.trans ?_ (delayed_iff nowms found.time (getDelaySinceLastSr buf chead))
        exact ⟨fun fits => fits found rfl, fun fits _ same => Option.some_injective _ same ▸ fits⟩
  · simp only [report, if_false, false_imp_iff]

/-- **A call whose delays fit** is one whose delays are the times of the round trips. -/
theorem delaysFit_iff (state : RtcpAggregator × (UInt32 → List SentReport)) (event : Event)
    (remembers : RemembersReports state) :
    DelaysFit state event ↔ ∀ verdict ∈ (watchedDelays state event).2, verdict.delays = verdict.roundTrips := by
  cases event with
  | analyzeSr now chead => exact iff_of_true trivial fun _ absent => absurd absent List.not_mem_nil
  | checkRtcpFb now nextPacketInMs => exact iff_of_true trivial fun _ absent => absurd absent List.not_mem_nil
  | analyzeFeedback nowms buf len =>
      unfold DelaysFit watchedDelays
      by_cases hears : isHeard buf len = true
      · have each : ∀ visit ∈ state.1.feedbackVisits nowms buf len,
            visit.2.1.senderReports = (state.1.dataOf (getSourceSSRC buf 0)).senderReports :=
          @forall_blockVisits _ _ _
            (fun walk : RtcpData × UInt32 => walk.1.senderReports = (state.1.dataOf (getSourceSSRC buf 0)).senderReports)
            (fun block walk next given same => by
              rw [← Option.some_injective _ given, senderReports_analyzeBlock, same]) _ _ _ _ _ rfl
        simp only [hears, if_true, true_imp_iff, List.forall_mem_map]
        refine forall₂_congr fun visit member => delayVerdict_iff ?_
        rw [each visit member, remembers]
      · simp only [hears]
        exact iff_of_true (fun heard => absurd heard Bool.false_ne_true) fun _ absent => absurd absent List.not_mem_nil

end RtcpAggregator

namespace SenderBandwidthEstimationHandler

open RoundTrip

variable {ε : Type} (estimation : SendSideBandwidthEstimation ε) (farShift : ℕ → ℕ → UInt64)

/-! ### The sender's bandwidth estimation -/

/-- The sender report that a report answers, for the handler: the first of the last nineteen. -/
def answered (history : List SentReport) (lastSr : UInt32) : Option SentReport :=
  (recent 19 history).find? fun report => middle report.ntp = lastSr

/-- A round-trip time is taken from the block: it is a report of the video, and a REMB was received. -/
def isTimed (visit : ℕ × Reading ε) : Prop :=
  getPacketType visit.2.data visit.1 = receiverPt ∧
    getSourceSSRC visit.2.data visit.1 = visit.2.handler.videoSinkSSRC ∧ visit.2.handler.receivedRemb = true

instance (visit : ℕ × Reading ε) : Decidable (isTimed visit) := by
  unfold isTimed
  infer_instance

/-- A block and the delays that the estimator is given for it, and has to be given. -/
def delayVerdict (now : ℕ → ℤ) (history : List SentReport) (visit : ℕ × Reading ε) : Verdict where
  delays :=
    match readBlock estimation farShift now visit.1 visit.2 with
    | some next => (next.updates.drop visit.2.updates.length).map fun block => block.rtt.toInt
    | none => []
  roundTrips :=
    if isTimed visit then
      ((answered history (getLastSr visit.2.data visit.1)).map fun report =>
        roundTripTime (timePointToMs (now visit.1)) report.time (getDelaySinceLastSr visit.2.data visit.1)).toList
    else []

/-- The blocks that `read` comes to. -/
def readVisits (now : ℕ → ℤ) (packet : DataPacket) (handler : SenderBandwidthEstimationHandler ε) : List (ℕ × Reading ε) :=
  blockVisits Reading.data (readBlock estimation farShift now) packet.length (packet.length.toNat + 1) 0 0
    ⟨handler, packet.data, []⟩

/-- A packet that is written is a sender report of the video, which is remembered. -/
def isSent (packet : DataPacket) (handler : SenderBandwidthEstimationHandler ε) : Prop :=
  ¬(isRtcp packet.data 0 = false ∧ packet.type = .video) ∧ getPacketType packet.data 0 = senderPt ∧
    getSSRC packet.data 0 = handler.videoSinkSSRC

instance (packet : DataPacket) (handler : SenderBandwidthEstimationHandler ε) : Decidable (isSent packet handler) := by
  unfold isSent
  infer_instance

/-- The handler, with the sender reports that went out. -/
def watchedDelays (state : SenderBandwidthEstimationHandler ε × List SentReport) (event : Event) :
    (SenderBandwidthEstimationHandler ε × List SentReport) × List Verdict :=
  match event with
  | .read now packet =>
      (((state.1.step estimation farShift event).1, state.2),
        if isFeedback packet.data 0 then
          (readVisits estimation farShift now packet state.1).map (delayVerdict estimation farShift now state.2)
        else [])
  | .write now packet =>
      (((state.1.step estimation farShift event).1,
        if isSent packet state.1 then state.2 ++ [⟨getNtpTimestamp packet.data 0, timePointToMs now⟩] else state.2), [])

/-- Nothing wraps in a packet that is read. -/
def DelaysFit (state : SenderBandwidthEstimationHandler ε × List SentReport) : Event → Prop
  | .read now packet => isFeedback packet.data 0 = true → ∀ visit ∈ readVisits estimation farShift now packet state.1,
      isTimed visit → ∀ report ∈ answered state.2 (getLastSr visit.2.data visit.1),
        Fits (timePointToMs (now visit.1)) report.time (getDelaySinceLastSr visit.2.data visit.1)
  | .write _ _ => True

/-- **The handler remembers** the last nineteen sender reports. -/
def RemembersReports (state : SenderBandwidthEstimationHandler ε × List SentReport) : Prop :=
  state.1.srDelayData = (recent 19 state.2).map SentReport.delayData

theorem remembersReports_create (videoSinkSSRC maxVideoBW : UInt32) (start : ℤ) (senderBwe : ε) :
    RemembersReports (create videoSinkSSRC maxVideoBW start senderBwe, []) := rfl

/-! ### A block -/

variable {estimation farShift}

theorem srDelayData_readReport (now : ℕ → ℤ) (chead : ℕ) (reading : Reading ε) :
    (readReport estimation now chead reading).handler.srDelayData = reading.handler.srDelayData := by
  unfold readReport
  simp only
  split
  · rfl
  · split
    · split
      · rfl
      · rfl
    · rfl

theorem srDelayData_readBlock (now : ℕ → ℤ) (chead : ℕ) {reading next : Reading ε}
    (read : readBlock estimation farShift now chead reading = some next) :
    next.handler.srDelayData = reading.handler.srDelayData := by
  unfold readBlock at read
  split at read
  · rw [← Option.some_injective _ read]
    exact srDelayData_readReport now chead reading
  · split at read
    · unfold readRemb at read
      obtain ⟨data, -, same⟩ := Option.bind_eq_some_iff.mp read
      rw [← Option.some_injective _ same]
      rfl
    · rw [← Option.some_injective _ read]

theorem toInt_rtt (delay : UInt32) : delay.toUInt64.toInt64.toInt = delay.toNat := by
  have small := delay.toNat_lt
  have bits : delay.toUInt64.toBitVec.toNat = delay.toNat := UInt32.toNat_toUInt64 delay
  show delay.toUInt64.toBitVec.toInt = _
  rw [BitVec.toInt_eq_toNat_of_lt (by omega), bits]

/-- What is put behind a list. -/
theorem drop_updates {updates more : List ReceiverBlock} : (updates ++ more).drop updates.length = more :=
  List.drop_left

/-- The delays of a report. -/
theorem delays_readReport (now : ℕ → ℤ) (chead : ℕ) (reading : Reading ε) :
    ((readReport estimation now chead reading).updates.drop reading.updates.length).map (fun block => block.rtt.toInt) =
      if getSourceSSRC reading.data chead = reading.handler.videoSinkSSRC ∧ reading.handler.receivedRemb = true then
        ((reading.handler.srDelayData.find? fun report => report.srNtp = getLastSr reading.data chead).map fun report =>
          ((delay (timePointToMs (now chead)) report.srSendTime (getDelaySinceLastSr reading.data chead)).toNat : ℤ)).toList
      else [] := by
  unfold readReport
  simp only
  by_cases source : getSourceSSRC reading.data chead = reading.handler.videoSinkSSRC
  · rw [if_neg (not_not.mpr source)]
    cases found : reading.handler.srDelayData.find? fun report => report.srNtp = getLastSr reading.data chead with
    | none =>
        simp only [List.drop_length]
        exact (ite_self _).symm
    | some report =>
        by_cases received : reading.handler.receivedRemb = true
        · simp only [received, if_true, source, and_self, drop_updates]
          exact congrArg (fun rtt => [rtt]) (toInt_rtt _)
        · rw [if_neg fun both => received both.2]
          simp only [received, Bool.false_eq_true, if_false, List.drop_length, List.map_nil]
  · rw [if_pos source, if_neg fun both => source both.1, List.drop_length]
    rfl

/-- **The delays of a block** are computed from the sender report that it answers. -/
theorem delayVerdict_delays (now : ℕ → ℤ) (history : List SentReport) (visit : ℕ × Reading ε) :
    (delayVerdict estimation farShift now history visit).delays =
      if isTimed visit then
        ((visit.2.handler.srDelayData.find? fun report => report.srNtp = getLastSr visit.2.data visit.1).map fun report =>
          ((delay (timePointToMs (now visit.1)) report.srSendTime
            (getDelaySinceLastSr visit.2.data visit.1)).toNat : ℤ)).toList
      else [] := by
  obtain ⟨chead, reading⟩ := visit
  by_cases report : getPacketType reading.data chead = receiverPt
  · have branch : readBlock estimation farShift now chead reading = some (readReport estimation now chead reading) :=
      if_pos report
    unfold delayVerdict
    simp only [branch]
    rw [delays_readReport]
    refine if_congr ?_ rfl rfl
    exact ⟨fun both => ⟨report, both⟩, fun timed => timed.2⟩
  · rw [if_neg fun timed => report timed.1]
    unfold delayVerdict
    cases given : readBlock estimation farShift now chead reading with
    | none => rfl
    | some next =>
        have same : next.updates = reading.updates := by
          unfold readBlock at given
          rw [if_neg report] at given
          split at given
          · unfold readRemb at given
            obtain ⟨data, -, same⟩ := Option.bind_eq_some_iff.mp given
            rw [← Option.some_injective _ same]
          · rw [← Option.some_injective _ given]
        simp only [same, List.drop_length, List.map_nil]

/-- **The verdict on a block.** -/
theorem delayVerdict_iff {now : ℕ → ℤ} {history : List SentReport} {visit : ℕ × Reading ε}
    (remembers : visit.2.handler.srDelayData = (recent 19 history).map SentReport.delayData) :
    (isTimed visit → ∀ report ∈ answered history (getLastSr visit.2.data visit.1),
        Fits (timePointToMs (now visit.1)) report.time (getDelaySinceLastSr visit.2.data visit.1)) ↔
      (delayVerdict estimation farShift now history visit).delays =
        (delayVerdict estimation farShift now history visit).roundTrips := by
  rw [delayVerdict_delays, remembers, find?_delayData, Option.map_map]
  unfold delayVerdict
  by_cases timed : isTimed visit
  · simp only [timed, if_true, true_imp_iff]
    show (∀ report ∈ answered history _, _) ↔ (Option.map _ (answered history _)).toList = _
    cases answered history (getLastSr visit.2.data visit.1) with
    | none => exact iff_of_true (fun _ absent => nomatch absent) rfl
    | some found =>
        refine Iff.trans ?_ ((delayed_iff (timePointToMs (now visit.1)) found.time
          (getDelaySinceLastSr visit.2.data visit.1)).trans ?_)
        · exact ⟨fun fits => fits found rfl, fun fits _ same => Option.some_injective _ same ▸ fits⟩
        · exact List.singleton_inj.symm
  · simp only [timed, if_false, false_imp_iff]

/-! ### A packet -/

/-- No packet that is read leaves other sender reports. -/
theorem srDelayData_read (now : ℕ → ℤ) (packet : DataPacket) (handler : SenderBandwidthEstimationHandler ε) :
    (handler.step estimation farShift (.read now packet)).1.srDelayData = handler.srDelayData := by
  unfold step
  cases given : handler.read estimation farShift now packet with
  | none => simp only [given]
  | some result =>
      simp only [given]
      unfold read at given
      split at given
      · obtain ⟨reading, looped, same⟩ := Option.bind_eq_some_iff.mp given
        rw [← Option.some_injective _ same]
        rw [blockLoop_eq_visits] at looped
        obtain ⟨visit, last, after⟩ := Option.bind_eq_some_iff.mp looped
        have before :=
          @forall_blockVisits _ _ _ (fun reading : Reading ε => reading.handler.srDelayData = handler.srDelayData)
          (fun block reading next given same => (srDelayData_readBlock now block given).trans same) _ _ _ _ _ rfl
          visit (List.mem_of_getLast? last)
        exact (srDelayData_readBlock now visit.1 after).trans before
      · rw [← Option.some_injective _ given]

/-- A sender report goes out. -/
theorem srDelayData_analyzeSr (now : ℤ) (data : Memory) {handler : SenderBandwidthEstimationHandler ε}
    {history : List SentReport} (remembers : handler.srDelayData = (recent 19 history).map SentReport.delayData) :
    (handler.analyzeSr now data).srDelayData =
      (recent 19 (history ++ [⟨getNtpTimestamp data 0, timePointToMs now⟩])).map SentReport.delayData := by
  have entry : SentReport.delayData ⟨getNtpTimestamp data 0, timePointToMs now⟩ =
      ⟨get32MiddleNtp data 0, timePointToMs now⟩ := by rw [SentReport.delayData, middle_getNtpTimestamp]
  rw [map_recent, List.map_append, List.map_singleton, entry, recent_snoc, ← map_recent, ← remembers]
  exact if_congr Iff.rfl rfl rfl

theorem srDelayData_write (now : ℤ) (packet : DataPacket) (handler : SenderBandwidthEstimationHandler ε) :
    (handler.write estimation now packet).srDelayData =
      if isSent packet handler then (handler.analyzeSr now packet.data).srDelayData else handler.srDelayData := by
  unfold write
  by_cases media : (!isRtcp packet.data 0 && packet.type = .video) = true
  · have other : ¬isSent packet handler := by
      rintro ⟨control, -⟩
      rw [Bool.and_eq_true, Bool.not_eq_true', decide_eq_true_eq] at media
      exact control media
    rw [if_pos media, if_neg other]
    simp only
    split
    · rfl
    · rfl
  · rw [if_neg media]
    rw [Bool.and_eq_true, Bool.not_eq_true', decide_eq_true_eq] at media
    by_cases report : getPacketType packet.data 0 = senderPt ∧ getSSRC packet.data 0 = handler.videoSinkSSRC
    · rw [if_pos report, if_pos ⟨media, report⟩]
    · rw [if_neg report, if_neg fun sent => report sent.2]

theorem RemembersReports.step {state : SenderBandwidthEstimationHandler ε × List SentReport} (event : Event)
    (remembers : RemembersReports state) : RemembersReports (watchedDelays estimation farShift state event).1 := by
  cases event with
  | read now packet => exact (srDelayData_read now packet state.1).trans remembers
  | write now packet =>
      have after := @srDelayData_write _ estimation now packet state.1
      unfold RemembersReports watchedDelays
      by_cases sent : isSent packet state.1
      · rw [if_pos sent] at after
        simp only [sent, if_true]
        exact after.trans (srDelayData_analyzeSr now packet.data remembers)
      · rw [if_neg sent] at after
        simp only [sent, if_false]
        exact after.trans remembers

/-- **A packet whose delays fit** is one whose delays are the times of the round trips. -/
theorem delaysFit_iff (state : SenderBandwidthEstimationHandler ε × List SentReport) (event : Event)
    (remembers : RemembersReports state) :
    DelaysFit estimation farShift state event ↔
      ∀ verdict ∈ (watchedDelays estimation farShift state event).2, verdict.delays = verdict.roundTrips := by
  cases event with
  | write now packet => exact iff_of_true trivial fun _ absent => absurd absent List.not_mem_nil
  | read now packet =>
      unfold DelaysFit watchedDelays
      by_cases hears : isFeedback packet.data 0 = true
      · have each : ∀ visit ∈ readVisits estimation farShift now packet state.1,
            visit.2.handler.srDelayData = state.1.srDelayData :=
          @forall_blockVisits _ _ _ (fun reading : Reading ε => reading.handler.srDelayData = state.1.srDelayData)
            (fun block reading next given same => (srDelayData_readBlock now block given).trans same) _ _ _ _ _ rfl
        simp only [hears, if_true, true_imp_iff, List.forall_mem_map]
        refine forall₂_congr fun visit member => delayVerdict_iff ?_
        rw [each visit member]
        exact remembers
      · simp only [hears]
        exact iff_of_true (fun heard => absurd heard Bool.false_ne_true) fun _ absent => absurd absent List.not_mem_nil

end SenderBandwidthEstimationHandler

namespace RoundTrip

/-! ### Every run -/

/-- **The times of the round trips.** The two ways to the middle of a timestamp agree. In every run of the aggregator, and
in every run of the sender's bandwidth estimation with any estimator, each delay is computed from a sender report that is
remembered and has that middle, and it is the time of the round trip, exactly if nothing wraps in any of them. -/
theorem roundTrips_iff (maxVideoBw audioSourceSSRC : UInt32) (videoSourceSSRCList : List UInt32)
    (audioSinkSSRC sinkSSRC : UInt32) (farShift : ℕ → ℕ → UInt64) (events : List RtcpAggregator.Event)
    {ε : Type} (estimation : SendSideBandwidthEstimation ε) (videoSinkSSRC maxVideoBW : UInt32) (start : ℤ)
    (senderBwe : ε) (packets : List SenderBandwidthEstimationHandler.Event) :
    (∀ data chead, ((getNtpTimestamp data chead &&& 0xFFFFFFFF0000) >>> 16).toUInt32 = get32MiddleNtp data chead) ∧
      ((∀ output ∈ Machine.outputs RtcpAggregator.watchedDelays
          (.create maxVideoBw audioSourceSSRC videoSourceSSRCList audioSinkSSRC sinkSSRC farShift, fun _ => []) events,
          ∀ verdict ∈ output, verdict.delays = verdict.roundTrips) ↔
        Machine.Guarded RtcpAggregator.watchedDelays RtcpAggregator.DelaysFit
          (.create maxVideoBw audioSourceSSRC videoSourceSSRCList audioSinkSSRC sinkSSRC farShift, fun _ => []) events) ∧
      ((∀ output ∈ Machine.outputs (SenderBandwidthEstimationHandler.watchedDelays estimation farShift)
          (.create videoSinkSSRC maxVideoBW start senderBwe, []) packets,
          ∀ verdict ∈ output, verdict.delays = verdict.roundTrips) ↔
        Machine.Guarded (SenderBandwidthEstimationHandler.watchedDelays estimation farShift)
          (SenderBandwidthEstimationHandler.DelaysFit estimation farShift)
          (.create videoSinkSSRC maxVideoBW start senderBwe, []) packets) := by
  refine ⟨fun data chead => ?_, ?_, ?_⟩
  · rw [middle_masked, middle_getNtpTimestamp]
  · refine (Machine.guarded_iff_outputs_of_invariant (fun state event remembers =>
      RtcpAggregator.RemembersReports.step event remembers) RtcpAggregator.delaysFit_iff (fun ssrc => ?_) events).symm
    rw [RtcpAggregator.dataOf_create]
    rfl
  · exact (Machine.guarded_iff_outputs_of_invariant (fun state event remembers =>
      SenderBandwidthEstimationHandler.RemembersReports.step event remembers)
      SenderBandwidthEstimationHandler.delaysFit_iff
      (SenderBandwidthEstimationHandler.remembersReports_create videoSinkSSRC maxVideoBW start senderBwe) packets).symm

/-- **The other side says that it held the report for 200 milliseconds**, of which 100 went by. -/
theorem not_roundTrips_rounded :
    ¬∀ output ∈ Machine.outputs RtcpAggregator.watchedDelays (RtcpAggregator.videoAggregator, fun _ => [])
      [.analyzeSr 1000 (videoPacket ([0x80, 200, 0, 6] ++ encode32 7 ++ encode32 0 ++ encode32 65536)).data,
        .analyzeFeedback 1100 (videoPacket ([0x81, 201, 0, 7] ++ encode32 3 ++ encode32 7 ++ encode32 0 ++ encode32 5 ++
          encode32 0 ++ encode32 1 ++ encode32 13108)).data 32],
      ∀ verdict ∈ output, verdict.delays = verdict.roundTrips := by
  decide +kernel

end RoundTrip

end Erizo
