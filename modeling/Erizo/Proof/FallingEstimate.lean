/-
**A falling estimate is reported at once.**

Watched from outside is when the last REMB was sent. A call is prompt if it sends a REMB whenever the estimate has dropped
below 97 percent of what was sent, and sends none if it has not and the last one was sent less than 200 milliseconds ago.
The handler does not compare the new estimate with what was sent: it moves what was sent by the difference from the
estimate before, in words (`movedBelow`).

* `sent_iff`: a call sends a REMB if that falls below the threshold, or if the last one was sent long enough ago.
* `prompt_iff`: every call of a run is prompt exactly if, at every call before its time, the two tests agree.
-/

import Erizo.Library.Machine
import Erizo.Model.BandwidthEstimationHandler
import Erizo.Proof.RembBitRate

namespace Erizo

open Library Library.Bytes RtcpHeader
open LayerDetectorHandler (timePointToMs)

namespace BandwidthEstimationHandler

/-! ### The clock -/

/-- Whole milliseconds. -/
def milliseconds (reading : Int64) : ℤ := reading.toInt.tdiv 1000000

theorem milliseconds_bound (reading : Int64) : -2 ^ 44 < milliseconds reading ∧ milliseconds reading < 2 ^ 44 := by
  have above := Int.tdiv_le_tdiv (show (0 : ℤ) < 1000000 by decide) reading.toInt_lt.le
  have below := Int.tdiv_le_tdiv (show (0 : ℤ) < 1000000 by decide) reading.le_toInt
  exact ⟨lt_of_lt_of_le (by decide) below, lt_of_le_of_lt above (by decide)⟩

theorem milliseconds_mono {first second : Int64} (ordered : first ≤ second) : milliseconds first ≤ milliseconds second :=
  Int.tdiv_le_tdiv (by decide) (Int64.le_iff_toInt_le.mp ordered)

/-- What went by between two readings, in words. -/
theorem toNat_elapsed {first second : Int64} (ordered : first ≤ second) :
    ((timePointToMs second.toInt - timePointToMs first.toInt).toNat : ℤ) = milliseconds second - milliseconds first := by
  have order := milliseconds_mono ordered
  have bounds := milliseconds_bound first
  have others := milliseconds_bound second
  have value (number : ℤ) : ((UInt64.ofInt number).toNat : ℤ) = number % 2 ^ 64 := by
    rw [UInt64.ofInt, UInt64.toNat_ofNat']
    omega
  rw [UInt64.toNat_sub]
  have high := value (milliseconds second)
  have low := value (milliseconds first)
  show (((2 ^ 64 - (UInt64.ofInt (milliseconds first)).toNat + (UInt64.ofInt (milliseconds second)).toNat)
    % 2 ^ 64 : ℕ) : ℤ) = _
  omega

/-! ### A call -/

/-- The estimate is not below the minimum. -/
def raised (bitrate : UInt32) : UInt32 := if bitrate < kRembMinimumBitrate then kRembMinimumBitrate else bitrate

/-- What was sent, moved by the difference of the estimates, is below the threshold; all in words. -/
def movedBelow (lastSent previous bitrate : ℕ) : Prop :=
  0 < lastSent ∧ (2 ^ 32 - previous + lastSent + bitrate) % 2 ^ 32 < 97 * lastSent % 2 ^ 32 / 100

variable {handler : BandwidthEstimationHandler}

theorem hasFallen_iff (bitrate : UInt32) :
    handler.hasFallen bitrate = true ↔
      movedBelow handler.lastSendBitrate.toNat handler.bitrate.toNat bitrate.toNat := by
  have moved : (handler.lastSendBitrate - handler.bitrate + bitrate).toNat =
      (2 ^ 32 - handler.bitrate.toNat + handler.lastSendBitrate.toNat + bitrate.toNat) % 2 ^ 32 := by
    rw [UInt32.toNat_add, UInt32.toNat_sub, Nat.mod_add_mod]
  have threshold : (kSendThresholdPercent * handler.lastSendBitrate / 100).toNat =
      97 * handler.lastSendBitrate.toNat % 2 ^ 32 / 100 := by
    rw [UInt32.toNat_div, UInt32.toNat_mul]
    rfl
  rw [hasFallen, Bool.and_eq_true, decide_eq_true_eq, decide_eq_true_eq, UInt32.lt_iff_toNat_lt, moved, threshold]
  exact and_congr_left' UInt32.lt_iff_toNat_lt

/-- The packet of an active handler. -/
theorem exists_sendREMBPacket (active : handler.active = true) :
    ∃ packet, handler.sendREMBPacket = some (some packet) := by
  unfold sendREMBPacket
  obtain ⟨after, written, -⟩ := @setREMBBitRate_spec (copy (fun _ => 0) 0 ([0x8F, psFeedbackPt] ++ encode16 5 ++
    encode32 handler.videoSinkSSRC ++ encode32 handler.videoSourceSSRC ++ [82, 69, 77, 66, 1, 0, 0, 0] ++
    encode32 handler.videoSourceSSRC)) 0
    (if handler.maxVideoBw > 0 then min handler.maxVideoBw handler.bitrate else handler.bitrate)
  simp only [written, Option.bind_eq_bind, Option.bind_some, active, if_true]
  exact ⟨_, rfl⟩

/-- **A call sends a REMB** or keeps it for later. -/
theorem step_cases (active : handler.active = true) (estimate : Estimate) (rembTime : UInt64)
    (time : rembTime = if handler.hasFallen estimate.bitrate then timePointToMs estimate.asked.toInt - kRembSendIntervallMs
      else handler.lastRembTime) :
    (kRembSendIntervallMs ≤ timePointToMs estimate.now.toInt - rembTime ∧ ∃ packet,
        handler.step estimate = ({ handler with
          lastRembTime := timePointToMs estimate.now.toInt
          bitrate := raised estimate.bitrate
          lastSendBitrate := raised estimate.bitrate }, some (some packet))) ∨
      (timePointToMs estimate.now.toInt - rembTime < kRembSendIntervallMs ∧
        handler.step estimate = ({ handler with
          lastRembTime := rembTime
          bitrate := raised estimate.bitrate }, some none)) := by
  unfold step onReceiveBitrateChanged
  simp only [← time]
  by_cases early : timePointToMs estimate.now.toInt - rembTime < kRembSendIntervallMs
  · exact Or.inr ⟨early, by simp only [early, if_true, raised]⟩
  · refine Or.inl ⟨UInt64.not_lt.mp early, ?_⟩
    simp only [early, if_false]
    obtain ⟨packet, sent⟩ := @exists_sendREMBPacket { handler with
      lastRembTime := timePointToMs estimate.now.toInt
      bitrate := raised estimate.bitrate
      lastSendBitrate := raised estimate.bitrate } active
    refine ⟨packet, ?_⟩
    unfold raised at sent ⊢
    simp only [sent, Option.bind_eq_bind, Option.bind_some]

/-! ### What is watched -/

/-- A call: what was sent last and when, the new estimate and whether a REMB was sent. -/
structure Call where
  lastSendBitrate : UInt32
  previous : Option Int64
  bitrate : UInt32
  now : Int64
  sent : Bool

/-- The estimate has dropped below 97 percent of what was sent. -/
def dropped (lastSent bitrate : UInt32) : Prop :=
  0 < lastSent.toNat ∧ 100 * max bitrate.toNat kRembMinimumBitrate.toNat < 97 * lastSent.toNat

/-- The last REMB was not sent less than 200 milliseconds ago. -/
def due (previous : Option Int64) (now : Int64) : Prop := ∀ time ∈ previous, 200 ≤ milliseconds now - milliseconds time

/-- **A call is prompt.** -/
structure Call.Prompt (call : Call) : Prop where
  drop : dropped call.lastSendBitrate call.bitrate → call.sent = true
  quiet : ¬dropped call.lastSendBitrate call.bitrate → ¬due call.previous call.now → call.sent = false

/-- The handler, with the time of the last REMB. -/
def watched (state : BandwidthEstimationHandler × Option Int64) (estimate : Estimate) :
    (BandwidthEstimationHandler × Option Int64) × Call :=
  let result := state.1.step estimate
  let sent := (result.2.getD none).isSome
  ((result.1, if sent then some estimate.now else state.2),
    ⟨state.1.lastSendBitrate, state.2, estimate.bitrate, estimate.now, sent⟩)

/-- **The tests agree**, or a REMB is due. -/
def TestsAgree (state : BandwidthEstimationHandler × Option Int64) (estimate : Estimate) : Prop :=
  due state.2 estimate.now ∨
    (dropped state.1.lastSendBitrate estimate.bitrate ↔
      movedBelow state.1.lastSendBitrate.toNat state.1.bitrate.toNat estimate.bitrate.toNat)

/-- **The handler knows when the last REMB was sent.** -/
structure Knows (state : BandwidthEstimationHandler × Option Int64) : Prop where
  active : state.1.active = true
  nothing : state.2 = none → state.1.lastSendBitrate = 0
  time : ∀ time ∈ state.2, state.1.lastRembTime = timePointToMs time.toInt

/-- The tests agree on an estimate that follows one that was sent, apart from rounding, small rates and large ones. -/
theorem dropped_iff_of_sent {lastSent bitrate : UInt32} (small : 97 * lastSent.toNat < 2 ^ 32)
    (above : kRembMinimumBitrate.toNat ≤ bitrate.toNat)
    (apart : 97 * lastSent.toNat ≤ 100 * bitrate.toNat ∨ 100 * bitrate.toNat + 100 ≤ 97 * lastSent.toNat) :
    dropped lastSent bitrate ↔ movedBelow lastSent.toNat lastSent.toNat bitrate.toNat := by
  have rate := bitrate.toNat_lt
  have moved : (2 ^ 32 - lastSent.toNat + lastSent.toNat + bitrate.toNat) % 2 ^ 32 = bitrate.toNat := by omega
  unfold dropped movedBelow
  rw [max_eq_left above, moved, Nat.mod_eq_of_lt small]
  omega

section Call

variable {state : BandwidthEstimationHandler × Option Int64} {estimate : Estimate}

/-- A fallen estimate is always sent. -/
theorem le_of_fallen (ordered : estimate.asked ≤ estimate.now) :
    kRembSendIntervallMs ≤
      timePointToMs estimate.now.toInt - (timePointToMs estimate.asked.toInt - kRembSendIntervallMs) := by
  have elapsed := toNat_elapsed ordered
  have bounds := milliseconds_bound estimate.now
  have others := milliseconds_bound estimate.asked
  have moved : timePointToMs estimate.now.toInt - (timePointToMs estimate.asked.toInt - kRembSendIntervallMs) =
      timePointToMs estimate.now.toInt - timePointToMs estimate.asked.toInt + kRembSendIntervallMs := by abel
  rw [moved, UInt64.le_iff_toNat_le, UInt64.toNat_add]
  show 200 ≤ (_ + 200) % 2 ^ 64
  omega

/-- **A call keeps the time**, and after a first REMB it sends one if the estimate is fallen or if one is due. -/
theorem watched_spec (knows : Knows state) (ordered : estimate.asked ≤ estimate.now)
    (later : ∀ time ∈ state.2, time ≤ estimate.now) :
    Knows (watched state estimate).1 ∧
      ∀ time ∈ state.2, (watched state estimate).2.sent = true ↔
        state.1.hasFallen estimate.bitrate = true ∨ due state.2 estimate.now := by
  obtain ⟨handler, previous⟩ := state
  have fallen (fast : handler.hasFallen estimate.bitrate = true) {time : UInt64}
      (same : time = if handler.hasFallen estimate.bitrate then
        timePointToMs estimate.asked.toInt - kRembSendIntervallMs else handler.lastRembTime) :
      kRembSendIntervallMs ≤ timePointToMs estimate.now.toInt - time := by
    rw [same, if_pos fast]
    exact le_of_fallen ordered
  have waited (slow : handler.hasFallen estimate.bitrate ≠ true) {last : Int64} (member : last ∈ previous) {time : UInt64}
      (same : time = if handler.hasFallen estimate.bitrate then
        timePointToMs estimate.asked.toInt - kRembSendIntervallMs else handler.lastRembTime) :
      kRembSendIntervallMs ≤ timePointToMs estimate.now.toInt - time ↔ due previous estimate.now := by
    rw [same, if_neg slow, show handler.lastRembTime = _ from knows.time last member, UInt64.le_iff_toNat_le]
    have elapsed := toNat_elapsed (later last member)
    refine ⟨fun enough other there => ?_, fun enough => ?_⟩
    · rw [Option.mem_unique there member]
      change 200 ≤ _ at enough
      omega
    · have enough := enough last member
      change 200 ≤ _
      omega
  unfold watched
  rcases step_cases knows.active estimate _ rfl with ⟨enough, packet, result⟩ | ⟨early, result⟩
  · rw [result]
    refine ⟨⟨knows.active, fun nothing => (nomatch nothing), fun time same => ?_⟩, fun last member => ?_⟩
    · rw [← Option.some_injective _ same]
    · refine iff_of_true rfl ?_
      by_cases fast : handler.hasFallen estimate.bitrate = true
      · exact Or.inl fast
      · exact Or.inr ((waited fast member rfl).mp enough)
  · have slow : handler.hasFallen estimate.bitrate ≠ true := fun fast => absurd (fallen fast rfl) (UInt64.not_le.mpr early)
    rw [result]
    refine ⟨⟨knows.active, knows.nothing, fun time member => ?_⟩, fun last member => ?_⟩
    · show (if handler.hasFallen estimate.bitrate then _ else handler.lastRembTime) = _
      rw [if_neg slow]
      exact knows.time time member
    · refine iff_of_false Bool.false_ne_true ?_
      rintro (fast | enough)
      · exact slow fast
      · exact absurd ((waited slow member rfl).mpr enough) (UInt64.not_le.mpr early)

/-- **A call is prompt** exactly if the tests agree. -/
theorem testsAgree_iff (knows : Knows state) (ordered : estimate.asked ≤ estimate.now)
    (later : ∀ time ∈ state.2, time ≤ estimate.now) :
    TestsAgree state estimate ↔ (watched state estimate).2.Prompt := by
  have sends := (watched_spec knows ordered later).2
  have same : (watched state estimate).2.previous = state.2 := rfl
  unfold TestsAgree
  cases previous : state.2 with
  | none =>
      refine iff_of_true (Or.inl fun _ absent => nomatch absent) ⟨fun drop => ?_, fun _ early => ?_⟩
      · have nothing : 0 < state.1.lastSendBitrate.toNat := drop.1
        rw [knows.nothing previous] at nothing
        exact absurd nothing (lt_irrefl 0)
      · exact absurd (fun _ absent => nomatch previous.symm.trans absent) early
  | some last =>
      have sends := sends last previous
      rw [hasFallen_iff, previous] at sends
      constructor
      · intro agree
        refine ⟨fun drop => sends.mpr ?_, fun kept early => ?_⟩
        · rcases agree with enough | both
          · exact Or.inr enough
          · exact Or.inl (both.mp drop)
        · rw [Bool.eq_false_iff, ne_eq, sends]
          rintro (moved | enough)
          · rcases agree with enough | both
            · exact early (same.trans previous ▸ enough)
            · exact kept (both.mpr moved)
          · exact early (same.trans previous ▸ enough)
      · intro prompt
        by_cases enough : due (some last) estimate.now
        · exact Or.inl enough
        · refine Or.inr ⟨fun drop => (sends.mp (prompt.drop drop)).resolve_right enough, fun moved => ?_⟩
          by_contra kept
          have silent := prompt.quiet kept fun early => enough (previous ▸ early)
          exact Bool.false_ne_true (silent.symm.trans (sends.mpr (Or.inl moved)))

end Call

/-! ### Every run -/

/-- The readings of the clock in a call. -/
def Estimate.readings (estimate : Estimate) : List Int64 := [estimate.asked, estimate.now]

/-- What is sent from a state that knows the time on. -/
theorem prompt_iff_of_knows {state : BandwidthEstimationHandler × Option Int64} (knows : Knows state)
    {estimates : List Estimate} (ordered : (state.2.toList ++ estimates.flatMap Estimate.readings).Pairwise (· ≤ ·)) :
    (∀ call ∈ Machine.outputs watched state estimates, call.Prompt) ↔
      Machine.Guarded watched TestsAgree state estimates := by
  induction estimates generalizing state with
  | nil => exact iff_of_true (fun _ absent => absurd absent List.not_mem_nil) trivial
  | cons estimate rest ih =>
      obtain ⟨-, behind, before⟩ := List.pairwise_append.mp ordered
      have readings : (estimate :: rest).flatMap Estimate.readings =
          estimate.asked :: estimate.now :: rest.flatMap Estimate.readings := rfl
      rw [readings] at ordered behind before
      have inside : estimate.now ∈ estimate.asked :: estimate.now :: rest.flatMap Estimate.readings :=
        List.mem_cons_of_mem _ List.mem_cons_self
      have order : estimate.asked ≤ estimate.now := List.rel_of_pairwise_cons behind List.mem_cons_self
      have later : ∀ time ∈ state.2, time ≤ estimate.now :=
        fun time member => before time (Option.mem_toList.mpr member) estimate.now inside
      have shorter : ((watched state estimate).1.2.toList ++ rest.flatMap Estimate.readings).Sublist
          (state.2.toList ++ estimate.asked :: estimate.now :: rest.flatMap Estimate.readings) := by
        unfold watched
        simp only
        split
        · exact (List.sublist_cons_self _ _).trans (List.sublist_append_right _ _)
        · refine List.Sublist.append_left ?_ _
          exact (List.sublist_cons_self _ _).trans (List.sublist_cons_self _ _)
      rw [Machine.outputs, List.forall_mem_cons, Machine.Guarded, testsAgree_iff knows order later,
        ih (watched_spec knows order later).1 (ordered.sublist shorter)]

/-- **A falling estimate is reported at once.** In every sequence of calls at times that do not go back, every call is
prompt exactly if at each of them a REMB is due or the two tests agree. -/
theorem prompt_iff (videoSinkSSRC videoSourceSSRC maxVideoBw : UInt32) (estimates : List Estimate)
    (ordered : (estimates.flatMap Estimate.readings).Pairwise (· ≤ ·)) :
    (∀ call ∈ Machine.outputs watched (create videoSinkSSRC videoSourceSSRC maxVideoBw, none) estimates, call.Prompt) ↔
      Machine.Guarded watched TestsAgree (create videoSinkSSRC videoSourceSSRC maxVideoBw, none) estimates :=
  prompt_iff_of_knows ⟨rfl, fun _ => rfl, fun _ absent => absurd absent (Option.not_mem_none _)⟩ ordered

/-- A first estimate, and one that is well below it, half a second later. -/
theorem prompt_iff_drop :
    (∀ call ∈ Machine.outputs watched (create 1 2 0, none)
        [⟨1000000000, 1000000000, 300000⟩, ⟨1500000000, 1500000000, 100000⟩], call.Prompt) ↔
      Machine.Guarded watched TestsAgree (create 1 2 0, none)
        [⟨1000000000, 1000000000, 300000⟩, ⟨1500000000, 1500000000, 100000⟩] :=
  prompt_iff 1 2 0 _ (by decide)

/-- **A slow decline**: each estimate is 98 percent of the one before, and the last is 96 percent of what was sent. -/
theorem not_prompt_decline :
    ¬∀ call ∈ Machine.outputs watched (create 1 2 0, none)
      [⟨1000000000, 1000000000, 100000⟩, ⟨1010000000, 1010000000, 98000⟩, ⟨1020000000, 1020000000, 96000⟩],
      call.Prompt := by
  intro all
  have values : (Machine.outputs watched (create 1 2 0, none)
      [⟨1000000000, 1000000000, 100000⟩, ⟨1010000000, 1010000000, 98000⟩, ⟨1020000000, 1020000000, 96000⟩]).map
        (fun call => (call.lastSendBitrate, call.bitrate, call.sent)) =
      [(0, 100000, true), (100000, 98000, false), (100000, 96000, false)] := by decide +kernel
  have last : (100000, 96000, false) ∈ [((0 : UInt32), (100000 : UInt32), true), (100000, 98000, false),
    (100000, 96000, false)] := by decide
  rw [← values] at last
  obtain ⟨call, member, same⟩ := List.mem_map.mp last
  obtain ⟨sent, bitrate, silent⟩ : call.lastSendBitrate = 100000 ∧ call.bitrate = 96000 ∧ call.sent = false := by
    simpa using same
  have drop := (all call member).drop
  rw [sent, bitrate, silent] at drop
  exact Bool.false_ne_true (drop ⟨by decide, by decide⟩)

end BandwidthEstimationHandler

end Erizo
