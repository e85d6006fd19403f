/-
**The rate control of a stream.**

A control period goes from one update of the mark to the next one. In each of them, the video that is handed to the
pipeline before the last packet is to keep to the rate. The counters of `sendPacket` start at zero in every call, so that
it holds nothing back (`sendPacket_video`): the periods have the packets that come in (`run_watchedPeriods`), and keep to
the rate exactly if these do (`limited_iff`).
-/

import Erizo.Library.Machine
import Erizo.Model.MediaStream

namespace Erizo

open Library Library.Bytes

namespace MediaStream

/-- The lengths of the video packets of each control period. -/
structure Periods where
  past : List (List ℤ) := []
  current : List ℤ := []

namespace Periods

/-- A new period. -/
def start (periods : Periods) : Periods := ⟨periods.past ++ [periods.current], []⟩

/-- One more packet. -/
def add (periods : Periods) (length : ℤ) : Periods := { periods with current := periods.current ++ [length] }

/-- **The rate is kept**: in each period, the bytes before the last packet come to no more. A period is a tenth of a
second. -/
def Limited (rate : ℕ) (periods : Periods) : Prop :=
  ∀ period ∈ periods.past ++ [periods.current], period.dropLast.sum * 80 ≤ rate

instance (rate : ℕ) (periods : Periods) : Decidable (Limited rate periods) := by
  unfold Limited
  infer_instance

end Periods

/-- A call of `sendPacket`. -/
structure Call where
  now : ℤ
  packet : DataPacket

/-- A stream, with the packets that it hands to the pipeline in each period. -/
def watchedPeriods (state : Sender × Periods) (call : Call) : (Sender × Periods) × Unit :=
  let result := state.1.sendPacket call.now call.packet
  let periods := if result.1.mark ≠ state.1.mark then state.2.start else state.2
  let periods :=
    match result.2 with
    | some packet => if packet.type = .video then periods.add packet.length else periods
    | none => periods
  ((result.1, periods), ())

/-- The packets that come in, in the same periods. -/
def offer (state : ℤ × Periods) (call : Call) : ℤ × Periods :=
  if call.packet.type = .video then
    if call.now - state.1 ≥ kBitrateControlPeriod then (call.now, state.2.start.add call.packet.length)
    else (state.1, state.2.add call.packet.length)
  else state

section Stream

variable {stream : Sender} {call : Call}

/-- A stream that has a rate. -/
structure Controls (stream : Sender) : Prop where
  rate : 1 < stream.rateControl
  slideShow : stream.slideShowMode = false

theorem writeToPipeline_eq (p : DataPacket) :
    stream.writeToPipeline p = (stream, if stream.pipelineInitialized && stream.pipeline then some p else none) := by
  unfold Sender.writeToPipeline
  split
  · rfl
  · rfl

/-- **Video is not held back**, whatever the rate. -/
theorem sendPacket_video (controls : Controls stream) (sending : stream.sending = true)
    (video : call.packet.type = .video) :
    stream.sendPacket call.now call.packet =
      ({ stream with mark := if call.now - stream.mark ≥ kBitrateControlPeriod then call.now else stream.mark },
        if stream.pipelineInitialized && stream.pipeline then some call.packet else none) := by
  have some_rate : stream.rateControl ≠ 0 := by
    intro none
    exact absurd (none ▸ controls.rate) (by decide)
  have more : stream.rateControl ≠ 1 := fun one => absurd controls.rate (one ▸ UInt32.lt_irrefl 1)
  have nothing (rate : UInt32) : ¬(((0 : UInt64) - 0) * 8 * 10).toUInt32 > rate := UInt32.not_lt.mpr (UInt32.zero_le)
  have running : ¬(!stream.sending) = true := by rw [sending]; decide
  unfold Sender.sendPacket
  rw [if_neg running]
  simp only
  rw [if_pos ⟨some_rate, controls.slideShow, video⟩, if_neg more]
  by_cases late : call.now - stream.mark ≥ kBitrateControlPeriod
  · simp only [late, if_true]
    rw [if_neg (nothing _), writeToPipeline_eq]
  · simp only [late, if_false]
    rw [if_neg (nothing _), writeToPipeline_eq]

theorem sendPacket_other (sending : stream.sending = true) (other : call.packet.type ≠ .video) :
    stream.sendPacket call.now call.packet =
      (stream, if stream.pipelineInitialized && stream.pipeline then some call.packet else none) := by
  unfold Sender.sendPacket
  simp only [sending, Bool.not_true, Bool.false_eq_true, if_false]
  rw [if_neg fun all => other all.2.2, writeToPipeline_eq]

theorem sendPacket_of_stopped (stopped : stream.sending = false) :
    stream.sendPacket call.now call.packet = (stream, none) := by
  unfold Sender.sendPacket
  rw [stopped]
  rfl

/-- **A stream in operation**: it has a rate, and what it sends reaches the pipeline. -/
structure Operates (stream : Sender) : Prop extends Controls stream where
  sending : stream.sending = true
  written : (stream.pipelineInitialized && stream.pipeline) = true

/-- The mark that a video packet leaves. -/
theorem mark_ne_iff (stream : Sender) (now : ℤ) :
    (if now - stream.mark ≥ kBitrateControlPeriod then now else stream.mark) ≠ stream.mark ↔
      now - stream.mark ≥ kBitrateControlPeriod := by
  have long : 0 < kBitrateControlPeriod := by decide
  split
  · omega
  · rename_i early
    exact iff_of_false (fun other => other rfl) early

/-- **A call of a stream in operation** puts the packet where it comes in. -/
theorem Operates.step (operates : Operates stream) (periods : Periods) (call : Call) :
    Operates (watchedPeriods (stream, periods) call).1.1 ∧
      ((watchedPeriods (stream, periods) call).1.1.mark, (watchedPeriods (stream, periods) call).1.2) =
        offer (stream.mark, periods) call := by
  unfold watchedPeriods offer
  by_cases video : call.packet.type = .video
  · simp only [sendPacket_video operates.toControls operates.sending video, operates.written, video, if_true, mark_ne_iff]
    refine ⟨⟨⟨operates.rate, operates.slideShow⟩, operates.sending, operates.written⟩, ?_⟩
    split
    · rfl
    · rfl
  · simp only [sendPacket_other operates.sending video, operates.written, video, if_true, if_false, ne_eq, not_true]
    exact ⟨operates, trivial⟩

/-- **The periods have the packets that come in.** -/
theorem Operates.run (operates : Operates stream) (periods : Periods) (calls : List Call) :
    (Machine.run watchedPeriods (stream, periods) calls).2 = (calls.foldl offer (stream.mark, periods)).2 := by
  induction calls generalizing stream periods with
  | nil => rfl
  | cons call rest ih =>
      obtain ⟨onward, same⟩ := operates.step periods call
      rw [Machine.run_cons, List.foldl_cons, ← same]
      exact ih onward _

/-- **A stream out of operation**: it has a rate, and nothing that it sends reaches the pipeline. -/
structure Rests (stream : Sender) : Prop extends Controls stream where
  blocked : (stream.sending && (stream.pipelineInitialized && stream.pipeline)) = false

theorem Rests.step (rests : Rests stream) (call : Call) :
    Rests (stream.sendPacket call.now call.packet).1 ∧ (stream.sendPacket call.now call.packet).2 = none := by
  cases sending : stream.sending with
  | false =>
      rw [sendPacket_of_stopped sending]
      exact ⟨rests, rfl⟩
  | true =>
      have blocked : (stream.pipelineInitialized && stream.pipeline) = false := by
        rw [← rests.blocked, sending, Bool.true_and]
      by_cases video : call.packet.type = .video
      · rw [sendPacket_video rests.toControls sending video, blocked]
        exact ⟨⟨⟨rests.rate, rests.slideShow⟩, rests.blocked⟩, rfl⟩
      · rw [sendPacket_other sending video, blocked]
        exact ⟨rests, rfl⟩

/-- Nothing was handed to the pipeline. -/
def Silent (periods : Periods) : Prop := ∀ period ∈ periods.past ++ [periods.current], period = []

theorem silent_default : Silent {} := fun _ member => List.mem_singleton.mp member

theorem Silent.start {periods : Periods} (silent : Silent periods) : Silent periods.start :=
  List.forall_mem_append.mpr ⟨silent, List.forall_mem_singleton.mpr rfl⟩

theorem Silent.limited {periods : Periods} (silent : Silent periods) (rate : ℕ) : periods.Limited rate := by
  intro period member
  rw [silent period member]
  exact Int.natCast_nonneg rate

theorem Rests.run (rests : Rests stream) {periods : Periods} (silent : Silent periods) (calls : List Call) :
    Silent (Machine.run watchedPeriods (stream, periods) calls).2 := by
  induction calls generalizing stream periods with
  | nil => exact silent
  | cons call rest ih =>
      obtain ⟨onward, nothing⟩ := rests.step call
      rw [Machine.run_cons]
      unfold watchedPeriods
      simp only [nothing]
      refine ih onward ?_
      split
      · exact silent.start
      · exact silent

end Stream

/-- **The rate control.** Whatever the rate, in every run each control period keeps to it exactly if nothing that is sent
reaches the pipeline or the packets that come in keep to it themselves. -/
theorem limited_iff (stream : Sender) (willSendFb : Bool) (targetBitrate : UInt32) (rate : 1 < targetBitrate)
    (slideShow : stream.slideShowMode = false) (calls : List Call) :
    (Machine.run watchedPeriods (stream.setFeedbackReports willSendFb targetBitrate, {}) calls).2.Limited
        targetBitrate.toNat ↔
      (stream.sending && (stream.pipelineInitialized && stream.pipeline)) = false ∨
        (calls.foldl offer (stream.mark, {})).2.Limited targetBitrate.toNat := by
  have more : targetBitrate ≠ 1 := fun one => absurd rate (one ▸ UInt32.lt_irrefl 1)
  have set : stream.setFeedbackReports willSendFb targetBitrate =
      { stream with shouldSendFeedback := willSendFb, rateControl := targetBitrate } := by
    unfold Sender.setFeedbackReports
    simp only [slideShow, Bool.false_eq_true, if_false]
    rw [if_neg more]
  have controls : Controls (stream.setFeedbackReports willSendFb targetBitrate) := by
    rw [set]
    exact ⟨rate, slideShow⟩
  rw [set] at controls ⊢
  cases opened : stream.sending && (stream.pipelineInitialized && stream.pipeline) with
  | false =>
      have rests :
          Rests { stream with shouldSendFeedback := willSendFb, rateControl := targetBitrate } := ⟨controls, opened⟩
      exact iff_of_true ((rests.run silent_default calls).limited _) (Or.inl rfl)
  | true =>
      obtain ⟨sending, written⟩ := Bool.and_eq_true_iff.mp opened
      have operates : Operates { stream with shouldSendFeedback := willSendFb, rateControl := targetBitrate } :=
        ⟨controls, sending, written⟩
      rw [operates.run]
      exact (or_iff_right fun impossible => Bool.false_ne_true impossible.symm).symm

/-- A stream that sends to a pipeline. -/
def runningStream : Sender := ⟨true, false, true, true, 0, 0, true, true⟩

/-- Two packets of a hundred bytes, in two periods, at a thousand bits per second. -/
theorem limited_iff_slow :
    (Machine.run watchedPeriods (runningStream.setFeedbackReports true 1000, {})
        [⟨0, { videoPacket [] with length := 100 }⟩, ⟨200000000, { videoPacket [] with length := 100 }⟩]).2.Limited 1000 ↔
      (runningStream.sending && (runningStream.pipelineInitialized && runningStream.pipeline)) = false ∨
        ([⟨0, { videoPacket [] with length := 100 }⟩, ⟨200000000, { videoPacket [] with length := 100 }⟩].foldl offer
          (runningStream.mark, {})).2.Limited 1000 :=
  limited_iff runningStream true 1000 (by decide) rfl _

/-- **Three packets of a hundred bytes at once**, at a thousand bits per second. -/
theorem not_limited_burst :
    ¬(Machine.run watchedPeriods (runningStream.setFeedbackReports true 1000, {})
      [⟨0, { videoPacket [] with length := 100 }⟩, ⟨0, { videoPacket [] with length := 100 }⟩,
        ⟨0, { videoPacket [] with length := 100 }⟩]).2.Limited 1000 := by
  decide

end MediaStream

end Erizo
