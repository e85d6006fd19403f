/-
**The PLI pacer keeps its wait alive.**

At most one task of the handler is not cancelled, and only during a wait (`Paced`, an invariant of every run). A task
that runs while the handler is disabled sends its PLI and schedules no other one: the wait goes on without a task, and
when the handler is enabled again every PLI is dropped, until a keyframe comes (`dropped_after_lapse`).

* `paces`: as long as no task lapses in this way, there is exactly one task during a wait and none otherwise.
* In every run, the PLIs that are written without an interruption are `minPLIPeriod` apart (`spaced_pair`).
-/

import Erizo.Model.PliPacerHandler

namespace Erizo

open Library Library.Bytes

/-! ### Feedback of one block -/

namespace RtpUtils

/-- A packet of one block has the feedback of that block. -/
theorem hasPsFeedback_single {packet : DataPacket} (fmt : ℕ) (rtcp : RtcpHeader.isRtcp packet.data 0 = true)
    (whole : packet.length ≤ RtcpHeader.blockLength packet.data 0) :
    hasPsFeedback fmt packet = (RtcpHeader.getPacketType packet.data 0 = RtcpHeader.psFeedbackPt &&
      RtcpHeader.getBlockCount packet.data 0 = fmt) := by
  rw [hasPsFeedback, forEachRtcpBlock, if_pos rtcp, blockLoop, Option.bind_eq_bind, Option.bind_some, Nat.zero_add,
    if_neg (not_lt.mpr whole), Option.getD_some, Bool.false_or]

variable (sourceSSRC sinkSSRC : UInt32) (seqNumber : UInt8)

theorem blockLength_createFIR : RtcpHeader.blockLength (createFIR sourceSSRC sinkSSRC seqNumber).data 0 = 20 := by
  have high : (createFIR sourceSSRC sinkSSRC seqNumber).data 2 = 0 := rfl
  have low : (createFIR sourceSSRC sinkSSRC seqNumber).data 3 = 4 := rfl
  rw [RtcpHeader.blockLength, RtcpHeader.getLength, read16, high, low]
  rfl

theorem hasPsFeedback_createFIR (fmt : ℕ) :
    hasPsFeedback fmt (createFIR sourceSSRC sinkSSRC seqNumber) = (RtcpHeader.firFmt = fmt : Bool) := by
  have whole : (createFIR sourceSSRC sinkSSRC seqNumber).length ≤
      RtcpHeader.blockLength (createFIR sourceSSRC sinkSSRC seqNumber).data 0 := by
    rw [blockLength_createFIR]
    exact le_of_eq rfl
  have type : RtcpHeader.getPacketType (createFIR sourceSSRC sinkSSRC seqNumber).data 0 = RtcpHeader.psFeedbackPt := rfl
  have first : (createFIR sourceSSRC sinkSSRC seqNumber).data 0 = 0x84 := rfl
  have count : RtcpHeader.getBlockCount (createFIR sourceSSRC sinkSSRC seqNumber).data 0 = RtcpHeader.firFmt := by
    rw [RtcpHeader.getBlockCount, first]
    rfl
  rw [hasPsFeedback_single fmt rfl whole, type, count, decide_eq_true rfl, Bool.true_and]

theorem isFIR_createFIR : isFIR (createFIR sourceSSRC sinkSSRC seqNumber) = true :=
  hasPsFeedback_createFIR _ _ _ _

theorem isPLI_createFIR : isPLI (createFIR sourceSSRC sinkSSRC seqNumber) = false :=
  hasPsFeedback_createFIR _ _ _ _

end RtpUtils

/-! ### Tasks of the worker -/

namespace Worker

variable {worker : Worker}

/-- What is given out as a new reference has not been used. -/
structure Fresh (worker : Worker) : Prop where
  tasks : ∀ task ∈ worker.tasks, task.id < worker.references
  cancelled : ∀ id ∈ worker.cancelled, id < worker.references

theorem Fresh.reference (fresh : worker.Fresh) : worker.reference.1.Fresh where
  tasks task member := Nat.lt_succ_of_lt (fresh.tasks task member)
  cancelled id member := Nat.lt_succ_of_lt (fresh.cancelled id member)

theorem Fresh.schedule (fresh : worker.Fresh) (now delta : ℤ) : (worker.scheduleFromNow now delta).1.Fresh where
  tasks task member := by
    rcases List.mem_append.mp member with old | new
    · exact Nat.lt_succ_of_lt (fresh.tasks task old)
    · obtain rfl := List.mem_singleton.mp new
      exact Nat.lt_succ_self _
  cancelled id member := Nat.lt_succ_of_lt (fresh.cancelled id member)

theorem Fresh.unschedule (fresh : worker.Fresh) {id : ℕ} (used : id < worker.references) :
    (worker.unschedule id).Fresh where
  tasks := fresh.tasks
  cancelled other member := by
    rcases List.mem_cons.mp member with rfl | old
    · exact used
    · exact fresh.cancelled other old

theorem Fresh.erase (fresh : worker.Fresh) (task : ScheduledTask) :
    ({ worker with tasks := worker.tasks.erase task } : Worker).Fresh where
  tasks other member := fresh.tasks other (List.mem_of_mem_erase member)
  cancelled := fresh.cancelled

theorem mem_pending {task : ScheduledTask} :
    task ∈ worker.pending ↔ task ∈ worker.tasks ∧ worker.isCancelled task.id = false := by
  rw [pending, List.mem_filter, Bool.not_eq_true']

/-- A scheduled task is pending. -/
theorem pending_schedule (fresh : worker.Fresh) (now delta : ℤ) :
    (worker.scheduleFromNow now delta).1.pending = worker.pending ++ [⟨worker.references, now + delta⟩] := by
  have live : worker.isCancelled worker.references = false := by
    rw [isCancelled, List.contains_eq_mem, decide_eq_false_iff_not]
    exact fun member => lt_irrefl _ (fresh.cancelled _ member)
  show (worker.tasks ++ [_]).filter _ = _
  rw [List.filter_append, List.filter_singleton, show (worker.scheduleFromNow now delta).1.isCancelled
    (ScheduledTask.mk worker.references (now + delta)).id = false from live]
  rfl

/-- An unscheduled task is not. -/
theorem pending_unschedule (worker : Worker) (id : ℕ) :
    (worker.unschedule id).pending = worker.pending.filter fun task => task.id ≠ id := by
  rw [pending, pending, List.filter_filter]
  refine List.filter_congr fun task _ => ?_
  rw [isCancelled, isCancelled, unschedule, List.contains_cons, Bool.not_or, decide_not]
  rfl

theorem pending_erase (worker : Worker) (task : ScheduledTask) :
    ({ worker with tasks := worker.tasks.erase task } : Worker).pending = worker.pending.erase task :=
  List.erase_filter.symm

end Worker

namespace PliPacerHandler

/-! ### Steps -/

/-- **What is known of a handler** in every run: a task that is not cancelled is the handler's last one, and there is
none without a wait. -/
structure Paced (handler : PliPacerHandler) : Prop where
  fresh : handler.worker.Fresh
  used : handler.scheduledPli < handler.worker.references
  idle : handler.waitingForKeyframe = false → handler.worker.pending = []
  alone : ∀ task ∈ handler.worker.pending, task.id = handler.scheduledPli ∧ handler.worker.pending = [task]

/-- A task is pending while the handler waits. -/
def Alive (handler : PliPacerHandler) : Prop := handler.waitingForKeyframe = true → handler.worker.pending ≠ []

/-- An event is a task that runs while the handler is disabled, and finds that a PLI is to be sent. -/
def Lapses (handler : PliPacerHandler) : Event → Prop
  | .expire task => handler.enabled = false ∧ task ∈ handler.worker.pending ∧ task.time ≤ handler.clock ∧
      handler.clock - handler.timeLastKeyframe < keyframeTimeout
  | .write _ | .read _ | .enable | .disable | .tick _ => False

section Steps

variable {handler : PliPacerHandler}

/-- Nothing is pending, and a task may be scheduled. -/
theorem paced_schedule (fresh : handler.worker.Fresh) (used : handler.scheduledPli < handler.worker.references)
    (quiet : handler.worker.pending = []) : handler.scheduleNextPLI.Paced := by
  unfold scheduleNextPLI
  split
  · exact ⟨fresh, used, fun _ => quiet, fun task member => absurd (quiet ▸ member) List.not_mem_nil⟩
  · rename_i goesOn
    have pending := Worker.pending_schedule fresh handler.clock minPLIPeriod
    rw [quiet, List.nil_append] at pending
    refine ⟨fresh.schedule _ _, Nat.lt_succ_self _, fun idle => ?_, fun task member => ?_⟩
    · change handler.waitingForKeyframe = false at idle
      rw [idle] at goesOn
      exact absurd rfl goesOn
    · have only : task ∈ [(⟨handler.worker.references, handler.clock + minPLIPeriod⟩ : ScheduledTask)] := by
        rw [← pending]
        exact member
      obtain rfl := List.mem_singleton.mp only
      exact ⟨rfl, pending⟩

theorem pending_scheduleNextPLI (fresh : handler.worker.Fresh) (quiet : handler.worker.pending = [])
    (waiting : handler.waitingForKeyframe = true) (enabled : handler.enabled = true) :
    handler.scheduleNextPLI.worker.pending = [⟨handler.worker.references, handler.clock + minPLIPeriod⟩] := by
  have pending := Worker.pending_schedule fresh handler.clock minPLIPeriod
  rw [quiet, List.nil_append] at pending
  rw [scheduleNextPLI, waiting, enabled, if_neg (by decide)]
  exact pending

theorem scheduleNextPLI_frame (handler : PliPacerHandler) :
    handler.scheduleNextPLI.waitingForKeyframe = handler.waitingForKeyframe ∧
      handler.scheduleNextPLI.enabled = handler.enabled ∧ handler.scheduleNextPLI.clock = handler.clock := by
  unfold scheduleNextPLI
  split
  · exact ⟨rfl, rfl, rfl⟩
  · exact ⟨rfl, rfl, rfl⟩

/-- A pending task runs: nothing is pending any more. -/
theorem Paced.pending_erase (paced : handler.Paced) {task : ScheduledTask} (member : task ∈ handler.worker.pending) :
    ({ handler.worker with tasks := handler.worker.tasks.erase task } : Worker).pending = [] := by
  rw [Worker.pending_erase, (paced.alone task member).2, List.erase_cons_head]

/-- **What an event can do** to a handler, besides the clock and the switch. -/
inductive Effect (handler : PliPacerHandler) : Event → PliPacerHandler × List DataPacket → Prop
  | silent {event : Event} {next : PliPacerHandler} {written : List DataPacket}
      (paced : next.Paced) (same : next.worker.pending = handler.worker.pending)
      (waits : next.waitingForKeyframe = handler.waitingForKeyframe) (later : handler.clock ≤ next.clock)
      (quiet : handler.enabled = true ∨ next.enabled = true → ∀ packet ∈ written, RtpUtils.isPLI packet = false) :
      Effect handler event (next, written)
  | starts {packet : DataPacket} {next : PliPacerHandler} (enabled : handler.enabled = true)
      (idle : handler.waitingForKeyframe = false) (paced : next.Paced)
      (waits : next.waitingForKeyframe = true)
      (pending : ∃ id, next.worker.pending = [⟨id, handler.clock + minPLIPeriod⟩]) :
      Effect handler (.write packet) (next, [packet])
  | keyframe {packet : DetectedPacket} {next : PliPacerHandler} (enabled : handler.enabled = true)
      (detected : packet.isKeyframe = true) (paced : next.Paced) (ends : next.waitingForKeyframe = false) :
      Effect handler (.read packet) (next, [])
  | again {task : ScheduledTask} {next : PliPacerHandler} {packet : DataPacket} (member : task ∈ handler.worker.pending)
      (due : task.time ≤ handler.clock) (soon : handler.clock - handler.timeLastKeyframe < keyframeTimeout)
      (paced : next.Paced) (waits : next.waitingForKeyframe = handler.waitingForKeyframe)
      (switch : next.enabled = handler.enabled)
      (pending : handler.waitingForKeyframe = true → handler.enabled = true →
        ∃ id, next.worker.pending = [⟨id, handler.clock + minPLIPeriod⟩])
      (lapsed : handler.enabled = false → next.worker.pending = []) :
      Effect handler (.expire task) (next, [packet])
  | givesUp {task : ScheduledTask} {next : PliPacerHandler} {written : List DataPacket}
      (member : task ∈ handler.worker.pending) (paced : next.Paced) (ends : next.waitingForKeyframe = false)
      (fir : ∃ packet ∈ written, RtpUtils.isFIR packet = true) (noPli : ∀ packet ∈ written, RtpUtils.isPLI packet = false) :
      Effect handler (.expire task) (next, written)

theorem write_effect (paced : handler.Paced) (packet : DataPacket) :
    handler.Effect (.write packet) (handler.write packet) := by
  unfold write
  split
  · rename_i pli
    rw [Bool.and_eq_true] at pli
    split
    · exact .silent paced rfl rfl le_rfl nofun
    · rename_i idle
      have quiet := paced.idle (Bool.eq_false_iff.mpr idle)
      exact .starts pli.1 (Bool.eq_false_iff.mpr idle)
        (@paced_schedule { handler with waitingForKeyframe := true } paced.fresh paced.used quiet)
        (scheduleNextPLI_frame _).1 ⟨_, pending_scheduleNextPLI paced.fresh quiet rfl pli.1⟩
  · rename_i other
    refine .silent paced rfl rfl le_rfl fun enabled packet member => ?_
    obtain rfl := List.mem_singleton.mp member
    have switch : handler.enabled = true := enabled.elim id id
    rw [switch, Bool.true_and] at other
    exact Bool.eq_false_iff.mpr other

theorem read_effect (paced : handler.Paced) (packet : DetectedPacket) :
    handler.Effect (.read packet) (handler.read packet, []) := by
  unfold read
  split
  · rename_i keyframe
    rw [Bool.and_eq_true] at keyframe
    -- Whatever was pending had the reference that is cancelled.
    have quiet : (handler.worker.unschedule handler.scheduledPli).pending = [] := by
      rw [Worker.pending_unschedule, List.filter_eq_nil_iff]
      exact fun task member differs => of_decide_eq_true differs (paced.alone task member).1
    refine .keyframe keyframe.1 keyframe.2 ?_ rfl
    exact ⟨(paced.fresh.unschedule paced.used).reference, Nat.lt_succ_self _, fun _ => quiet,
      fun task member => absurd (quiet ▸ member) List.not_mem_nil⟩
  · exact .silent paced rfl rfl le_rfl nofun

theorem expire_effect (paced : handler.Paced) (task : ScheduledTask) :
    handler.Effect (.expire task) (handler.expire task) := by
  unfold expire
  split
  · rename_i here
    simp only
    split
    · rename_i cancelled
      -- A cancelled task was not pending.
      have same : ({ handler.worker with tasks := handler.worker.tasks.erase task } : Worker).pending =
          handler.worker.pending := by
        rw [Worker.pending_erase]
        refine List.erase_of_not_mem fun member => ?_
        exact absurd (cancelled.symm.trans (Worker.mem_pending.mp member).2) nofun
      refine .silent ⟨paced.fresh.erase task, paced.used, fun idle => same.trans (paced.idle idle), ?_⟩ same rfl le_rfl
        nofun
      show ∀ other ∈ ({ handler.worker with tasks := handler.worker.tasks.erase task } : Worker).pending, _
      rw [same]
      exact paced.alone
    · rename_i live
      have member : task ∈ handler.worker.pending := Worker.mem_pending.mpr ⟨here.1, Bool.eq_false_iff.mpr live⟩
      have quiet := paced.pending_erase member
      unfold onTimeout
      split
      · refine .givesUp member ?_ rfl ⟨_, List.mem_cons_self, RtpUtils.isFIR_createFIR _ _ _⟩ ?_
        · exact ⟨(paced.fresh.erase task).reference, Nat.lt_succ_self _, fun _ => quiet,
            fun task member => absurd (quiet ▸ member) List.not_mem_nil⟩
        · intro packet written
          simp only [List.mem_cons, List.not_mem_nil, or_false] at written
          rcases written with rfl | rfl | rfl <;> exact RtpUtils.isPLI_createFIR _ _ _
      · rename_i soon
        refine .again member here.2 (not_le.mp soon)
          (@paced_schedule { handler with worker := { handler.worker with tasks := handler.worker.tasks.erase task } }
            (paced.fresh.erase task) paced.used quiet) (scheduleNextPLI_frame _).1 (scheduleNextPLI_frame _).2.1
          (fun waiting enabled => ⟨_, pending_scheduleNextPLI (paced.fresh.erase task) quiet waiting enabled⟩)
          fun disabled => ?_
        rw [scheduleNextPLI, if_pos]
        · exact quiet
        · show (!handler.waitingForKeyframe || !handler.enabled) = true
          rw [disabled, Bool.not_false, Bool.or_true]
  · exact .silent paced rfl rfl le_rfl nofun

/-- **The effect of every event.** -/
theorem step_effect (paced : handler.Paced) (event : Event) : handler.Effect event (handler.step event) := by
  cases event with
  | write packet => exact write_effect paced packet
  | read packet => exact read_effect paced packet
  | expire task => exact expire_effect paced task
  | enable => exact .silent ⟨paced.fresh, paced.used, paced.idle, paced.alone⟩ rfl rfl le_rfl nofun
  | disable => exact .silent ⟨paced.fresh, paced.used, paced.idle, paced.alone⟩ rfl rfl le_rfl nofun
  | tick elapsed =>
      refine .silent ⟨paced.fresh, paced.used, paced.idle, paced.alone⟩ rfl rfl ?_ nofun
      show handler.clock ≤ handler.clock + elapsed
      omega

theorem Effect.paced {event : Event} {outcome : PliPacerHandler × List DataPacket} (effect : handler.Effect event outcome) :
    outcome.1.Paced := by
  cases effect <;> assumption

/-- **Without a lapse the wait stays alive.** -/
theorem Effect.alive {event : Event} {outcome : PliPacerHandler × List DataPacket} (effect : handler.Effect event outcome)
    (holds : ¬ handler.Lapses event) (alive : handler.Alive) : outcome.1.Alive := by
  intro waiting
  cases effect with
  | silent paced same waits later quiet =>
      rw [same]
      exact alive (waits.symm.trans waiting)
  | starts enabled idle paced waits pending =>
      obtain ⟨id, pending⟩ := pending
      exact pending ▸ List.cons_ne_nil _ _
  | keyframe enabled detected paced ends => exact absurd (ends.symm.trans waiting) nofun
  | again member due soon paced waits switch pending lapsed =>
      have enabled : handler.enabled = true := by
        by_contra disabled
        exact holds ⟨Bool.eq_false_iff.mpr disabled, member, due, soon⟩
      obtain ⟨id, pending⟩ := pending (waits.symm.trans waiting) enabled
      exact pending ▸ List.cons_ne_nil _ _
  | givesUp member paced ends fir noPli => exact absurd (ends.symm.trans waiting) nofun

end Steps

/-! ### Lapses -/

/-- A handler that waits without a task. -/
def Stuck (handler : PliPacerHandler) : Prop :=
  handler.waitingForKeyframe = true ∧ handler.worker.pending = []

section Lapse

variable {handler : PliPacerHandler}

theorem Paced.waits (paced : handler.Paced) {task : ScheduledTask} (member : task ∈ handler.worker.pending) :
    handler.waitingForKeyframe = true := by
  by_contra idle
  rw [paced.idle (Bool.eq_false_iff.mpr idle)] at member
  exact absurd member List.not_mem_nil

/-- **A lapse ends the wait's tasks but not the wait.** -/
theorem stuck_after_lapse (paced : handler.Paced) {event : Event} (lapses : handler.Lapses event) :
    (handler.step event).1.Stuck := by
  cases event with
  | expire task =>
      obtain ⟨disabled, member, due, soon⟩ := lapses
      have live := Worker.mem_pending.mp member
      have runs :
          ¬ ({ handler.worker with tasks := handler.worker.tasks.erase task } : Worker).isCancelled task.id = true := by
        show ¬ handler.worker.isCancelled task.id = true
        rw [live.2]
        exact Bool.false_ne_true
      show (handler.expire task).1.Stuck
      rw [expire, if_pos ⟨live.1, due⟩]
      simp only
      rw [if_neg runs, onTimeout, if_neg (not_le.mpr soon), sendPLI, scheduleNextPLI, if_pos]
      · exact ⟨paced.waits member, paced.pending_erase member⟩
      · show (!handler.waitingForKeyframe || !handler.enabled) = true
        rw [disabled, Bool.not_false, Bool.or_true]
  | write _ | read _ | enable | disable | tick _ => exact lapses.elim

/-- **A handler that is stuck stays so** until it reads a keyframe. -/
theorem stuck_step (paced : handler.Paced) (stuck : handler.Stuck) {event : Event}
    (other : ∀ packet, event = .read packet → packet.isKeyframe = false) : (handler.step event).1.Stuck := by
  have effect := step_effect paced event
  generalize handler.step event = outcome at effect ⊢
  cases effect with
  | silent paced same waits later quiet => exact ⟨waits.trans stuck.1, same.trans stuck.2⟩
  | starts enabled idle paced waits pending => exact absurd (idle.symm.trans stuck.1) nofun
  | keyframe enabled detected paced ends => exact absurd (detected.symm.trans (other _ rfl)) nofun
  | again member due soon paced waits switch pending lapsed =>
      rw [stuck.2] at member
      exact absurd member List.not_mem_nil
  | givesUp member paced ends fir noPli =>
      rw [stuck.2] at member
      exact absurd member List.not_mem_nil

/-- It drops every PLI. -/
theorem write_stuck (stuck : handler.Stuck) (enabled : handler.enabled = true) {packet : DataPacket}
    (pli : RtpUtils.isPLI packet = true) : handler.write packet = (handler, []) := by
  rw [write, enabled, pli, Bool.and_self, if_pos rfl, if_pos stuck.1]

end Lapse

/-! ### Two PLIs -/

/-- An event writes a PLI. -/
def WritesPLI (handler : PliPacerHandler) (event : Event) : Prop :=
  ∃ packet ∈ (handler.step event).2, RtpUtils.isPLI packet = true

/-- The handler is enabled, and an event neither brings a keyframe nor writes a FIR. -/
def Uninterrupted (handler : PliPacerHandler) (event : Event) : Prop :=
  handler.enabled = true ∧ (∀ packet, event = .read packet → packet.isKeyframe = false) ∧
    ∀ packet ∈ (handler.step event).2, RtpUtils.isFIR packet = false

/-- A handler that has written a PLI at a moment, and writes none for a period. -/
structure Holds (moment : ℤ) (handler : PliPacerHandler) : Prop where
  paced : handler.Paced
  waits : handler.waitingForKeyframe = true
  later : ∀ task ∈ handler.worker.pending, moment + minPLIPeriod ≤ task.time

section Spacing

variable {handler : PliPacerHandler} {moment : ℤ} {event : Event}

theorem holds_after (paced : handler.Paced) (pli : handler.WritesPLI event)
    (enabled : (handler.step event).1.enabled = true) : Holds handler.clock (handler.step event).1 := by
  have effect := step_effect paced event
  obtain ⟨packet, written, pli⟩ := pli
  generalize handler.step event = outcome at effect written enabled ⊢
  cases effect with
  | silent paced same waits later quiet =>
      exact absurd (pli.symm.trans (quiet (Or.inr enabled) packet written)) nofun
  | starts enabled idle paced waits pending =>
      obtain ⟨id, pending⟩ := pending
      refine ⟨paced, waits, fun task member => ?_⟩
      rw [pending] at member
      exact le_of_eq (List.mem_singleton.mp member ▸ rfl)
  | keyframe enabled detected paced ends => exact absurd written List.not_mem_nil
  | again member due soon later waits switch pending lapsed =>
      have waiting := paced.waits member
      obtain ⟨id, pending⟩ := pending waiting (switch.symm.trans enabled)
      refine ⟨later, waits.trans waiting, fun task member => ?_⟩
      rw [pending] at member
      exact le_of_eq (List.mem_singleton.mp member ▸ rfl)
  | givesUp member paced ends fir noPli => exact absurd (pli.symm.trans (noPli packet written)) nofun

theorem Holds.step (holds : Holds moment handler) (calm : handler.Uninterrupted event) :
    Holds moment (handler.step event).1 := by
  have effect := step_effect holds.paced event
  obtain ⟨enabled, noKeyframe, noFir⟩ := calm
  generalize handler.step event = outcome at effect noFir ⊢
  cases effect with
  | silent paced same waits later quiet =>
      refine ⟨paced, waits.trans holds.waits, ?_⟩
      rw [same]
      exact holds.later
  | starts enabled idle paced waits pending => exact absurd (idle.symm.trans holds.waits) nofun
  | keyframe enabled detected paced ends => exact absurd (detected.symm.trans (noKeyframe _ rfl)) nofun
  | @again task next packet member due soon paced waits switch pending lapsed =>
      obtain ⟨id, pending⟩ := pending holds.waits enabled
      have before := holds.later task member
      refine ⟨paced, waits.trans holds.waits, fun other member => ?_⟩
      rw [pending] at member
      obtain rfl := List.mem_singleton.mp member
      show moment + minPLIPeriod ≤ handler.clock + minPLIPeriod
      rw [minPLIPeriod] at before ⊢
      omega
  | givesUp member paced ends fir noPli =>
      obtain ⟨packet, written, fir⟩ := fir
      exact absurd (fir.symm.trans (noFir packet written)) nofun

theorem Holds.spaced (holds : Holds moment handler) (enabled : handler.enabled = true) (pli : handler.WritesPLI event) :
    moment + minPLIPeriod ≤ handler.clock := by
  have effect := step_effect holds.paced event
  obtain ⟨packet, written, pli⟩ := pli
  generalize handler.step event = outcome at effect written
  cases effect with
  | silent paced same waits later quiet =>
      exact absurd (pli.symm.trans (quiet (Or.inl enabled) packet written)) nofun
  | starts enabled idle paced waits pending => exact absurd (idle.symm.trans holds.waits) nofun
  | keyframe enabled detected paced ends => exact absurd written List.not_mem_nil
  | again member due soon paced waits switch pending lapsed => exact (holds.later _ member).trans due
  | givesUp member paced ends fir noPli => exact absurd (pli.symm.trans (noPli packet written)) nofun

/-- **Two PLIs without an interruption between them are a period apart.** -/
theorem spaced_pair (paced : handler.Paced) {first second : Event} {between : List Event}
    (writesFirst : handler.WritesPLI first)
    (calm : Machine.Guarded step Uninterrupted (handler.step first).1 between)
    (enabled : (Machine.run step (handler.step first).1 between).enabled = true)
    (writesSecond : (Machine.run step (handler.step first).1 between).WritesPLI second) :
    handler.clock + minPLIPeriod ≤ (Machine.run step (handler.step first).1 between).clock := by
  have goesOn : (handler.step first).1.enabled = true := by
    cases between with
    | nil => exact enabled
    | cons next rest => exact calm.1.1
  have holds := Machine.Guarded.run_invariant (fun _ _ calm holds => Holds.step holds calm) calm
    (holds_after paced writesFirst goesOn)
  exact holds.spaced enabled writesSecond

end Spacing

/-! ### Runs -/

/-- **The wait and its task**: there is exactly one during a wait of an enabled handler, and none without a wait. -/
structure Paces (handler : PliPacerHandler) : Prop where
  waits : handler.enabled = true → handler.waitingForKeyframe = true → ∃ task, handler.worker.pending = [task]
  idle : handler.waitingForKeyframe = false → handler.worker.pending = []

/-- **The PLIs of a run** are a period apart where no keyframe, no FIR and no time without the handler comes between
them. -/
def Spaced (start : PliPacerHandler) (events : List Event) : Prop :=
  ∀ before first between second rest, events = before ++ first :: (between ++ second :: rest) →
    let handler := Machine.run step start before
    let later := Machine.run step (handler.step first).1 between
    handler.WritesPLI first → Machine.Guarded step Uninterrupted (handler.step first).1 between →
      later.enabled = true → later.WritesPLI second → handler.clock + minPLIPeriod ≤ later.clock

theorem paced_create (now : ℤ) (videoSinkSSRC videoSourceSSRC : UInt32) :
    (create now videoSinkSSRC videoSourceSSRC).Paced where
  fresh := ⟨fun _ member => absurd member List.not_mem_nil, fun _ member => absurd member List.not_mem_nil⟩
  used := Nat.zero_lt_one
  idle _ := rfl
  alone _ member := absurd member List.not_mem_nil

theorem paced_run {handler : PliPacerHandler} (paced : handler.Paced) (events : List Event) :
    (Machine.run step handler events).Paced :=
  @Machine.run_invariant _ _ _ step Paced (fun _ => True) (fun _ event _ paced => (step_effect paced event).paced) _ paced
    _ fun _ _ => trivial

/-- **After a lapse every PLI is dropped**, in every run up to a keyframe. -/
theorem dropped_after_lapse {handler : PliPacerHandler} (paced : handler.Paced) {lapse : Event}
    (lapses : handler.Lapses lapse) {events : List Event}
    (noKeyframe : ∀ event ∈ events, ∀ packet, event = .read packet → packet.isKeyframe = false) :
    let later := Machine.run step (handler.step lapse).1 events
    later.enabled = true → ∀ packet, RtpUtils.isPLI packet = true → later.write packet = (later, []) := by
  intro later enabled packet pli
  have kept := @Machine.run_invariant _ _ _ step (fun handler => handler.Paced ∧ handler.Stuck)
    (fun event => ∀ packet, event = .read packet → packet.isKeyframe = false)
    (fun _ event other both => ⟨(step_effect both.1 event).paced, stuck_step both.1 both.2 other⟩) _
    ⟨(step_effect paced lapse).paced, stuck_after_lapse paced lapses⟩ events noKeyframe
  exact write_stuck kept.2 enabled pli

/-- **The pacer keeps its wait alive**, in every run in which no task of its lapses: none runs while the handler is
disabled and the last keyframe is less than `keyframeTimeout` ago. -/
theorem paces (now : ℤ) (videoSinkSSRC videoSourceSSRC : UInt32) (events : List Event)
    (noLapse : Machine.Guarded step (fun handler event => ¬ handler.Lapses event)
      (create now videoSinkSSRC videoSourceSSRC) events) :
    (after now videoSinkSSRC videoSourceSSRC events).Paces ∧
      (create now videoSinkSSRC videoSourceSSRC).Spaced events := by
  have start := paced_create now videoSinkSSRC videoSourceSSRC
  refine ⟨?_, fun before first between second rest _ writesFirst calm enabled writesSecond =>
    spaced_pair (paced_run start before) writesFirst calm enabled writesSecond⟩
  obtain ⟨paced, alive⟩ := @Machine.Guarded.run_invariant _ _ _ step _ (fun handler => handler.Paced ∧ handler.Alive)
    (fun _ event holds known => ⟨(step_effect known.1 event).paced, (step_effect known.1 event).alive holds known.2⟩) _ _
    noLapse ⟨start, fun waiting => absurd waiting Bool.false_ne_true⟩
  refine ⟨fun _ waiting => ?_, paced.idle⟩
  obtain ⟨task, member⟩ := List.exists_mem_of_ne_nil _ (alive waiting)
  exact ⟨task, (paced.alone task member).2⟩

/-! ### A disabled period -/

instance (handler : PliPacerHandler) : DecidablePred handler.Lapses
  | .expire _ => inferInstanceAs (Decidable (_ ∧ _))
  | .write _ | .read _ | .enable | .disable | .tick _ => inferInstanceAs (Decidable False)

/-- A PLI is written, and sent again after a period. -/
def twice : List Event := [.write (RtpUtils.createPLI 1 2), .tick 200000000, .expire ⟨1, 200000000⟩]

theorem paces_twice : (after 0 1 2 twice).Paces ∧ (create 0 1 2).Spaced twice := paces 0 1 2 twice (by decide +kernel)

/-- The handler is disabled for the moment in which the task runs. -/
def disabledOnce : List Event :=
  [.write (RtpUtils.createPLI 1 2), .disable, .tick 200000000, .expire ⟨1, 200000000⟩, .enable]

/-- The handler is enabled again and waits, but no task is left: the request for a keyframe is swallowed for good. -/
theorem not_paces_disabledOnce :
    ¬ ∀ (now : ℤ) (videoSinkSSRC videoSourceSSRC : UInt32) (events : List Event),
      (after now videoSinkSSRC videoSourceSSRC events).Paces ∧
        (create now videoSinkSSRC videoSourceSSRC).Spaced events := by
  intro all
  obtain ⟨task, pending⟩ := (all 0 1 2 disabledOnce).1.waits (by decide +kernel) (by decide +kernel)
  have none : (after 0 1 2 disabledOnce).worker.pending = [] := by decide +kernel
  exact absurd (none.symm.trans pending) (List.cons_ne_nil _ _).symm

end PliPacerHandler

end Erizo
