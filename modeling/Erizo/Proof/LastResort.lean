/-
**When the PLI pacer gives up.**

A task of an enabled handler sends FIRs when it is due and the last keyframe is `keyframeTimeout` ago (`sendsFIR_iff`).
How long the first PLI without an answer has waited is not looked at: `LastResort` asks that it be as long, and holds
of a run when no task runs between the two timeouts (`lastResort_iff`).
-/

import Erizo.Proof.PliPacing

namespace Erizo

open Library Library.Bytes

namespace RtpUtils

theorem isFIR_createPLI (sourceSSRC sinkSSRC : UInt32) : isFIR (createPLI sourceSSRC sinkSSRC) = false := by
  have high : (createPLI sourceSSRC sinkSSRC).data 2 = 0 := rfl
  have low : (createPLI sourceSSRC sinkSSRC).data 3 = 2 := rfl
  have first : (createPLI sourceSSRC sinkSSRC).data 0 = 0x81 := rfl
  have whole : (createPLI sourceSSRC sinkSSRC).length ≤ RtcpHeader.blockLength (createPLI sourceSSRC sinkSSRC).data 0 := by
    rw [RtcpHeader.blockLength, RtcpHeader.getLength, read16, high, low]
    exact le_of_eq rfl
  rw [isFIR, hasPsFeedback_single _ rfl whole, RtcpHeader.getBlockCount, first]
  exact Bool.and_false _

end RtpUtils

namespace PliPacerHandler

/-! ### FIRs -/

/-- An event makes the handler send a FIR. What others write is not the handler's. -/
def SendsFIR (handler : PliPacerHandler) : Event → Prop
  | .expire task => ∃ packet ∈ (handler.expire task).2, RtpUtils.isFIR packet = true
  | .write _ | .read _ | .enable | .disable | .tick _ => False

instance (handler : PliPacerHandler) : DecidablePred handler.SendsFIR
  | .expire _ => inferInstanceAs (Decidable (∃ _ ∈ _, _))
  | .write _ | .read _ | .enable | .disable | .tick _ => inferInstanceAs (Decidable False)

/-- A pending task runs that is due. -/
def Runs (handler : PliPacerHandler) : Event → Prop
  | .expire task => task ∈ handler.worker.pending ∧ task.time ≤ handler.clock
  | .write _ | .read _ | .enable | .disable | .tick _ => False

instance (handler : PliPacerHandler) : DecidablePred handler.Runs
  | .expire _ => inferInstanceAs (Decidable (_ ∧ _))
  | .write _ | .read _ | .enable | .disable | .tick _ => inferInstanceAs (Decidable False)

/-- **A FIR is sent** by a task that runs when the last keyframe is `keyframeTimeout` ago. -/
theorem sendsFIR_iff {handler : PliPacerHandler} {event : Event} :
    handler.SendsFIR event ↔ handler.Runs event ∧ handler.timeLastKeyframe + keyframeTimeout ≤ handler.clock := by
  cases event with
  | expire task =>
      show (∃ packet ∈ (handler.expire task).2, _) ↔ (_ ∧ _) ∧ _
      rw [Worker.mem_pending]
      unfold expire
      split
      · next here =>
          dsimp only
          have same : ({ handler.worker with tasks := handler.worker.tasks.erase task } : Worker).isCancelled task.id =
            handler.worker.isCancelled task.id := rfl
          rw [same]
          cases cancelled : handler.worker.isCancelled task.id with
          | true => simp
          | false =>
              unfold onTimeout
              rw [if_neg Bool.false_ne_true]
              split
              · next long =>
                  refine iff_of_true ⟨_, List.mem_cons_self, RtpUtils.isFIR_createFIR _ _ _⟩ ⟨⟨⟨here.1, rfl⟩, here.2⟩, ?_⟩
                  exact le_sub_iff_add_le'.mp long
              · next soon =>
                  refine iff_of_false ?_ fun ⟨_, long⟩ => soon (le_sub_iff_add_le'.mpr long)
                  rintro ⟨packet, sent, fir⟩
                  obtain rfl := List.mem_singleton.mp sent
                  exact absurd (fir.symm.trans (RtpUtils.isFIR_createPLI _ _)) nofun
      · next idle =>
          refine iff_of_false (fun ⟨_, sent, _⟩ => absurd sent List.not_mem_nil) fun ⟨⟨⟨here, _⟩, due⟩, _⟩ => ?_
          exact idle ⟨here, due⟩
  | write _ | read _ | enable | disable | tick _ => exact ⟨False.elim, fun runs => runs.1⟩

/-! ### The first PLI without an answer -/

/-- A handler, and when the first PLI was written that no keyframe has answered. -/
structure Trace where
  handler : PliPacerHandler
  unanswered : Option ℤ

namespace Trace

/-- An event. -/
def step (trace : Trace) (event : Event) : Trace × List DataPacket :=
  (⟨(trace.handler.step event).1,
    match event with
    | .write packet => if RtpUtils.isPLI packet then trace.unanswered.or (some trace.handler.clock) else trace.unanswered
    | .read packet => if packet.isKeyframe then none else trace.unanswered
    | .expire _ | .enable | .disable | .tick _ => trace.unanswered⟩,
  (trace.handler.step event).2)

/-- A task runs when the last keyframe is `keyframeTimeout` ago, but the first PLI without an answer is not. -/
def Early (trace : Trace) (event : Event) : Prop :=
  trace.handler.Runs event ∧ trace.handler.timeLastKeyframe + keyframeTimeout ≤ trace.handler.clock ∧
    ∃ moment ∈ trace.unanswered, trace.handler.clock < moment + keyframeTimeout

instance (trace : Trace) : DecidablePred trace.Early := fun _ => inferInstanceAs (Decidable (_ ∧ _))

/-- A FIR is sent no earlier than `keyframeTimeout` after the first PLI without an answer. -/
def Last (trace : Trace) (event : Event) : Prop :=
  trace.handler.SendsFIR event → ∃ moment ∈ trace.unanswered, moment + keyframeTimeout ≤ trace.handler.clock

instance (trace : Trace) : DecidablePred trace.Last := fun _ => inferInstanceAs (Decidable (_ → _))

/-- **An enabled handler that waits has been asked**: a PLI is without an answer. -/
structure Asked (trace : Trace) : Prop where
  paced : trace.handler.Paced
  enabled : trace.handler.enabled = true
  asked : trace.handler.waitingForKeyframe = true → ∃ moment, trace.unanswered = some moment

end Trace

/-- The FIRs of a run are a last resort. -/
def LastResort (now : ℤ) (videoSinkSSRC videoSourceSSRC : UInt32) (events : List Event) : Prop :=
  Machine.Guarded Trace.step Trace.Last ⟨create now videoSinkSSRC videoSourceSSRC, none⟩ events

section Steps

variable {trace : Trace} {event : Event}

theorem enabled_scheduleNextPLI (handler : PliPacerHandler) : handler.scheduleNextPLI.enabled = handler.enabled :=
  (scheduleNextPLI_frame handler).2.1

theorem enabled_expire (handler : PliPacerHandler) (task : ScheduledTask) :
    (handler.expire task).1.enabled = handler.enabled := by
  unfold expire onTimeout
  split
  · dsimp only
    split
    · rfl
    · split
      · rfl
      · exact enabled_scheduleNextPLI _
  · rfl

/-- A task does not start a wait. -/
theorem waiting_expire (paced : trace.handler.Paced) (task : ScheduledTask)
    (waits : (trace.handler.expire task).1.waitingForKeyframe = true) : trace.handler.waitingForKeyframe = true := by
  have effect := expire_effect paced task
  generalize trace.handler.expire task = outcome at effect waits
  cases effect with
  | silent paced same still later quiet => exact still.symm.trans waits
  | again member due soon paced still switch pending lapsed => exact still.symm.trans waits
  | givesUp member paced ends fir noPli => exact absurd (ends.symm.trans waits) nofun

theorem Trace.Asked.step (asked : trace.Asked) (stays : event ≠ .disable) : (trace.step event).1.Asked := by
  refine ⟨(step_effect asked.paced event).paced, ?_, ?_⟩
  · show (trace.handler.step event).1.enabled = true
    cases event with
    | write packet =>
        show (trace.handler.write packet).1.enabled = true
        unfold write
        split
        · split
          · exact asked.enabled
          · exact (enabled_scheduleNextPLI _).trans asked.enabled
        · exact asked.enabled
    | read packet =>
        show (trace.handler.read packet).enabled = true
        unfold read
        split <;> exact asked.enabled
    | expire task => exact (enabled_expire _ task).trans asked.enabled
    | enable => rfl
    | disable => exact absurd rfl stays
    | tick elapsed => exact asked.enabled
  · intro waits
    cases event with
    | write packet =>
        change (trace.handler.write packet).1.waitingForKeyframe = true at waits
        show ∃ moment, (if RtpUtils.isPLI packet then _ else _) = some moment
        cases pli : RtpUtils.isPLI packet with
        | true =>
            cases trace.unanswered with
            | none => exact ⟨_, rfl⟩
            | some moment => exact ⟨moment, rfl⟩
        | false =>
            rw [write, pli, Bool.and_false, if_neg Bool.false_ne_true] at waits
            exact asked.asked waits
    | read packet =>
        change (trace.handler.read packet).waitingForKeyframe = true at waits
        show ∃ moment, (if packet.isKeyframe then _ else _) = some moment
        rw [read, asked.enabled, Bool.true_and] at waits
        cases keyframe : packet.isKeyframe with
        | true =>
            rw [if_pos keyframe] at waits
            exact absurd waits Bool.false_ne_true
        | false =>
            rw [keyframe, if_neg Bool.false_ne_true] at waits
            exact asked.asked waits
    | expire task => exact asked.asked (waiting_expire asked.paced task waits)
    | enable => exact asked.asked waits
    | disable => exact absurd rfl stays
    | tick elapsed => exact asked.asked waits

theorem Trace.Asked.last_iff (asked : trace.Asked) : trace.Last event ↔ ¬trace.Early event := by
  unfold Trace.Last Trace.Early
  rw [sendsFIR_iff]
  constructor
  · rintro last ⟨runs, long, moment, first, soon⟩
    obtain ⟨other, same, waited⟩ := last ⟨runs, long⟩
    obtain rfl := Option.some_injective _ (Option.mem_def.mp first |>.symm.trans (Option.mem_def.mp same))
    exact absurd waited (not_le.mpr soon)
  · rintro notEarly ⟨runs, long⟩
    have waits : trace.handler.waitingForKeyframe = true := by
      cases event with
      | expire task => exact asked.paced.waits runs.1
      | write _ | read _ | enable | disable | tick _ => exact runs.elim
    obtain ⟨moment, first⟩ := asked.asked waits
    exact ⟨moment, first, not_lt.mp fun soon => notEarly ⟨runs, long, moment, first, soon⟩⟩

end Steps

/-! ### Runs -/

/-- **FIRs are a last resort** in a run of an enabled handler exactly when no task runs while the last keyframe is
`keyframeTimeout` ago and the first PLI without an answer is not. -/
theorem lastResort_iff (now : ℤ) (videoSinkSSRC videoSourceSSRC : UInt32) (events : List Event)
    (enabled : ∀ event ∈ events, event ≠ .disable) :
    LastResort now videoSinkSSRC videoSourceSSRC events ↔
      Machine.Guarded Trace.step (fun trace event => ¬trace.Early event)
        ⟨create now videoSinkSSRC videoSourceSSRC, none⟩ events :=
  @Machine.guarded_congr _ _ _ Trace.step Trace.Last (fun trace event => ¬trace.Early event) Trace.Asked (· ≠ .disable)
    (fun _ _ stays asked => Trace.Asked.step asked stays) (fun _ _ _ asked => Trace.Asked.last_iff asked) _
    ⟨paced_create _ _ _, rfl, fun waits => absurd waits Bool.false_ne_true⟩ _ enabled

/-- A PLI is written at once, and the worker is late with its task: the FIRs come after `keyframeTimeout`. -/
def patient : List Event := [.write (RtpUtils.createPLI 1 2), .tick 10000000000, .expire ⟨1, 200000000⟩]

theorem lastResort_patient : LastResort 0 1 2 patient :=
  (lastResort_iff 0 1 2 patient (by simp [patient])).mpr (by decide +kernel)

/-- The first PLI is written when the last keyframe is `keyframeTimeout` ago. -/
def hasty : List Event := [.tick 10000000000, .write (RtpUtils.createPLI 1 2), .tick 200000000, .expire ⟨1, 10200000000⟩]

/-- The FIRs come with the first task, a `minPLIPeriod` after the PLI. -/
theorem not_lastResort_hasty :
    ¬∀ (now : ℤ) (videoSinkSSRC videoSourceSSRC : UInt32) (events : List Event), (∀ event ∈ events, event ≠ .disable) →
      LastResort now videoSinkSSRC videoSourceSSRC events := by
  intro all
  have claimed := all 0 1 2 hasty (by simp [hasty])
  rw [LastResort] at claimed
  exact absurd claimed (by decide +kernel)

end PliPacerHandler

end Erizo
