/-
**The PLI pacer** (`rtp/PliPacerHandler.cpp`, with the scheduling of `thread/Worker.cpp`).

A PLI that is written starts a wait for a keyframe. While it lasts further PLIs are dropped, and a task of the worker
sends one in their place every `kMinPLIPeriod`, or gives up with three FIRs when there has been no keyframe for long.

The worker hands out references to its tasks. A task that is scheduled runs on the worker at some moment after its
wait, unless its reference has been cancelled by then. All tasks here are those of the handler. Times are in
nanoseconds.
-/

import Erizo.Library.Machine
import Erizo.Model.RtpUtils

namespace Erizo

open Library

/-! ### The worker -/

/-- A task with its `ScheduledTaskReference` and the end of its wait. -/
structure ScheduledTask where
  id : ℕ
  time : ℤ
  deriving DecidableEq, Repr

/-- `Worker`: how many references there are, which of them are cancelled, and the tasks that have not run. -/
structure Worker where
  references : ℕ
  cancelled : List ℕ
  tasks : List ScheduledTask
  deriving Repr

namespace Worker

/-- A new `ScheduledTaskReference`. -/
def reference (worker : Worker) : Worker × ℕ := ({ worker with references := worker.references + 1 }, worker.references)

/-- `scheduleFromNow`. -/
def scheduleFromNow (worker : Worker) (now delta : ℤ) : Worker × ℕ :=
  let (worker, id) := worker.reference
  ({ worker with tasks := worker.tasks ++ [⟨id, now + delta⟩] }, id)

/-- `unschedule`. -/
def unschedule (worker : Worker) (id : ℕ) : Worker := { worker with cancelled := id :: worker.cancelled }

/-- `isCancelled`. -/
def isCancelled (worker : Worker) (id : ℕ) : Bool := worker.cancelled.contains id

/-- The tasks that have not run and are not cancelled. -/
def pending (worker : Worker) : List ScheduledTask := worker.tasks.filter fun task => !worker.isCancelled task.id

end Worker

/-! ### The handler -/

/-- `PliPacerHandler`, with the worker and the reading of the clock. -/
structure PliPacerHandler where
  enabled : Bool
  clock : ℤ
  timeLastKeyframe : ℤ
  waitingForKeyframe : Bool
  scheduledPli : ℕ
  videoSinkSSRC : UInt32
  videoSourceSSRC : UInt32
  firSeqNumber : UInt8
  worker : Worker
  deriving Repr

namespace PliPacerHandler

/-- `kMinPLIPeriod`. -/
def minPLIPeriod : ℤ := 200000000

/-- `kKeyframeTimeout`. -/
def keyframeTimeout : ℤ := 10000000000

/-- The constructor, with the stream's SSRCs. -/
def create (now : ℤ) (videoSinkSSRC videoSourceSSRC : UInt32) : PliPacerHandler where
  enabled := true
  clock := now
  timeLastKeyframe := now
  waitingForKeyframe := false
  scheduledPli := 0
  videoSinkSSRC := videoSinkSSRC
  videoSourceSSRC := videoSourceSSRC
  firSeqNumber := 0
  worker := ⟨1, [], []⟩

/-- `scheduleNextPLI`. -/
def scheduleNextPLI (handler : PliPacerHandler) : PliPacerHandler :=
  if !handler.waitingForKeyframe || !handler.enabled then handler
  else
    let (worker, id) := handler.worker.scheduleFromNow handler.clock minPLIPeriod
    { handler with worker := worker, scheduledPli := id }

/-- `sendPLI`, with what is written. -/
def sendPLI (handler : PliPacerHandler) : PliPacerHandler × List DataPacket :=
  (handler.scheduleNextPLI, [RtpUtils.createPLI handler.videoSourceSSRC handler.videoSinkSSRC])

/-- `sendFIR`, with what is written. -/
def sendFIR (handler : PliPacerHandler) : PliPacerHandler × List DataPacket :=
  let fir := fun count => RtpUtils.createFIR handler.videoSourceSSRC handler.videoSinkSSRC (handler.firSeqNumber + count)
  let (worker, id) := handler.worker.reference
  ({ handler with
      firSeqNumber := handler.firSeqNumber + 3
      waitingForKeyframe := false
      scheduledPli := id
      worker := worker }, [fir 0, fir 1, fir 2])

/-- The function that `scheduleNextPLI` schedules. -/
def onTimeout (handler : PliPacerHandler) : PliPacerHandler × List DataPacket :=
  if handler.clock - handler.timeLastKeyframe ≥ keyframeTimeout then handler.sendFIR else handler.sendPLI

/-- `read`. The packet is passed on in any case. -/
def read (handler : PliPacerHandler) (packet : DetectedPacket) : PliPacerHandler :=
  if handler.enabled && packet.isKeyframe then
    let (worker, id) := (handler.worker.unschedule handler.scheduledPli).reference
    { handler with
      timeLastKeyframe := handler.clock
      waitingForKeyframe := false
      scheduledPli := id
      worker := worker }
  else handler

/-- `write`, with what is written. -/
def write (handler : PliPacerHandler) (packet : DataPacket) : PliPacerHandler × List DataPacket :=
  if handler.enabled && RtpUtils.isPLI packet then
    if handler.waitingForKeyframe then (handler, [])
    else ({ handler with waitingForKeyframe := true }.scheduleNextPLI, [packet])
  else (handler, [packet])

/-- The worker comes to a task. -/
def expire (handler : PliPacerHandler) (task : ScheduledTask) : PliPacerHandler × List DataPacket :=
  if task ∈ handler.worker.tasks ∧ task.time ≤ handler.clock then
    let handler := { handler with worker := { handler.worker with tasks := handler.worker.tasks.erase task } }
    if handler.worker.isCancelled task.id then (handler, []) else handler.onTimeout
  else (handler, [])

/-- What can happen to a handler. -/
inductive Event
  | write (packet : DataPacket)
  | read (packet : DetectedPacket)
  | expire (task : ScheduledTask)
  | enable
  | disable
  | tick (elapsed : ℕ)

/-- An event, with what is written. -/
def step (handler : PliPacerHandler) : Event → PliPacerHandler × List DataPacket
  | .write packet => handler.write packet
  | .read packet => (handler.read packet, [])
  | .expire task => handler.expire task
  | .enable => ({ handler with enabled := true }, [])
  | .disable => ({ handler with enabled := false }, [])
  | .tick elapsed => ({ handler with clock := handler.clock + elapsed }, [])

/-- The handler after a list of events. -/
def after (now : ℤ) (videoSinkSSRC videoSourceSSRC : UInt32) (events : List Event) : PliPacerHandler :=
  Machine.run step (create now videoSinkSSRC videoSourceSSRC) events

end PliPacerHandler

end Erizo
