/-
**The packet queue of a recording** (`RtpPacketQueue.cpp`).

Packets are kept by sequence number, the newest one first, and handed out from the other end. Depths are doubles:
what is done with them is left open (`Doubles`).

`pushPacket` looks whether a packet is too late before it takes the mutex; `check` and `insert` are its two
parts, for one thread that pushes while another one pops.
-/

import Erizo.Model.RtpHeaders

namespace Erizo

open Library

/-- What is done with doubles. -/
structure Doubles (δ : Type) where
  ofNat : ℕ → δ
  /-- The quotient of two unsigned numbers. -/
  quotient : UInt32 → UInt32 → δ
  greater : δ → δ → Bool
  greaterEqual : δ → δ → Bool

/-- `RtpPacketQueue`. -/
structure RtpPacketQueue (δ : Type) where
  queue : List DataPacket
  /-- None stands for -1. -/
  lastSequenceNumberGiven : Option UInt16
  timebase : UInt32
  depthInSeconds : δ
  maxDepthInSeconds : δ

namespace RtpPacketQueue

variable {δ : Type} (doubles : Doubles δ)

/-- The constructor. -/
def create (depthInSeconds maxDepthInSeconds : δ) : RtpPacketQueue δ where
  queue := []
  lastSequenceNumberGiven := none
  timebase := 0
  depthInSeconds :=
    if doubles.greaterEqual depthInSeconds maxDepthInSeconds then doubles.ofNat 3 else depthInSeconds
  maxDepthInSeconds :=
    if doubles.greaterEqual depthInSeconds maxDepthInSeconds then doubles.ofNat 5 else maxDepthInSeconds

/-- The sequence number of a packet. -/
def number (packet : DataPacket) : UInt16 := RtpHeader.getSeqNumber packet.data

/-- `rtpSequenceLessThan`. -/
def rtpSequenceLessThan (x y : UInt16) : Bool :=
  let diff : ℤ := y.toNat - x.toNat
  if diff > 0 then diff < 0x8000
  else if diff < 0 then diff < -0x8000
  else false

/-- `getDepthInSeconds`. -/
def getDepthInSeconds (queue : RtpPacketQueue δ) : δ :=
  match queue.queue.head?, queue.queue.getLast? with
  | some newest, some oldest =>
      if 0 < queue.timebase ∧ 1 < queue.queue.length then
        doubles.quotient (RtpHeader.getTimestamp newest.data - RtpHeader.getTimestamp oldest.data) queue.timebase
      else doubles.ofNat 0
  | _, _ => doubles.ofNat 0

/-- A number is no later than what has been handed out. -/
def tooLate (queue : RtpPacketQueue δ) (sequenceNumber : UInt16) : Bool :=
  match queue.lastSequenceNumberGiven with
  | none => false
  | some last => rtpSequenceLessThan sequenceNumber last || sequenceNumber = last

/-- The search for the place of a packet. -/
def place (packet : DataPacket) : List DataPacket → List DataPacket
  | [] => [packet]
  | other :: rest =>
      if number other = number packet then other :: rest
      else if rtpSequenceLessThan (number other) (number packet) then packet :: other :: rest
      else other :: place packet rest

/-- The oldest packets are discarded while the queue is too deep, at most as many as `fuel`. -/
def discard : ℕ → RtpPacketQueue δ → RtpPacketQueue δ × List DataPacket
  | 0, queue => (queue, [])
  | fuel + 1, queue =>
      if doubles.greater (queue.getDepthInSeconds doubles) queue.maxDepthInSeconds then
        match queue.queue.getLast? with
        | none => (queue, [])
        | some oldest =>
            let (shorter, discarded) := discard fuel { queue with queue := queue.queue.dropLast }
            (shorter, oldest :: discarded)
      else (queue, [])

/-- The protected part of `pushPacket`. The discarding ends at the latest with an empty queue, from which the
source goes on to remove when the maximum is negative. -/
def insert (queue : RtpPacketQueue δ) (packet : DataPacket) : RtpPacketQueue δ × List DataPacket :=
  let queue := { queue with queue := place packet queue.queue }
  discard doubles queue.queue.length queue

/-- `pushPacket`, with the packets that are discarded for the depth of the queue. -/
def pushPacket (queue : RtpPacketQueue δ) (packet : DataPacket) : RtpPacketQueue δ × List DataPacket :=
  if queue.tooLate (number packet) then (queue, []) else queue.insert doubles packet

/-- `popPacket`. -/
def popPacket (queue : RtpPacketQueue δ) (ignoreDepth : Bool) : RtpPacketQueue δ × Option DataPacket :=
  match queue.queue.getLast? with
  | none => (queue, none)
  | some oldest =>
      if ignoreDepth || doubles.greater (queue.getDepthInSeconds doubles) queue.depthInSeconds then
        ({ queue with queue := queue.queue.dropLast, lastSequenceNumberGiven := some (number oldest) }, some oldest)
      else (queue, none)

/-- The calls of one thread. -/
inductive Call
  | push (packet : DataPacket)
  | pop (ignoreDepth : Bool)
  | setTimebase (timebase : UInt32)

/-- What a call hands out and what it discards. -/
structure Outcome where
  popped : Option DataPacket
  discarded : List DataPacket

/-- A call. -/
def step (queue : RtpPacketQueue δ) : Call → RtpPacketQueue δ × Outcome
  | .push packet =>
      let (queue, discarded) := queue.pushPacket doubles packet
      (queue, ⟨none, discarded⟩)
  | .pop ignoreDepth =>
      let (queue, popped) := queue.popPacket doubles ignoreDepth
      (queue, ⟨popped, []⟩)
  | .setTimebase timebase => ({ queue with timebase := timebase }, ⟨none, []⟩)

/-- A queue between a thread that pushes and one that pops, with the packet that has passed the check. -/
structure Shared (δ : Type) where
  queue : RtpPacketQueue δ
  checked : Option DataPacket

/-- The steps of the two threads. -/
inductive SharedStep
  | check (packet : DataPacket)
  | insert
  | pop (ignoreDepth : Bool)

/-- A step of one of the threads. The pushing one checks a packet only when it is done with the last one. -/
def sharedStep (shared : Shared δ) : SharedStep → Shared δ × Option DataPacket
  | .check packet =>
      match shared.checked with
      | some _ => (shared, none)
      | none =>
          if shared.queue.tooLate (number packet) then (shared, none)
          else ({ shared with checked := some packet }, none)
  | .insert =>
      match shared.checked with
      | none => (shared, none)
      | some packet => (⟨(shared.queue.insert doubles packet).1, none⟩, none)
  | .pop ignoreDepth =>
      let (queue, popped) := shared.queue.popPacket doubles ignoreDepth
      ({ shared with queue := queue }, popped)

end RtpPacketQueue

end Erizo
