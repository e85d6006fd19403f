/-
**The retransmission handler** (`rtp/RtpRetransmissionHandler.cpp`), with the buffer it takes packets
from (`rtp/PacketBufferService.cpp`) and the bucket that limits it (`lib/TokenBucket.cpp`).

A NACK is answered with packets of the buffer, as far as the bucket grants their bytes. It is passed on
when a packet was missing.

The clock is read several times in a call: `clock` gives the successive readings, in nanoseconds. The
rate the bucket is reset to is floating-point arithmetic on a statistic; it is given too. Nothing else
uses the bucket at the same time, so that its exchange succeeds.
-/

import Erizo.Model.BandwidthDistribution
import Erizo.Model.RtpUtils

namespace Erizo

open Library Library.Bytes

/-! ### The bucket -/

/-- `TokenBucket`, its times in microseconds. -/
structure TokenBucket where
  time : UInt64
  timePerToken : UInt64
  timePerBurst : UInt64
  deriving DecidableEq, Repr

namespace TokenBucket

/-- The constructor, and `reset`. -/
def init (rate burstSize : UInt64) : TokenBucket where
  time := 0
  timePerToken := 1000000 / max rate 1
  timePerBurst := burstSize * (1000000 / max rate 1)

/-- `consume` at a time of the clock, in microseconds. -/
def consume (bucket : TokenBucket) (now tokens : UInt64) : TokenBucket × Bool :=
  let timeNeeded := tokens * bucket.timePerToken
  let minTime := now - bucket.timePerBurst
  let newTime := if minTime > bucket.time then minTime else bucket.time
  let newTime := newTime + timeNeeded
  if newTime > now then (bucket, false) else ({ bucket with time := newTime }, true)

end TokenBucket

/-! ### The buffer -/

/-- `PacketBufferService`: the last packet of each kind at every number modulo 256. -/
structure PacketBufferService where
  audio : Fin 256 → Option DataPacket
  video : Fin 256 → Option DataPacket
  audio_type : ∀ index packet, audio index = some packet → packet.type = .audio
  video_type : ∀ index packet, video index = some packet → packet.type = .video

namespace PacketBufferService

/-- The constructor. -/
def init : PacketBufferService where
  audio := fun _ => none
  video := fun _ => none
  audio_type := fun _ _ found => (nomatch found)
  video_type := fun _ _ found => (nomatch found)

/-- `getIndexInBuffer`. -/
def getIndexInBuffer (seqNum : UInt16) : Fin 256 := ⟨seqNum.toNat % 256, Nat.mod_lt _ (by decide)⟩

/-- `getVideoPacket`. -/
def getVideoPacket (buffer : PacketBufferService) (seqNum : UInt16) : Option DataPacket :=
  buffer.video (getIndexInBuffer seqNum)

/-- `getAudioPacket`. -/
def getAudioPacket (buffer : PacketBufferService) (seqNum : UInt16) : Option DataPacket :=
  buffer.audio (getIndexInBuffer seqNum)

/-- Slots of packets of a type, with a packet of that type put in one of them. -/
theorem update_type {type : PacketType} {slots : Fin 256 → Option DataPacket}
    (typed : ∀ index packet, slots index = some packet → packet.type = type) {packet : DataPacket}
    (own : packet.type = type) (slot index : Fin 256) (other : DataPacket)
    (found : Function.update slots slot (some packet) index = some other) : other.type = type := by
  by_cases here : index = slot
  · rw [here, Function.update_self] at found
    rw [← Option.some_injective _ found]
    exact own
  · rw [Function.update_of_ne here] at found
    exact typed index other found

/-- `insertPacket`. -/
def insertPacket (buffer : PacketBufferService) (packet : DataPacket) : PacketBufferService :=
  let index := getIndexInBuffer (RtpHeader.getSeqNumber packet.data)
  if video : packet.type = .video then
    { buffer with
      video := Function.update buffer.video index (some packet)
      video_type := update_type buffer.video_type video index }
  else if audio : packet.type = .audio then
    { buffer with
      audio := Function.update buffer.audio index (some packet)
      audio_type := update_type buffer.audio_type audio index }
  else buffer

end PacketBufferService

/-! ### The handler -/

/-- The state of a `RtpRetransmissionHandler`. -/
structure RtpRetransmissionHandler where
  initialized : Bool
  enabled : Bool
  stream : MediaStream
  packetBuffer : PacketBufferService
  bucket : TokenBucket
  lastBitrateTime : ℤ

namespace RtpRetransmissionHandler

/-- `kTimeToUpdateBitrate`, in nanoseconds. -/
def timeToUpdateBitrate : ℤ := 500000000

/-- `kBurstSize`. -/
def burstSize : UInt64 := 26000

/-- The whole microseconds of a reading of the clock. -/
def toMicroseconds (reading : ℤ) : UInt64 := UInt64.ofInt (reading.tdiv 1000)

/-- `calculateRtxBitrate`, with the rate that is calculated. -/
def calculateRtxBitrate (handler : RtpRetransmissionHandler) (now : ℤ) (rate : UInt64) : RtpRetransmissionHandler :=
  if now - handler.lastBitrateTime > timeToUpdateBitrate then
    { handler with lastBitrateTime := now, bucket := TokenBucket.init rate burstSize }
  else handler

/-- A `read` under way: the received bytes, the bucket, how often the clock was read, the two flags, and
what was sent again. -/
structure Recovery where
  data : Memory
  bucket : TokenBucket
  readings : ℕ
  containsNack : Bool
  isFullyRecovered : Bool
  written : List DataPacket

/-- The packet the buffer has for a number of a source. -/
def findPacket (handler : RtpRetransmissionHandler) (sourceSSRC : UInt32) (seqNum : UInt16) : Option DataPacket :=
  if handler.stream.videoSinkSSRC = sourceSSRC then handler.packetBuffer.getVideoPacket seqNum
  else if handler.stream.audioSinkSSRC = sourceSSRC then handler.packetBuffer.getAudioPacket seqNum
  else none

section Read

variable (handler : RtpRetransmissionHandler) (clock : ℕ → ℤ)

/-- What `read` does for a nacked number. -/
def recover (sourceSSRC : UInt32) (recovery : Recovery) (seqNum : UInt16) : Recovery :=
  match handler.findPacket sourceSSRC seqNum with
  | none => { recovery with isFullyRecovered := false }
  | some recovered =>
      let (bucket, granted) :=
        recovery.bucket.consume (toMicroseconds (clock recovery.readings)) (UInt64.ofInt recovered.length)
      let recovery := { recovery with bucket := bucket, readings := recovery.readings + 1 }
      if !granted then recovery
      else if RtpHeader.getSeqNumber recovered.data = seqNum then
        { recovery with written := recovery.written ++ [recovered] }
      else { recovery with isFullyRecovered := false }

/-- Whether the number so many steps after the PID is nacked. -/
def packetNacked (plb : UInt16) (steps : ℕ) : Bool := steps = 0 || plb.toNat.testBit (steps - 1)

/-- The callback for the items of a block. The `for` loop runs from -1 to `kNackBlpSize`. -/
def onNack (sourceSSRC : UInt32) (initialSeqNum plb : UInt16) (_nackHead : ℕ) (recovery : Recovery) : Option Recovery :=
  some ((List.range 18).foldl (fun recovery steps =>
    if packetNacked plb steps then recover handler clock sourceSSRC recovery (initialSeqNum + UInt16.ofNat steps)
    else recovery) recovery)

/-- The callback for the blocks of a packet. -/
def onBlock (chead : ℕ) (recovery : Recovery) : Option Recovery :=
  if RtcpHeader.getPacketType recovery.data chead = RtcpHeader.rtpFeedbackPt then
    RtpUtils.forEachNack Recovery.data chead (onNack handler clock (RtcpHeader.getSourceSSRC recovery.data chead))
      { recovery with containsNack := true }
  else some recovery

/-- `read`: the handler, the packets that are sent again, and the received packet if it is passed on. -/
def read (rate : UInt64) (packet : DataPacket) : Option (RtpRetransmissionHandler × List DataPacket × Option DataPacket) :=
  if !handler.enabled || !handler.initialized then some (handler, [], none)
  else do
    let handler := handler.calculateRtxBitrate (clock 0) rate
    let recovery ← RtpUtils.forEachRtcpBlock Recovery.data packet.length (onBlock handler clock)
      ⟨packet.data, handler.bucket, 1, false, true, []⟩
    some ({ handler with bucket := recovery.bucket }, recovery.written,
      if !recovery.containsNack || !recovery.isFullyRecovered then some packet else none)

end Read

/-- `write`: the handler and the packet if it is passed on. -/
def write (handler : RtpRetransmissionHandler) (packet : DataPacket) : RtpRetransmissionHandler × Option DataPacket :=
  if !handler.initialized then (handler, none)
  else if !RtcpHeader.isRtcp packet.data 0 then
    ({ handler with packetBuffer := handler.packetBuffer.insertPacket packet }, some packet)
  else (handler, some packet)

/-- The constructor, at a time of the clock. -/
def init (stream : MediaStream) (now : ℤ) : RtpRetransmissionHandler where
  initialized := false
  enabled := true
  stream := stream
  packetBuffer := PacketBufferService.init
  bucket := TokenBucket.init 30000 burstSize
  lastBitrateTime := now

/-- `enable`. -/
def enable (handler : RtpRetransmissionHandler) : RtpRetransmissionHandler := { handler with enabled := true }

/-- `disable`. -/
def disable (handler : RtpRetransmissionHandler) : RtpRetransmissionHandler := { handler with enabled := false }

/-- `notifyUpdate`: whether there is a pipeline. The services are added to it before the handlers. -/
def notifyUpdate (handler : RtpRetransmissionHandler) (pipeline : Bool) : RtpRetransmissionHandler :=
  if pipeline && !handler.initialized then { handler with initialized := true } else handler

/-- What happens to a handler. `stream` tells what the stream has become: others set its SSRCs. -/
inductive Event
  | enable
  | disable
  | notifyUpdate (pipeline : Bool)
  | stream (stream : MediaStream)
  | read (clock : ℕ → ℤ) (rate : UInt64) (packet : DataPacket)
  | write (packet : DataPacket)

/-- An event, and the packet that is passed on if it is one that was written. -/
def step : RtpRetransmissionHandler → Event → RtpRetransmissionHandler × Option DataPacket
  | handler, .enable => (handler.enable, none)
  | handler, .disable => (handler.disable, none)
  | handler, .notifyUpdate pipeline => (handler.notifyUpdate pipeline, none)
  | handler, .stream stream => ({ handler with stream := stream }, none)
  | handler, .read clock rate packet =>
      match handler.read clock rate packet with
      | some (after, _, _) => (after, none)
      | none => (handler, none)
  | handler, .write packet => handler.write packet

end RtpRetransmissionHandler

end Erizo
