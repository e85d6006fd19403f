/-
**The sender report handler** (`rtp/SRPacketHandler.cpp`).

It counts the RTP packets of each SSRC that it writes, and writes the counts into the sender reports. The context passes
on whatever is written and read.
-/

import Erizo.Library.Machine
import Erizo.Model.RtpHeaders
import Std.Data.ExtTreeMap

namespace Erizo

open Library Library.Bytes

/-- `SRInfo`. -/
structure SRInfo where
  sentOctets : UInt32
  sentPackets : UInt32
  deriving DecidableEq, Repr

/-- `SRPacketHandler`. -/
structure SRPacketHandler where
  enabled : Bool
  initialized : Bool
  srInfoMap : Std.ExtTreeMap UInt32 SRInfo

namespace SRPacketHandler

/-- The constructor. -/
def create : SRPacketHandler := ⟨true, false, ∅⟩

variable (handler : SRPacketHandler)

/-- `enable`. -/
def enable : SRPacketHandler := { handler with enabled := true }

/-- `disable`. -/
def disable : SRPacketHandler := { handler with enabled := false }

/-- `notifyUpdate`, where there is a stream in the pipeline or not. -/
def notifyUpdate (stream : Bool) : SRPacketHandler :=
  if handler.initialized then handler
  else if !stream then handler
  else { handler with initialized := true }

/-- `handleRtpPacket`. -/
def handleRtpPacket (packet : DataPacket) : SRPacketHandler :=
  let ssrc := RtpHeader.getSSRC packet.data
  let selectedInfo := (handler.srInfoMap[ssrc]?).getD ⟨0, 0⟩
  let selectedInfo := { selectedInfo with sentPackets := selectedInfo.sentPackets + 1 }
  let selectedInfo := { selectedInfo with
    sentOctets := selectedInfo.sentOctets + UInt32.ofInt (packet.length - RtpHeader.getHeaderLength packet.data) }
  { handler with srInfoMap := handler.srInfoMap.insert ssrc selectedInfo }

/-- `handleSR`. -/
def handleSR (packet : DataPacket) : DataPacket :=
  match handler.srInfoMap[RtcpHeader.getSSRC packet.data 0]? with
  | none => packet
  | some selectedInfo =>
      let data := RtcpHeader.setOctetsSent packet.data 0 selectedInfo.sentOctets
      { packet with data := RtcpHeader.setPacketsSent data 0 selectedInfo.sentPackets }

/-- `write`. -/
def write (packet : DataPacket) : SRPacketHandler × DataPacket :=
  if handler.initialized && handler.enabled then
    if !RtcpHeader.isRtcp packet.data 0 && handler.enabled then (handler.handleRtpPacket packet, packet)
    else if RtcpHeader.getPacketType packet.data 0 = RtcpHeader.senderPt && handler.enabled then
      (handler, handler.handleSR packet)
    else (handler, packet)
  else (handler, packet)

/-- What happens to a handler. -/
inductive Event
  | enable
  | disable
  | notifyUpdate (stream : Bool)
  | write (packet : DataPacket)
  | read (packet : DataPacket)

/-- An event, and the packet that is passed on. -/
def step : SRPacketHandler → Event → SRPacketHandler × Option DataPacket
  | handler, .enable => (handler.enable, none)
  | handler, .disable => (handler.disable, none)
  | handler, .notifyUpdate stream => (handler.notifyUpdate stream, none)
  | handler, .write packet => ((handler.write packet).1, some (handler.write packet).2)
  | handler, .read packet => (handler, some packet)

end SRPacketHandler

end Erizo
