/-
**Media through a transport** (`DtlsTransport.cpp`: `onHandshakeCompleted`, `write`, `onIceData`).

`DtlsTransport` with its SRTP channels. Where that model only says whether a session could be configured, a completed
handshake here brings the key material, and the channel is made of it.

`write` looks at the state of ICE twice, once before it protects the packet and once before it sends it, while ICE
works in a thread of its own. So it is two steps, with what it has left in `protectBuf_` in between; any other step may
come between them.
-/

import Erizo.Model.DtlsTransport
import Erizo.Model.SrtpChannel
import Erizo.Model.RtpHeaders

namespace Erizo

open Library.Bytes

/-- The bytes of a buffer, with what is behind them. -/
def memoryOf (bytes : List UInt8) : Memory := fun address => bytes.getD address 0

/-- `DtlsSocketContext::PacketType`. -/
inductive DtlsSocketContext.PacketType
  | rtp
  | dtls
  | stun
  | unknown
  deriving DecidableEq, Repr

/-- `demuxPacket`. The packet has a byte. -/
def DtlsSocketContext.demuxPacket (data : List UInt8) : PacketType :=
  let first := data.headD 0
  if first = 0 || first = 1 then .stun
  else if first ≥ 128 && first ≤ 191 then .rtp
  else if first ≥ 20 && first ≤ 64 then .dtls
  else .unknown

/-- What a packet does to the handshake of its context, with the key material of a completed one. -/
inductive Handshake
  | wantRead
  | unauthenticated
  | completed (material : List UInt8)
  | failed
  deriving DecidableEq, Repr

/-- `DtlsTransport`, with the channels `srtp_` and `srtcp_` and what `write` is about to send. -/
structure SecureTransport (ς : Type) where
  base : DtlsTransport
  srtp : Option (SrtpChannel ς)
  srtcp : Option (SrtpChannel ς)
  protectBuf : Option (Component × List UInt8)

namespace SecureTransport

variable {ς : Type} (srtp : Srtp ς) (transport : SecureTransport ς)

/-- The constructor. -/
def create (isServer rtcpMux useNicer : Bool) : SecureTransport ς :=
  ⟨.create isServer rtcpMux useNicer, none, none, none⟩

/-- `isDtlsPacket`. -/
def isDtlsPacket (data : List UInt8) : Bool := DtlsSocketContext.demuxPacket data = .dtls

/-- The channel that `onHandshakeCompleted` makes, and whether it could be configured: the server swaps the keys. -/
def channelOf (isServer : Bool) (material : List UInt8) : SrtpChannel ς × Bool :=
  let keys := SrtpSessionKeys.getSrtpSessionKeys material
  if isServer then SrtpChannel.create.setRtpParams srtp keys.serverKey keys.clientKey
  else SrtpChannel.create.setRtpParams srtp keys.clientKey keys.serverKey

/-- The component whose handshake the worker's next task goes on with. -/
def handshaking : Option Component :=
  match transport.base.tasks with
  | .onIceData component :: _ =>
      if transport.base.running && !(transport.base.context component).mHandshakeCompleted then some component else none
  | _ => none

/-- What becomes of a handshake, as `DtlsTransport` has it. -/
def outcomeOf (isServer : Bool) : Handshake → Outcome
  | .wantRead => .wantRead
  | .unauthenticated => .unauthenticated
  | .completed material => .completed (channelOf srtp isServer material).2
  | .failed => .failed

/-- `onHandshakeCompleted` makes a new channel for a component. -/
def setChannel (channel : SrtpChannel ς) : Component → SecureTransport ς
  | .rtp => { transport with srtp := some channel }
  | .rtcp => { transport with srtcp := some channel }

/-- The worker takes its next task. -/
def work (handshake : Handshake) : SecureTransport ς :=
  let worked := (transport.base.work (outcomeOf srtp transport.base.isServer handshake)).1
  match handshake, transport.handshaking with
  | .completed material, some component =>
      { transport.setChannel (channelOf srtp transport.base.isServer material).1 component with base := worked }
  | _, _ => { transport with base := worked }

/-- The component that `write` sends a packet on. -/
def writeComponent (data : List UInt8) : Component :=
  if RtcpHeader.isRtcp (memoryOf data) 0 && !transport.base.rtcpMux then .rtcp else .rtp

/-- The channel of a component: that of RTCP is only there without RTCP multiplexing. -/
def channel : Component → Option (SrtpChannel ς)
  | .rtp => transport.srtp
  | .rtcp => transport.srtcp

/-- Protecting a packet, as RTCP or as RTP. -/
def protect (data : List UInt8) (channel : SrtpChannel ς) : SrtpChannel ς × Option (List UInt8) :=
  if RtcpHeader.isRtcp (memoryOf data) 0 then channel.protectRtcp srtp data else channel.protectRtp srtp data

/-- `write`, up to where the packet is ready to be sent. -/
def beginWrite (data : List UInt8) : SecureTransport ς :=
  if transport.base.running && transport.base.state = .ready then
    let component := transport.writeComponent data
    match transport.channel component with
    | none => { transport with protectBuf := some (component, data) }
    | some channel =>
        if transport.base.ice.iceState = .ready then
          let (channel, result) := protect srtp data channel
          { transport.setChannel channel component with protectBuf := result.map (component, ·) }
        else { transport with protectBuf := some (component, data) }
  else transport

/-- The rest of `write`, with what it gives to ICE. -/
def endWrite : SecureTransport ς × Option (Component × List UInt8) :=
  match transport.protectBuf with
  | none => (transport, none)
  | some (component, data) =>
      ({ transport with protectBuf := none },
        if data.length ≤ 10 then none
        else if transport.base.ice.iceState = .ready && transport.base.running then some (component, data) else none)

/-- `onIceData`, of a packet that is not one of DTLS, with what the listener is given. -/
def onIceData (component : Component) (data : List UInt8) : SecureTransport ς × Option (List UInt8) :=
  if !transport.base.running || isDtlsPacket data || transport.base.state ≠ .ready then (transport, none)
  else
    let component := if transport.base.rtcpMux then .rtp else component
    match transport.channel component with
    | none => (transport, none)
    | some channel =>
        let (channel, result) :=
          if RtcpHeader.isRtcp (memoryOf data) 0 then channel.unprotectRtcp srtp data else channel.unprotectRtp srtp data
        (transport.setChannel channel component, if data.length = 0 then none else result)

/-- What happens to a transport. The events of `DtlsTransport` other than the work of the worker are `other`. -/
inductive Event
  | other (event : DtlsTransport.Event)
  | work (handshake : Handshake)
  | beginWrite (data : List UInt8)
  | endWrite
  | onIceData (component : Component) (data : List UInt8)
  deriving DecidableEq, Repr

/-- What a step gives out: what ICE is to send, and what the listener is told. -/
inductive Effect
  | sendData (component : Component) (data : List UInt8)
  | onTransportData (data : List UInt8)
  deriving DecidableEq, Repr

/-- A step of a transport. -/
def step (transport : SecureTransport ς) : Event → SecureTransport ς × Option Effect
  | .other (.work _) => (transport, none)
  | .other event => ({ transport with base := (transport.base.step event).1 }, none)
  | .work handshake => (transport.work srtp handshake, none)
  | .beginWrite data => (transport.beginWrite srtp data, none)
  | .endWrite =>
      let (transport, sent) := transport.endWrite
      (transport, sent.map fun datagram => .sendData datagram.1 datagram.2)
  | .onIceData component data =>
      let (transport, heard) := transport.onIceData srtp component data
      (transport, heard.map .onTransportData)

end SecureTransport

end Erizo
