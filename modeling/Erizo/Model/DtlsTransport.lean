/-
**An ICE and DTLS transport** (`Transport.h`, `DtlsTransport.cpp`, `DtlsSocket.cpp`).

What the ICE connection tells the transport, and the data it receives, go to the worker, which takes one after
the other in the order they came. Whether a packet ends a handshake, and whether the SRTP session of a completed
one could be configured, is up to the peer and the libraries: the step of the worker takes it as an argument.

A step gives the states that the transport leaves and enters, in order.
-/

import Erizo.Model.IceConnection

namespace Erizo

/-- `TransportState`. -/
inductive TransportState
  | initial
  | started
  | gathered
  | ready
  | finished
  | failed
  deriving DecidableEq, Repr

/-- The components of a transport; without RTCP multiplexing RTCP has its own. -/
inductive Component
  | rtp
  | rtcp
  deriving DecidableEq, Repr

/-- What the transport uses of a `DtlsSocketContext`. -/
structure DtlsSocketContext where
  started : Bool
  mHandshakeCompleted : Bool
  deriving DecidableEq, Repr

/-- `TimeoutChecker`. -/
structure TimeoutChecker where
  /-- Whether `scheduled_task_` is due and not cancelled. -/
  scheduled : Bool
  maxChecks : UInt32
  deriving DecidableEq, Repr

/-- `cancel`. -/
def TimeoutChecker.cancel (checker : TimeoutChecker) : TimeoutChecker :=
  { checker with scheduled := false }

/-- What the worker has to do. -/
inductive Task
  | updateIceState (state : IceState)
  | onIceData (component : Component)
  deriving DecidableEq, Repr

/-- What a packet does to the handshake of its context. -/
inductive Outcome
  | wantRead
  | unauthenticated
  | completed (configured : Bool)
  | failed
  deriving DecidableEq, Repr

/-- `DtlsTransport`. Without RTCP multiplexing the context and the checker of RTCP are there; else they are
not used. -/
structure DtlsTransport where
  isServer : Bool
  rtcpMux : Bool
  ice : IceConnection
  tasks : List Task
  running : Bool
  state : TransportState
  readyRtp : Bool
  readyRtcp : Bool
  /-- Whether the SRTP session of a component was configured, once that has been tried. -/
  srtp : Option Bool
  srtcp : Option Bool
  dtlsRtp : DtlsSocketContext
  dtlsRtcp : DtlsSocketContext
  rtpTimeoutChecker : TimeoutChecker
  rtcpTimeoutChecker : TimeoutChecker

namespace DtlsTransport

/-- The states a transport goes through, each with the one it leaves. -/
abbrev Passage := List (TransportState × TransportState)

/-- The constructor. -/
def create (isServer rtcpMux useNicer : Bool) : DtlsTransport where
  isServer := isServer
  rtcpMux := rtcpMux
  ice := .create (if rtcpMux then 1 else 2) useNicer
  tasks := []
  running := true
  state := .initial
  readyRtp := false
  readyRtcp := false
  srtp := none
  srtcp := none
  dtlsRtp := ⟨false, false⟩
  dtlsRtcp := ⟨false, false⟩
  rtpTimeoutChecker := ⟨false, 15⟩
  rtcpTimeoutChecker := ⟨false, 15⟩

/-- `start`. -/
def start (transport : DtlsTransport) : DtlsTransport :=
  { transport with ice := { transport.ice with listener := true } }

/-- `updateTransportState`. -/
def updateTransportState (transport : DtlsTransport) (state : TransportState) : DtlsTransport × Passage :=
  if state = transport.state then (transport, [])
  else ({ transport with state := state }, [(transport.state, state)])

/-- `updateIceState`: the worker is to look at what the ICE connection tells. -/
def updateIceState (transport : DtlsTransport) (told : IceConnection × Option IceState) : DtlsTransport :=
  { transport with ice := told.1, tasks := transport.tasks ++ (told.2.map Task.updateIceState).toList }

/-- `onData` of the ICE connection and `onPacketReceived`. The component of RTCP is only there without RTCP
multiplexing. -/
def onData (transport : DtlsTransport) (component : Component) : DtlsTransport :=
  if component = .rtcp ∧ transport.rtcpMux = true then transport
  else if transport.ice.iceState = .ready ∧ transport.ice.listener = true then
    { transport with tasks := transport.tasks ++ [.onIceData component] }
  else transport

/-- `scheduleCheck`. -/
def scheduleCheck (transport : DtlsTransport) (checker : TimeoutChecker) : TimeoutChecker :=
  { checker with scheduled := transport.state ≠ .ready }

/-- The client's part of `updateIceStateSync` when ICE is ready. -/
def startDtls (transport : DtlsTransport) : DtlsTransport :=
  let transport :=
    if !transport.isServer && !transport.dtlsRtp.started then
      { transport with
        dtlsRtp := { transport.dtlsRtp with started := true }
        rtpTimeoutChecker := transport.scheduleCheck transport.rtpTimeoutChecker }
    else transport
  if !transport.isServer && !transport.rtcpMux && !transport.dtlsRtcp.started then
    { transport with
      dtlsRtcp := { transport.dtlsRtcp with started := true }
      rtcpTimeoutChecker := transport.scheduleCheck transport.rtcpTimeoutChecker }
  else transport

/-- `updateIceStateSync`. -/
def updateIceStateSync (transport : DtlsTransport) (state : IceState) : DtlsTransport × Passage :=
  if !transport.running then (transport, [])
  else
    match state with
    | .initial => transport.updateTransportState .started
    | .candidatesReceived => transport.updateTransportState .gathered
    | .failed => { transport with running := false }.updateTransportState .failed
    | .ready => (transport.startDtls, [])
    | .finished => (transport, [])

/-- The SRTP session of a component has been configured, or could not be. -/
def configure (transport : DtlsTransport) (component : Component) (configured : Bool) : DtlsTransport × Passage :=
  match component with
  | .rtp =>
      let transport := { transport with srtp := some configured }
      let (transport, passage) :=
        if configured then ({ transport with readyRtp := true }, []) else transport.updateTransportState .failed
      (if transport.rtcpMux then { transport with readyRtcp := true } else transport, passage)
  | .rtcp =>
      let transport := { transport with srtcp := some configured }
      if configured then ({ transport with readyRtcp := true }, []) else transport.updateTransportState .failed

/-- `onHandshakeCompleted`. -/
def onHandshakeCompleted (transport : DtlsTransport) (component : Component) (configured : Bool) :
    DtlsTransport × Passage :=
  let transport :=
    { transport with
      rtpTimeoutChecker := transport.rtpTimeoutChecker.cancel
      rtcpTimeoutChecker := transport.rtcpTimeoutChecker.cancel }
  let (transport, first) := transport.configure component configured
  if transport.readyRtp && transport.readyRtcp then
    let (transport, second) := transport.updateTransportState .ready
    (transport, first ++ second)
  else (transport, first)

/-- `onHandshakeFailed`. -/
def onHandshakeFailed (transport : DtlsTransport) : DtlsTransport × Passage :=
  { transport with running := false }.updateTransportState .failed

/-- The context of a component. -/
def context (transport : DtlsTransport) : Component → DtlsSocketContext
  | .rtp => transport.dtlsRtp
  | .rtcp => transport.dtlsRtcp

/-- The handshake of a component's context is complete. -/
def complete (transport : DtlsTransport) : Component → DtlsTransport
  | .rtp => { transport with dtlsRtp := { transport.dtlsRtp with mHandshakeCompleted := true } }
  | .rtcp => { transport with dtlsRtcp := { transport.dtlsRtcp with mHandshakeCompleted := true } }

/-- `doHandshakeIteration`, with what comes of it. -/
def doHandshakeIteration (transport : DtlsTransport) (component : Component) (outcome : Outcome) :
    DtlsTransport × Passage :=
  if (transport.context component).mHandshakeCompleted then (transport, [])
  else
    match outcome with
    | .wantRead => (transport, [])
    | .unauthenticated => (transport.complete component, [])
    | .completed configured => (transport.complete component).onHandshakeCompleted component configured
    | .failed => transport.onHandshakeFailed

/-- `onIceData`. -/
def onIceData (transport : DtlsTransport) (component : Component) (outcome : Outcome) : DtlsTransport × Passage :=
  if !transport.running then (transport, []) else transport.doHandshakeIteration component outcome

/-- The worker takes its next task. -/
def work (transport : DtlsTransport) (outcome : Outcome) : DtlsTransport × Passage :=
  match transport.tasks with
  | [] => (transport, [])
  | task :: rest =>
      let transport := { transport with tasks := rest }
      match task with
      | .updateIceState state => transport.updateIceStateSync state
      | .onIceData component => transport.onIceData component outcome

/-- The timeout checker of a component. -/
def checker (transport : DtlsTransport) : Component → TimeoutChecker
  | .rtp => transport.rtpTimeoutChecker
  | .rtcp => transport.rtcpTimeoutChecker

def setChecker (transport : DtlsTransport) (component : Component) (checker : TimeoutChecker) : DtlsTransport :=
  match component with
  | .rtp => { transport with rtpTimeoutChecker := checker }
  | .rtcp => { transport with rtcpTimeoutChecker := checker }

/-- The task of `scheduleNext`, where it has not been cancelled. -/
def timeout (transport : DtlsTransport) (component : Component) : DtlsTransport × Passage :=
  let checker := transport.checker component
  if !checker.scheduled then (transport, [])
  else if transport.state = .ready then (transport.setChecker component checker.cancel, [])
  else
    let transport := transport.setChecker component ⟨0 < checker.maxChecks, checker.maxChecks - 1⟩
    if 0 < checker.maxChecks then (transport, []) else transport.onHandshakeFailed

/-- `close`. -/
def close (transport : DtlsTransport) : DtlsTransport × Passage :=
  let closed :=
    { transport with
      running := false
      rtpTimeoutChecker := transport.rtpTimeoutChecker.cancel
      rtcpTimeoutChecker := transport.rtcpTimeoutChecker.cancel }
  let closed := closed.updateIceState closed.ice.close
  ({ closed with state := .finished }, [(transport.state, .finished)])

/-- What happens to a transport. -/
inductive Event
  | start
  | callback (reported : IceConnection.Callback)
  | setReceivedLastCandidate (hasReceived : Bool)
  | onData (component : Component)
  | work (outcome : Outcome)
  | timeout (component : Component)
  | close
  | closeSync
  deriving DecidableEq, Repr

/-- A step of a transport. -/
def step (transport : DtlsTransport) : Event → DtlsTransport × Passage
  | .start => (transport.start, [])
  | .callback reported => (transport.updateIceState (transport.ice.callback reported), [])
  | .setReceivedLastCandidate hasReceived =>
      ({ transport with ice := { transport.ice with receivedLastCandidate := hasReceived } }, [])
  | .onData component => (transport.onData component, [])
  | .work outcome => transport.work outcome
  | .timeout component => transport.timeout component
  | .close => transport.close
  | .closeSync => ({ transport with ice := transport.ice.closeSync }, [])

end DtlsTransport

end Erizo
