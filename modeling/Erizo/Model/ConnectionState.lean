/-
**The state of a connection** (`WebRtcConnection.cpp`).

A transport reports its states to `updateState`, which works out the state of the connection and tells the
listener; `syncClose` ends the connection. Both run on the worker of the connection, one after the other.
A transport changes its own state before it reports it, and when it is closed.
-/

import Erizo.Model.BandwidthDistribution
import Erizo.Model.DtlsTransport
import Erizo.Model.SdpInfo

namespace Erizo

/-- `WebRTCEvent`. -/
inductive WebRTCEvent
  | initial
  | started
  | gathered
  | ready
  | finished
  | candidate
  | sdp
  | sdpProcessed
  | failed
  deriving DecidableEq, Repr

/-- What the connection uses of a transport. -/
structure ConnectionTransport where
  state : TransportState
  closed : Bool
  deriving DecidableEq, Repr

/-- `DtlsTransport::close`, as the connection sees it. -/
def ConnectionTransport.close (transport : ConnectionTransport) : ConnectionTransport :=
  { transport with state := .finished, closed := true }

/-- `WebRtcConnection`. -/
structure WebRtcConnection where
  globalState : WebRTCEvent
  sending : Bool
  bundle : Bool
  trickleEnabled : Bool
  /-- Whether `conn_event_listener_` is set. -/
  connEventListener : Bool
  mediaStreams : List MediaStream
  videoTransport : Option ConnectionTransport
  audioTransport : Option ConnectionTransport
  remoteSdp : SdpInfo
  localSdp : SdpInfo

namespace WebRtcConnection

/-- The text that goes with an event: none, that of `getLocalSdp()`, or that of `remote_sdp_->getSdp()`. -/
inductive Message
  | empty
  | localSdp
  | remoteSdp
  deriving DecidableEq, Repr

/-- What a step does outside the connection. -/
inductive Action
  | notifyEvent (event : WebRTCEvent) (message : Message)
  | setRemoteCandidates (mediaType : MediaType) (candidates : List CandidateInfo) (bundle : Bool)
  | trackTransportInfo
  | sendPLIToFeedback (stream : MediaStream)
  deriving DecidableEq

/-- `syncClose`. -/
def syncClose (connection : WebRtcConnection) : WebRtcConnection :=
  if !connection.sending then connection
  else
    { connection with
      sending := false
      mediaStreams := []
      videoTransport := connection.videoTransport.map ConnectionTransport.close
      audioTransport := connection.audioTransport.map ConnectionTransport.close
      globalState := .finished
      connEventListener := false }

/-- `maybeNotifyWebRtcConnectionEvent`. -/
def maybeNotifyWebRtcConnectionEvent (connection : WebRtcConnection) (event : WebRTCEvent) (message : Message) :
    List Action :=
  if connection.connEventListener then [.notifyEvent event message] else []

/-- Every medium of an SDP has a transport, which is in a given state. -/
def mediaIn (connection : WebRtcConnection) (sdp : SdpInfo) (state : TransportState) : Bool :=
  (!sdp.hasAudio || connection.audioTransport.any (·.state = state)) &&
    (!sdp.hasVideo || connection.videoTransport.any (·.state = state))

/-- What the `switch` of `updateState` leaves. -/
structure Calculated where
  temp : WebRTCEvent
  msg : Message
  sending : Bool
  actions : List Action

/-- The candidates that are passed on once a bundled connection has gathered its own; none when they are to be
passed to a transport that is not there. The test for audio asks that the connection is not bundled, and is
left out. -/
def passCandidates (connection : WebRtcConnection) : Option (List Action) :=
  let candidates := connection.remoteSdp.candidateVector
  if !candidates.isEmpty && connection.remoteSdp.hasVideo then
    connection.videoTransport.map fun _ => [.setRemoteCandidates .video candidates connection.bundle]
  else some []

/-- What is done when all channels are ready. -/
def readyActions (connection : WebRtcConnection) : List Action :=
  .trackTransportInfo :: connection.mediaStreams.map .sendPLIToFeedback

/-- The `switch` of `updateState`; none when a null pointer is followed. -/
def calculate (connection : WebRtcConnection) (state : TransportState) : Option Calculated :=
  let unchanged : Calculated := ⟨connection.globalState, .empty, connection.sending, []⟩
  match state with
  | .started =>
      if connection.bundle || connection.mediaIn connection.remoteSdp .started then
        some { unchanged with temp := .started }
      else some unchanged
  | .gathered =>
      if connection.bundle then
        connection.passCandidates.map fun actions =>
          if !connection.trickleEnabled then
            { unchanged with temp := .gathered, msg := .localSdp, actions := actions }
          else { unchanged with actions := actions }
      else if connection.mediaIn connection.localSdp .gathered && !connection.trickleEnabled then
        some { unchanged with temp := .gathered, msg := .localSdp }
      else some unchanged
  | .ready =>
      if connection.bundle || connection.mediaIn connection.remoteSdp .ready then
        some { unchanged with temp := .ready, actions := connection.readyActions }
      else some unchanged
  | .failed => some { unchanged with temp := .failed, msg := .remoteSdp, sending := false }
  | .initial | .finished => some unchanged

/-- `updateState`; none when a null pointer is followed. -/
def updateState (connection : WebRtcConnection) (state : TransportState) :
    Option (WebRtcConnection × List Action) :=
  if connection.videoTransport.isNone && connection.audioTransport.isNone then some (connection, [])
  else if connection.globalState = .failed then some (connection, [])
  else
    (connection.calculate state).map fun calculated =>
      let connection := { connection with sending := calculated.sending }
      if connection.globalState = calculated.temp then (connection, calculated.actions)
      else
        let connection := { connection with globalState := calculated.temp }
        (connection,
          calculated.actions ++ connection.maybeNotifyWebRtcConnectionEvent connection.globalState calculated.msg)

/-- The transport of a medium takes a state. -/
def setTransportState (connection : WebRtcConnection) (mediaType : MediaType) (state : TransportState) :
    WebRtcConnection :=
  match mediaType with
  | .video =>
      { connection with videoTransport := connection.videoTransport.map fun transport => { transport with state } }
  | .audio =>
      { connection with audioTransport := connection.audioTransport.map fun transport => { transport with state } }
  | .other => connection

/-- What happens to a connection. -/
inductive Event
  | updateState (state : TransportState)
  | close
  | transportState (mediaType : MediaType) (state : TransportState)
  deriving DecidableEq, Repr

/-- A step of a connection. Nothing happens after a null pointer has been followed. -/
def step (connection : Option WebRtcConnection) (event : Event) : Option WebRtcConnection × List Action :=
  match connection with
  | none => (none, [])
  | some connection =>
      match event with
      | .updateState state =>
          match connection.updateState state with
          | none => (none, [])
          | some (connection, actions) => (some connection, actions)
      | .close => (some connection.syncClose, [])
      | .transportState mediaType state => (some (connection.setTransportState mediaType state), [])

end WebRtcConnection

end Erizo
