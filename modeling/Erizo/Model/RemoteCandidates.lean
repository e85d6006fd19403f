/-
**What a peer sends** (`addRemoteCandidateSync` of `WebRtcConnection.cpp`, and the loop of a `mid` line of
`SdpInfo.cpp`).

A text with candidates is read by a description of its own, which gets the credentials of the remote one. The
candidates are handed to a transport, when the text is accepted, and added to the remote description in any case. Both
loops have indices of eight bits; `rounds` bounds their rounds. What the transport answers is an argument.
-/

import Erizo.Model.ConnectionState
import Erizo.Model.SdpText

namespace Erizo

open Library StringUtil

namespace SdpInfo

/-- The loop of a `mid` line, round by round. -/
def setMediaTypeWithin (rounds : ℕ) (thisId : Text) (mtype : MediaType) (bundleTags : List BundleTag) :
    Option (List BundleTag) :=
  NarrowIndex.modifyEach 8 (fun tag => if tag.id = thisId then { tag with mediaType := mtype } else tag) rounds bundleTags

/-- `setCredentials`. -/
def setCredentials (sdp : SdpInfo) (username password : Text) (media : MediaType) : SdpInfo :=
  match media with
  | .video => { sdp with iceVideoUsername := username, iceVideoPassword := password }
  | .audio => { sdp with iceAudioUsername := username, iceAudioPassword := password }
  | .other =>
      { sdp with
        iceVideoUsername := username
        iceVideoPassword := password
        iceAudioUsername := username
        iceAudioPassword := password }

/-- `getUsername`. -/
def getUsername (sdp : SdpInfo) (media : MediaType) : Text :=
  if media = .audio then sdp.iceAudioUsername else sdp.iceVideoUsername

/-- `getPassword`. -/
def getPassword (sdp : SdpInfo) (media : MediaType) : Text :=
  if media = .audio then sdp.iceAudioPassword else sdp.iceVideoPassword

end SdpInfo

/-- What a connection does with the candidates it is sent. -/
inductive CandidateAction
  | setReceivedLastCandidate (mediaType : MediaType)
  | setRemoteCandidates (mediaType : MediaType) (candidates : List CandidateInfo) (bundle : Bool)
  deriving DecidableEq

namespace WebRtcConnection

variable (connection : WebRtcConnection) (unset : Uninitialised) (rtpMappings : List RtpMap) (mid : Text) (mLineIndex : ℤ)

/-- The medium a text with candidates is for. -/
def candidateMedia : MediaType :=
  if mid = "video".toList ∨ mLineIndex = connection.remoteSdp.videoSdpMLine then .video else .audio

/-- The name of that medium. -/
def candidateMid : Text :=
  if connection.candidateMedia mid mLineIndex = .video then "video".toList else "audio".toList

/-- The description that reads a text with candidates. -/
def tempSdp : SdpInfo :=
  let theType := connection.candidateMedia mid mLineIndex
  (SdpInfo.init unset rtpMappings).setCredentials (connection.remoteSdp.getUsername theType)
    (connection.remoteSdp.getPassword theType) .other

/-- The medium of the transport that candidates are handed to, and the transport. -/
def candidateTransport : MediaType × Option ConnectionTransport :=
  if connection.candidateMedia mid mLineIndex = .video ∨ connection.bundle then (.video, connection.videoTransport)
  else (.audio, connection.audioTransport)

/-- A text that was processed, or not: its candidates are handed to a transport; none when a null pointer is followed. -/
def handCandidates (processed accepts : Bool) (candidates : List CandidateInfo) : Option (List CandidateAction × Bool) :=
  if processed then
    (connection.candidateTransport mid mLineIndex).2.map fun _ =>
      ([.setRemoteCandidates (connection.candidateTransport mid mLineIndex).1 candidates connection.bundle], accepts)
  else some ([], false)

/-- `addRemoteCandidateSync`; none when a null pointer is followed, when the text cannot be processed, or when the loop
over its candidates goes on for longer. -/
def addRemoteCandidateSync (rounds : ℕ) (accepts : Bool) (sdp : Text) :
    Option (WebRtcConnection × List CandidateAction × Bool) :=
  if connection.videoTransport.isNone && connection.audioTransport.isNone then some (connection, [], false)
  else if mLineIndex = -1 then
    let mediaType := if connection.videoTransport.isSome then .video else .audio
    some (connection, [.setReceivedLastCandidate mediaType], true)
  else do
    let tempSdp := connection.tempSdp unset rtpMappings mid mLineIndex
    let (processed, tempSdp) ← SdpInfo.processSdp unset tempSdp sdp (connection.candidateMid mid mLineIndex)
    let (actions, res) ← connection.handCandidates mid mLineIndex processed accepts tempSdp.candidateVector
    let remoteSdp ← NarrowIndex.each 8 tempSdp.candidateVector (fun sdp info => (sdp.addCandidate info).1) rounds
      connection.remoteSdp
    some ({ connection with remoteSdp := remoteSdp }, actions, res)

end WebRtcConnection

end Erizo
