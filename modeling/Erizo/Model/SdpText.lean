/-
**Session descriptions, written** (`SdpInfo.cpp`): `stringifyCandidate`, `addCandidate` and `getSdp`.

`getSdp` writes the session, and then a section for audio and one for video. The loops over the bundle tags and the
header extensions have indices of eight bits, those over the other vectors have wide ones. `rounds` bounds the rounds
of the former; none stands for a loop that goes on for longer. `msid` is what `gen_random` makes up. What is logged is
left out.
-/

import Erizo.Library.NarrowIndex
import Erizo.Model.SdpInfo

namespace Erizo

open Library StringUtil

namespace SdpInfo

/-! ### Candidates -/

/-- The name of a type of candidates. -/
def hostTypeName : HostType → Text
  | .host => "host".toList
  | .srflx => "srflx".toList
  | .prflx => "prflx".toList
  | .relay => "relay".toList

/-- `stringifyCandidate`. -/
def stringifyCandidate (candidate : CandidateInfo) : Text :=
  "a=candidate:".toList ++ candidate.foundation ++ " ".toList ++ toText candidate.componentId.toNat ++ " ".toList ++
    candidate.netProtocol ++ " ".toList ++ toText candidate.priority.toNat ++ " ".toList ++ candidate.hostAddress ++
    " ".toList ++ toText candidate.hostPort.toInt ++ " typ ".toList ++ hostTypeName candidate.hostType ++
    (if candidate.hostType = .srflx ∨ candidate.hostType = .relay then
      " raddr ".toList ++ candidate.rAddress ++ " rport ".toList ++ toText candidate.rPort.toInt
    else []) ++
    " generation 0".toList

/-- `addCandidate`. -/
def addCandidate (sdp : SdpInfo) (info : CandidateInfo) : SdpInfo × Text :=
  ({ sdp with candidateVector := sdp.candidateVector ++ [info] }, stringifyCandidate info)

/-! ### The parts of a description -/

/-- A line. -/
def line (text : Text) : Text := text ++ "\n".toList

/-- `isValidExtension`. -/
def isValidExtension (sdp : SdpInfo) (uri : Text) : Bool := sdp.supportedExtMap.any fun extension => extension.uri = uri

/-- A loop with an index of eight bits that writes something for each element of a vector. -/
def writeEach {α : Type} (rounds : ℕ) (elements : List α) (write : α → Text) : Option Text :=
  NarrowIndex.each 8 elements (fun text element => text ++ write element) rounds []

variable (rounds : ℕ) (msid : Text) (sdp : SdpInfo) (mediaType : MediaType)

/-- What is written of the session. -/
def sessionText : Text :=
  line "v=0".toList ++ line "o=- 0 0 IN IP4 127.0.0.1".toList ++ line "s=LicodeMCU".toList ++ line "t=0 0".toList

/-- The bundle. -/
def bundleText : Option Text :=
  if sdp.isBundle then do
    let tags ← writeEach rounds sdp.bundleTags fun tag => " ".toList ++ tag.id
    some (line ("a=group:BUNDLE".toList ++ tags) ++ line ("a=msid-semantic: WMS ".toList ++ msid))
  else some []

/-- The profile of an `m=` line. -/
def profileText : Text :=
  if sdp.profile = .savpf then " UDP/TLS/RTP/SAVPF ".toList else " RTP/AVPF ".toList

/-- A payload type in an `m=` line, with the number of those before it. -/
def writePayloadType (codecs : ℤ) (state : ℤ × Text) (payloadInfo : RtpMap) : ℤ × Text :=
  if payloadInfo.mediaType = mediaType then
    let codecCounter := state.1 + 1
    (codecCounter, state.2 ++ toText payloadInfo.payloadType.toNat ++ if codecCounter < codecs then " ".toList else [])
  else state

/-- An `m=` line and what follows for every medium. -/
def mediaText (name : Text) (codecs : ℤ) : Text :=
  line ("m=".toList ++ name ++ " 1".toList ++ sdp.profileText ++
      (sdp.payloadVector.foldl (writePayloadType mediaType codecs) (0, [])).2) ++
    line "c=IN IP4 0.0.0.0".toList ++
    if sdp.isRtcpMux then line "a=rtcp:1 IN IP4 0.0.0.0".toList else []

/-- The candidates that are selected. -/
def candidatesText (select : CandidateInfo → Bool) : Text :=
  (sdp.candidateVector.filter select).flatMap fun candidate => line (stringifyCandidate candidate)

/-- Credentials. -/
def credentialsText (username password : Text) : Text :=
  line ("a=ice-ufrag:".toList ++ username) ++ line ("a=ice-pwd:".toList ++ password)

/-- The fingerprint and the role. -/
def dtlsText : Text :=
  (if sdp.isFingerprint then line ("a=fingerprint:sha-256 ".toList ++ sdp.fingerprint) else []) ++
    match sdp.dtlsRole with
    | .actpass => line "a=setup:actpass".toList
    | .passive => line "a=setup:passive".toList
    | .active => line "a=setup:active".toList

/-- A direction. -/
def directionText : StreamDirection → Text
  | .sendonly => line "a=sendonly".toList
  | .sendrecv => line "a=sendrecv".toList
  | .recvonly => line "a=recvonly".toList

/-- A header extension. -/
def extMapText (extension : ExtMap) : Text :=
  if extension.mediaType = mediaType ∧ sdp.isValidExtension extension.uri then
    line ("a=extmap:".toList ++ toText extension.value.toNat ++ " ".toList ++ extension.uri)
  else []

/-- A bundle tag. -/
def midText (tag : BundleTag) : Text := if tag.mediaType = mediaType then line ("a=mid:".toList ++ tag.id) else []

/-- What follows the bundle tags for every medium. -/
def cryptoText : Text :=
  (if sdp.isRtcpMux then line "a=rtcp-mux".toList else []) ++
    (sdp.cryptoVector.filter (·.mediaType = mediaType)).flatMap fun crypInfo =>
      line ("a=crypto:".toList ++ toText crypInfo.tag ++ " ".toList ++ crypInfo.cipherSuite ++ " inline:".toList ++
        crypInfo.keyParams)

/-- The format parameters of an `fmtp` line. -/
def fmtpLine (parameters : FormatParameters) : Text :=
  parameters.toList.flatMap fun parameter =>
    (if parameter.1 ≠ "none".toList then parameter.1 ++ "=".toList else []) ++ parameter.2 ++ ";".toList

/-- A codec. Only audio codecs are written with their channels. -/
def codecText (rtp : RtpMap) : Text :=
  let payloadType := toText rtp.payloadType.toInt32.toInt
  line ("a=rtpmap:".toList ++ payloadType ++ " ".toList ++ rtp.encodingName ++ "/".toList ++ toText rtp.clockRate.toNat ++
      if mediaType = .audio ∧ 1 < rtp.channels then "/".toList ++ toText rtp.channels.toNat else []) ++
    (rtp.feedbackTypes.flatMap fun feedback => line ("a=rtcp-fb:".toList ++ payloadType ++ " ".toList ++ feedback)) ++
    if rtp.formatParameters.isEmpty then []
    else line ("a=fmtp:".toList ++ payloadType ++ " ".toList ++ (fmtpLine rtp.formatParameters).dropLast)

/-- The codecs of a medium. -/
def codecsText : Text := (sdp.payloadVector.filter (·.mediaType = mediaType)).flatMap (codecText mediaType)

/-- `operator<<` of a direction of restriction identifiers. -/
def ridDirectionText : RidDirection → Text
  | .send => "send".toList
  | .recv => "recv".toList

/-- The restriction identifiers. -/
def ridsText : Text :=
  sdp.rids.flatMap fun rid => line ("a=rid:".toList ++ rid.id ++ " ".toList ++ ridDirectionText rid.direction)

/-- The line for simulcast. -/
def simulcastText : Text :=
  match sdp.rids with
  | [] => []
  | rid :: _ =>
      line ("a=simulcast: ".toList ++ ridDirectionText rid.direction ++ " rid=".toList ++
        List.intercalate ";".toList (sdp.rids.map Rid.id))

/-! ### The description -/

/-- The section for audio. -/
def audioText : Option Text :=
  if sdp.hasAudio then do
    let extensions ← writeEach rounds sdp.extMapVector (sdp.extMapText .audio)
    let tags ← writeEach rounds sdp.bundleTags (midText .audio)
    some (sdp.mediaText .audio "audio".toList sdp.audioCodecs ++
      sdp.candidatesText (fun candidate => candidate.mediaType = .audio || sdp.isBundle) ++
      (if sdp.iceAudioUsername ≠ [] then credentialsText sdp.iceAudioUsername sdp.iceAudioPassword
      else credentialsText sdp.iceVideoUsername sdp.iceVideoPassword) ++
      sdp.dtlsText ++ directionText sdp.audioDirection ++ extensions ++ tags ++ sdp.cryptoText .audio ++
      sdp.codecsText .audio)
  else some []

/-- The section for video. -/
def videoText : Option Text :=
  if sdp.hasVideo then do
    let extensions ← writeEach rounds sdp.extMapVector (sdp.extMapText .video)
    let tags ← writeEach rounds sdp.bundleTags (midText .video)
    some (sdp.mediaText .video "video".toList sdp.videoCodecs ++
      sdp.candidatesText (fun candidate => candidate.mediaType = .video) ++
      credentialsText sdp.iceVideoUsername sdp.iceVideoPassword ++ extensions ++ sdp.dtlsText ++
      directionText sdp.videoDirection ++ tags ++ sdp.cryptoText .video ++ sdp.ridsText ++ sdp.codecsText .video ++
      sdp.simulcastText)
  else some []

/-- `getSdp`. -/
def getSdp : Option Text := do
  let bundle ← sdp.bundleText rounds msid
  let audio ← sdp.audioText rounds
  let video ← sdp.videoText rounds
  some (sessionText ++ bundle ++ audio ++ video)

end SdpInfo

end Erizo
