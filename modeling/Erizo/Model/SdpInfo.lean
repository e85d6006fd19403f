/-
**Session descriptions** (`SdpInfo.cpp`, `SdpInfo.h`): reading one, and negotiating the codecs.

`processSdp` goes through the lines of a description. Every line is searched for each of some twenty
patterns, wherever they stand in it; what a line means depends on the media section it is in. After the
lines, `postProcessInfo` completes the credentials and matches the codecs that were read with the internal
ones: the codecs that are not `rtx` first, then the `rtx` codecs by the codec they belong to.
`supportCodecByName` asks what came of that.

`none` stands for a call that does not return a result: one that reads past the end of a vector, takes a
character from an empty text, reads through the end of a map, throws, or does not end.
-/

import Erizo.Model.StringUtil

namespace Erizo

open Library StringUtil

/-! ### Data -/

/-- `HostType`. -/
inductive HostType
  | host
  | srflx
  | prflx
  | relay
  deriving DecidableEq, Repr

/-- `MediaType`. -/
inductive MediaType
  | video
  | audio
  | other
  deriving DecidableEq, Repr

/-- `StreamDirection`. -/
inductive StreamDirection
  | sendrecv
  | sendonly
  | recvonly
  deriving DecidableEq, Repr

/-- `RidDirection`. -/
inductive RidDirection
  | send
  | recv
  deriving DecidableEq, Repr

/-- `Profile`. -/
inductive Profile
  | avpf
  | savpf
  deriving DecidableEq, Repr

/-- `DtlsRole`. -/
inductive DtlsRole
  | actpass
  | active
  | passive
  deriving DecidableEq, Repr

/-- `CryptoInfo`. -/
structure CryptoInfo where
  tag : ℤ
  cipherSuite : Text
  keyParams : Text
  mediaType : MediaType
  deriving DecidableEq

/-- `CandidateInfo`. -/
structure CandidateInfo where
  isBundle : Bool
  priority : UInt32
  componentId : UInt32
  foundation : Text
  hostAddress : Text
  rAddress : Text
  hostPort : Int32
  rPort : Int32
  netProtocol : Text
  hostType : HostType
  username : Text
  password : Text
  mediaType : MediaType
  sdp : Text
  deriving DecidableEq

/-- `BundleTag`. -/
structure BundleTag where
  id : Text
  mediaType : MediaType
  deriving DecidableEq

/-- The format parameters of a codec. -/
abbrev FormatParameters := Std.ExtTreeMap Text Text

/-- `RtpMap`. -/
structure RtpMap where
  payloadType : UInt32
  encodingName : Text
  clockRate : UInt32
  mediaType : MediaType
  channels : UInt32
  feedbackTypes : List Text
  formatParameters : FormatParameters
  deriving DecidableEq

/-- `ExtMap`. -/
structure ExtMap where
  value : UInt32
  uri : Text
  mediaType : MediaType
  deriving DecidableEq

/-- `Rid`. -/
structure Rid where
  id : Text
  direction : RidDirection
  deriving DecidableEq

/-- A map between payload types. -/
abbrev PayloadTypeMap := Std.ExtTreeMap UInt32 UInt32

/-- What the fields hold that the constructors leave uninitialised. -/
structure Uninitialised where
  clockRate : UInt32
  mediaType : MediaType
  channels : UInt32
  isBundle : Bool
  rPort : Int32
  videoDirection : StreamDirection
  audioDirection : StreamDirection

/-- `SdpInfo`. -/
structure SdpInfo where
  isBundle : Bool
  hasAudio : Bool
  hasVideo : Bool
  isRtcpMux : Bool
  videoDirection : StreamDirection
  audioDirection : StreamDirection
  profile : Profile
  isFingerprint : Bool
  fingerprint : Text
  dtlsRole : DtlsRole
  inOutPTMap : PayloadTypeMap
  outInPTMap : PayloadTypeMap
  payloadVector : List RtpMap
  bundleTags : List BundleTag
  extMapVector : List ExtMap
  videoSdpMLine : ℤ
  audioSdpMLine : ℤ
  videoCodecs : ℤ
  audioCodecs : ℤ
  videoBandwidth : UInt32
  candidateVector : List CandidateInfo
  cryptoVector : List CryptoInfo
  internalPayloadVector : List RtpMap
  iceVideoUsername : Text
  iceAudioUsername : Text
  iceVideoPassword : Text
  iceAudioPassword : Text
  payloadParsedMap : Std.ExtTreeMap UInt32 RtpMap
  supportedExtMap : List ExtMap
  rids : List Rid
  deriving DecidableEq

namespace SdpInfo

section Patterns

def cand : Text := "a=candidate:".toList
def crypto : Text := "a=crypto:".toList
def group : Text := "a=group:".toList
def video : Text := "m=video".toList
def audio : Text := "m=audio".toList
def mid : Text := "a=mid".toList
def sendrecv : Text := "a=sendrecv".toList
def recvonly : Text := "a=recvonly".toList
def sendonly : Text := "a=sendonly".toList
def iceUser : Text := "a=ice-ufrag".toList
def icePass : Text := "a=ice-pwd".toList
def rid : Text := "a=rid".toList
def savpf : Text := "SAVPF".toList
def rtpmap : Text := "a=rtpmap:".toList
def rtcpmux : Text := "a=rtcp-mux".toList
def fp : Text := "a=fingerprint".toList
def setup : Text := "a=setup:".toList
def extmap : Text := "a=extmap:".toList
def rtcpfb : Text := "a=rtcp-fb:".toList
def fmtp : Text := "a=fmtp:".toList
def bas : Text := "b=AS:".toList

/-- `kAssociatedPt`. -/
def associatedPt : Text := "apt".toList

end Patterns

variable (unset : Uninitialised)

/-- The constructor. -/
def init (rtpMappings : List RtpMap) : SdpInfo where
  isBundle := false
  hasAudio := false
  hasVideo := false
  isRtcpMux := false
  videoDirection := unset.videoDirection
  audioDirection := unset.audioDirection
  profile := .savpf
  isFingerprint := false
  fingerprint := []
  dtlsRole := .actpass
  inOutPTMap := ∅
  outInPTMap := ∅
  payloadVector := []
  bundleTags := []
  extMapVector := []
  videoSdpMLine := -1
  audioSdpMLine := -1
  videoCodecs := 0
  audioCodecs := 0
  videoBandwidth := 0
  candidateVector := []
  cryptoVector := []
  internalPayloadVector := rtpMappings
  iceVideoUsername := []
  iceAudioUsername := []
  iceVideoPassword := []
  iceAudioPassword := []
  payloadParsedMap := ∅
  supportedExtMap := []
  rids := []

/-- A new `RtpMap` whose payload type is set. -/
def newMap (payloadType : UInt32) : RtpMap where
  payloadType := payloadType
  encodingName := []
  clockRate := unset.clockRate
  mediaType := unset.mediaType
  channels := unset.channels
  feedbackTypes := []
  formatParameters := ∅

/-! ### Candidates -/

/-- The type a candidate line names. -/
def hostTypeOf (name : Text) : HostType :=
  if name = "relay".toList then .relay
  else if name = "prflx".toList then .prflx
  else if name = "srflx".toList then .srflx
  else .host

/-- The candidate `processCandidate` reads from the pieces of a line; none when it ignores the line. -/
def candidateOf (pieces : List Text) (mediaType : MediaType) (line : Text) : Option (Option CandidateInfo) := do
  let foundation ← pieces[1]?
  let componentId ← pieces[2]?
  let netProtocol ← pieces[3]?
  if netProtocol ≠ "UDP".toList ∧ netProtocol ≠ "udp".toList then some none
  else do
    let priority ← pieces[4]?
    let hostAddress ← pieces[5]?
    let hostPort ← pieces[6]?
    let typ ← pieces[7]?
    if typ ≠ "typ".toList then some none
    else do
      let hostType := hostTypeOf (← pieces[8]?)
      let (rAddress, rPort) ←
        if hostType = .srflx ∨ hostType = .relay then do
          some (← pieces[10]?, (toUnsigned (← pieces[12]?)).toInt32)
        else some ([], unset.rPort)
      some (some {
        isBundle := unset.isBundle
        priority := toUnsigned priority
        componentId := toUnsigned componentId
        foundation := foundation
        hostAddress := hostAddress
        rAddress := rAddress
        hostPort := (toUnsigned hostPort).toInt32
        rPort := rPort
        netProtocol := netProtocol
        hostType := hostType
        username := []
        password := []
        mediaType := mediaType
        sdp := line })

/-- `processCandidate`. -/
def processCandidate (sdp : SdpInfo) (pieces : List Text) (mediaType : MediaType) (line : Text) :
    Option (Bool × SdpInfo) :=
  (candidateOf unset pieces mediaType line).map fun
    | none => (false, sdp)
    | some candidate => (true, { sdp with candidateVector := sdp.candidateVector ++ [candidate] })

/-! ### The lines -/

/-- The variables of `processSdp` that live across lines. -/
structure Reading where
  sdp : SdpInfo
  mlineNum : ℤ
  mtype : MediaType

namespace Reading

variable (line : Text) (reading : Reading)

/-- `a=rtcp-mux`. -/
def onRtcpMux : Reading :=
  if line.find rtcpmux then { reading with sdp := { reading.sdp with isRtcpMux := true } } else reading

/-- The direction of the media of the section. -/
def setDirection (direction : StreamDirection) : Reading :=
  if reading.mtype = .audio then { reading with sdp := { reading.sdp with audioDirection := direction } }
  else { reading with sdp := { reading.sdp with videoDirection := direction } }

/-- `a=recvonly`, `a=sendonly`, `a=sendrecv`. -/
def onDirection : Reading :=
  if line.find recvonly then reading.setDirection .recvonly
  else if line.find sendonly then reading.setDirection .sendonly
  else if line.find sendrecv then reading.setDirection .sendrecv
  else reading

/-- `SAVPF`. -/
def onProfile : Reading :=
  if line.find savpf then { reading with sdp := { reading.sdp with profile := .savpf } } else reading

/-- `a=fingerprint`. -/
def onFingerprint : Option Reading :=
  if line.find fp then do
    let parts := splitOneOf line ":".toList 1
    let parts := splitOneOf (← parts[1]?) " ".toList 0
    let fingerprint ← parts[1]?
    some { reading with sdp := { reading.sdp with fingerprint := fingerprint, isFingerprint := true } }
  else some reading

/-- The role a setup line names. -/
def dtlsRoleOf (value : Text) : DtlsRole :=
  if value.find "passive".toList then .passive
  else if value.find "active".toList then .active
  else .actpass

/-- `a=setup:`. -/
def onSetup : Option Reading :=
  if line.find setup then do
    let parts := splitOneOf line ":".toList 1
    let value ← parts[1]?
    some { reading with sdp := { reading.sdp with dtlsRole := dtlsRoleOf value } }
  else some reading

/-- `a=group:`. -/
def onGroup : Option Reading :=
  if line.find group then do
    let parts := splitOneOf line ":  \r\n".toList 10
    let kind ← parts[1]?
    some { reading with sdp := { reading.sdp with
      isBundle := if kind = "BUNDLE".toList then true else reading.sdp.isBundle
      bundleTags := reading.sdp.bundleTags ++ (parts.drop 2).map fun id => ⟨id, .other⟩ } }
  else some reading

/-- `m=video`. -/
def onVideo : Reading :=
  if line.find video then
    { sdp := { reading.sdp with videoSdpMLine := reading.mlineNum + 1, hasVideo := true }
      mlineNum := reading.mlineNum + 1
      mtype := .video }
  else reading

/-- `m=audio`. -/
def onAudio : Reading :=
  if line.find audio then
    { sdp := { reading.sdp with audioSdpMLine := reading.mlineNum + 1, hasAudio := true }
      mlineNum := reading.mlineNum + 1
      mtype := .audio }
  else reading

/-- `a=candidate:`. -/
def onCandidate : Option Reading :=
  if line.find cand then do
    let (_, sdp) ← processCandidate unset reading.sdp (splitOneOf line " :".toList 0) reading.mtype line
    some { reading with sdp := sdp }
  else some reading

/-- `a=crypto:`. -/
def onCrypto : Option Reading :=
  if line.find crypto then do
    let cryptopiece := splitOneOf line " :".toList 0
    let cipherSuite ← cryptopiece[2]?
    let keyParams ← cryptopiece[4]?
    some { reading with sdp := { reading.sdp with
      cryptoVector := reading.sdp.cryptoVector ++ [⟨0, cipherSuite, keyParams, reading.mtype⟩] } }
  else some reading

/-- The user name of the media of a section. -/
def setUsername (sdp : SdpInfo) (mtype : MediaType) (username : Text) : SdpInfo :=
  if mtype = .audio then { sdp with iceAudioUsername := username } else { sdp with iceVideoUsername := username }

/-- The password of the media of a section. -/
def setPassword (sdp : SdpInfo) (mtype : MediaType) (password : Text) : SdpInfo :=
  if mtype = .audio then { sdp with iceAudioPassword := password } else { sdp with iceVideoPassword := password }

/-- A line with a credential, which `set` puts where it belongs. -/
def onCredential (pattern : Text) (set : SdpInfo → MediaType → Text → SdpInfo) : Option Reading :=
  if line.find pattern then do
    let parts := splitOneOf line ":".toList 1
    let parts := splitOneOf (← parts[1]?) "\r".toList 1
    let value ← parts[0]?
    some { reading with sdp := set reading.sdp reading.mtype value }
  else some reading

/-- `a=ice-ufrag`. -/
def onUser : Option Reading := onCredential line reading iceUser setUsername

/-- `a=ice-pwd`. -/
def onPass : Option Reading := onCredential line reading icePass setPassword

/-- The loop of a `mid` line. Its index has eight bits, and does not reach 256 tags. -/
def setMediaType (thisId : Text) (mtype : MediaType) (bundleTags : List BundleTag) : Option (List BundleTag) :=
  if 256 ≤ bundleTags.length then none
  else some (bundleTags.map fun tag => if tag.id = thisId then { tag with mediaType := mtype } else tag)

/-- `a=mid`. -/
def onMid : Option Reading :=
  if line.find mid then
    match (splitOneOf line ": \r\n".toList 4)[1]? with
    | some thisId =>
        if reading.sdp.isBundle then do
          let bundleTags ← setMediaType thisId reading.mtype reading.sdp.bundleTags
          some { reading with sdp := { reading.sdp with bundleTags := bundleTags } }
        else some reading
    | none => some reading
  else some reading

/-- The restriction identifier of a `rid` line, when it is sent or received. -/
def ridOf (raw : Text) : Option Rid :=
  if raw.find " ".toList then
    let id := raw.takeWhile (· ≠ ' ')
    let direction := (raw.drop (id.length + 1)).take 4
    if direction = "send".toList then some ⟨id, .send⟩
    else if direction = "recv".toList then some ⟨id, .recv⟩
    else none
  else none

/-- `a=rid`. -/
def onRid : Option Reading :=
  if line.find rid then
    if reading.mtype = .video then do
      let raw ← (splitOneOf line ":".toList 2)[1]?
      some { reading with sdp := { reading.sdp with rids := reading.sdp.rids ++ (ridOf raw).toList } }
    else some reading
  else some reading

/-- `a=rtpmap:`. -/
def onRtpmap : Option Reading :=
  if line.find rtpmap then do
    let parts := splitOneOf line " :/\n".toList 4
    let pt := toUnsigned (← parts[1]?)
    let codecname ← parts[2]?
    let parsedClock := toUnsigned (← parts[3]?)
    let element := (reading.sdp.payloadParsedMap[pt]?).getD (newMap unset pt)
    some { reading with sdp := { reading.sdp with
      payloadParsedMap := reading.sdp.payloadParsedMap.insert pt { element with
        payloadType := pt
        encodingName := codecname
        clockRate := parsedClock
        mediaType := reading.mtype } } }
  else some reading

/-- `a=extmap:`. -/
def onExtMap : Option Reading :=
  if line.find extmap then
    let parts := splitOneOf line " :=".toList 3
    if 3 ≤ parts.length then do
      let id := toUnsigned (← parts[2]?)
      let uri ← parts[3]?
      some { reading with sdp := { reading.sdp with
        extMapVector := reading.sdp.extMapVector ++ [⟨id, uri.dropLast, reading.mtype⟩] } }
    else some reading
  else some reading

/-- `a=rtcp-fb:`. -/
def onFeedback : Option Reading :=
  if line.find rtcpfb then do
    let parts := splitOneOf line " :".toList 2
    let pt := toUnsigned (← parts[1]?)
    let feedback ← popBack (← parts[2]?)
    let element := (reading.sdp.payloadParsedMap[pt]?).getD (newMap unset pt)
    some { reading with sdp := { reading.sdp with
      payloadParsedMap := reading.sdp.payloadParsedMap.insert pt { element with
        feedbackTypes := element.feedbackTypes ++ [feedback] } } }
  else some reading

/-- The option and the value of a part of an `fmtp` line. -/
def parameterOf (fmtpLine : Text) : Option (Text × Text) :=
  match splitOneOf fmtpLine "=".toList 40 with
  | [value] => some ("none".toList, value)
  | [option, value] => some (option, value)
  | _ => none

/-- A parameter of a codec. -/
def setParameter (pt : UInt32) (sdp : SdpInfo) (parameter : Text × Text) : SdpInfo :=
  let element := (sdp.payloadParsedMap[pt]?).getD (newMap unset pt)
  { sdp with
    payloadParsedMap := sdp.payloadParsedMap.insert pt { element with
      formatParameters := element.formatParameters.insert parameter.1 parameter.2 } }

/-- The loop over the parts of an `fmtp` line; the last part loses its last character. -/
def setParameters (pt : UInt32) (sdp : SdpInfo) : List Text → Option SdpInfo
  | [] => some sdp
  | [last] => do
      let last ← popBack last
      some (((parameterOf last).map (setParameter unset pt sdp)).getD sdp)
  | part :: parts => setParameters pt (((parameterOf part).map (setParameter unset pt sdp)).getD sdp) parts

/-- `b=AS:`. -/
def onBandwidth : Reading :=
  if line.find bas then
    if reading.mtype = .video then
      match (splitOneOf line ":".toList 2)[1]? with
      | some value => { reading with sdp := { reading.sdp with videoBandwidth := toUnsigned value } }
      | none => reading
    else reading
  else reading

/-- `a=fmtp:`, and what follows it: a line with too few parts is left. -/
def onFmtp : Option Reading :=
  if line.find fmtp then
    let parts := splitOneOf line " :;".toList 40
    if parts.length < 3 then some reading
    else do
      let pt := toUnsigned (← parts[1]?)
      let sdp ← setParameters unset pt reading.sdp (parts.drop 2)
      some (onBandwidth line { reading with sdp := sdp })
  else some (onBandwidth line reading)

/-- A round of the loop over the lines. -/
def processLine : Option Reading := do
  let reading := onRtcpMux line reading
  let reading := onDirection line reading
  let reading := onProfile line reading
  let reading ← onFingerprint line reading
  let reading ← onSetup line reading
  let reading ← onGroup line reading
  let reading := onVideo line reading
  let reading := onAudio line reading
  let reading ← onCandidate unset line reading
  let reading ← onCrypto line reading
  let reading ← onUser line reading
  let reading ← onPass line reading
  let reading ← onMid line reading
  let reading ← onRid line reading
  let reading ← onRtpmap unset line reading
  let reading ← onExtMap line reading
  let reading ← onFeedback unset line reading
  onFmtp unset line reading

end Reading

/-- The loop over the lines. -/
def processLines (lines : List Text) (reading : Reading) : Option Reading :=
  lines.foldlM (fun reading line => Reading.processLine unset line reading) reading

/-- The section a description starts in, by the name it is given. -/
def mediaOf (media : Text) : MediaType :=
  if media = "audio".toList then .audio else if media = "video".toList then .video else .other

/-! ### Negotiation -/

/-- The credentials of a medium that has none are the ones of the other. -/
def completeCredentials (sdp : SdpInfo) : SdpInfo :=
  if sdp.iceVideoUsername = [] then
    { sdp with iceVideoUsername := sdp.iceAudioUsername, iceVideoPassword := sdp.iceAudioPassword }
  else if sdp.iceAudioUsername = [] then
    { sdp with iceAudioUsername := sdp.iceVideoUsername, iceAudioPassword := sdp.iceVideoPassword }
  else sdp

/-- The candidates get the credentials of their medium. -/
def completeCandidates (sdp : SdpInfo) : SdpInfo :=
  { sdp with candidateVector := sdp.candidateVector.map fun candidate =>
      if candidate.mediaType = .video then
        { candidate with
          isBundle := sdp.isBundle, username := sdp.iceVideoUsername, password := sdp.iceVideoPassword }
      else
        { candidate with
          isBundle := sdp.isBundle, username := sdp.iceAudioUsername, password := sdp.iceAudioPassword } }

/-- The feedback types both sides have. -/
def negotiatedFeedback (internalMap parsedMap : RtpMap) : List Text :=
  if parsedMap.feedbackTypes ≠ [] ∧ internalMap.feedbackTypes ≠ [] then
    internalMap.feedbackTypes.flatMap fun feedback => parsedMap.feedbackTypes.filter fun other => feedback = other
  else []

/-- The format parameters both sides have, when they have as many. -/
def negotiatedParameters (internalMap parsedMap : RtpMap) : FormatParameters :=
  if parsedMap.formatParameters.size = internalMap.formatParameters.size then
    internalMap.formatParameters.toList.foldl (fun parameters parameter =>
      if parsedMap.formatParameters[parameter.1]? = some parameter.2 then parameters.insert parameter.1 parameter.2
      else parameters) ∅
  else ∅

/-- The codec that is negotiated. -/
def negotiatedMap (internalMap parsedMap : RtpMap) : RtpMap :=
  { parsedMap with
    channels := internalMap.channels
    feedbackTypes := negotiatedFeedback internalMap parsedMap
    formatParameters := negotiatedParameters internalMap parsedMap }

/-- Whether the codec is added. -/
def formatMatches (internalMap parsedMap : RtpMap) : Bool :=
  internalMap.formatParameters.isEmpty ||
    parsedMap.formatParameters.size = (negotiatedParameters internalMap parsedMap).size

/-- One more codec is counted. -/
def countCodec (sdp : SdpInfo) (mediaType : MediaType) : SdpInfo :=
  if mediaType = .video then { sdp with videoCodecs := sdp.videoCodecs + 1 }
  else { sdp with audioCodecs := sdp.audioCodecs + 1 }

/-- An internal and an external payload type are mapped to each other. -/
def mapPayloadTypes (sdp : SdpInfo) (internalPt externalPt : UInt32) : SdpInfo :=
  { sdp with
    outInPTMap := sdp.outInPTMap.insert externalPt internalPt
    inOutPTMap := sdp.inOutPTMap.insert internalPt externalPt }

/-- A codec that is not `rtx`. -/
def mapCodec (sdp : SdpInfo) (internalMap parsedMap : RtpMap) : SdpInfo :=
  let sdp := mapPayloadTypes sdp internalMap.payloadType parsedMap.payloadType
  let sdp := countCodec sdp parsedMap.mediaType
  if formatMatches internalMap parsedMap then
    { sdp with payloadVector := sdp.payloadVector ++ [negotiatedMap internalMap parsedMap] }
  else sdp

/-- `"rtx"`. -/
def rtx : Text := "rtx".toList

/-- A round of the loops over the internal and the parsed codecs, with the `rtx` codecs found so far. -/
def matchCodec (state : SdpInfo × List RtpMap) (internalMap parsedMap : RtpMap) : SdpInfo × List RtpMap :=
  if internalMap.encodingName ≠ parsedMap.encodingName ∨ internalMap.clockRate ≠ parsedMap.clockRate then state
  else if parsedMap.encodingName = rtx then (state.1, state.2 ++ [parsedMap])
  else (mapCodec state.1 internalMap parsedMap, state.2)

/-- The loops over the internal and the parsed codecs. -/
def matchCodecs (sdp : SdpInfo) : SdpInfo × List RtpMap :=
  sdp.internalPayloadVector.foldl (fun state internalMap =>
    sdp.payloadParsedMap.toList.foldl (fun state parsed => matchCodec state internalMap parsed.2) state) (sdp, [])

/-- An `rtx` codec is added when the codecs the two sides have it belong to are mapped to each other. -/
def mapRtx (sdp : SdpInfo) (rtxMap internalMap : RtpMap) (parsedAptPt internalAptPt : UInt32) : SdpInfo :=
  -- reading through `operator[]` adds a missing entry
  let sdp := { sdp with outInPTMap := sdp.outInPTMap.insertIfNew parsedAptPt 0 }
  if sdp.outInPTMap[parsedAptPt]? = some internalAptPt then
    let sdp := countCodec sdp rtxMap.mediaType
    let sdp := mapPayloadTypes sdp internalMap.payloadType rtxMap.payloadType
    { sdp with payloadVector := sdp.payloadVector ++ [rtxMap] }
  else sdp

/-- A round of the loops over the `rtx` codecs and the internal codecs. -/
def matchRtx (sdp : SdpInfo) (rtxMap internalMap : RtpMap) : Option SdpInfo :=
  if internalMap.encodingName = rtx then
    match rtxMap.formatParameters[associatedPt]?, internalMap.formatParameters[associatedPt]? with
    | none, none => some sdp
    | some parsedApt, some internalApt => do
        let internalAptPt ← stoul internalApt
        let parsedAptPt ← stoul parsedApt
        some (mapRtx sdp rtxMap internalMap parsedAptPt.toUInt32 internalAptPt.toUInt32)
    | _, _ => none
  else some sdp

/-- The loops over the `rtx` codecs and the internal codecs. -/
def matchRtxs (sdp : SdpInfo) (rtxMaps : List RtpMap) : Option SdpInfo :=
  rtxMaps.foldlM (fun sdp rtxMap =>
    sdp.internalPayloadVector.foldlM (fun sdp internalMap => matchRtx sdp rtxMap internalMap) sdp) sdp

/-- `postProcessInfo`. -/
def postProcessInfo (sdp : SdpInfo) : Option (Bool × SdpInfo) :=
  if sdp.iceVideoUsername = [] ∧ sdp.iceAudioUsername = [] then some (false, sdp)
  else do
    let sdp := completeCandidates (completeCredentials sdp)
    let (sdp, rtxMaps) := matchCodecs sdp
    some (true, ← matchRtxs sdp rtxMaps)

/-- `processSdp`, and `initWithSdp`. -/
def processSdp (sdp : SdpInfo) (text media : Text) : Option (Bool × SdpInfo) := do
  let reading ← processLines unset (getLines text) ⟨sdp, -1, mediaOf media⟩
  postProcessInfo reading.sdp

/-- `getCodecByExternalPayloadType`. -/
def getCodecByExternalPayloadType (sdp : SdpInfo) (payloadType : UInt32) : Option RtpMap :=
  sdp.payloadVector.find? fun rtp => rtp.payloadType = payloadType

/-! ### Supported codecs -/

/-- `getAudioInternalPT`. -/
def getAudioInternalPT (sdp : SdpInfo) (externalPT : UInt32) : UInt32 := (sdp.outInPTMap[externalPT]?).getD externalPT

/-- `getVideoInternalPT`: there is one table for both media. -/
def getVideoInternalPT (sdp : SdpInfo) (externalPT : UInt32) : UInt32 := sdp.getAudioInternalPT externalPT

/-- `getAudioExternalPT`. -/
def getAudioExternalPT (sdp : SdpInfo) (internalPT : UInt32) : UInt32 := (sdp.inOutPTMap[internalPT]?).getD internalPT

/-- `getVideoExternalPT`. -/
def getVideoExternalPT (sdp : SdpInfo) (internalPT : UInt32) : UInt32 := sdp.getAudioExternalPT internalPT

/-- `getCodecByName`. -/
def getCodecByName (sdp : SdpInfo) (codecName : Text) (clockRate : UInt32) : Option RtpMap :=
  sdp.internalPayloadVector.find? fun rtp => rtp.encodingName = codecName ∧ rtp.clockRate = clockRate

/-- The loop of `supportPayloadType`, with the answer. -/
def lookUpPayloadTypes (payloadType : UInt32) : List RtpMap → PayloadTypeMap → PayloadTypeMap × Bool
  | [], inOutPTMap => (inOutPTMap, false)
  | rtp :: rest, inOutPTMap =>
      -- reading through `operator[]` adds a missing entry
      let inOutPTMap := inOutPTMap.insertIfNew rtp.payloadType 0
      if inOutPTMap[rtp.payloadType]? = some payloadType then (inOutPTMap, true)
      else lookUpPayloadTypes payloadType rest inOutPTMap

/-- `supportPayloadType`. -/
def supportPayloadType (sdp : SdpInfo) (payloadType : UInt32) : SdpInfo × Bool :=
  if payloadType ∈ sdp.inOutPTMap then
    let (inOutPTMap, supported) := lookUpPayloadTypes payloadType sdp.payloadVector sdp.inOutPTMap
    ({ sdp with inOutPTMap := inOutPTMap }, supported)
  else (sdp, false)

/-- `supportCodecByName`. -/
def supportCodecByName (sdp : SdpInfo) (codecName : Text) (clockRate : UInt32) : SdpInfo × Bool :=
  match sdp.getCodecByName codecName clockRate with
  | some rtp => sdp.supportPayloadType rtp.payloadType
  | none => (sdp, false)

end SdpInfo

end Erizo
