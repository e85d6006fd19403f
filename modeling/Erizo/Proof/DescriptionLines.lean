/-
**The lines of a description.**

`getSdp` writes a description line by line, and each line is written for something: a `Saying` is a line with the updates
that are read from it. With room for its bundle tags and header extensions, what is written are the lines (`getSdp_eq`).

A line may be followed by a carriage return: `ending` is what follows it.
-/

import Erizo.Proof.RemoteDescriptions
import Erizo.Proof.WrittenLines

namespace Erizo

namespace SdpInfo

open Library StringUtil Reading

/-! ### The lines of a description -/

section Sayings

variable (unset : Uninitialised) (ending msid : Text) (sdp : SdpInfo) (mediaType : MediaType)

/-- A line, with what it says. -/
abbrev Saying := Text × List Update

def sessionSayings : List Saying :=
  [("v=0".toList, []), ("o=- 0 0 IN IP4 127.0.0.1".toList, []), ("s=LicodeMCU".toList, []), ("t=0 0".toList, [])]

def bundleSayings : List Saying :=
  if sdp.isBundle then
    [("a=group:BUNDLE".toList ++ ((sdp.bundleTags.map BundleTag.id).flatMap fun id => " ".toList ++ id),
        .bundle :: (sdp.bundleTags.map BundleTag.id).map .tag),
      ("a=msid-semantic: WMS ".toList ++ msid, [])]
  else []

/-- The line that opens a section. -/
def mediaLine (name : Text) (codecs : ℤ) : Text :=
  "m=".toList ++ name ++ " 1".toList ++ sdp.profileText ++
    (sdp.payloadVector.foldl (writePayloadType mediaType codecs) (0, [])).2

def addressSayings : List Saying :=
  ("c=IN IP4 0.0.0.0".toList, []) :: if sdp.isRtcpMux then [("a=rtcp:1 IN IP4 0.0.0.0".toList, [])] else []

/-- A candidate as it is read in a section. -/
def heardCandidate (candidate : CandidateInfo) : CandidateInfo :=
  readBack unset mediaType (stringifyCandidate candidate ++ ending) candidate

def candidateSayings (select : CandidateInfo → Bool) : List Saying :=
  (sdp.candidateVector.filter select).map fun candidate =>
    (stringifyCandidate candidate, [.candidate (heardCandidate unset ending mediaType candidate)])

def credentialSayings (credentials : Text × Text) : List Saying :=
  [("a=ice-ufrag:".toList ++ credentials.1, [.username mediaType credentials.1]),
    ("a=ice-pwd:".toList ++ credentials.2, [.password mediaType credentials.2])]

def dtlsSayings : List Saying :=
  (if sdp.isFingerprint then
    [("a=fingerprint:sha-256 ".toList ++ sdp.fingerprint, [.fingerprint (sdp.fingerprint ++ ending)])] else []) ++
    [(setupText sdp.dtlsRole, [.dtlsRole sdp.dtlsRole])]

def directionSayings (direction : StreamDirection) : List Saying :=
  [(directionLine direction, [.direction mediaType direction])]

/-- The header extensions that are written for a medium. -/
def validExtensions : List ExtMap :=
  sdp.extMapVector.filter fun extension => extension.mediaType = mediaType ∧ sdp.isValidExtension extension.uri

/-- A header extension as it is read. -/
def heardExtension (extension : ExtMap) : ExtMap := { extension with uri := (extension.uri ++ ending).dropLast }

def extMapSayings : List Saying :=
  (sdp.validExtensions mediaType).map fun extension =>
    ("a=extmap:".toList ++ toText extension.value.toNat ++ " ".toList ++ extension.uri,
      [.extmap (heardExtension ending extension)])

/-- The tags of the bundle that belong to a medium. -/
def tagsOf : List BundleTag := sdp.bundleTags.filter (·.mediaType = mediaType)

def midSayings : List Saying :=
  (sdp.tagsOf mediaType).map fun tag => ("a=mid:".toList ++ tag.id, [.mid tag.id mediaType])

/-- A key as it is read. -/
def heardKey (info : CryptoInfo) : CryptoInfo := { info with tag := 0, keyParams := info.keyParams ++ ending }

def cryptoSayings : List Saying :=
  (if sdp.isRtcpMux then [("a=rtcp-mux".toList, [.rtcpMux])] else []) ++
    (sdp.cryptoVector.filter (·.mediaType = mediaType)).map fun info =>
      ("a=crypto:".toList ++ toText info.tag ++ " ".toList ++ info.cipherSuite ++ " inline:".toList ++ info.keyParams,
        [.crypto (heardKey ending info)])

/-- The lines of a codec. -/
def codecSayings (rtp : RtpMap) : List Saying :=
  (rtpmapText mediaType rtp, [.rtpmap rtp.payloadType rtp.encodingName rtp.clockRate mediaType]) ::
    (rtp.feedbackTypes.map fun feedback =>
      ("a=rtcp-fb:".toList ++ toText rtp.payloadType.toInt32.toInt ++ " ".toList ++ feedback,
        [.feedback rtp.payloadType (feedback ++ ending).dropLast])) ++
    if rtp.formatParameters.isEmpty then []
    else [(fmtpText rtp.payloadType rtp.formatParameters.toList,
      (heardParameters ending rtp.formatParameters.toList).map (.parameter rtp.payloadType))]

/-- The codecs of a medium. -/
def mediaCodecs : List RtpMap := sdp.payloadVector.filter (·.mediaType = mediaType)

def codecsSayings : List Saying := (sdp.mediaCodecs mediaType).flatMap (codecSayings ending mediaType)

def ridSayings : List Saying :=
  sdp.rids.map fun rid => ("a=rid:".toList ++ rid.id ++ " ".toList ++ ridDirectionText rid.direction, [.rid rid])

def simulcastSayings : List Saying :=
  match sdp.rids with
  | [] => []
  | rid :: _ =>
      [("a=simulcast: ".toList ++ ridDirectionText rid.direction ++ " rid=".toList ++
        List.intercalate ";".toList (sdp.rids.map Rid.id), [])]

/-- The credentials in the section for audio: those of video stand in for missing ones. -/
def audioCredentials : Text × Text :=
  if sdp.iceAudioUsername ≠ [] then (sdp.iceAudioUsername, sdp.iceAudioPassword)
  else (sdp.iceVideoUsername, sdp.iceVideoPassword)

/-- What is written of audio behind the line that opens its section. -/
def audioSayings : List Saying :=
  sdp.addressSayings ++
    sdp.candidateSayings unset ending .audio (fun candidate => candidate.mediaType = .audio || sdp.isBundle) ++
    credentialSayings .audio sdp.audioCredentials ++ sdp.dtlsSayings ending ++ directionSayings .audio sdp.audioDirection ++
    sdp.extMapSayings ending .audio ++ sdp.midSayings .audio ++ sdp.cryptoSayings ending .audio ++
    sdp.codecsSayings ending .audio

/-- What is written of video behind the line that opens its section. -/
def videoSayings : List Saying :=
  sdp.addressSayings ++ sdp.candidateSayings unset ending .video (fun candidate => candidate.mediaType = .video) ++
    credentialSayings .video (sdp.iceVideoUsername, sdp.iceVideoPassword) ++ sdp.extMapSayings ending .video ++
    sdp.dtlsSayings ending ++ directionSayings .video sdp.videoDirection ++ sdp.midSayings .video ++
    sdp.cryptoSayings ending .video ++ sdp.ridSayings ++ sdp.codecsSayings ending .video ++ sdp.simulcastSayings

/-- The lines of a description. -/
def linesOf : List Text :=
  (sessionSayings ++ sdp.bundleSayings msid).map Prod.fst ++
    (if sdp.hasAudio then
      sdp.mediaLine .audio "audio".toList sdp.audioCodecs :: (sdp.audioSayings unset ending).map Prod.fst else []) ++
    if sdp.hasVideo then
      sdp.mediaLine .video "video".toList sdp.videoCodecs :: (sdp.videoSayings unset ending).map Prod.fst
    else []

end Sayings

/-! ### Writing -/

section Writing

variable {sdp : SdpInfo} {rounds : ℕ}

theorem textOf_append (first second : List Text) : textOf (first ++ second) = textOf first ++ textOf second :=
  List.flatMap_append

theorem line_eq (text : Text) : line text = textOf [text] := (List.flatMap_singleton _ _).symm

/-- A loop with a narrow index writes everything when there is room. -/
theorem writeEach_eq {α : Type} {elements : List α} (narrow : elements.length < 256) (enough : elements.length < rounds)
    (write : α → Text) : writeEach rounds elements write = some (elements.flatMap write) := by
  rw [writeEach, NarrowIndex.each_eq narrow enough, Overwrite.foldl_gather, List.nil_append]

/-- Writing something for some elements. -/
theorem flatMap_ite {α β : Type} (condition : α → Bool) (write : α → List β) (elements : List α) :
    (elements.flatMap fun element => if condition element then write element else []) =
      (elements.filter condition).flatMap write := by
  induction elements with
  | nil => rfl
  | cons element elements ih =>
      rw [List.flatMap_cons, ih, List.filter_cons]
      split_ifs
      · rw [List.flatMap_cons]
      · rfl

/-- A text of lines, one for each of some elements. -/
theorem flatMap_line {α : Type} (write : α → Text) (elements : List α) :
    (elements.flatMap fun element => line (write element)) = textOf (elements.map write) := by
  rw [textOf, List.flatMap_map]
  rfl

theorem sessionText_eq : sessionText = textOf (sessionSayings.map Prod.fst) := rfl

theorem bundleText_eq (msid : Text) (narrow : sdp.isBundle → sdp.bundleTags.length < 256)
    (enough : sdp.isBundle → sdp.bundleTags.length < rounds) :
    sdp.bundleText rounds msid = some (textOf ((sdp.bundleSayings msid).map Prod.fst)) := by
  unfold bundleText bundleSayings
  split_ifs with bundled
  · rw [writeEach_eq (narrow bundled) (enough bundled)]
    simp only [Option.bind_eq_bind, Option.bind_some, line_eq, ← textOf_append, List.flatMap_map]
    rfl
  · rfl

theorem mediaText_eq (mediaType : MediaType) (name : Text) (codecs : ℤ) : sdp.mediaText mediaType name codecs =
    textOf (sdp.mediaLine mediaType name codecs :: sdp.addressSayings.map Prod.fst) := by
  unfold mediaText addressSayings mediaLine
  rw [line_eq, line_eq, ← textOf_append]
  split_ifs
  · rw [line_eq, ← textOf_append]
    rfl
  · rw [List.append_nil]
    rfl

section Parts

variable (unset : Uninitialised) (ending : Text) (mediaType : MediaType)

theorem candidatesText_eq (select : CandidateInfo → Bool) :
    sdp.candidatesText select = textOf ((sdp.candidateSayings unset ending mediaType select).map Prod.fst) := by
  rw [candidatesText, flatMap_line, candidateSayings, List.map_map]
  rfl

theorem credentialsText_eq (credentials : Text × Text) : credentialsText credentials.1 credentials.2 =
    textOf ((credentialSayings mediaType credentials).map Prod.fst) := by
  simp only [credentialsText, line_eq, ← textOf_append]
  rfl

theorem dtlsText_eq : sdp.dtlsText = textOf ((sdp.dtlsSayings ending).map Prod.fst) := by
  unfold dtlsText dtlsSayings
  simp only [line_eq]
  cases sdp.dtlsRole <;> split_ifs <;> simp only [← textOf_append] <;> rfl

theorem directionText_eq (direction : StreamDirection) :
    directionText direction = textOf ((directionSayings mediaType direction).map Prod.fst) := by
  cases direction <;> rfl

theorem extMapText_eq (narrow : sdp.extMapVector.length < 256) (enough : sdp.extMapVector.length < rounds) :
    writeEach rounds sdp.extMapVector (sdp.extMapText mediaType) =
      some (textOf ((sdp.extMapSayings ending mediaType).map Prod.fst)) := by
  have written :=
    flatMap_ite (fun extension : ExtMap => extension.mediaType = mediaType ∧ sdp.isValidExtension extension.uri)
    (fun extension => line ("a=extmap:".toList ++ toText extension.value.toNat ++ " ".toList ++ extension.uri))
      sdp.extMapVector
  simp only [decide_eq_true_eq] at written
  unfold extMapSayings validExtensions
  rw [writeEach_eq narrow enough, List.map_map]
  refine congrArg some (written.trans ?_)
  rw [flatMap_line]
  rfl

theorem midText_eq (narrow : sdp.bundleTags.length < 256) (enough : sdp.bundleTags.length < rounds) :
    writeEach rounds sdp.bundleTags (midText mediaType) = some (textOf ((sdp.midSayings mediaType).map Prod.fst)) := by
  have written := flatMap_ite (fun tag : BundleTag => tag.mediaType = mediaType)
    (fun tag => line ("a=mid:".toList ++ tag.id))
    sdp.bundleTags
  simp only [decide_eq_true_eq] at written
  unfold midSayings tagsOf
  rw [writeEach_eq narrow enough, List.map_map]
  refine congrArg some (written.trans ?_)
  rw [flatMap_line]
  rfl

theorem cryptoText_eq : sdp.cryptoText mediaType = textOf ((sdp.cryptoSayings ending mediaType).map Prod.fst) := by
  unfold cryptoText cryptoSayings
  rw [flatMap_line, List.map_append, textOf_append, List.map_map]
  split_ifs <;> rfl

theorem codecText_eq (rtp : RtpMap) :
    codecText mediaType rtp = textOf ((codecSayings ending mediaType rtp).map Prod.fst) := by
  have first : codecText mediaType rtp = line (rtpmapText mediaType rtp) ++
      (rtp.feedbackTypes.flatMap fun feedback =>
        line ("a=rtcp-fb:".toList ++ toText rtp.payloadType.toInt32.toInt ++ " ".toList ++ feedback)) ++
      if rtp.formatParameters.isEmpty then [] else line (fmtpText rtp.payloadType rtp.formatParameters.toList) := rfl
  rw [first, flatMap_line, line_eq, codecSayings, List.map_append, List.map_cons, List.map_map, textOf_append]
  refine congrArg₂ _ (textOf_append [_] _).symm ?_
  by_cases bare : rtp.formatParameters.isEmpty
  · rw [if_pos bare, if_pos bare]
    rfl
  · rw [if_neg bare, if_neg bare]
    exact line_eq _

theorem codecsText_eq : sdp.codecsText mediaType = textOf ((sdp.codecsSayings ending mediaType).map Prod.fst) := by
  unfold codecsText codecsSayings mediaCodecs
  rw [funext (codecText_eq ending mediaType), List.map_flatMap, textOf, List.flatMap_assoc]
  rfl

theorem ridsText_eq : sdp.ridsText = textOf (sdp.ridSayings.map Prod.fst) := by
  rw [ridsText, flatMap_line, ridSayings, List.map_map]
  rfl

theorem simulcastText_eq : sdp.simulcastText = textOf (sdp.simulcastSayings.map Prod.fst) := by
  unfold simulcastText simulcastSayings
  cases sdp.rids with
  | nil => rfl
  | cons rid rids => exact line_eq _

end Parts

/-- **A description is written as its lines.** -/
theorem getSdp_eq (unset : Uninitialised) (ending msid : Text) (narrow : RoomToWrite 256 sdp)
    (enough : RoomToWrite rounds sdp) :
    sdp.getSdp rounds msid = some (textOf (sdp.linesOf unset ending msid)) := by
  have audio : sdp.audioText rounds = some (textOf (if sdp.hasAudio then
      sdp.mediaLine .audio "audio".toList sdp.audioCodecs :: (sdp.audioSayings unset ending).map Prod.fst else [])) := by
    by_cases has : sdp.hasAudio = true
    · have credentials : (if sdp.iceAudioUsername ≠ [] then credentialsText sdp.iceAudioUsername sdp.iceAudioPassword
          else credentialsText sdp.iceVideoUsername sdp.iceVideoPassword) =
          textOf ((credentialSayings .audio sdp.audioCredentials).map Prod.fst) := by
        rw [← credentialsText_eq, audioCredentials]
        split_ifs <;> rfl
      rw [audioText, if_pos has, if_pos has, audioSayings,
        extMapText_eq ending .audio (narrow.extensions (Or.inl has)) (enough.extensions (Or.inl has)),
        midText_eq .audio (narrow.tags (Or.inr (Or.inl has))) (enough.tags (Or.inr (Or.inl has))), credentials,
        mediaText_eq, candidatesText_eq unset ending .audio, dtlsText_eq ending, directionText_eq .audio,
        cryptoText_eq ending, codecsText_eq ending]
      simp only [Option.bind_eq_bind, Option.bind_some, ← textOf_append, List.map_append,
        List.cons_append, List.append_assoc]
    · rw [audioText, if_neg has, if_neg has]
      rfl
  have video : sdp.videoText rounds = some (textOf (if sdp.hasVideo then
      sdp.mediaLine .video "video".toList sdp.videoCodecs :: (sdp.videoSayings unset ending).map Prod.fst else [])) := by
    by_cases has : sdp.hasVideo = true
    · rw [videoText, if_pos has, if_pos has, videoSayings,
        extMapText_eq ending .video (narrow.extensions (Or.inr has)) (enough.extensions (Or.inr has)),
        midText_eq .video (narrow.tags (Or.inr (Or.inr has))) (enough.tags (Or.inr (Or.inr has))),
        show credentialsText sdp.iceVideoUsername sdp.iceVideoPassword = _ from
          credentialsText_eq .video (sdp.iceVideoUsername, sdp.iceVideoPassword),
        mediaText_eq, candidatesText_eq unset ending .video, dtlsText_eq ending, directionText_eq .video,
        cryptoText_eq ending, codecsText_eq ending, ridsText_eq, simulcastText_eq]
      simp only [Option.bind_eq_bind, Option.bind_some, ← textOf_append, List.map_append,
        List.cons_append, List.append_assoc]
    · rw [videoText, if_neg has, if_neg has]
      rfl
  rw [getSdp, bundleText_eq msid (fun bundled => narrow.tags (Or.inl bundled)) fun bundled => enough.tags (Or.inl bundled),
    audio, video, sessionText_eq]
  simp only [Option.bind_eq_bind, Option.bind_some, ← textOf_append, linesOf, List.map_append]

end Writing

end SdpInfo

end Erizo
