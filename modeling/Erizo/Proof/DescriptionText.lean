/-
**A description, written and read.**

Each line of a description says what it is written for (`told_audio`, `told_video`), so a text that was written by one
end is read by the other as a list of updates that is known, and what they leave of a new description is `reread`:

* `written_is_read`: for every description whose texts can be told from delimiters, whichever way its lines end. The
  negotiation is the rest of `processSdp`.
* `written_codec_is_read`: with carriage returns a codec is read as it was written, but for its channels. Without them
  header extensions, feedback types and the last parameter of a codec lose their last characters.
-/

import Erizo.Library.Table
import Erizo.Proof.DescriptionLines

namespace Erizo

namespace SdpInfo

open Library Library.Marked StringUtil Reading

/-! ### What can be written -/

/-- Credentials that can be told from what is around them. -/
structure Credible (credentials : Text × Text) : Prop where
  username : credentials.1 ≠ [] ∧ Without "=\r\n".toList credentials.1
  password : credentials.2 ≠ [] ∧ Without "=\r\n".toList credentials.2

/-- A codec that can be told from what is around it. A line is cut into no more than 39 parameters. -/
structure Codable (rtp : RtpMap) : Prop where
  name : Without " :/=\n".toList rtp.encodingName
  feedback : ∀ feedback ∈ rtp.feedbackTypes, feedback ≠ [] ∧ Without marks feedback
  few : rtp.formatParameters.toList.length ≤ 39
  spelled : ∀ parameter ∈ rtp.formatParameters.toList, Spelled parameter
  clean : Clean letters '=' (rtp.formatParameters.toList.flatMap fun parameter => partText parameter ++ ";".toList)

/-- A description whose texts can be told from what is around them. A line is cut into no more than eight tags. -/
structure Writable (msid : Text) (sdp : SdpInfo) : Prop where
  msid : Without marks msid
  few : sdp.bundleTags.length ≤ 8
  tags : ∀ tag ∈ sdp.bundleTags, tag.id ≠ [] ∧ Without " :=\r\n".toList tag.id
  ids : (sdp.bundleTags.map BundleTag.id).Nodup
  candidates : ∀ candidate ∈ sdp.candidateVector, Legible candidate
  audioCredentials : sdp.hasAudio → Credible sdp.audioCredentials
  videoCredentials : sdp.hasVideo → Credible (sdp.iceVideoUsername, sdp.iceVideoPassword)
  fingerprint : sdp.isFingerprint → sdp.fingerprint ≠ [] ∧ Without " =\n".toList sdp.fingerprint
  extensions : ∀ extension ∈ sdp.extMapVector, extension.uri ≠ [] ∧ Without marks extension.uri
  suites : ∀ info ∈ sdp.cryptoVector, Without " :=\n".toList info.cipherSuite
  keys : ∀ info ∈ sdp.cryptoVector, info.keyParams ≠ [] ∧ Without " :=\n".toList info.keyParams
  rids : ∀ rid ∈ sdp.rids, Without " :=\n".toList rid.id
  codecs : ∀ rtp ∈ sdp.payloadVector, Codable rtp
  payloadTypes : (sdp.payloadVector.map RtpMap.payloadType).Nodup

/-! ### What the lines say -/

section Told

variable {unset : Uninitialised} {ending : Text} {mtype : MediaType}

/-- In a section of a medium, lines say what they are written for. -/
def Told (unset : Uninitialised) (ending : Text) (mtype : MediaType) (sayings : List Saying) : Prop :=
  ∀ saying ∈ sayings, Tells unset mtype (saying.1 ++ ending) saying.2

theorem told_nil : Told unset ending mtype [] := fun _ member => absurd member List.not_mem_nil

theorem Told.append {first second : List Saying} (one : Told unset ending mtype first)
    (two : Told unset ending mtype second) :
    Told unset ending mtype (first ++ second) := List.forall_mem_append.mpr ⟨one, two⟩

theorem Told.cons {saying : Saying} {sayings : List Saying} (tells : Tells unset mtype (saying.1 ++ ending) saying.2)
    (told : Told unset ending mtype sayings) : Told unset ending mtype (saying :: sayings) :=
  List.forall_mem_cons.mpr ⟨tells, told⟩

theorem told_map {α : Type} {elements : List α} {say : α → Saying}
    (each : ∀ element ∈ elements, Tells unset mtype ((say element).1 ++ ending) (say element).2) :
    Told unset ending mtype (elements.map say) := List.forall_mem_map.mpr each

/-- A line that is not read for anything, as a whole. -/
theorem tells_constant {line : Text} (begins : Begins line none) (ends : Ending ending) :
    Tells unset mtype (line ++ ending) [] := by
  have nothing := @tells_nothing unset mtype ending line [] begins (fun _ member => absurd member List.not_mem_nil) ends
  rwa [List.append_nil] at nothing

variable {sdp : SdpInfo} {msid : Text}

theorem told_session (ends : Ending ending) : Told unset ending mtype sessionSayings := by
  refine Told.cons (tells_constant ?_ ends) (Told.cons (tells_constant ?_ ends) (Told.cons (tells_constant ?_ ends)
    (Told.cons (tells_constant ?_ ends) told_nil)))
  all_goals exact begins_unread (by simp [unread])

theorem told_bundle (writable : sdp.Writable msid) (ends : Ending ending) :
    Told unset ending mtype (sdp.bundleSayings msid) := by
  unfold bundleSayings
  split_ifs
  · refine Told.cons ?_ (Told.cons ?_ told_nil)
    · refine tells_group (by rw [List.length_map]; exact writable.few) (List.forall_mem_map.mpr fun tag member => ?_)
        (List.forall_mem_map.mpr fun tag member => ?_) ends
      · exact (writable.tags tag member).1
      · exact (writable.tags tag member).2
    · exact tells_nothing (begins_unread (by simp [unread])) writable.msid ends
  · exact told_nil

theorem told_address (ends : Ending ending) : Told unset ending mtype sdp.addressSayings := by
  unfold addressSayings
  refine Told.cons (tells_constant (begins_unread (by simp [unread])) ends) ?_
  split_ifs
  · exact Told.cons (tells_constant (begins_unread (by simp [unread])) ends) told_nil
  · exact told_nil

theorem told_candidates (writable : sdp.Writable msid) (ends : Ending ending) (select : CandidateInfo → Bool) :
    Told unset ending mtype (sdp.candidateSayings unset ending mtype select) :=
  told_map fun candidate member => tells_candidate (writable.candidates candidate (List.mem_filter.mp member).1) ends

theorem told_credentials {credentials : Text × Text} (credible : Credible credentials) (ends : Ending ending) :
    Told unset ending mtype (credentialSayings mtype credentials) :=
  Told.cons (tells_username credible.username.1 credible.username.2 ends)
    (Told.cons (tells_password credible.password.1 credible.password.2 ends) told_nil)

theorem told_dtls (writable : sdp.Writable msid) (ends : Ending ending) :
    Told unset ending mtype (sdp.dtlsSayings ending) := by
  refine Told.append ?_ (Told.cons (tells_setup sdp.dtlsRole ends) told_nil)
  split_ifs with is
  · exact Told.cons (tells_fingerprint (writable.fingerprint is).1 (writable.fingerprint is).2 ends) told_nil
  · exact told_nil

theorem told_direction (direction : StreamDirection) (ends : Ending ending) :
    Told unset ending mtype (directionSayings mtype direction) := Told.cons (tells_direction direction ends) told_nil

theorem told_extMap (writable : sdp.Writable msid) (ends : Ending ending) :
    Told unset ending mtype (sdp.extMapSayings ending mtype) := by
  refine told_map fun extension member => ?_
  obtain ⟨listed, selected⟩ := List.mem_filter.mp member
  obtain ⟨present, free⟩ := writable.extensions extension listed
  have same : extension.mediaType = mtype := (of_decide_eq_true selected).1
  have tells := @tells_extMap unset mtype ending extension.uri extension.value present free ends
  rwa [← same] at tells ⊢

theorem told_mid (writable : sdp.Writable msid) (ends : Ending ending) :
    Told unset ending mtype (sdp.midSayings mtype) := by
  refine told_map fun tag member => ?_
  obtain ⟨present, free⟩ := writable.tags tag (List.mem_filter.mp member).1
  exact tells_mid present free ends

theorem told_crypto (writable : sdp.Writable msid) (ends : Ending ending) :
    Told unset ending mtype (sdp.cryptoSayings ending mtype) := by
  refine Told.append ?_ (told_map fun info member => ?_)
  · split_ifs
    · exact Told.cons (tells_rtcpMux ends) told_nil
    · exact told_nil
  · obtain ⟨listed, selected⟩ := List.mem_filter.mp member
    obtain ⟨present, free⟩ := writable.keys info listed
    have tells := @tells_crypto unset mtype ending info.cipherSuite info.keyParams info.tag
      (writable.suites info listed) present
      free ends
    rwa [← of_decide_eq_true selected] at tells ⊢

theorem told_codec {rtp : RtpMap} (codable : Codable rtp) (ends : Ending ending) :
    Told unset ending mtype (codecSayings ending mtype rtp) := by
  refine Told.append (Told.cons (tells_rtpmap mtype codable.name ends) (told_map fun feedback member => ?_)) ?_
  · obtain ⟨present, free⟩ := codable.feedback feedback member
    exact tells_feedback rtp.payloadType present free ends
  · split_ifs with bare
    · exact told_nil
    · have some : rtp.formatParameters.toList ≠ [] := by
        rwa [Ne, ← List.isEmpty_iff, Std.ExtTreeMap.isEmpty_toList]
      exact Told.cons (tells_fmtp rtp.payloadType some codable.few codable.spelled codable.clean ends) told_nil

theorem told_codecs (writable : sdp.Writable msid) (ends : Ending ending) :
    Told unset ending mtype (sdp.codecsSayings ending mtype) := by
  intro saying member
  obtain ⟨rtp, listed, said⟩ := List.mem_flatMap.mp member
  exact told_codec (writable.codecs rtp (List.mem_filter.mp listed).1) ends saying said

theorem told_rids (writable : sdp.Writable msid) (ends : Ending ending) : Told unset ending .video sdp.ridSayings :=
  told_map fun rid member => tells_rid rid.direction (writable.rids rid member) ends

/-- Texts with a text between them. -/
theorem Without.intercalate {forbidden separator : Text} (between : Without forbidden separator) {texts : List Text}
    (each : ∀ text ∈ texts, Without forbidden text) : Without forbidden (List.intercalate separator texts) := by
  induction texts with
  | nil => exact fun _ member => absurd member List.not_mem_nil
  | cons text texts ih =>
      obtain ⟨first, others⟩ := List.forall_mem_cons.mp each
      rcases texts with - | ⟨next, texts⟩
      · rwa [List.intercalate_singleton]
      · rw [List.intercalate_cons_cons]
        exact (first.append between).append (ih others)

/-- The line for simulcast has a mark, which stands behind none of the letters that patterns begin with. -/
theorem told_simulcast (writable : sdp.Writable msid) (ends : Ending ending) :
    Told unset ending mtype sdp.simulcastSayings := by
  unfold simulcastSayings
  cases rids : sdp.rids with
  | nil => exact told_nil
  | cons rid others =>
      refine Told.cons ?_ told_nil
      have joined : Without marks (List.intercalate ";".toList ((rid :: others).map Rid.id)) :=
        Without.intercalate (by decide)
          (List.forall_mem_map.mpr fun rid member => (writable.rids rid (rids ▸ member)).mono (by decide))
      dsimp only
      generalize List.intercalate ";".toList ((rid :: others).map Rid.id) = ids at joined ⊢
      have absent : Without marks (ids ++ ending) := joined.append ends.unmarked
      rw [List.append_assoc, List.append_assoc, List.append_assoc]
      refine Tagged.tells (@find_tagged _ _ none (begins_unread (by simp [unread])).settles rfl ?_) ?_
        ⟨nofun, nofun⟩ (fun _ => rfl) rfl
      · have clean :
          Clean letters '=' ("a=simulcast: ".toList.drop 2 ++ (ridDirectionText rid.direction ++ " rid=".toList)) := by
          cases rid.direction <;> decide +kernel
        rw [← List.append_assoc, ← List.append_assoc, List.append_assoc _ (ridDirectionText rid.direction)]
        exact clean.append_of_notMem (absent.notMem (by decide))
      · have first : '\n' ∉ ridDirectionText rid.direction := by cases rid.direction <;> decide
        simp only [List.mem_append, not_or]
        exact ⟨by decide, first, by decide, joined.notMem (by decide),
          ends.unmarked.notMem (by decide)⟩

/-- **What is written of audio says what it is written for.** -/
theorem told_audio (writable : sdp.Writable msid) (has : sdp.hasAudio) (ends : Ending ending) :
    Told unset ending .audio (sdp.audioSayings unset ending) :=
  (((((((told_address ends).append (told_candidates writable ends _)).append
    (told_credentials (writable.audioCredentials has) ends)).append (told_dtls writable ends)).append
      (told_direction _ ends)).append (told_extMap writable ends)).append (told_mid writable ends)).append
        (told_crypto writable ends) |>.append (told_codecs writable ends)

/-- **What is written of video says what it is written for.** -/
theorem told_video (writable : sdp.Writable msid) (has : sdp.hasVideo) (ends : Ending ending) :
    Told unset ending .video (sdp.videoSayings unset ending) :=
  (((((((((told_address ends).append (told_candidates writable ends _)).append
    (told_credentials (writable.videoCredentials has) ends)).append (told_extMap writable ends)).append
      (told_dtls writable ends)).append (told_direction _ ends)).append (told_mid writable ends)).append
        (told_crypto writable ends)).append (told_rids writable ends)).append (told_codecs writable ends)
          |>.append (told_simulcast writable ends)

end Told

/-! ### What a text says -/

section Described

variable {unset : Uninitialised} {ending : Text} {mtype : MediaType} {mlineNum : ℤ}

/-- A line of a section, and more lines. -/
theorem describe_tells {line : Text} {updates : List Update} (tells : Tells unset mtype line updates) (lines : List Text) :
    (describe unset (line :: lines) mtype mlineNum).map spoken =
      ((describe unset lines mtype mlineNum).map spoken).map (updates ++ ·) := by
  obtain ⟨said, read, rfl⟩ := Option.map_eq_some_iff.mp (tells.said mlineNum)
  rw [describe, read, tells.media, tells.mlines, add_zero]
  cases describe unset lines mtype mlineNum <;> simp

/-- Lines of a section, and more lines. -/
theorem describe_told {sayings : List Saying} (told : Told unset ending mtype sayings) (lines : List Text) :
    (describe unset ((sayings.map Prod.fst).map (· ++ ending) ++ lines) mtype mlineNum).map spoken =
      ((describe unset lines mtype mlineNum).map spoken).map (sayings.flatMap Prod.snd ++ ·) := by
  induction sayings with
  | nil => exact Option.map_id'.symm
  | cons saying sayings ih =>
      obtain ⟨tells, others⟩ := List.forall_mem_cons.mp told
      rw [List.map_cons, List.map_cons, List.cons_append, describe_tells tells, ih others,
        Option.map_map, List.flatMap_cons]
      exact congrArg (Option.map · _) (funext fun updates => (List.append_assoc _ _ _).symm)

/-- A section, and more lines. -/
theorem describe_section {line : Text} {mediaType : MediaType} {update : ℤ → Update}
    (opens : Opens unset (line ++ ending) mediaType update) {sayings : List Saying}
    (told : Told unset ending mediaType sayings) (lines : List Text) :
    (describe unset ((line :: sayings.map Prod.fst).map (· ++ ending) ++ lines) mtype mlineNum).map spoken =
      ((describe unset lines mediaType (mlineNum + 1)).map spoken).map
        ((update (mlineNum + 1) :: sayings.flatMap Prod.snd) ++ ·) := by
  obtain ⟨said, read, spoke⟩ := Option.map_eq_some_iff.mp (opens.said mtype mlineNum)
  have rest := @describe_told unset ending mediaType (mlineNum + 1) sayings told lines
  rw [List.map_cons, List.cons_append, describe, read, opens.media, opens.mlines]
  generalize describe unset ((sayings.map Prod.fst).map (· ++ ending) ++ lines) mediaType
    (mlineNum + 1) = described at rest ⊢
  cases described with
  | none =>
      rw [Option.map_none, eq_comm, Option.map_eq_none_iff] at rest
      rw [rest]
      rfl
  | some updates =>
      obtain ⟨more, further, same⟩ := Option.map_eq_some_iff.mp rest.symm
      rw [further]
      simp [spoke, same]

variable {sdp : SdpInfo} {msid : Text}

/-- What the line of a section says of its profile and its payload types has no marks. -/
theorem mediaLine_body (mediaType : MediaType) (name : Text) (codecs : ℤ) :
    ∃ body, Without marks body ∧ sdp.mediaLine mediaType name codecs = "m=".toList ++ name ++ body := by
  have payloadTypes : ∀ (rtps : List RtpMap) (state : ℤ × Text), Without marks state.2 →
      Without marks (rtps.foldl (writePayloadType mediaType codecs) state).2 := by
    intro rtps
    induction rtps with
    | nil => exact fun _ free => free
    | cons rtp rtps ih =>
        refine fun state free => ih _ ?_
        unfold writePayloadType
        dsimp only
        split_ifs
        · exact (free.append (without_toText _ (by decide))).append (by decide)
        · exact (free.append (without_toText _ (by decide))).append (by decide)
        · exact free
  have profile : Without marks sdp.profileText := by
    unfold profileText
    split_ifs <;> decide
  refine ⟨_, ((by decide : Without marks " 1".toList).append profile).append
    (payloadTypes sdp.payloadVector (0, []) fun _ member => absurd member List.not_mem_nil), ?_⟩
  unfold mediaLine
  simp only [List.append_assoc]

theorem opens_mediaLine_audio (codecs : ℤ) (ends : Ending ending) :
    Opens unset (sdp.mediaLine .audio "audio".toList codecs ++ ending) .audio .audioMLine := by
  obtain ⟨body, absent, line⟩ := @mediaLine_body sdp .audio "audio".toList codecs
  rw [line]
  exact opens_audio absent ends

theorem opens_mediaLine_video (codecs : ℤ) (ends : Ending ending) :
    Opens unset (sdp.mediaLine .video "video".toList codecs ++ ending) .video .videoMLine := by
  obtain ⟨body, absent, line⟩ := @mediaLine_body sdp .video "video".toList codecs
  rw [line]
  exact opens_video absent ends

/-- The updates a description is read as: those of the bundle, and those of each section. -/
def updatesWritten (unset : Uninitialised) (ending : Text) (sdp : SdpInfo) : List Update :=
  (if sdp.isBundle then .bundle :: (sdp.bundleTags.map BundleTag.id).map .tag else []) ++
    (if sdp.hasAudio then .audioMLine 0 :: (sdp.audioSayings unset ending).flatMap Prod.snd else []) ++
    if sdp.hasVideo then
      .videoMLine (if sdp.hasAudio then 1 else 0) :: (sdp.videoSayings unset ending).flatMap Prod.snd
    else []

theorem updates_session : (sessionSayings ++ sdp.bundleSayings msid).flatMap Prod.snd =
    if sdp.isBundle then .bundle :: (sdp.bundleTags.map BundleTag.id).map .tag else [] := by
  unfold bundleSayings
  split_ifs
  · simp [sessionSayings]
  · rfl

/-- What is said in the section for video, which is the last one. -/
theorem describe_video (writable : sdp.Writable msid) (ends : Ending ending) :
    (describe unset ((if sdp.hasVideo then
      sdp.mediaLine .video "video".toList sdp.videoCodecs :: (sdp.videoSayings unset ending).map Prod.fst else []).map
        (· ++ ending)) mtype mlineNum).map spoken = some (if sdp.hasVideo then
          .videoMLine (mlineNum + 1) :: (sdp.videoSayings unset ending).flatMap Prod.snd else []) := by
  split_ifs with has
  · have whole := @describe_section unset ending mtype mlineNum _ _ _
      (@opens_mediaLine_video unset ending sdp sdp.videoCodecs ends) _
      (told_video writable has ends) []
    rw [List.append_nil] at whole
    rw [whole, describe, Option.map_some, Option.map_some, spoken_nil, List.append_nil]
  · rfl

/-- **The lines of a description say what they are written for.** -/
theorem describe_linesOf (writable : sdp.Writable msid) (ends : Ending ending) :
    (describe unset ((sdp.linesOf unset ending msid).map (· ++ ending)) mtype (-1)).map spoken =
      some (sdp.updatesWritten unset ending) := by
  have told := (@told_session unset ending mtype ends).append (told_bundle writable ends)
  unfold linesOf updatesWritten
  rw [List.append_assoc, List.append_assoc, List.map_append, describe_told told, updates_session, List.map_append]
  by_cases has : sdp.hasAudio
  · rw [if_pos has, if_pos has, if_pos has, describe_section (opens_mediaLine_audio _ ends) (told_audio writable has ends),
      describe_video writable ends]
    rfl
  · rw [if_neg has, if_neg has, if_neg has, List.map_nil, List.nil_append, describe_video writable ends]
    rfl

end Described

/-! ### What is read again -/

section Reread

variable (unset : Uninitialised) (ending : Text) (rtpMappings : List RtpMap) (sdp : SdpInfo)

/-- A codec as it is read. -/
def heardCodec (rtp : RtpMap) : RtpMap :=
  { rtp with
    channels := unset.channels
    feedbackTypes := rtp.feedbackTypes.map fun feedback => (feedback ++ ending).dropLast
    formatParameters := Table.fill Prod.fst Prod.snd ∅ (heardParameters ending rtp.formatParameters.toList) }

/-- Whether a section is written for a medium. -/
def hasMedium : MediaType → Bool
  | .audio => sdp.hasAudio
  | .video => sdp.hasVideo
  | .other => false

/-- Whether a section is written. -/
def hasMedia : Bool := sdp.hasAudio || sdp.hasVideo

/-- What is in the sections that are written. -/
def bySection {α : Type} (part : MediaType → List α) : List α :=
  (if sdp.hasAudio then part .audio else []) ++ if sdp.hasVideo then part .video else []

/-- The candidates that are written for a medium. -/
def candidatesFor (mediaType : MediaType) : List CandidateInfo :=
  sdp.candidateVector.filter fun candidate => candidate.mediaType = mediaType || (mediaType = .audio && sdp.isBundle)

/-- **What is read of a description that was written**, before the codecs are negotiated. -/
def reread : SdpInfo :=
  { init unset rtpMappings with
    isBundle := sdp.isBundle
    hasAudio := sdp.hasAudio
    hasVideo := sdp.hasVideo
    isRtcpMux := sdp.isRtcpMux && sdp.hasMedia
    audioDirection := if sdp.hasAudio then sdp.audioDirection else unset.audioDirection
    videoDirection := if sdp.hasVideo then sdp.videoDirection else unset.videoDirection
    isFingerprint := sdp.isFingerprint && sdp.hasMedia
    fingerprint := if sdp.isFingerprint && sdp.hasMedia then sdp.fingerprint ++ ending else []
    dtlsRole := if sdp.hasMedia then sdp.dtlsRole else .actpass
    bundleTags :=
      if sdp.isBundle then
        sdp.bundleTags.map fun tag => ⟨tag.id, if sdp.hasMedium tag.mediaType then tag.mediaType else .other⟩
      else []
    extMapVector := sdp.bySection fun mediaType => (sdp.validExtensions mediaType).map (heardExtension ending)
    audioSdpMLine := if sdp.hasAudio then 0 else -1
    videoSdpMLine := if sdp.hasVideo then if sdp.hasAudio then 1 else 0 else -1
    candidateVector :=
      sdp.bySection fun mediaType => (sdp.candidatesFor mediaType).map (heardCandidate unset ending mediaType)
    cryptoVector :=
      sdp.bySection fun mediaType => (sdp.cryptoVector.filter (·.mediaType = mediaType)).map (heardKey ending)
    iceAudioUsername := if sdp.hasAudio then sdp.audioCredentials.1 else []
    iceAudioPassword := if sdp.hasAudio then sdp.audioCredentials.2 else []
    iceVideoUsername := if sdp.hasVideo then sdp.iceVideoUsername else []
    iceVideoPassword := if sdp.hasVideo then sdp.iceVideoPassword else []
    payloadParsedMap := Table.fill RtpMap.payloadType (heardCodec unset ending) ∅ (sdp.bySection sdp.mediaCodecs)
    rids := if sdp.hasVideo then sdp.rids else [] }

end Reread

/-! ### What the updates leave -/

section Applying

variable {unset : Uninitialised} {ending : Text} {mediaType : MediaType} {sdp read : SdpInfo}

/-- Updates that act on a part of a description, one after the other. -/
theorem applyAll_part {σ : Type} (put : σ → SdpInfo) (step : σ → Update → σ) {updates : List Update}
    (each : ∀ state, ∀ update ∈ updates, apply unset (put state) update = some (put (step state update))) (state : σ) :
    applyAll unset (put state) updates = some (put (updates.foldl step state)) := by
  induction updates generalizing state with
  | nil => rfl
  | cons update updates ih =>
      rw [applyAll_cons, each state update List.mem_cons_self, Option.bind_some,
        ih fun state other member => each state other (List.mem_cons_of_mem _ member), List.foldl_cons]

/-- Updates that add to a part of a description. -/
theorem applyAll_gather {α : Type} (put : List α → SdpInfo) {say : α → Update}
    (each : ∀ list element, apply unset (put list) (say element) = some (put (list ++ [element])))
    (list elements : List α) :
    applyAll unset (put list) (elements.map say) = some (put (list ++ elements)) := by
  induction elements generalizing list with
  | nil => rw [List.append_nil]; rfl
  | cons element elements ih =>
      rw [List.map_cons, applyAll_cons, each, Option.bind_some, ih, List.append_assoc, List.singleton_append]

/-- The profile stays as it is in a new description. -/
theorem apply_profile {next : SdpInfo} {update : Update} (profile : read.profile = .savpf)
    (applied : apply unset read update = some next) : next.profile = .savpf := by
  cases update with
  | mid id mediaType =>
      rw [apply] at applied
      split_ifs at applied
      · obtain ⟨tags, -, rfl⟩ := Option.map_eq_some_iff.mp applied
        exact profile
      · cases applied
        exact profile
  | direction mediaType direction | username mediaType value | password mediaType value =>
      cases applied
      cases mediaType <;> exact profile
  | profile =>
      cases applied
      rfl
  | _ =>
      cases applied
      exact profile

/-- The updates of the profile do nothing to a new description. -/
theorem applyAll_spoken (profile : read.profile = .savpf) (updates : List Update) :
    applyAll unset read (spoken updates) = applyAll unset read updates := by
  induction updates generalizing read with
  | nil => rfl
  | cons update updates ih =>
      rw [spoken_cons]
      split_ifs with same
      · have nothing : { read with profile := .savpf } = read := by rw [← profile]
        rw [same, applyAll_cons, apply, nothing, Option.bind_some, ih profile]
      · rw [applyAll_cons, applyAll_cons]
        exact Option.bind_congr fun next applied => ih (apply_profile profile applied)

theorem applyAll_candidates (select : CandidateInfo → Bool) :
    applyAll unset read ((sdp.candidateSayings unset ending mediaType select).flatMap Prod.snd) = some { read with
      candidateVector := read.candidateVector ++
        (sdp.candidateVector.filter select).map (heardCandidate unset ending mediaType) } := by
  have said : (sdp.candidateSayings unset ending mediaType select).flatMap Prod.snd =
      ((sdp.candidateVector.filter select).map (heardCandidate unset ending mediaType)).map .candidate := by
    rw [candidateSayings, List.flatMap_map, List.map_map, List.map_eq_flatMap]
    rfl
  rw [said]
  exact applyAll_gather (fun list => { read with candidateVector := list }) (fun _ _ => rfl) read.candidateVector _

theorem applyAll_dtls : applyAll unset read ((sdp.dtlsSayings ending).flatMap Prod.snd) = some { read with
    isFingerprint := read.isFingerprint || sdp.isFingerprint
    fingerprint := if sdp.isFingerprint then sdp.fingerprint ++ ending else read.fingerprint
    dtlsRole := sdp.dtlsRole } := by
  unfold dtlsSayings
  cases sdp.isFingerprint
  · simp [apply]
  · simp [apply]

theorem applyAll_extMap : applyAll unset read ((sdp.extMapSayings ending mediaType).flatMap Prod.snd) = some { read with
    extMapVector := read.extMapVector ++ (sdp.validExtensions mediaType).map (heardExtension ending) } := by
  have said : (sdp.extMapSayings ending mediaType).flatMap Prod.snd =
      ((sdp.validExtensions mediaType).map (heardExtension ending)).map .extmap := by
    rw [extMapSayings, List.flatMap_map, List.map_map, List.map_eq_flatMap]
    rfl
  rw [said]
  exact applyAll_gather (fun list => { read with extMapVector := list }) (fun _ _ => rfl) read.extMapVector _

theorem applyAll_crypto : applyAll unset read ((sdp.cryptoSayings ending mediaType).flatMap Prod.snd) = some { read with
    isRtcpMux := read.isRtcpMux || sdp.isRtcpMux
    cryptoVector := read.cryptoVector ++ (sdp.cryptoVector.filter (·.mediaType = mediaType)).map (heardKey ending) } := by
  have said : (sdp.cryptoSayings ending mediaType).flatMap Prod.snd = (if sdp.isRtcpMux then [.rtcpMux] else []) ++
      ((sdp.cryptoVector.filter (·.mediaType = mediaType)).map (heardKey ending)).map .crypto := by
    rw [cryptoSayings, List.flatMap_append, List.flatMap_map, List.map_map, List.map_eq_flatMap]
    split_ifs <;> rfl
  have keys : ∀ read : SdpInfo, applyAll unset read
      (((sdp.cryptoVector.filter (·.mediaType = mediaType)).map (heardKey ending)).map .crypto) = some { read with
        cryptoVector := read.cryptoVector ++ (sdp.cryptoVector.filter (·.mediaType = mediaType)).map (heardKey ending) } :=
    fun read => applyAll_gather (fun list => { read with cryptoVector := list }) (fun _ _ => rfl) read.cryptoVector _
  rw [said, applyAll_append]
  cases sdp.isRtcpMux
  · rw [if_neg Bool.false_ne_true, applyAll_nil, Option.bind_some, keys, Bool.or_false]
  · rw [if_pos rfl, applyAll_cons, apply, Option.bind_some, applyAll_nil, Option.bind_some, keys, Bool.or_true]

theorem applyAll_rids : applyAll unset read (sdp.ridSayings.flatMap Prod.snd) = some { read with
    rids := read.rids ++ sdp.rids } := by
  have said : sdp.ridSayings.flatMap Prod.snd = sdp.rids.map .rid := by
    rw [ridSayings, List.flatMap_map, List.map_eq_flatMap]
  rw [said]
  exact applyAll_gather (fun list => { read with rids := list }) (fun _ _ => rfl) read.rids _

/-- A tag after the tags of a medium were named. -/
def nameIn (mediaType : MediaType) (ids : List Text) (tag : BundleTag) : BundleTag :=
  ids.foldl (fun tag id => if tag.id = id then { tag with mediaType := mediaType } else tag) tag

theorem nameIn_of_notMem {ids : List Text} {tag : BundleTag} (unlisted : tag.id ∉ ids) :
    nameIn mediaType ids tag = tag := by
  induction ids with
  | nil => rfl
  | cons id ids ih =>
      rw [List.mem_cons, not_or] at unlisted
      rw [nameIn, List.foldl_cons, if_neg unlisted.1]
      exact ih unlisted.2

theorem nameIn_of_mem {ids : List Text} {tag : BundleTag} (listed : tag.id ∈ ids) :
    nameIn mediaType ids tag = { tag with mediaType := mediaType } := by
  induction ids generalizing tag with
  | nil => exact absurd listed List.not_mem_nil
  | cons id ids ih =>
      rw [nameIn, List.foldl_cons]
      by_cases same : tag.id = id
      · rw [if_pos same]
        -- A second line with the same tag names it again.
        by_cases later : tag.id ∈ ids
        · exact ih later
        · exact nameIn_of_notMem later
      · rw [if_neg same]
        exact ih ((List.mem_cons.mp listed).resolve_left same)

theorem applyAll_mids (room : read.bundleTags.length < 256) (ids : List Text) :
    applyAll unset read (ids.map fun id => .mid id mediaType) = some { read with
      bundleTags := if read.isBundle then read.bundleTags.map (nameIn mediaType ids) else read.bundleTags } := by
  induction ids generalizing read with
  | nil =>
      have same : nameIn mediaType [] = id := rfl
      rw [same, List.map_id, ite_self]
      rfl
  | cons id ids ih =>
      have both :
          (nameIn mediaType ids) ∘
          (fun tag : BundleTag => if tag.id = id then { tag with mediaType := mediaType } else tag) =
          nameIn mediaType (id :: ids) := rfl
      rw [List.map_cons, applyAll_cons, apply]
      by_cases bundled : read.isBundle
      · rw [if_pos bundled, setMediaType, if_neg (not_le.mpr room), Option.map_some, Option.bind_some,
          ih (by rwa [List.length_map])]
        simp only [bundled, if_true, List.map_map, both]
      · rw [if_neg bundled, Option.bind_some, ih room]
        simp only [bundled, Bool.false_eq_true, if_false]

theorem applyAll_midSayings (room : read.bundleTags.length < 256) :
    applyAll unset read ((sdp.midSayings mediaType).flatMap Prod.snd) = some { read with
      bundleTags :=
        if read.isBundle then read.bundleTags.map (nameIn mediaType ((sdp.tagsOf mediaType).map BundleTag.id))
        else read.bundleTags } := by
  have said : (sdp.midSayings mediaType).flatMap Prod.snd =
      ((sdp.tagsOf mediaType).map BundleTag.id).map fun id => .mid id mediaType := by
    rw [midSayings, List.flatMap_map, List.map_map, List.map_eq_flatMap]
    rfl
  rw [said, applyAll_mids room]

/-! ### What is read of the codecs -/

section Codecs

variable {table : Std.ExtTreeMap UInt32 RtpMap}

theorem readCodecs_append (first second : List Update) :
    readCodecs unset table (first ++ second) = readCodecs unset (readCodecs unset table first) second := List.foldl_append

theorem readCodecs_feedback (pt : UInt32) (codec : RtpMap) (feedbackTypes : List Text) :
    readCodecs unset (table.insert pt codec) (feedbackTypes.map (.feedback pt)) =
      table.insert pt { codec with feedbackTypes := codec.feedbackTypes ++ feedbackTypes } := by
  induction feedbackTypes generalizing codec with
  | nil =>
      rw [List.append_nil]
      rfl
  | cons feedback feedbackTypes ih =>
      have next := ih { codec with feedbackTypes := codec.feedbackTypes ++ [feedback] }
      rw [List.append_assoc, List.singleton_append] at next
      rw [← next, readCodecs, List.map_cons, List.foldl_cons, readCodec, Table.getElem?_insert_eq, if_pos rfl,
        Option.getD_some, Table.insert_insert]
      rfl

theorem readCodecs_parameters (pt : UInt32) (codec : RtpMap) (parameters : List (Text × Text)) :
    readCodecs unset (table.insert pt codec) (parameters.map (.parameter pt)) = table.insert pt { codec with
      formatParameters := Table.fill Prod.fst Prod.snd codec.formatParameters parameters } := by
  induction parameters generalizing codec with
  | nil => rfl
  | cons parameter parameters ih =>
      have next := ih { codec with formatParameters := codec.formatParameters.insert parameter.1 parameter.2 }
      rw [← Table.fill_cons] at next
      rw [← next, readCodecs, List.map_cons, List.foldl_cons, readCodec, Table.getElem?_insert_eq, if_pos rfl,
        Option.getD_some, Table.insert_insert]
      rfl

/-- What is said of a codec: its first line, its feedback types and its parameters. -/
theorem updates_codec (rtp : RtpMap) : (codecSayings ending mediaType rtp).flatMap Prod.snd =
    [.rtpmap rtp.payloadType rtp.encodingName rtp.clockRate mediaType] ++
      (rtp.feedbackTypes.map fun feedback => (feedback ++ ending).dropLast).map (.feedback rtp.payloadType) ++
        (heardParameters ending rtp.formatParameters.toList).map (.parameter rtp.payloadType) := by
  have feedback :
      (rtp.feedbackTypes.flatMap fun feedback => [Update.feedback rtp.payloadType (feedback ++ ending).dropLast]) =
      (rtp.feedbackTypes.map fun feedback => (feedback ++ ending).dropLast).map (.feedback rtp.payloadType) := by
    rw [List.map_map, List.map_eq_flatMap]
    rfl
  rw [codecSayings, List.flatMap_append, List.flatMap_cons, List.flatMap_map, feedback]
  split_ifs with bare
  · have none : rtp.formatParameters.toList = [] := by
      rwa [← List.isEmpty_iff, Std.ExtTreeMap.isEmpty_toList]
    rw [none]
    rfl
  · rw [List.flatMap_singleton]

/-- **A codec is read** where none was. -/
theorem readCodecs_codec {rtp : RtpMap} (same : rtp.mediaType = mediaType) (new : table[rtp.payloadType]? = none) :
    readCodecs unset table ((codecSayings ending mediaType rtp).flatMap Prod.snd) =
      table.insert rtp.payloadType (heardCodec unset ending rtp) := by
  have first : readCodecs unset table [.rtpmap rtp.payloadType rtp.encodingName rtp.clockRate mediaType] =
      table.insert rtp.payloadType { newMap unset rtp.payloadType with
        encodingName := rtp.encodingName, clockRate := rtp.clockRate, mediaType := mediaType } := by
    rw [readCodecs, List.foldl_cons, List.foldl_nil, readCodec, new]
    rfl
  rw [updates_codec, readCodecs_append, readCodecs_append, first, readCodecs_feedback, readCodecs_parameters, ← same]
  rfl

/-- **The codecs of a section are read**, where none of their payload types was. -/
theorem readCodecs_codecs {rtps : List RtpMap} (same : ∀ rtp ∈ rtps, rtp.mediaType = mediaType)
    (distinct : (rtps.map RtpMap.payloadType).Nodup) (new : ∀ rtp ∈ rtps, table[rtp.payloadType]? = none) :
    readCodecs unset table ((rtps.flatMap (codecSayings ending mediaType)).flatMap Prod.snd) =
      Table.fill RtpMap.payloadType (heardCodec unset ending) table rtps := by
  induction rtps generalizing table with
  | nil => rfl
  | cons rtp rtps ih =>
      obtain ⟨media, others⟩ := List.forall_mem_cons.mp same
      obtain ⟨free, news⟩ := List.forall_mem_cons.mp new
      obtain ⟨apart, distinct⟩ := List.nodup_cons.mp distinct
      rw [List.flatMap_cons, List.flatMap_append, readCodecs_append, readCodecs_codec media free, Table.fill_cons]
      refine ih others distinct fun other member => ?_
      have differs : rtp.payloadType ≠ other.payloadType :=
        fun here => apart (here ▸ List.mem_map_of_mem member)
      rw [Table.getElem?_insert_eq, if_neg differs, news other member]

/-- What is said of codecs is about payload types. -/
theorem payloadType_of_mem_codecs {rtps : List RtpMap} {update : Update}
    (member : update ∈ (rtps.flatMap (codecSayings ending mediaType)).flatMap Prod.snd) : update.payloadType.isSome := by
  obtain ⟨saying, listed, said⟩ := List.mem_flatMap.mp member
  obtain ⟨rtp, -, inside⟩ := List.mem_flatMap.mp listed
  have here : update ∈ (codecSayings ending mediaType rtp).flatMap Prod.snd := List.mem_flatMap.mpr ⟨saying, inside, said⟩
  rw [updates_codec, List.mem_append, List.mem_append, List.mem_singleton, List.mem_map, List.mem_map] at here
  rcases here with (rfl | ⟨_, -, rfl⟩) | ⟨_, -, rfl⟩ <;> rfl

/-- The codecs of a section, where none of their payload types was read. -/
theorem applyAll_codecs (distinct : (sdp.payloadVector.map RtpMap.payloadType).Nodup)
    (new : ∀ rtp ∈ sdp.mediaCodecs mediaType, read.payloadParsedMap[rtp.payloadType]? = none) :
    applyAll unset read ((sdp.codecsSayings ending mediaType).flatMap Prod.snd) = some { read with
      payloadParsedMap :=
        Table.fill RtpMap.payloadType (heardCodec unset ending) read.payloadParsedMap (sdp.mediaCodecs mediaType) } := by
  have same : ∀ rtp ∈ sdp.mediaCodecs mediaType, rtp.mediaType = mediaType :=
    fun rtp member => of_decide_eq_true (List.mem_filter.mp member).2
  rw [← readCodecs_codecs same (distinct.sublist (List.filter_sublist.map _)) new]
  refine applyAll_part (fun table => { read with payloadParsedMap := table }) (readCodec unset)
    (fun table update member => ?_) _
  have about := payloadType_of_mem_codecs member
  cases update with
  | rtpmap | feedback | parameter => rfl
  | _ => exact absurd about Bool.false_ne_true

end Codecs

/-! ### What the sections leave -/

section Sections

variable (distinct : (sdp.payloadVector.map RtpMap.payloadType).Nodup) (room : read.bundleTags.length < 256)
include distinct room

/-- **The section for audio.** -/
theorem applyAll_audio (new : ∀ rtp ∈ sdp.mediaCodecs .audio, read.payloadParsedMap[rtp.payloadType]? = none) :
    applyAll unset read ((sdp.audioSayings unset ending).flatMap Prod.snd) = some { read with
      isRtcpMux := read.isRtcpMux || sdp.isRtcpMux
      audioDirection := sdp.audioDirection
      isFingerprint := read.isFingerprint || sdp.isFingerprint
      fingerprint := if sdp.isFingerprint then sdp.fingerprint ++ ending else read.fingerprint
      dtlsRole := sdp.dtlsRole
      bundleTags :=
        if read.isBundle then read.bundleTags.map (nameIn .audio ((sdp.tagsOf .audio).map BundleTag.id))
        else read.bundleTags
      extMapVector := read.extMapVector ++ (sdp.validExtensions .audio).map (heardExtension ending)
      candidateVector := read.candidateVector ++ (sdp.candidatesFor .audio).map (heardCandidate unset ending .audio)
      cryptoVector := read.cryptoVector ++ (sdp.cryptoVector.filter (·.mediaType = .audio)).map (heardKey ending)
      iceAudioUsername := sdp.audioCredentials.1
      iceAudioPassword := sdp.audioCredentials.2
      payloadParsedMap :=
        Table.fill RtpMap.payloadType (heardCodec unset ending) read.payloadParsedMap (sdp.mediaCodecs .audio) } := by
  have address : sdp.addressSayings.flatMap Prod.snd = [] := by
    unfold addressSayings
    split_ifs <;> rfl
  have credentials : ∀ read : SdpInfo,
    applyAll unset read ((credentialSayings .audio sdp.audioCredentials).flatMap Prod.snd) =
      some { read with iceAudioUsername := sdp.audioCredentials.1, iceAudioPassword := sdp.audioCredentials.2 } :=
        fun _ => rfl
  have direction : ∀ read : SdpInfo, applyAll unset read ((directionSayings .audio sdp.audioDirection).flatMap Prod.snd) =
      some { read with audioDirection := sdp.audioDirection } := fun _ => rfl
  unfold audioSayings
  simp only [List.flatMap_append, applyAll_append, address, applyAll_nil, Option.bind_some,
    applyAll_candidates, credentials,
    applyAll_dtls, direction, applyAll_extMap]
  rw [applyAll_midSayings, Option.bind_some, applyAll_crypto, Option.bind_some, applyAll_codecs distinct]
  · rfl
  · exact new
  · exact room

/-- **The section for video.** -/
theorem applyAll_video (new : ∀ rtp ∈ sdp.mediaCodecs .video, read.payloadParsedMap[rtp.payloadType]? = none) :
    applyAll unset read ((sdp.videoSayings unset ending).flatMap Prod.snd) = some { read with
      isRtcpMux := read.isRtcpMux || sdp.isRtcpMux
      videoDirection := sdp.videoDirection
      isFingerprint := read.isFingerprint || sdp.isFingerprint
      fingerprint := if sdp.isFingerprint then sdp.fingerprint ++ ending else read.fingerprint
      dtlsRole := sdp.dtlsRole
      bundleTags :=
        if read.isBundle then read.bundleTags.map (nameIn .video ((sdp.tagsOf .video).map BundleTag.id))
        else read.bundleTags
      extMapVector := read.extMapVector ++ (sdp.validExtensions .video).map (heardExtension ending)
      candidateVector := read.candidateVector ++ (sdp.candidatesFor .video).map (heardCandidate unset ending .video)
      cryptoVector := read.cryptoVector ++ (sdp.cryptoVector.filter (·.mediaType = .video)).map (heardKey ending)
      iceVideoUsername := sdp.iceVideoUsername
      iceVideoPassword := sdp.iceVideoPassword
      payloadParsedMap :=
        Table.fill RtpMap.payloadType (heardCodec unset ending) read.payloadParsedMap (sdp.mediaCodecs .video)
      rids := read.rids ++ sdp.rids } := by
  have address : sdp.addressSayings.flatMap Prod.snd = [] := by
    unfold addressSayings
    split_ifs <;> rfl
  have credentials : ∀ read : SdpInfo,
      applyAll unset read ((credentialSayings .video (sdp.iceVideoUsername, sdp.iceVideoPassword)).flatMap Prod.snd) =
        some { read with iceVideoUsername := sdp.iceVideoUsername, iceVideoPassword := sdp.iceVideoPassword } :=
          fun _ => rfl
  have direction : ∀ read : SdpInfo, applyAll unset read ((directionSayings .video sdp.videoDirection).flatMap Prod.snd) =
      some { read with videoDirection := sdp.videoDirection } := fun _ => rfl
  have simulcast : sdp.simulcastSayings.flatMap Prod.snd = [] := by
    unfold simulcastSayings
    cases sdp.rids <;> rfl
  have selected :
      (fun candidate : CandidateInfo => candidate.mediaType = .video || (MediaType.video = .audio && sdp.isBundle)) =
      fun candidate => decide (candidate.mediaType = .video) := funext fun candidate => Bool.or_false _
  unfold videoSayings candidatesFor
  simp only [List.flatMap_append, applyAll_append, address, applyAll_nil, Option.bind_some,
    applyAll_candidates, credentials,
    applyAll_dtls, direction, applyAll_extMap, simulcast, selected]
  rw [applyAll_midSayings, Option.bind_some, applyAll_crypto, Option.bind_some, applyAll_rids, Option.bind_some,
    applyAll_codecs distinct]
  · rfl
  · exact new
  · exact room

end Sections

end Applying

/-! ### Written and read -/

section RoundTrip

variable {unset : Uninitialised} {ending msid : Text} {rtpMappings : List RtpMap} {sdp : SdpInfo}

/-- The tags are named in the sections of their media. -/
theorem nameIn_tagsOf (writable : sdp.Writable msid) (mediaType : MediaType) (named : BundleTag → MediaType) :
    (sdp.bundleTags.map fun tag => ⟨tag.id, named tag⟩).map (nameIn mediaType ((sdp.tagsOf mediaType).map BundleTag.id)) =
      sdp.bundleTags.map fun tag => ⟨tag.id, if tag.mediaType = mediaType then mediaType else named tag⟩ := by
  rw [List.map_map]
  refine List.map_congr_left fun tag member => ?_
  have mine : tag.id ∈ (sdp.tagsOf mediaType).map BundleTag.id ↔ tag.mediaType = mediaType := by
    refine ⟨fun listed => ?_, fun same => ?_⟩
    · obtain ⟨other, written, same⟩ := List.mem_map.mp listed
      obtain ⟨there, selected⟩ := List.mem_filter.mp written
      rw [← List.inj_on_of_nodup_map writable.ids there member same]
      exact of_decide_eq_true selected
    · exact List.mem_map_of_mem (List.mem_filter.mpr ⟨member, decide_eq_true same⟩)
  rw [Function.comp_apply]
  by_cases same : tag.mediaType = mediaType
  · rw [if_pos same]
    exact nameIn_of_mem (mine.mpr same)
  · rw [if_neg same]
    exact nameIn_of_notMem fun listed => same (mine.mp listed)

/-- No payload type of a codec of video is one of a codec of audio. -/
theorem new_video (writable : sdp.Writable msid) {rtp : RtpMap} (member : rtp ∈ sdp.mediaCodecs .video) :
    (Table.fill RtpMap.payloadType (heardCodec unset ending) (∅ : Std.ExtTreeMap UInt32 RtpMap)
      (sdp.mediaCodecs .audio))[rtp.payloadType]? = none := by
  obtain ⟨listed, video⟩ := List.mem_filter.mp member
  rcases Table.fill_cases RtpMap.payloadType (heardCodec unset ending) (∅ : Std.ExtTreeMap UInt32 RtpMap)
    (sdp.mediaCodecs .audio) rtp.payloadType with ⟨other, written, same, -⟩ | ⟨-, read⟩
  · obtain ⟨there, audio⟩ := List.mem_filter.mp written
    rw [List.inj_on_of_nodup_map writable.payloadTypes there listed same, of_decide_eq_true video] at audio
    exact absurd audio (by decide)
  · rw [read, Std.ExtTreeMap.getElem?_empty]

/-- **What the updates leave of a new description.** -/
theorem applyAll_written (writable : sdp.Writable msid) :
    applyAll unset (init unset rtpMappings) (sdp.updatesWritten unset ending) =
      some (sdp.reread unset ending rtpMappings) := by
  have bundle : applyAll unset (init unset rtpMappings)
      (if sdp.isBundle then .bundle :: (sdp.bundleTags.map BundleTag.id).map .tag else []) =
        some { init unset rtpMappings with
          isBundle := sdp.isBundle
          bundleTags := if sdp.isBundle then sdp.bundleTags.map fun tag => ⟨tag.id, .other⟩ else [] } := by
    cases sdp.isBundle
    · rfl
    · rw [if_pos rfl, applyAll_cons, apply, Option.bind_some, applyAll_tags, List.map_map]
      rfl
  have eight := writable.few
  have few : (if sdp.isBundle then sdp.bundleTags.map fun tag => (⟨tag.id, .other⟩ : BundleTag) else []).length < 256 := by
    split_ifs
    · rw [List.length_map]
      omega
    · exact Nat.zero_lt_succ _
  unfold updatesWritten
  rw [applyAll_append, applyAll_append, bundle, Option.bind_some]
  cases hasAudio : sdp.hasAudio <;> cases hasVideo : sdp.hasVideo
  · simp only [Bool.false_eq_true, if_false, applyAll_nil, Option.bind_some]
    simp only [init, reread, hasAudio, hasVideo, hasMedia, Bool.or_self, Bool.and_false, Bool.false_eq_true, if_false,
      hasMedium, bySection, List.append_nil, Table.fill_nil, Option.some.injEq, mk.injEq, and_self, and_true, true_and]
    refine ite_congr rfl (fun _ => List.map_congr_left fun tag _ => ?_) fun _ => rfl
    cases tag.mediaType <;> rfl
  · simp only [Bool.false_eq_true, if_false, if_true, applyAll_nil, Option.bind_some, applyAll_cons, apply]
    rw [applyAll_video writable.payloadTypes few fun _ _ => Std.ExtTreeMap.getElem?_empty]
    simp only [init, Bool.false_or, List.nil_append, reread, hasAudio, hasVideo, hasMedia, Bool.or_true, Bool.and_true,
      if_true, Bool.false_eq_true, if_false, hasMedium, bySection, Option.some.injEq, mk.injEq,
      and_self, and_true, true_and]
    split_ifs
    · rw [nameIn_tagsOf writable]
      refine List.map_congr_left fun tag _ => ?_
      cases tag.mediaType <;> rfl
    · rfl
  · simp only [if_true, Bool.false_eq_true, if_false, applyAll_nil, Option.bind_some, applyAll_cons, apply]
    rw [applyAll_audio writable.payloadTypes few fun _ _ => Std.ExtTreeMap.getElem?_empty]
    simp only [init, Bool.false_or, List.nil_append, Option.bind_some, reread, hasAudio, hasVideo, hasMedia, Bool.or_false,
      Bool.and_true, Bool.false_eq_true, if_false, if_true, hasMedium, bySection, List.append_nil,
      Option.some.injEq, mk.injEq,
      and_self, and_true, true_and]
    split_ifs
    · rw [nameIn_tagsOf writable]
      refine List.map_congr_left fun tag _ => ?_
      cases tag.mediaType <;> rfl
    · rfl
  · simp only [if_true, Option.bind_some, applyAll_cons, apply]
    rw [applyAll_audio writable.payloadTypes few fun _ _ => Std.ExtTreeMap.getElem?_empty, Option.bind_some,
      applyAll_video writable.payloadTypes]
    · simp only [init, Bool.false_or, Bool.or_self, List.nil_append, reread, hasAudio, hasVideo, hasMedia, Bool.and_true,
        if_true, hasMedium, bySection, Option.some.injEq, mk.injEq, and_self, and_true, true_and, Table.fill_append]
      refine ⟨?_, ?_⟩
      · split_ifs <;> rfl
      · split_ifs
        · rw [nameIn_tagsOf writable, nameIn_tagsOf writable]
          refine List.map_congr_left fun tag _ => ?_
          cases tag.mediaType <;> rfl
        · rfl
    · dsimp only
      split_ifs
      · rw [List.length_map, List.length_map]
        omega
      · exact Nat.zero_lt_succ _
    · exact fun rtp member => new_video writable member

/-- A text with something before the end of each line. -/
def endLines (ending text : Text) : Text :=
  text.flatMap fun character => if character = '\n' then ending ++ [character] else [character]

theorem endLines_textOf {lines : List Text} (unbroken : ∀ line ∈ lines, '\n' ∉ line) :
    endLines ending (textOf lines) = textOf (lines.map (· ++ ending)) := by
  have kept : ∀ line ∈ lines, (line ++ ['\n']).flatMap (fun character => if character = '\n' then ending ++ [character]
      else [character]) = line ++ ending ++ ['\n'] := by
    intro line member
    have whole :
        line.flatMap (fun character => if character = '\n' then ending ++ [character] else [character]) = line := by
      refine Eq.trans (List.flatMap_congr fun character here => ?_) (List.flatMap_singleton' line)
      exact if_neg fun same : character = '\n' => unbroken line member (same ▸ here)
    rw [List.flatMap_append, whole, List.flatMap_singleton, if_pos rfl, List.append_assoc]
  rw [endLines, textOf, textOf, List.flatMap_assoc, List.flatMap_map]
  exact List.flatMap_congr kept

/-- The lines of a description are not broken. -/
theorem unbroken_linesOf (writable : sdp.Writable msid) (ends : Ending ending) :
    ∀ line ∈ sdp.linesOf unset ending msid, '\n' ∉ line ++ ending := by
  have told : ∀ {mtype : MediaType} {sayings : List Saying}, Told unset ending mtype sayings →
      ∀ line ∈ sayings.map Prod.fst, '\n' ∉ line ++ ending :=
    fun told => List.forall_mem_map.mpr fun saying member => (told saying member).unbroken
  unfold linesOf
  refine List.forall_mem_append.mpr ⟨List.forall_mem_append.mpr ⟨?_, ?_⟩, ?_⟩
  · exact told ((@told_session unset ending .other ends).append (told_bundle writable ends))
  · split_ifs with has
    · exact List.forall_mem_cons.mpr
        ⟨(@opens_mediaLine_audio unset ending sdp _ ends).unbroken, told (told_audio writable has ends)⟩
    · exact fun _ member => absurd member List.not_mem_nil
  · split_ifs with has
    · exact List.forall_mem_cons.mpr
        ⟨(@opens_mediaLine_video unset ending sdp _ ends).unbroken, told (told_video writable has ends)⟩
    · exact fun _ member => absurd member List.not_mem_nil

/-- **A description that is written is read**: whether its lines end in LF or in CRLF, a new description at the other end
has what `reread` says of it when the codecs are negotiated. -/
theorem written_is_read {rounds : ℕ} {text : Text} (writable : sdp.Writable msid)
    (written : sdp.getSdp rounds msid = some text)
    (ends : Ending ending) (media : Text) : processSdp unset (init unset rtpMappings) (endLines ending text) media =
      postProcessInfo (sdp.reread unset ending rtpMappings) := by
  obtain ⟨narrow, enough⟩ := (getSdp_isSome rounds sdp msid).mp (Option.isSome_of_mem written)
  obtain rfl := Option.some_injective _ (written.symm.trans (getSdp_eq unset ending msid narrow enough))
  have unbroken := @unbroken_linesOf unset ending msid sdp writable ends
  have apart : ∀ line ∈ sdp.linesOf unset ending msid, '\n' ∉ line :=
    fun line member here => unbroken line member (List.mem_append_left _ here)
  obtain ⟨updates, said, spoke⟩ := Option.map_eq_some_iff.mp
    (@describe_linesOf unset ending (mediaOf media) sdp msid writable ends)
  rw [endLines_textOf apart, processSdp_eq, updatesOfText, getLines_textOf (List.forall_mem_map.mpr unbroken), said,
    Option.bind_some, ← applyAll_spoken rfl, spoke, applyAll_written writable, Option.bind_some]

/-- A candidate for video. -/
def hostCandidate : CandidateInfo :=
  ⟨false, 2113937151, 1, "1".toList, "192.168.1.5".toList, [], 40000, 0, "UDP".toList, .host, [], [], .video, []⟩

/-- A codec with a feedback type and a parameter. -/
def vp8WithFeedback : RtpMap := { vp8 with
  feedbackTypes := ["nack pli".toList]
  formatParameters := (∅ : FormatParameters).insert "x-google-start-bitrate".toList "800".toList }

/-- An offer of video. -/
def videoOffer : SdpInfo := { init zeros [] with
  isBundle := true
  hasVideo := true
  isRtcpMux := true
  isFingerprint := true
  fingerprint := "3A:96".toList
  bundleTags := [⟨"video".toList, .video⟩]
  candidateVector := [hostCandidate]
  iceVideoUsername := "u".toList
  iceVideoPassword := "p".toList
  payloadVector := [vp8WithFeedback]
  videoCodecs := 1 }

theorem writable_videoOffer : Writable "m".toList videoOffer where
  msid := by decide
  few := by decide
  tags := by decide
  ids := by decide
  candidates := List.forall_mem_singleton.mpr
    ⟨⟨by decide, by decide, by decide, by decide⟩, ⟨by decide, by decide, by decide⟩, by decide, by decide, by decide⟩
  audioCredentials := fun has => absurd has (by decide)
  videoCredentials := fun _ => ⟨by decide, by decide⟩
  fingerprint := fun _ => by decide
  extensions := fun _ member => absurd member List.not_mem_nil
  suites := fun _ member => absurd member List.not_mem_nil
  keys := fun _ member => absurd member List.not_mem_nil
  rids := fun _ member => absurd member List.not_mem_nil
  codecs := List.forall_mem_singleton.mpr
    ⟨by decide, by decide, by decide +kernel, by decide +kernel, by decide +kernel⟩
  payloadTypes := by decide

theorem written_is_read_videoOffer : ∃ text, videoOffer.getSdp 2 "m".toList = some text ∧
    processSdp zeros (init zeros [vp8]) (endLines "\r".toList text) [] =
      postProcessInfo (videoOffer.reread zeros "\r".toList [vp8]) := by
  obtain ⟨text, written⟩ := Option.isSome_iff_exists.mp (by decide +kernel : (videoOffer.getSdp 2 "m".toList).isSome)
  exact ⟨text, written, written_is_read writable_videoOffer written (Or.inr rfl) []⟩

/-- What a table lists, entered into an empty one. -/
theorem fill_toList (parameters : FormatParameters) : Table.fill Prod.fst Prod.snd ∅ parameters.toList = parameters := by
  refine Std.ExtTreeMap.ext_getElem? fun asked => ?_
  rcases Table.fill_cases Prod.fst Prod.snd (∅ : FormatParameters) parameters.toList asked with
    ⟨parameter, listed, rfl, read⟩ | ⟨other, read⟩
  · rw [read, Std.ExtTreeMap.mem_toList_iff_getElem?_eq_some.mp listed]
  · rw [read, Std.ExtTreeMap.getElem?_empty]
    cases found : parameters[asked]? with
    | none => rfl
    | some value => exact absurd rfl (other _ (Std.ExtTreeMap.mem_toList_iff_getElem?_eq_some.mpr found))

/-- A codec as it is read with carriage returns. -/
theorem heardCodec_cr {rtp : RtpMap} (codable : Codable rtp) :
    heardCodec unset "\r".toList rtp = { rtp with channels := unset.channels } := by
  have feedback : (rtp.feedbackTypes.map fun feedback => (feedback ++ "\r".toList).dropLast) = rtp.feedbackTypes :=
    (List.map_congr_left fun feedback _ => List.dropLast_concat).trans (List.map_id' _)
  rw [heardCodec, heardParameters_cr codable.spelled, fill_toList, feedback]

/-- **With carriage returns a codec is read as it was written**, but for its channels. -/
theorem written_codec_is_read (writable : sdp.Writable msid) {rtp : RtpMap} (member : rtp ∈ sdp.payloadVector)
    (has : sdp.hasMedium rtp.mediaType) : (sdp.reread unset "\r".toList rtpMappings).payloadParsedMap[rtp.payloadType]? =
      some { rtp with channels := unset.channels } := by
  have inSection : rtp ∈ sdp.bySection sdp.mediaCodecs := by
    have mine : rtp ∈ sdp.mediaCodecs rtp.mediaType := List.mem_filter.mpr ⟨member, decide_eq_true rfl⟩
    unfold bySection
    cases media : rtp.mediaType with
    | audio =>
        rw [media] at mine has
        rw [if_pos (show sdp.hasAudio = true from has)]
        exact List.mem_append_left _ mine
    | video =>
        rw [media] at mine has
        rw [if_pos (show sdp.hasVideo = true from has)]
        exact List.mem_append_right _ mine
    | other =>
        rw [media] at has
        exact absurd has Bool.false_ne_true
  have listed : ∀ other ∈ sdp.bySection sdp.mediaCodecs, other ∈ sdp.payloadVector := by
    unfold bySection
    refine List.forall_mem_append.mpr ⟨?_, ?_⟩
    · split_ifs
      · exact fun other written => (List.mem_filter.mp written).1
      · exact fun _ written => absurd written List.not_mem_nil
    · split_ifs
      · exact fun other written => (List.mem_filter.mp written).1
      · exact fun _ written => absurd written List.not_mem_nil
  rcases Table.fill_cases RtpMap.payloadType (heardCodec unset "\r".toList) (∅ : Std.ExtTreeMap UInt32 RtpMap)
    (sdp.bySection sdp.mediaCodecs) rtp.payloadType with ⟨other, written, same, read⟩ | ⟨none, -⟩
  · obtain rfl := List.inj_on_of_nodup_map writable.payloadTypes (listed other written) member same
    rw [← heardCodec_cr (writable.codecs other member)]
    exact read
  · exact absurd rfl (none rtp inSection)

theorem written_codec_is_read_videoOffer :
    (videoOffer.reread zeros "\r".toList [vp8]).payloadParsedMap[(100 : UInt32)]? =
      some { vp8WithFeedback with channels := 0 } :=
  written_codec_is_read writable_videoOffer (List.mem_singleton.mpr rfl) (by decide)

end RoundTrip

end SdpInfo

end Erizo
