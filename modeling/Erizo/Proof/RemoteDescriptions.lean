/-
**Descriptions a peer makes long.**

The loops over the bundle tags, the header extensions and the candidates have an index of eight bits, and what they go
through grows with the lines a peer sends. From 256 elements on, the index wraps around and a loop does not end.

* `remoteDescriptions_end_iff`: when `getSdp`, a `mid` line and a text with candidates come to an end, and that every
  candidate is then added once.
* `getSdp_manyGroups`: a description of 32 `group` lines cannot be written.
-/

import Erizo.Model.RemoteCandidates
import Erizo.Proof.HostileText

namespace Erizo

open Library NarrowIndex StringUtil

namespace SdpInfo

/-! ### Writing a description -/

section Writing

variable (rounds : ℕ) (sdp : SdpInfo)

/-- What `getSdp` goes through with a narrow index has fewer elements than a limit. -/
structure RoomToWrite (limit : ℕ) (sdp : SdpInfo) : Prop where
  tags : sdp.isBundle ∨ sdp.hasAudio ∨ sdp.hasVideo → sdp.bundleTags.length < limit
  extensions : sdp.hasAudio ∨ sdp.hasVideo → sdp.extMapVector.length < limit

/-- A loop that writes needs a round for each element and one more, and an index that has their number. -/
theorem writeEach_isSome {α : Type} (elements : List α) (write : α → Text) :
    (writeEach rounds elements write).isSome ↔ elements.length < 256 ∧ elements.length < rounds :=
  each_isSome_iff elements _ rounds []

theorem bundleText_isSome (msid : Text) : (sdp.bundleText rounds msid).isSome ↔
    (sdp.isBundle → sdp.bundleTags.length < 256 ∧ sdp.bundleTags.length < rounds) := by
  refine (isSome_ite_iff rfl).trans (imp_congr_right fun _ => ?_)
  rw [← writeEach_isSome rounds sdp.bundleTags fun tag => " ".toList ++ tag.id]
  cases writeEach rounds sdp.bundleTags fun tag => " ".toList ++ tag.id <;> simp

/-- A section writes its header extensions and then the bundle tags. -/
theorem section_isSome {extension : ExtMap → Text} {tag : BundleTag → Text} {rest : Text → Text → Text} :
    ((writeEach rounds sdp.extMapVector extension).bind fun extensions =>
      (writeEach rounds sdp.bundleTags tag).bind fun tags => some (rest extensions tags)).isSome ↔
      (sdp.extMapVector.length < 256 ∧ sdp.extMapVector.length < rounds) ∧
        sdp.bundleTags.length < 256 ∧ sdp.bundleTags.length < rounds := by
  rw [← writeEach_isSome rounds sdp.extMapVector extension, ← writeEach_isSome rounds sdp.bundleTags tag]
  exact isSome_bind_iff fun _ => by cases writeEach rounds sdp.bundleTags tag <;> simp

/-- **What it takes to write a description** in some number of rounds. -/
theorem getSdp_isSome (msid : Text) :
    (sdp.getSdp rounds msid).isSome ↔ RoomToWrite 256 sdp ∧ RoomToWrite rounds sdp := by
  have parts : (sdp.getSdp rounds msid).isSome ↔
      (sdp.bundleText rounds msid).isSome ∧ (sdp.audioText rounds).isSome ∧ (sdp.videoText rounds).isSome :=
    isSome_bind_iff fun _ => isSome_bind_iff fun _ => by cases sdp.videoText rounds <;> simp
  have audio : (sdp.audioText rounds).isSome ↔ (sdp.hasAudio → _) :=
    (isSome_ite_iff rfl).trans (imp_congr_right fun _ => section_isSome rounds sdp)
  have video : (sdp.videoText rounds).isSome ↔ (sdp.hasVideo → _) :=
    (isSome_ite_iff rfl).trans (imp_congr_right fun _ => section_isSome rounds sdp)
  rw [parts, bundleText_isSome, audio, video]
  constructor
  · rintro ⟨bundle, inAudio, inVideo⟩
    refine ⟨⟨?_, ?_⟩, ⟨?_, ?_⟩⟩
    · rintro (has | has | has)
      exacts [(bundle has).1, (inAudio has).2.1, (inVideo has).2.1]
    · rintro (has | has)
      exacts [(inAudio has).1.1, (inVideo has).1.1]
    · rintro (has | has | has)
      exacts [(bundle has).2, (inAudio has).2.2, (inVideo has).2.2]
    · rintro (has | has)
      exacts [(inAudio has).1.2, (inVideo has).1.2]
  · rintro ⟨narrow, enough⟩
    exact ⟨fun bundle => ⟨narrow.tags (Or.inl bundle), enough.tags (Or.inl bundle)⟩,
      fun has => ⟨⟨narrow.extensions (Or.inl has), enough.extensions (Or.inl has)⟩,
        narrow.tags (Or.inr (Or.inl has)), enough.tags (Or.inr (Or.inl has))⟩,
      fun has => ⟨⟨narrow.extensions (Or.inr has), enough.extensions (Or.inr has)⟩,
        narrow.tags (Or.inr (Or.inr has)), enough.tags (Or.inr (Or.inr has))⟩⟩

/-- **When a description can be written.** -/
theorem ends_getSdp_iff (msid : Text) : Ends (fun rounds => sdp.getSdp rounds msid) ↔ RoomToWrite 256 sdp := by
  constructor
  · rintro ⟨rounds, written⟩
    exact ((getSdp_isSome rounds sdp msid).mp written).1
  · intro room
    exact ⟨256, (getSdp_isSome 256 sdp msid).mpr ⟨room, room⟩⟩

end Writing

/-! ### The loop of a `mid` line -/

/-- **When the loop of a `mid` line ends.** -/
theorem ends_setMediaTypeWithin_iff (thisId : Text) (mtype : MediaType) (bundleTags : List BundleTag) :
    Ends (fun rounds => setMediaTypeWithin rounds thisId mtype bundleTags) ↔ bundleTags.length < 256 :=
  ends_modifyEach_iff _ bundleTags

/-- **Round by round**, the loop does what `setMediaType` says. -/
theorem setMediaTypeWithin_eq {rounds : ℕ} (thisId : Text) (mtype : MediaType) {bundleTags : List BundleTag}
    (enough : bundleTags.length < rounds) :
    setMediaTypeWithin rounds thisId mtype bundleTags = Reading.setMediaType thisId mtype bundleTags := by
  unfold Reading.setMediaType
  split_ifs with full
  · exact modifyEach_eq_none full _ rounds
  · exact modifyEach_eq (not_le.mp full) enough _

/-! ### The candidates of a text -/

/-- What is left of a text that was processed: its candidates, and whether it has a user name. -/
theorem candidates_processSdp {unset : Uninitialised} {sdp next : SdpInfo} {text media : Text} {result : Bool}
    (processed : processSdp unset sdp text media = some (result, next)) :
    ∃ updates, updatesOfText unset text media = some updates ∧
      (result = true ↔ ∃ audio, usernameAfter audio sdp updates ≠ []) ∧
      next.candidateVector.length = sdp.candidateVector.length + (updates.flatMap Update.candidates).length := by
  rw [processSdp_eq] at processed
  obtain ⟨read, applied, post⟩ := Option.bind_eq_some_iff.mp processed
  obtain ⟨updates, said, one⟩ := Option.bind_eq_some_iff.mp applied
  have call := SdpInfo.processed post
  have named : read.Named ↔ ∃ audio, usernameAfter audio sdp updates ≠ [] :=
    exists_congr fun audio => by rw [credentials_applyAll unset one]
  have kept : next.candidateVector.length = read.candidateVector.length := by
    cases result with
    | false => rw [call.silent rfl]
    | true => rw [call.candidates rfl, completed_candidateVector, List.length_map]
  have added : read.candidateVector = _ := gathered unset (fun applied => applied.candidates) one
  refine ⟨updates, said, call.result_iff.trans named, ?_⟩
  rw [kept, added, List.length_append]

/-- Candidates that are added one after the other. -/
theorem foldl_addCandidate (sdp : SdpInfo) (candidates : List CandidateInfo) :
    candidates.foldl (fun sdp info => (sdp.addCandidate info).1) sdp =
      { sdp with candidateVector := sdp.candidateVector ++ candidates } := by
  induction candidates generalizing sdp with
  | nil => simp
  | cons candidate candidates ih =>
      rw [List.foldl_cons, ih]
      simp [addCandidate]

end SdpInfo

namespace WebRtcConnection

open SdpInfo

/-! ### A text with candidates -/

section Candidates

variable (connection : WebRtcConnection) (unset : Uninitialised) (rtpMappings : List RtpMap) (mid : Text) (mLineIndex : ℤ)
  (accepts : Bool) (sdp : Text)

/-- A text is not read: there is no transport, or it says that there are no more candidates. -/
def Unread : Prop :=
  (connection.videoTransport.isNone && connection.audioTransport.isNone) = true ∨ mLineIndex = -1

instance : Decidable (connection.Unread mLineIndex) := inferInstanceAs (Decidable (_ ∨ _))

/-- The candidates that are parsed from a text. -/
def parsedCandidates : List CandidateInfo :=
  if connection.Unread mLineIndex then []
  else
    ((processSdp unset (connection.tempSdp unset rtpMappings mid mLineIndex) sdp
      (connection.candidateMid mid mLineIndex)).map fun read => read.2.candidateVector).getD []

/-- The connection after a text: the candidates that were parsed are added to the remote description, each of them
once. -/
def withCandidates : WebRtcConnection :=
  { connection with
    remoteSdp :=
      { connection.remoteSdp with
        candidateVector := connection.remoteSdp.candidateVector ++
          connection.parsedCandidates unset rtpMappings mid mLineIndex sdp } }

/-- `addRemoteCandidateSync` comes to an end, and has added every candidate. -/
def AddsCandidates : Prop :=
  ∃ rounds actions result, connection.addRemoteCandidateSync unset rtpMappings mid mLineIndex rounds accepts sdp =
    some (connection.withCandidates unset rtpMappings mid mLineIndex sdp, actions, result)

/-- What it takes to add the candidates of a text that is read: it can be processed, the transport is there that they
are handed to when it has credentials, and it has fewer than 256 of them. -/
structure Addable : Prop where
  processable : Processable unset (connection.tempSdp unset rtpMappings mid mLineIndex) sdp
    (connection.candidateMid mid mLineIndex)
  transport : ∀ updates, updatesOfText unset sdp (connection.candidateMid mid mLineIndex) = some updates →
    (∃ audio, usernameAfter audio (connection.tempSdp unset rtpMappings mid mLineIndex) updates ≠ []) →
      (connection.candidateTransport mid mLineIndex).2.isSome
  room : ∀ updates, updatesOfText unset sdp (connection.candidateMid mid mLineIndex) = some updates →
    (updates.flatMap Update.candidates).length < 256

variable {connection mLineIndex}

/-- A text that is not read adds nothing. -/
theorem addsCandidates_unread (unread : connection.Unread mLineIndex) :
    connection.AddsCandidates unset rtpMappings mid mLineIndex accepts sdp := by
  have same : connection.withCandidates unset rtpMappings mid mLineIndex sdp = connection := by
    rw [withCandidates, parsedCandidates, if_pos unread, List.append_nil]
  unfold AddsCandidates addRemoteCandidateSync
  rw [same]
  by_cases bare : (connection.videoTransport.isNone && connection.audioTransport.isNone) = true
  · exact ⟨0, [], false, if_pos bare⟩
  · refine ⟨0, [.setReceivedLastCandidate (if connection.videoTransport.isSome then .video else .audio)], true, ?_⟩
    rw [if_neg bare, if_pos (unread.resolve_left bare)]

/-- When candidates can be handed over. -/
theorem handCandidates_isSome (processed : Bool) (candidates : List CandidateInfo) :
    (connection.handCandidates mid mLineIndex processed accepts candidates).isSome ↔
      (processed = true → (connection.candidateTransport mid mLineIndex).2.isSome) := by
  unfold handCandidates
  cases processed <;> simp

/-- What is done with a text that was processed. -/
theorem addsCandidates_processed (reads : ¬ connection.Unread mLineIndex) {read : SdpInfo} {processed : Bool}
    (result : processSdp unset (connection.tempSdp unset rtpMappings mid mLineIndex) sdp
      (connection.candidateMid mid mLineIndex) = some (processed, read)) :
    connection.AddsCandidates unset rtpMappings mid mLineIndex accepts sdp ↔
      (processed = true → (connection.candidateTransport mid mLineIndex).2.isSome) ∧ read.candidateVector.length < 256 := by
  obtain ⟨bare, more⟩ := not_or.mp reads
  have parsed : connection.parsedCandidates unset rtpMappings mid mLineIndex sdp = read.candidateVector := by
    rw [parsedCandidates, if_neg reads, result]
    rfl
  have run : ∀ rounds, connection.addRemoteCandidateSync unset rtpMappings mid mLineIndex rounds accepts sdp =
      (connection.handCandidates mid mLineIndex processed accepts read.candidateVector).bind fun handed =>
        (each 8 read.candidateVector (fun sdp info => (sdp.addCandidate info).1) rounds connection.remoteSdp).bind
          fun remoteSdp => some ({ connection with remoteSdp := remoteSdp }, handed) := by
    intro rounds
    rw [addRemoteCandidateSync, if_neg bare, if_neg more]
    simp only [result, Option.bind_eq_bind, Option.bind_some]
  rw [← handCandidates_isSome mid accepts processed read.candidateVector]
  constructor
  · rintro ⟨rounds, actions, answer, ended⟩
    rw [run] at ended
    obtain ⟨handed, hands, added⟩ := Option.bind_eq_some_iff.mp ended
    obtain ⟨remoteSdp, adds, -⟩ := Option.bind_eq_some_iff.mp added
    exact ⟨Option.isSome_iff_exists.mpr ⟨handed, hands⟩,
      ((each_isSome_iff _ _ rounds _).mp (Option.isSome_iff_exists.mpr ⟨remoteSdp, adds⟩)).1⟩
  · rintro ⟨hands, room⟩
    obtain ⟨⟨actions, answer⟩, handed⟩ := Option.isSome_iff_exists.mp hands
    refine ⟨256, actions, answer, ?_⟩
    rw [run, handed, Option.bind_some, each_eq room room, Option.bind_some, foldl_addCandidate, withCandidates, parsed]

/-- **When the candidates of a text are added.** -/
theorem addsCandidates_iff : connection.AddsCandidates unset rtpMappings mid mLineIndex accepts sdp ↔
    connection.Unread mLineIndex ∨ connection.Addable unset rtpMappings mid mLineIndex sdp := by
  by_cases unread : connection.Unread mLineIndex
  · exact iff_of_true (addsCandidates_unread unset rtpMappings mid accepts sdp unread) (Or.inl unread)
  rw [or_iff_right unread]
  cases result : processSdp unset (connection.tempSdp unset rtpMappings mid mLineIndex) sdp
      (connection.candidateMid mid mLineIndex) with
  | none =>
      refine iff_of_false ?_ fun addable => ?_
      · rintro ⟨rounds, actions, answer, ended⟩
        obtain ⟨bare, more⟩ := not_or.mp unread
        rw [addRemoteCandidateSync, if_neg bare, if_neg more] at ended
        simp only [result, Option.bind_eq_bind, Option.bind_none] at ended
        exact (nomatch ended)
      · obtain ⟨_, _, processed⟩ := (processable_iff unset _ sdp _).mpr addable.processable
        rw [result] at processed
        exact (nomatch processed)
  | some processed =>
      obtain ⟨processed, read⟩ := processed
      obtain ⟨updates, said, named, candidates⟩ := candidates_processSdp result
      have fresh : (connection.tempSdp unset rtpMappings mid mLineIndex).candidateVector = [] := rfl
      rw [fresh, List.length_nil, Nat.zero_add] at candidates
      rw [addsCandidates_processed unset rtpMappings mid accepts sdp unread result, named, candidates]
      constructor
      · rintro ⟨transport, room⟩
        refine ⟨(processable_iff unset _ sdp _).mp ⟨processed, read, result⟩, fun other described => ?_,
          fun other described => ?_⟩
        · obtain rfl := Option.some_injective _ (described.symm.trans said)
          exact transport
        · obtain rfl := Option.some_injective _ (described.symm.trans said)
          exact room
      · rintro ⟨-, transport, room⟩
        exact ⟨transport updates said, room updates said⟩

end Candidates

end WebRtcConnection

namespace SdpInfo

/-- **When a remote description does not hang the signalling.** A description can be written exactly when `getSdp` has
room for its bundle tags and header extensions; the loop of a `mid` line ends exactly when there are fewer than 256 tags,
and does what `setMediaType` says, so that the lines of a text can be applied exactly when there is room at each such
line; and a text with candidates comes to an end, with each of them added once, exactly when it is not read or
`Addable`. -/
theorem remoteDescriptions_end_iff (unset : Uninitialised) (sdp : SdpInfo) (msid thisId : Text) (mtype : MediaType)
    (updates : List Update) (connection : WebRtcConnection) (rtpMappings : List RtpMap) (mid : Text) (mLineIndex : ℤ)
    (accepts : Bool) (text : Text) :
    (Ends (fun rounds => sdp.getSdp rounds msid) ↔ RoomToWrite 256 sdp) ∧
    (Ends (fun rounds => setMediaTypeWithin rounds thisId mtype sdp.bundleTags) ↔ sdp.bundleTags.length < 256) ∧
    (∀ rounds, sdp.bundleTags.length < rounds →
      setMediaTypeWithin rounds thisId mtype sdp.bundleTags = Reading.setMediaType thisId mtype sdp.bundleTags) ∧
    ((applyAll unset sdp updates).isSome ↔ RoomForTags sdp updates) ∧
    (connection.AddsCandidates unset rtpMappings mid mLineIndex accepts text ↔
      connection.Unread mLineIndex ∨ connection.Addable unset rtpMappings mid mLineIndex text) :=
  ⟨ends_getSdp_iff sdp msid, ends_setMediaTypeWithin_iff thisId mtype sdp.bundleTags,
    fun _ enough => setMediaTypeWithin_eq thisId mtype enough, applyAll_isSome unset sdp updates,
    WebRtcConnection.addsCandidates_iff unset rtpMappings mid accepts text⟩

/-- A line that bundles eight media. -/
def groupLine : Text := "a=group:BUNDLE 1 2 3 4 5 6 7 8\n".toList

/-- A description of 32 such lines, and a user name. -/
def manyGroups : Text := (List.replicate 32 groupLine).flatten ++ "a=ice-ufrag:u\n".toList

/-- **Not every description that is read can be written**: 256 bundle tags are gone through for ever. -/
theorem getSdp_manyGroups : ¬ ∀ (unset : Uninitialised) (sdp : SdpInfo) (text media msid : Text),
    processSdp unset (init unset []) text media = some (true, sdp) → Ends (fun rounds => sdp.getSdp rounds msid) := by
  intro always
  have run : (processSdp zeros (init zeros []) manyGroups []).map
      (fun read => (read.1, read.2.isBundle, read.2.bundleTags.length)) = some (true, true, 256) := by decide +kernel
  obtain ⟨⟨result, sdp⟩, processed, tags⟩ := Option.map_eq_some_iff.mp run
  obtain ⟨rfl, bundled, full⟩ : result = true ∧ sdp.isBundle = true ∧ sdp.bundleTags.length = 256 := by
    simpa only [Prod.mk.injEq] using tags
  have room := ((ends_getSdp_iff sdp []).mp (always zeros sdp manyGroups [] [] processed)).tags (Or.inl bundled)
  exact absurd full room.ne

end SdpInfo

end Erizo
