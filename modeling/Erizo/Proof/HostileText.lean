/-
**Which texts can be processed.**

A line is read when the pieces are there that its kinds index (`Complete`); a text, when all its lines are.
Then the loops over the bundle tags have to end (`RoomForTags`) and the payload types that `rtx` codecs
belong to have to be given on both sides (`AptsGiven`). `processSdp_returns_iff` says that this is all it
takes; `Processable` puts it together.
-/

import Erizo.Proof.Reprocessing

namespace Erizo

namespace SdpInfo

open Library StringUtil Reading

variable (unset : Uninitialised)

/-! ### The pieces a line needs -/

/-- The pieces a candidate needs. -/
def CandidateComplete (pieces : List Text) : Prop :=
  3 < pieces.length ∧ (pieces[3]? = some "UDP".toList ∨ pieces[3]? = some "udp".toList →
    7 < pieces.length ∧ (pieces[7]? = some "typ".toList →
      8 < pieces.length ∧ (pieces[8]? = some "srflx".toList ∨ pieces[8]? = some "relay".toList → 12 < pieces.length)))

/-- Every piece is there that the line is asked for. -/
structure Complete (line : Text) (mtype : MediaType) : Prop where
  fingerprint : line.find fp →
    ∃ value, (splitOneOf line ":".toList 1)[1]? = some value ∧ 1 < (splitOneOf value " ".toList 0).length
  setup : line.find setup → 1 < (splitOneOf line ":".toList 1).length
  group : line.find group → 1 < (splitOneOf line ":  \r\n".toList 10).length
  candidate : line.find cand → CandidateComplete (splitOneOf line " :".toList 0)
  crypto : line.find crypto → 4 < (splitOneOf line " :".toList 0).length
  username : line.find iceUser → 1 < (splitOneOf line ":".toList 1).length
  password : line.find icePass → 1 < (splitOneOf line ":".toList 1).length
  rid : line.find rid → mtype = .video → 1 < (splitOneOf line ":".toList 2).length
  rtpmap : line.find rtpmap → 3 < (splitOneOf line " :/\n".toList 4).length
  extmap : line.find extmap → (splitOneOf line " :=".toList 3).length ≠ 3
  feedback : line.find rtcpfb → 2 < (splitOneOf line " :".toList 2).length
  fmtp : line.find fmtp → 3 ≤ (splitOneOf line " :;".toList 40).length →
    (splitOneOf line " :;".toList 40).getLast? ≠ some []

section Kinds

variable (line : Text) (mtype : MediaType)

/-- A computation after another ends when both do. -/
theorem isSome_bind_iff {α β : Type} {first : Option α} {rest : α → Option β} {ends : Prop}
    (each : ∀ value, (rest value).isSome ↔ ends) : (first.bind rest).isSome ↔ first.isSome ∧ ends := by
  cases first with
  | none => simp
  | some value => simp [each]

/-- A kind of line ends when it is not found or what it does ends. -/
theorem isSome_ite_iff {α : Type} {found : Bool} {here there : Option α} (ends : there.isSome) :
    (if found then here else there).isSome ↔ (found → here.isSome) := by
  cases found <;> simp [ends]

theorem isSome_getElem?_iff {pieces : List Text} {index : ℕ} : (pieces[index]?).isSome ↔ index < pieces.length := by
  simp

/-- What reads one piece, and then what always ends. -/
theorem isSome_piece_iff {α : Type} {pieces : List Text} {index : ℕ} {rest : Text → Option α}
    (ends : ∀ piece, pieces[index]? = some piece → (rest piece).isSome) :
    ((pieces[index]?).bind rest).isSome ↔ index < pieces.length := by
  rw [← isSome_getElem?_iff]
  cases piece : pieces[index]? with
  | none => simp
  | some value => simpa using ends value piece

theorem fingerprintUpdates_isSome : (fingerprintUpdates line).isSome ↔ (line.find fp →
    ∃ value, (splitOneOf line ":".toList 1)[1]? = some value ∧ 1 < (splitOneOf value " ".toList 0).length) := by
  refine (isSome_ite_iff rfl).trans (imp_congr_right fun _ => ?_)
  generalize (splitOneOf line ":".toList 1)[1]? = value
  cases value with
  | none => simp
  | some value => exact (isSome_piece_iff fun _ _ => rfl).trans (by simp)

theorem setupUpdates_isSome :
    (setupUpdates line).isSome ↔ (line.find setup → 1 < (splitOneOf line ":".toList 1).length) :=
  (isSome_ite_iff rfl).trans (imp_congr_right fun _ => isSome_piece_iff fun _ _ => rfl)

theorem groupUpdates_isSome :
    (groupUpdates line).isSome ↔ (line.find group → 1 < (splitOneOf line ":  \r\n".toList 10).length) :=
  (isSome_ite_iff rfl).trans (imp_congr_right fun _ => isSome_piece_iff fun _ _ => rfl)

theorem cryptoUpdates_isSome :
    (cryptoUpdates line mtype).isSome ↔ (line.find crypto → 4 < (splitOneOf line " :".toList 0).length) := by
  refine (isSome_ite_iff rfl).trans (imp_congr_right fun _ => ?_)
  refine (isSome_bind_iff fun _ => isSome_piece_iff fun _ _ => rfl).trans ?_
  rw [isSome_getElem?_iff]
  omega

theorem credentialUpdates_isSome (pattern : Text) (update : MediaType → Text → Update) :
    (credentialUpdates line mtype pattern update).isSome ↔
      (line.find pattern → 1 < (splitOneOf line ":".toList 1).length) := by
  refine (isSome_ite_iff rfl).trans (imp_congr_right fun _ => isSome_piece_iff fun value found => ?_)
  -- what comes past the limit is not empty, so it has a first piece
  have some : value ≠ [] := Cut.ne_nil_of_getElem?_split found
  exact (isSome_piece_iff fun _ _ => rfl).mpr (List.length_pos_iff.mpr (Cut.split_ne_nil some))

theorem ridUpdates_isSome : (ridUpdates line mtype).isSome ↔
    (line.find rid → mtype = .video → 1 < (splitOneOf line ":".toList 2).length) := by
  refine (isSome_ite_iff rfl).trans (imp_congr_right fun _ => ?_)
  by_cases video : mtype = .video
  · rw [if_pos video]
    exact (isSome_piece_iff fun _ _ => rfl).trans ⟨fun enough _ => enough, fun enough => enough video⟩
  · rw [if_neg video]
    exact iff_of_true rfl fun other => absurd other video

theorem rtpmapUpdates_isSome :
    (rtpmapUpdates line mtype).isSome ↔ (line.find rtpmap → 3 < (splitOneOf line " :/\n".toList 4).length) := by
  refine (isSome_ite_iff rfl).trans (imp_congr_right fun _ => ?_)
  refine (isSome_bind_iff fun _ => isSome_bind_iff fun _ => isSome_piece_iff fun _ _ => rfl).trans ?_
  rw [isSome_getElem?_iff, isSome_getElem?_iff]
  omega

theorem extMapUpdates_isSome :
    (extMapUpdates line mtype).isSome ↔ (line.find extmap → (splitOneOf line " :=".toList 3).length ≠ 3) := by
  refine (isSome_ite_iff rfl).trans (imp_congr_right fun _ => ?_)
  simp only
  split_ifs with enough
  · refine (isSome_bind_iff fun _ => isSome_piece_iff fun _ _ => rfl).trans ?_
    rw [isSome_getElem?_iff]
    omega
  · exact iff_of_true rfl fun exactly => enough exactly.ge

theorem feedbackUpdates_isSome :
    (feedbackUpdates line).isSome ↔ (line.find rtcpfb → 2 < (splitOneOf line " :".toList 2).length) := by
  refine (isSome_ite_iff rfl).trans (imp_congr_right fun _ => ?_)
  refine (isSome_bind_iff fun _ => isSome_piece_iff fun value found => ?_).trans ?_
  · have some : value ≠ [] := Cut.ne_nil_of_getElem?_split found
    rw [popBack, if_neg some]
    rfl
  · rw [isSome_getElem?_iff]
    omega

/-- The parts of an `fmtp` line can be read when the last one is not empty. -/
theorem parametersOf_isSome (parts : List Text) : (parametersOf parts).isSome ↔ parts.getLast? ≠ some [] := by
  induction parts with
  | nil => exact iff_of_true rfl (Option.some_ne_none _).symm
  | cons part parts ih =>
      cases parts with
      | nil =>
          rw [parametersOf, popBack, List.getLast?_singleton]
          by_cases empty : part = [] <;> simp [empty]
      | cons next parts =>
          rw [List.getLast?_cons_cons, ← ih, parametersOf.eq_3 part (next :: parts) (List.cons_ne_nil _ _)]
          cases parametersOf (next :: parts) <;> simp

theorem fmtpUpdates_isSome : (fmtpUpdates line mtype).isSome ↔
    (line.find fmtp → 3 ≤ (splitOneOf line " :;".toList 40).length →
      (splitOneOf line " :;".toList 40).getLast? ≠ some []) := by
  refine (isSome_ite_iff rfl).trans (imp_congr_right fun _ => ?_)
  simp only
  generalize splitOneOf line " :;".toList 40 = parts
  split_ifs with few
  · exact iff_of_true rfl fun enough => absurd few (not_lt.mpr enough)
  · rw [not_lt] at few
    have last : (parts.drop 2).getLast? = parts.getLast? := by
      rw [List.getLast?_drop, if_neg (by omega)]
    refine (@isSome_bind_iff _ _ _ _ (parts.getLast? ≠ some []) fun _ => ?_).trans ?_
    · rw [← last, ← parametersOf_isSome]
      cases parametersOf (parts.drop 2) <;> simp
    · rw [isSome_getElem?_iff]
      exact ⟨fun both _ => both.2, fun enough => ⟨by omega, enough few⟩⟩

/-- The type of a candidate that has another address. -/
theorem hostTypeOf_iff (name : Text) :
    (hostTypeOf name = .srflx ∨ hostTypeOf name = .relay) ↔ name = "srflx".toList ∨ name = "relay".toList := by
  unfold hostTypeOf
  split_ifs with relay prflx srflx
  · exact iff_of_true (Or.inr rfl) (Or.inr relay)
  · rw [prflx]
    decide
  · exact iff_of_true (Or.inl rfl) (Or.inl srflx)
  · exact iff_of_false (by decide) (not_or.mpr ⟨srflx, relay⟩)

/-- What reads one piece ends when the piece is there and the rest ends. -/
theorem isSome_piece_and_iff {α : Type} {pieces : List Text} {index : ℕ} {rest : Text → Option α} {ends : Prop}
    (each : ∀ piece, pieces[index]? = some piece → ((rest piece).isSome ↔ ends)) :
    ((pieces[index]?).bind rest).isSome ↔ index < pieces.length ∧ ends := by
  rw [← isSome_getElem?_iff]
  cases piece : pieces[index]? with
  | none => simp
  | some value => simpa using each value piece

/-- A candidate is read or ignored when its pieces are there. -/
theorem candidateOf_isSome (pieces : List Text) :
    (candidateOf unset pieces mtype line).isSome ↔ CandidateComplete pieces := by
  have address : ∀ (type : Text) (found : pieces[8]? = some type), (hostTypeOf type = .srflx ∨ hostTypeOf type = .relay) ↔
      (pieces[8]? = some "srflx".toList ∨ pieces[8]? = some "relay".toList) := by
    intro type found
    rw [hostTypeOf_iff, found, Option.some_inj, Option.some_inj]
  have steps : (candidateOf unset pieces mtype line).isSome ↔ 1 < pieces.length ∧ 2 < pieces.length ∧ 3 < pieces.length ∧
      (pieces[3]? = some "UDP".toList ∨ pieces[3]? = some "udp".toList →
        4 < pieces.length ∧ 5 < pieces.length ∧ 6 < pieces.length ∧ 7 < pieces.length ∧ (pieces[7]? = some "typ".toList →
          8 < pieces.length ∧ (pieces[8]? = some "srflx".toList ∨ pieces[8]? = some "relay".toList →
            10 < pieces.length ∧ 12 < pieces.length))) := by
    refine isSome_piece_and_iff fun _ _ => isSome_piece_and_iff fun _ _ => isSome_piece_and_iff fun netProtocol found => ?_
    rw [found, Option.some_inj, Option.some_inj]
    split_ifs with other
    · exact iff_of_true rfl fun udp => absurd udp (not_or.mpr other)
    · rw [forall_prop_of_true (by tauto)]
      refine isSome_piece_and_iff fun _ _ => isSome_piece_and_iff fun _ _ => isSome_piece_and_iff fun _ _ =>
        isSome_piece_and_iff fun typ found => ?_
      rw [found, Option.some_inj]
      split_ifs with other
      · exact iff_of_true rfl fun same => absurd same other
      · rw [forall_prop_of_true (not_not.mp other)]
        refine isSome_piece_and_iff fun type found => ?_
        simp only [address type found]
        split_ifs with elsewhere
        · rw [forall_prop_of_true elsewhere]
          exact isSome_piece_and_iff fun _ _ => isSome_piece_iff fun _ _ => rfl
        · exact iff_of_true rfl fun there => absurd there elsewhere
  -- a later piece is there only when the earlier ones are
  rw [steps, CandidateComplete]
  constructor
  · rintro ⟨-, -, three, udp⟩
    refine ⟨three, fun protocol => ?_⟩
    obtain ⟨-, -, -, seven, typ⟩ := udp protocol
    refine ⟨seven, fun type => ?_⟩
    obtain ⟨eight, other⟩ := typ type
    exact ⟨eight, fun elsewhere => (other elsewhere).2⟩
  · rintro ⟨three, udp⟩
    refine ⟨by omega, by omega, three, fun protocol => ?_⟩
    obtain ⟨seven, typ⟩ := udp protocol
    refine ⟨by omega, by omega, by omega, seven, fun type => ?_⟩
    obtain ⟨eight, other⟩ := typ type
    refine ⟨eight, fun elsewhere => ?_⟩
    have twelve := other elsewhere
    exact ⟨by omega, twelve⟩

theorem candidateUpdates_isSome : (candidateUpdates unset line mtype).isSome ↔
    (line.find cand → CandidateComplete (splitOneOf line " :".toList 0)) := by
  refine (isSome_ite_iff rfl).trans (imp_congr_right fun _ => ?_)
  rw [← candidateOf_isSome unset line mtype]
  cases candidateOf unset (splitOneOf line " :".toList 0) mtype line <;> rfl

/-- **When a line can be read.** -/
theorem updatesOf_isSome (mlineNum : ℤ) :
    (updatesOf unset line mtype mlineNum).isSome ↔ Complete line (mediaAfter line mtype) := by
  have session : (sessionUpdates line mtype).isSome ↔
      (fingerprintUpdates line).isSome ∧ (setupUpdates line).isSome ∧ (groupUpdates line).isSome :=
    isSome_bind_iff fun _ => isSome_bind_iff fun _ => by cases groupUpdates line <;> simp
  have attributes : ∀ mtype, (attributeUpdates unset line mtype).isSome ↔ (candidateUpdates unset line mtype).isSome ∧
      (cryptoUpdates line mtype).isSome ∧ (credentialUpdates line mtype iceUser .username).isSome ∧
      (credentialUpdates line mtype icePass .password).isSome ∧ (ridUpdates line mtype).isSome ∧
      (rtpmapUpdates line mtype).isSome ∧ (extMapUpdates line mtype).isSome ∧ (feedbackUpdates line).isSome ∧
      (fmtpUpdates line mtype).isSome := fun mtype =>
    isSome_bind_iff fun _ => isSome_bind_iff fun _ => isSome_bind_iff fun _ => isSome_bind_iff fun _ =>
      isSome_bind_iff fun _ => isSome_bind_iff fun _ => isSome_bind_iff fun _ => isSome_bind_iff fun _ => by
        cases fmtpUpdates line mtype <;> simp
  have both : (updatesOf unset line mtype mlineNum).isSome ↔
      (sessionUpdates line mtype).isSome ∧ (attributeUpdates unset line (mediaAfter line mtype)).isSome :=
    isSome_bind_iff fun _ => by cases attributeUpdates unset line (mediaAfter line mtype) <;> simp
  rw [both, session, attributes, fingerprintUpdates_isSome, setupUpdates_isSome, groupUpdates_isSome,
    candidateUpdates_isSome, cryptoUpdates_isSome, credentialUpdates_isSome, credentialUpdates_isSome, ridUpdates_isSome,
    rtpmapUpdates_isSome, extMapUpdates_isSome, feedbackUpdates_isSome, fmtpUpdates_isSome]
  constructor
  · rintro ⟨⟨fingerprint, setup, group⟩, candidate, crypto, username, password, rid, rtpmap, extmap, feedback, fmtp⟩
    exact ⟨fingerprint, setup, group, candidate, crypto, username, password, rid, rtpmap, extmap, feedback, fmtp⟩
  · rintro ⟨fingerprint, setup, group, candidate, crypto, username, password, rid, rtpmap, extmap, feedback, fmtp⟩
    exact ⟨⟨fingerprint, setup, group⟩, candidate, crypto, username, password, rid, rtpmap, extmap, feedback, fmtp⟩

end Kinds

/-! ### The lines of a text -/

/-- The lines, each with the section it is in. -/
def sections : List Text → MediaType → List (Text × MediaType)
  | [], _ => []
  | line :: lines, mtype => (line, mediaAfter line mtype) :: sections lines (mediaAfter line mtype)

/-- **When lines can be read.** -/
theorem describe_isSome (lines : List Text) (mtype : MediaType) (mlineNum : ℤ) :
    (describe unset lines mtype mlineNum).isSome ↔ ∀ said ∈ sections lines mtype, Complete said.1 said.2 := by
  induction lines generalizing mtype mlineNum with
  | nil => exact iff_of_true rfl fun _ member => absurd member List.not_mem_nil
  | cons line lines ih =>
      rw [sections, List.forall_mem_cons, ← updatesOf_isSome unset line mtype mlineNum,
        ← ih (mediaAfter line mtype) (mlineNum + mlinesOf line)]
      exact isSome_bind_iff fun _ => by
        cases describe unset lines (mediaAfter line mtype) (mlineNum + mlinesOf line) <;> simp

/-! ### The loops over the bundle tags -/

/-- Whenever a `mid` line goes through the bundle tags there are fewer than 256, so that the index of the loop
reaches their number. -/
def RoomForTags (sdp : SdpInfo) (updates : List Update) : Prop :=
  ∀ before id mediaType, before ++ [.mid id mediaType] <+: updates → bundledAfter sdp before = true →
    sdp.bundleTags.length + (before.flatMap Update.tags).length < 256

/-- The loop over the tags ends when there are fewer than 256. -/
theorem setMediaType_isSome (id : Text) (mediaType : MediaType) (bundleTags : List BundleTag) :
    (setMediaType id mediaType bundleTags).isSome ↔ bundleTags.length < 256 := by
  unfold setMediaType
  split_ifs with full
  · exact iff_of_false Bool.false_ne_true (not_lt.mpr full)
  · exact iff_of_true rfl (not_le.mp full)

/-- **When the loops over the tags end.** -/
theorem applyAll_isSome (sdp : SdpInfo) (updates : List Update) :
    (applyAll unset sdp updates).isSome ↔ RoomForTags sdp updates := by
  induction updates using List.reverseRecOn with
  | nil =>
      refine iff_of_true rfl fun before id mediaType starts => ?_
      exact absurd (List.prefix_nil.mp starts) (List.append_ne_nil_of_right_ne_nil _ (List.cons_ne_nil _ _))
  | append_singleton updates update ih =>
      have last : ∀ next, applyAll unset sdp updates = some next → ((apply unset next update).isSome ↔
          ∀ id mediaType, update = .mid id mediaType → bundledAfter sdp updates = true →
            sdp.bundleTags.length + (updates.flatMap Update.tags).length < 256) := by
        intro next result
        rw [← length_bundleTags_applyAll unset result, ← isBundle_applyAll unset result]
        cases update with
        | mid id mediaType =>
            rw [apply]
            split_ifs with bundled
            · rw [Option.isSome_map, setMediaType_isSome]
              exact ⟨fun room _ _ _ _ => room, fun room => room id mediaType rfl bundled⟩
            · exact iff_of_true rfl fun _ _ _ bundle => absurd bundle bundled
        | _ => exact iff_of_true rfl fun _ _ other => by cases other
      have split : RoomForTags sdp (updates ++ [update]) ↔ RoomForTags sdp updates ∧
          ∀ id mediaType, update = .mid id mediaType → bundledAfter sdp updates = true →
            sdp.bundleTags.length + (updates.flatMap Update.tags).length < 256 := by
        simp only [RoomForTags, List.prefix_concat_iff]
        constructor
        · intro room
          refine ⟨fun before id mediaType starts => room before id mediaType (Or.inr starts), ?_⟩
          rintro id mediaType rfl
          exact room updates id mediaType (Or.inl rfl)
        · rintro ⟨room, here⟩ before id mediaType (same | starts)
          · obtain ⟨rfl, one⟩ := List.append_inj' same rfl
            exact here id mediaType (List.singleton_inj.mp one).symm
          · exact room before id mediaType starts
      rw [split, ← ih, applyAll_append]
      cases result : applyAll unset sdp updates with
      | none => simp
      | some next =>
          rw [Option.bind_some, applyAll_cons, ← last next result]
          cases apply unset next update <;> simp

/-! ### The payload types `rtx` codecs belong to -/

/-- An `rtx` codec and an internal one both say which codec they belong to, or neither does. -/
def AptsGiven (rtxMap internalMap : RtpMap) : Prop :=
  match rtxMap.formatParameters[associatedPt]?, internalMap.formatParameters[associatedPt]? with
  | none, none => True
  | some parsedApt, some internalApt => (stoul parsedApt).isSome ∧ (stoul internalApt).isSome
  | _, _ => False

theorem lookupOf_isSome (rtxMap internalMap : RtpMap) :
    (lookupOf rtxMap internalMap).isSome ↔ (internalMap.encodingName = rtx → AptsGiven rtxMap internalMap) := by
  unfold lookupOf AptsGiven
  split_ifs with isRtx
  · rw [forall_prop_of_true isRtx]
    cases rtxMap.formatParameters[associatedPt]? with
    | none => cases internalMap.formatParameters[associatedPt]? <;> simp
    | some parsedApt =>
        cases internalMap.formatParameters[associatedPt]? with
        | none => simp
        | some internalApt =>
            refine Iff.trans (isSome_bind_iff fun _ => ?_) and_comm
            cases stoul parsedApt <;> simp
  · exact iff_of_true rfl fun other => absurd other isRtx

/-- Everything can be looked up when each payload type can. -/
theorem lookupsOf_isSome (internal rtxMaps : List RtpMap) : (lookupsOf internal rtxMaps).isSome ↔
    ∀ rtxMap ∈ rtxMaps, ∀ internalMap ∈ internal, internalMap.encodingName = rtx → AptsGiven rtxMap internalMap := by
  have row : ∀ (rtxMap : RtpMap) (internal : List RtpMap), (internal.mapM (lookupOf rtxMap)).isSome ↔
      ∀ internalMap ∈ internal, internalMap.encodingName = rtx → AptsGiven rtxMap internalMap := by
    intro rtxMap internal
    induction internal with
    | nil => simp
    | cons internalMap internal ih =>
        rw [List.mapM_cons, List.forall_mem_cons, ← lookupOf_isSome, ← ih]
        exact isSome_bind_iff fun _ => by cases internal.mapM (lookupOf rtxMap) <;> simp
  induction rtxMaps with
  | nil => simp [lookupsOf]
  | cons rtxMap rtxMaps ih =>
      rw [List.forall_mem_cons]
      refine Iff.trans (isSome_bind_iff fun _ => ?_) (and_congr (row rtxMap internal) ih)
      cases lookupsOf internal rtxMaps <;> simp

/-! ### A text -/

/-- What it takes to process a text: the pieces are there that its lines are asked for, the loops over the bundle tags
have room and, for a description that has a user name, the `rtx` codecs that are negotiated and the internal ones say
which codec they belong to. -/
structure Processable (sdp : SdpInfo) (text media : Text) : Prop where
  complete : ∀ said ∈ sections (getLines text) (mediaOf media), Complete said.1 said.2
  room : ∀ updates, updatesOfText unset text media = some updates → RoomForTags sdp updates
  apts : ∀ updates, updatesOfText unset text media = some updates → (∃ audio, usernameAfter audio sdp updates ≠ []) →
    ∀ rtxMap ∈ rtxCodecs sdp.internalPayloadVector (codecsAfter unset sdp updates),
      ∀ internalMap ∈ sdp.internalPayloadVector, internalMap.encodingName = rtx → AptsGiven rtxMap internalMap

/-- When the updates of a text can be applied and negotiated. -/
theorem negotiates_iff (sdp : SdpInfo) (updates : List Update) :
    (∃ result next, (applyAll unset sdp updates).bind postProcessInfo = some (result, next)) ↔
      RoomForTags sdp updates ∧ ((∃ audio, usernameAfter audio sdp updates ≠ []) →
        ∀ rtxMap ∈ rtxCodecs sdp.internalPayloadVector (codecsAfter unset sdp updates),
          ∀ internalMap ∈ sdp.internalPayloadVector, internalMap.encodingName = rtx → AptsGiven rtxMap internalMap) := by
  rw [← applyAll_isSome]
  cases one : applyAll unset sdp updates with
  | none => simp
  | some read =>
      have named : read.Named ↔ ∃ audio, usernameAfter audio sdp updates ≠ [] := by
        rw [Named]
        exact exists_congr fun audio => by rw [credentials_applyAll unset one]
      rw [Option.bind_some, postProcessInfo_ends_iff, named, (codecs_read one).1, (codecs_read one).2,
        ← lookupsOf_isSome, ← Option.isSome_iff_exists]
      exact (and_iff_right rfl).symm

/-- What it takes, by what the lines say. -/
theorem processable_iff_said (sdp : SdpInfo) (text media : Text) : Processable unset sdp text media ↔
    (∀ said ∈ sections (getLines text) (mediaOf media), Complete said.1 said.2) ∧
      ∀ updates, updatesOfText unset text media = some updates →
        RoomForTags sdp updates ∧ ((∃ audio, usernameAfter audio sdp updates ≠ []) →
          ∀ rtxMap ∈ rtxCodecs sdp.internalPayloadVector (codecsAfter unset sdp updates),
            ∀ internalMap ∈ sdp.internalPayloadVector, internalMap.encodingName = rtx → AptsGiven rtxMap internalMap) :=
  ⟨fun ⟨complete, room, apts⟩ => ⟨complete, fun updates said => ⟨room updates said, apts updates said⟩⟩,
    fun ⟨complete, ends⟩ =>
      ⟨complete, fun updates said => (ends updates said).1, fun updates said => (ends updates said).2⟩⟩

/-- **What it takes to process a text.** -/
theorem processable_iff (sdp : SdpInfo) (text media : Text) :
    (∃ result next, processSdp unset sdp text media = some (result, next)) ↔ Processable unset sdp text media := by
  rw [processable_iff_said, ← describe_isSome unset (getLines text) (mediaOf media) (-1), processSdp_eq]
  change _ ↔ (updatesOfText unset text media).isSome ∧ _
  simp only [← negotiates_iff]
  cases updatesOfText unset text media <;> simp

/-- **When a text can be processed.** For every description and every text: just when the pieces are there that
its lines are asked for, the loops over the bundle tags have room and, for a description that has a user name,
the `rtx` codecs that are negotiated and the internal ones say which codec they belong to. -/
theorem processSdp_returns_iff (sdp : SdpInfo) (text media : Text) :
    (∃ result next, processSdp unset sdp text media = some (result, next)) ↔
      (∀ said ∈ sections (getLines text) (mediaOf media), Complete said.1 said.2) ∧
      ∀ updates, updatesOfText unset text media = some updates →
        RoomForTags sdp updates ∧ ((∃ audio, usernameAfter audio sdp updates ≠ []) →
          ∀ rtxMap ∈ rtxCodecs sdp.internalPayloadVector (codecsAfter unset sdp updates),
            ∀ internalMap ∈ sdp.internalPayloadVector, internalMap.encodingName = rtx → AptsGiven rtxMap internalMap) :=
  (processable_iff unset sdp text media).trans (processable_iff_said unset sdp text media)

/-- **Not every text can be processed**: a fingerprint line may end after its name. -/
theorem processSdp_bareFingerprint : ¬ ∀ (unset : Uninitialised) (sdp : SdpInfo) (text media : Text),
    ∃ result next, processSdp unset sdp text media = some (result, next) := by
  intro always
  obtain ⟨result, next, processed⟩ := always zeros (init zeros []) "a=fingerprint\n".toList []
  have stuck : processSdp zeros (init zeros []) "a=fingerprint\n".toList [] = none := by decide +kernel
  rw [stuck] at processed
  exact (nomatch processed)

end SdpInfo

end Erizo
