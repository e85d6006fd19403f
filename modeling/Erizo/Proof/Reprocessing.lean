/-
**When a description can be processed again.**

The updates of a text are applied to what they have left before. What they overwrite is overwritten with the
same values (`readCodecs_replay` for the codecs, up to the feedback types, which accumulate); what they add
is added again, and the codecs that are negotiated are counted again. `reprocess_iff` says exactly when the
second call leaves everything as the first one did.
-/

import Erizo.Library.Overwrite
import Erizo.Proof.PayloadTables

namespace Erizo

namespace SdpInfo

open Library StringUtil Reading

variable (unset : Uninitialised)

/-! ### The codecs that are read again -/

/-- A codec without its feedback types. -/
def withoutFeedback (codec : RtpMap) : RtpMap := { codec with feedbackTypes := [] }

/-- The payload type an update is about. -/
def Update.payloadType : Update → Option UInt32
  | .rtpmap pt .. => some pt
  | .feedback pt _ => some pt
  | .parameter pt _ => some pt
  | _ => none

/-- What an update does to a codec, but for the feedback types. -/
def Update.edit (codec : RtpMap) : Update → RtpMap
  | .rtpmap pt name clock mediaType =>
      { codec with payloadType := pt, encodingName := name, clockRate := clock, mediaType := mediaType }
  | .parameter _ set => { codec with formatParameters := codec.formatParameters.insert set.1 set.2 }
  | _ => codec

/-- What is read for a payload type, but for the feedback types. -/
def readFor (pt : UInt32) (seen : Option RtpMap) (update : Update) : Option RtpMap :=
  if update.payloadType = some pt then some (update.edit (seen.getD (newMap unset pt))) else seen

/-- Reading a codec, payload type by payload type. -/
theorem getElem?_readCodec (codecs : Std.ExtTreeMap UInt32 RtpMap) (update : Update) (pt : UInt32) :
    ((readCodec unset codecs update)[pt]?).map withoutFeedback =
      readFor unset pt ((codecs[pt]?).map withoutFeedback) update := by
  have fresh : ∀ seen : Option RtpMap, (seen.map withoutFeedback).getD (newMap unset pt) =
      withoutFeedback (seen.getD (newMap unset pt)) := by
    intro seen
    cases seen <;> rfl
  cases update with
  | rtpmap other | feedback other | parameter other =>
      simp only [readCodec, readFor, Table.getElem?_insert_eq, fresh, Update.payloadType, Option.some_inj]
      split_ifs with same
      · rw [same]
        rfl
      · rfl
  | _ => rfl

/-- A parameter that is set again is set. -/
theorem insert_insert_insert (parameters : FormatParameters) (first second : Text × Text) :
    ((parameters.insert first.1 first.2).insert second.1 second.2).insert first.1 first.2 =
      (parameters.insert second.1 second.2).insert first.1 first.2 := by
  refine Std.ExtTreeMap.ext_getElem? fun asked => ?_
  simp only [Table.getElem?_insert_eq]
  split_ifs <;> rfl

theorem insert_insert_self (parameters : FormatParameters) (parameter : Text × Text) :
    (parameters.insert parameter.1 parameter.2).insert parameter.1 parameter.2 =
      parameters.insert parameter.1 parameter.2 := by
  refine Std.ExtTreeMap.ext_getElem? fun asked => ?_
  simp only [Table.getElem?_insert_eq]
  split_ifs <;> rfl

theorem edit_edit_self (codec : RtpMap) (update : Update) : update.edit (update.edit codec) = update.edit codec := by
  cases update with
  | parameter pt parameter => simp only [Update.edit, insert_insert_self]
  | _ => rfl

theorem edit_edit_edit (codec : RtpMap) (update other : Update) :
    update.edit (other.edit (update.edit codec)) = update.edit (other.edit codec) := by
  cases update with
  | parameter pt parameter =>
      cases other with
      | parameter => simp only [Update.edit, insert_insert_insert]
      | _ => simp only [Update.edit, insert_insert_self]
  | _ => cases other <;> rfl

theorem readFor_idempotent (pt : UInt32) (seen : Option RtpMap) (update : Update) :
    readFor unset pt (readFor unset pt seen update) update = readFor unset pt seen update := by
  unfold readFor
  split_ifs
  · rw [Option.getD_some, edit_edit_self]
  · rfl

theorem readFor_overwrites (pt : UInt32) (seen : Option RtpMap) (update other : Update) :
    readFor unset pt (readFor unset pt (readFor unset pt seen update) other) update =
      readFor unset pt (readFor unset pt seen other) update := by
  unfold readFor
  split_ifs
  · rw [Option.getD_some, Option.getD_some, Option.getD_some, edit_edit_edit]
  · rw [Option.getD_some, edit_edit_self]
  · rfl
  · rfl

/-- The codecs that updates read. -/
def readCodecs (codecs : Std.ExtTreeMap UInt32 RtpMap) (updates : List Update) : Std.ExtTreeMap UInt32 RtpMap :=
  updates.foldl (readCodec unset) codecs

theorem getElem?_readCodecs (codecs : Std.ExtTreeMap UInt32 RtpMap) (updates : List Update) (pt : UInt32) :
    ((readCodecs unset codecs updates)[pt]?).map withoutFeedback =
      updates.foldl (readFor unset pt) ((codecs[pt]?).map withoutFeedback) := by
  induction updates generalizing codecs with
  | nil => rfl
  | cons update updates ih =>
      rw [List.foldl_cons, ← getElem?_readCodec]
      exact ih (readCodec unset codecs update)

/-- **The codecs are read as before**, but for the feedback types. -/
theorem readCodecs_replay (codecs : Std.ExtTreeMap UInt32 RtpMap) (updates : List Update) :
    ((readCodecs unset (readCodecs unset codecs updates) updates).toList.map Prod.snd).map withoutFeedback =
      ((readCodecs unset codecs updates).toList.map Prod.snd).map withoutFeedback := by
  have same : (readCodecs unset (readCodecs unset codecs updates) updates).map (fun _ => withoutFeedback) =
      (readCodecs unset codecs updates).map fun _ => withoutFeedback := by
    refine Std.ExtTreeMap.ext_getElem? fun pt => ?_
    rw [Std.ExtTreeMap.getElem?_map, Std.ExtTreeMap.getElem?_map, getElem?_readCodecs, getElem?_readCodecs,
      Overwrite.foldl_replay (readFor_overwrites unset pt) (readFor_idempotent unset pt)]
  have lists := congrArg (fun table : Std.ExtTreeMap UInt32 RtpMap => table.toList.map Prod.snd) same
  simpa only [Std.ExtTreeMap.toList_map, List.map_map, Function.comp_def] using lists

/-! ### Negotiating the same codecs -/

/-- A lookup without feedback types. -/
def Lookup.withoutFeedback (lookup : Lookup) : Lookup :=
  { lookup with rtxMap := SdpInfo.withoutFeedback lookup.rtxMap }

/-- The pairs do not depend on the feedback types. -/
theorem codecPairs_withoutFeedback (internal parsed : List RtpMap) :
    codecPairs internal (parsed.map withoutFeedback) = (codecPairs internal parsed).map (Prod.map id withoutFeedback) := by
  unfold codecPairs
  rw [List.map_flatMap]
  refine List.flatMap_congr fun internalMap _ => ?_
  rw [List.filter_map, List.map_map, List.map_map]
  rfl

theorem rtxCodecs_withoutFeedback (internal parsed : List RtpMap) :
    rtxCodecs internal (parsed.map withoutFeedback) = (rtxCodecs internal parsed).map withoutFeedback := by
  unfold rtxCodecs
  rw [List.map_flatMap]
  refine List.flatMap_congr fun internalMap _ => ?_
  rw [List.filter_map]
  rfl

theorem lookupOf_withoutFeedback (rtxMap internalMap : RtpMap) :
    lookupOf (withoutFeedback rtxMap) internalMap = (lookupOf rtxMap internalMap).map
      (List.map Lookup.withoutFeedback) := by
  unfold lookupOf withoutFeedback
  split_ifs
  · cases rtxMap.formatParameters[associatedPt]? with
    | none => cases internalMap.formatParameters[associatedPt]? <;> rfl
    | some parsedApt =>
        cases internalMap.formatParameters[associatedPt]? with
        | none => rfl
        | some internalApt =>
            simp only
            cases stoul internalApt with
            | none => rfl
            | some internalAptPt => cases stoul parsedApt <;> rfl
  · rfl

theorem lookupsOf_withoutFeedback (internal rtxMaps : List RtpMap) :
    lookupsOf internal (rtxMaps.map withoutFeedback) =
      (lookupsOf internal rtxMaps).map (List.map Lookup.withoutFeedback) := by
  have row : ∀ (rtxMap : RtpMap) (internal : List RtpMap), internal.mapM (lookupOf (withoutFeedback rtxMap)) =
      (internal.mapM (lookupOf rtxMap)).map (List.map (List.map Lookup.withoutFeedback)) := by
    intro rtxMap internal
    induction internal with
    | nil => rfl
    | cons internalMap internal ih =>
        rw [List.mapM_cons, List.mapM_cons, lookupOf_withoutFeedback, ih]
        cases lookupOf rtxMap internalMap with
        | none => rfl
        | some lookups => cases internal.mapM (lookupOf rtxMap) <;> rfl
  induction rtxMaps with
  | nil => rfl
  | cons rtxMap rtxMaps ih =>
      rw [List.map_cons, lookupsOf, lookupsOf, row, ih]
      cases internal.mapM (lookupOf rtxMap) with
      | none => rfl
      | some lookups => cases lookupsOf internal rtxMaps <;> simp [List.map_flatten]

theorem rtxPairs_withoutFeedback (partner : UInt32 → UInt32) (lookups : List Lookup) :
    rtxPairs partner (lookups.map Lookup.withoutFeedback) = (rtxPairs partner lookups).map
      (Prod.map id withoutFeedback) := by
  induction lookups generalizing partner with
  | nil => rfl
  | cons lookup lookups ih =>
      rw [List.map_cons, rtxPairs, rtxPairs]
      by_cases matched : partner lookup.parsedApt = lookup.internalApt
      · refine (if_pos matched).trans ?_
        rw [if_pos matched, List.map_cons, ← ih]
        rfl
      · refine (if_neg matched).trans ?_
        rw [if_neg matched, ih]

/-- The same codecs but for the feedback types make as many pairs. -/
theorem codecPairs_eq_nil_iff {first second : List RtpMap} (same : second.map withoutFeedback = first.map withoutFeedback)
    (internal : List RtpMap) : codecPairs internal second = [] ↔ codecPairs internal first = [] := by
  have pairs := congrArg (codecPairs internal) same
  rw [codecPairs_withoutFeedback, codecPairs_withoutFeedback] at pairs
  have lengths := congrArg List.length pairs
  rw [List.length_map, List.length_map] at lengths
  rw [← List.length_eq_zero_iff, ← List.length_eq_zero_iff, lengths]

/-- The same is looked up. -/
theorem lookups_withoutFeedback {first second : List RtpMap}
    (same : second.map withoutFeedback = first.map withoutFeedback) (internal : List RtpMap) :
    (lookupsOf internal (rtxCodecs internal second)).map (List.map Lookup.withoutFeedback) =
      (lookupsOf internal (rtxCodecs internal first)).map (List.map Lookup.withoutFeedback) := by
  rw [← lookupsOf_withoutFeedback, ← lookupsOf_withoutFeedback, ← rtxCodecs_withoutFeedback,
    ← rtxCodecs_withoutFeedback, same]

/-- The same lookups find as many pairs. -/
theorem rtxPairs_eq_nil_iff {first second : List Lookup}
    (same : second.map Lookup.withoutFeedback = first.map Lookup.withoutFeedback) (partner : UInt32 → UInt32) :
    rtxPairs partner second = [] ↔ rtxPairs partner first = [] := by
  have pairs := congrArg (rtxPairs partner) same
  rw [rtxPairs_withoutFeedback, rtxPairs_withoutFeedback] at pairs
  have lengths := congrArg List.length pairs
  rw [List.length_map, List.length_map] at lengths
  rw [← List.length_eq_zero_iff, ← List.length_eq_zero_iff, lengths]

/-- What is looked up has an entry. -/
theorem Resolved.entry {partner : UInt32 → UInt32} {lookups : List Lookup} {before after : PayloadTypeMap}
    (resolved : Resolved partner lookups before after) {lookup : Lookup} (asked : lookup ∈ lookups) :
    ∃ internalPt, after[lookup.parsedApt]? = some internalPt := by
  rcases resolved.pair lookup.parsedApt with ⟨pair, -, -, found⟩ | none
  · exact ⟨_, found⟩
  · exact ⟨_, resolved.read lookup.parsedApt none ⟨lookup, asked, rfl⟩⟩

/-- Where no pair is found and what is looked up has an entry, the map stays. -/
theorem Resolved.unpaired {lookups : List Lookup} {before after : PayloadTypeMap}
    (resolved : Resolved (partnersIn before) lookups before after) (nothing : rtxPairs (partnersIn before) lookups = [])
    (entries : ∀ lookup ∈ lookups, ∃ internalPt, before[lookup.parsedApt]? = some internalPt) : after = before := by
  refine Std.ExtTreeMap.ext_getElem? fun external => ?_
  have none : ∀ pair ∈ rtxPairs (partnersIn before) lookups, pair.2.payloadType ≠ external := by
    rw [nothing]
    exact fun pair member => absurd member List.not_mem_nil
  by_cases asked : ∃ lookup ∈ lookups, lookup.parsedApt = external
  · obtain ⟨lookup, member, rfl⟩ := asked
    obtain ⟨internalPt, found⟩ := entries lookup member
    rw [resolved.read _ none ⟨lookup, member, rfl⟩, partnersIn, found, Option.getD_some]
  · push Not at asked
    exact resolved.other external none asked

/-! ### The bundle tags -/

/-- The `mid` lines that are read, from a state of bundling on. -/
def midsRead : Bool → List Update → List (Text × MediaType)
  | _, [] => []
  | isBundle, .mid id mediaType :: updates =>
      if isBundle then (id, mediaType) :: midsRead isBundle updates else midsRead isBundle updates
  | isBundle, update :: updates => midsRead (isBundle || decide (update = .bundle)) updates

/-- The medium that is last given to an identifier. -/
def mediaNamed (mids : List (Text × MediaType)) (id : Text) : Option MediaType :=
  Overwrite.lastOf (fun mid => if mid.1 = id then some mid.2 else none) mids

/-- A tag with the medium its identifier is given. -/
def nameTag (mids : List (Text × MediaType)) (tag : BundleTag) : BundleTag :=
  { tag with mediaType := (mediaNamed mids tag.id).getD tag.mediaType }

/-- The bundling and the tags after updates. -/
def tagsAfter : Bool × List BundleTag → List Update → Option (Bool × List BundleTag)
  | state, [] => some state
  | state, update :: updates => do
      tagsAfter (state.1 || decide (update = .bundle), ← updateTags state.1 state.2 update) updates

/-- Updates can be applied just when the loops over the tags end. -/
theorem tagsAfter_applyAll (sdp : SdpInfo) (updates : List Update) :
    (applyAll unset sdp updates).map (fun next => (next.isBundle, next.bundleTags)) =
      tagsAfter (sdp.isBundle, sdp.bundleTags) updates := by
  induction updates generalizing sdp with
  | nil => rfl
  | cons update updates ih =>
      rw [applyAll_cons, tagsAfter]
      cases result : apply unset sdp update with
      | none =>
          have stuck : updateTags sdp.isBundle sdp.bundleTags update = none := by
            cases update with
            | mid id mediaType =>
                rw [apply] at result
                rw [updateTags]
                split_ifs at result ⊢
                exact Option.map_eq_none_iff.mp result
            | _ => exact absurd result (Option.some_ne_none _)
          rw [stuck]
          rfl
      | some next =>
          rw [Option.bind_some, ih, (applied unset result).bundleTags, (applied unset result).isBundle]
          rfl

/-- A tag named by one line and then by others. -/
theorem nameTag_cons (id : Text) (mediaType : MediaType) (mids : List (Text × MediaType)) (tag : BundleTag) :
    nameTag mids (if tag.id = id then { tag with mediaType := mediaType } else tag) =
      nameTag ((id, mediaType) :: mids) tag := by
  unfold nameTag mediaNamed
  rw [Overwrite.lastOf_cons]
  by_cases same : tag.id = id
  · rw [if_pos same, if_pos same.symm]
    cases Overwrite.lastOf (fun mid : Text × MediaType => if mid.1 = tag.id then some mid.2 else none) mids <;> rfl
  · rw [if_neg same, if_neg (Ne.symm same), Option.or_none]

/-- **The bundle tags after updates that add none.** -/
theorem tagsAfter_eq {updates : List Update} (none : updates.flatMap Update.tags = []) (isBundle : Bool)
    (bundleTags : List BundleTag) :
    tagsAfter (isBundle, bundleTags) updates =
      if midsRead isBundle updates ≠ [] ∧ 256 ≤ bundleTags.length then Option.none
      else some (isBundle || decide (.bundle ∈ updates), bundleTags.map (nameTag (midsRead isBundle updates))) := by
  induction updates generalizing isBundle bundleTags with
  | nil =>
      have same : nameTag [] = id := funext fun tag => rfl
      simp [tagsAfter, midsRead, same]
  | cons update updates ih =>
      rw [List.flatMap_cons, List.append_eq_nil_iff] at none
      by_cases mid : ∃ id mediaType, update = .mid id mediaType
      · obtain ⟨id, mediaType, rfl⟩ := mid
        cases isBundle with
        | false =>
            rw [tagsAfter, updateTags, midsRead]
            simpa using ih none.2 false bundleTags
        | true =>
            rw [tagsAfter, updateTags, midsRead, if_pos rfl, if_pos rfl, setMediaType]
            split_ifs with full named named
            · rfl
            · exact absurd ⟨List.cons_ne_nil _ _, full⟩ named
            · exact absurd named.2 full
            · refine (ih none.2 true _).trans ?_
              rw [List.length_map, if_neg fun both => full both.2, List.map_map]
              refine congrArg some (congrArg₂ Prod.mk (by simp) (List.map_congr_left fun tag _ => ?_))
              exact nameTag_cons id mediaType _ tag
      · have other : ∀ id mediaType, update = .mid id mediaType → False :=
          fun id mediaType same => mid ⟨id, mediaType, same⟩
        have members : decide (.bundle ∈ update :: updates) =
          (decide (update = .bundle) || decide (.bundle ∈ updates)) := by
          rw [← Bool.decide_or]
          exact decide_eq_decide.mpr (List.mem_cons.trans (or_congr_left eq_comm))
        rw [tagsAfter, updateTags.eq_2 _ _ _ other, none.1, List.append_nil, midsRead.eq_3 _ _ _ other, members,
          ← Bool.or_assoc]
        exact ih none.2 _ bundleTags

/-- With bundling more of the last lines are read. -/
theorem midsRead_suffix (isBundle also : Bool) (updates : List Update) :
    midsRead isBundle updates <:+ midsRead (isBundle || also) updates := by
  induction updates generalizing isBundle also with
  | nil => exact List.suffix_rfl
  | cons update updates ih =>
      by_cases mid : ∃ id mediaType, update = .mid id mediaType
      · obtain ⟨id, mediaType, rfl⟩ := mid
        cases isBundle with
        | true => exact List.suffix_rfl
        | false =>
            cases also with
            | false => exact List.suffix_rfl
            | true => exact (ih false true).trans (List.suffix_cons _ _)
      · have other : ∀ id mediaType, update = .mid id mediaType → False :=
          fun id mediaType same => mid ⟨id, mediaType, same⟩
        rw [midsRead.eq_3 _ _ _ other, midsRead.eq_3 _ _ _ other, Bool.or_right_comm]
        exact ih _ also

/-- When a tag that was named by some lines stays as it is, named by more. -/
theorem nameTag_again_iff {late all : List (Text × MediaType)} (suffix : late <:+ all) (tag : BundleTag) :
    nameTag all (nameTag late tag) = nameTag late tag ↔
      (mediaNamed late tag.id = none → ∀ mediaType ∈ mediaNamed all tag.id, mediaType = tag.mediaType) := by
  obtain ⟨early, rfl⟩ := suffix
  unfold nameTag mediaNamed
  rw [Overwrite.lastOf_append]
  cases Overwrite.lastOf (fun mid : Text × MediaType => if mid.1 = tag.id then some mid.2 else none) late with
  | some mediaType => simp
  | none =>
      cases Overwrite.lastOf (fun mid : Text × MediaType => if mid.1 = tag.id then some mid.2 else none) early with
      | some mediaType => simp [BundleTag.mk.injEq]
      | none => simp

/-! ### The credentials -/

/-- The credentials of a description, for audio or video. -/
def credentials (sdp : SdpInfo) (audio : Bool) : Text × Text :=
  if audio then (sdp.iceAudioUsername, sdp.iceAudioPassword) else (sdp.iceVideoUsername, sdp.iceVideoPassword)

/-- The user name of audio or video after updates. -/
def usernameAfter (audio : Bool) (sdp : SdpInfo) (updates : List Update) : Text :=
  (Overwrite.lastOf (Update.usernameOf audio) updates).getD (sdp.credentials audio).1

/-- The password of audio or video after updates. -/
def passwordAfter (audio : Bool) (sdp : SdpInfo) (updates : List Update) : Text :=
  (Overwrite.lastOf (Update.passwordOf audio) updates).getD (sdp.credentials audio).2

/-- The credentials after updates. -/
theorem credentials_applyAll {sdp next : SdpInfo} {updates : List Update} (result : applyAll unset sdp updates = some next)
    (audio : Bool) : next.credentials audio = (usernameAfter audio sdp updates, passwordAfter audio sdp updates) := by
  have set : ∀ (read : SdpInfo → Text) (write : Update → Option Text),
      (∀ {sdp update next}, Applied unset sdp update next → read next = (write update).getD (read sdp)) →
      read next = (Overwrite.lastOf write updates).getD (read sdp) := fun read write each =>
    (@applyAll_read unset Text read (fun value update => (write update).getD value) each sdp next updates result).trans
      (Overwrite.foldl_getD write updates (read sdp))
  have videoUsername := set SdpInfo.iceVideoUsername (Update.usernameOf false) fun applied => applied.videoUsername
  have audioUsername := set SdpInfo.iceAudioUsername (Update.usernameOf true) fun applied => applied.audioUsername
  have videoPassword := set SdpInfo.iceVideoPassword (Update.passwordOf false) fun applied => applied.videoPassword
  have audioPassword := set SdpInfo.iceAudioPassword (Update.passwordOf true) fun applied => applied.audioPassword
  cases audio with
  | false => exact congrArg₂ Prod.mk videoUsername videoPassword
  | true => exact congrArg₂ Prod.mk audioUsername audioPassword

/-- Whether a description has a user name. -/
def Named (sdp : SdpInfo) : Prop := ∃ audio, (sdp.credentials audio).1 ≠ []

theorem named_iff (sdp : SdpInfo) : sdp.Named ↔ ¬ (sdp.iceVideoUsername = [] ∧ sdp.iceAudioUsername = []) := by
  rw [Named, Bool.exists_bool, not_and_or]
  rfl

/-- The credentials, completed: who has no user name gets the other's. -/
theorem credentials_completed {sdp : SdpInfo} (named : sdp.Named) (audio : Bool) : (completed sdp).credentials audio =
    if (sdp.credentials audio).1 = [] then sdp.credentials !audio else sdp.credentials audio := by
  rw [named_iff] at named
  unfold completed completeCandidates completeCredentials credentials
  by_cases video : sdp.iceVideoUsername = []
  · have other : sdp.iceAudioUsername ≠ [] := fun empty => named ⟨video, empty⟩
    cases audio <;> simp [video, other]
  · by_cases none : sdp.iceAudioUsername = [] <;> cases audio <;> simp [video, none]

/-- A candidate of a description with some credentials. -/
def candidateWith (isBundle : Bool) (credentials : Bool → Text × Text) (candidate : CandidateInfo) : CandidateInfo :=
  { candidate with
    isBundle := isBundle
    username := (credentials (decide (candidate.mediaType ≠ .video))).1
    password := (credentials (decide (candidate.mediaType ≠ .video))).2 }

/-- The candidates, completed. -/
theorem completed_candidateVector (sdp : SdpInfo) : (completed sdp).candidateVector =
    sdp.candidateVector.map (candidateWith sdp.isBundle (completed sdp).credentials) := by
  have kept : (completeCredentials sdp).candidateVector = sdp.candidateVector ∧
      (completeCredentials sdp).isBundle = sdp.isBundle := by
    unfold completeCredentials
    split_ifs <;> exact ⟨rfl, rfl⟩
  rw [completed, completeCandidates]
  simp only [kept.1, kept.2]
  refine List.map_congr_left fun candidate _ => ?_
  by_cases video : candidate.mediaType = .video
  · rw [if_pos video, candidateWith, decide_eq_false (not_not.mpr video)]
    rfl
  · rw [if_neg video, candidateWith, decide_eq_true video]
    rfl

/-! ### What a negotiation leaves alone -/

/-- A description with other tables. -/
def withTables (sdp : SdpInfo) (tables : Tables) : SdpInfo :=
  { sdp with
    payloadVector := tables.payloadVector
    videoCodecs := tables.videoCodecs
    audioCodecs := tables.audioCodecs
    inOutPTMap := tables.inOutPTMap
    outInPTMap := tables.outInPTMap }

/-- Nothing but the tables changes. -/
def OnlyTables (sdp next : SdpInfo) : Prop := next = sdp.withTables next.tables

theorem OnlyTables.trans {sdp between next : SdpInfo} (first : OnlyTables sdp between) (second : OnlyTables between next) :
    OnlyTables sdp next := by
  calc next = between.withTables next.tables := second
    _ = (sdp.withTables between.tables).withTables next.tables := congrArg (withTables · next.tables) first
    _ = sdp.withTables next.tables := rfl

theorem OnlyTables.foldl {α : Type} {step : SdpInfo → α → SdpInfo} (each : ∀ sdp input, OnlyTables sdp (step sdp input))
    (inputs : List α) (sdp : SdpInfo) : OnlyTables sdp (inputs.foldl step sdp) := by
  induction inputs generalizing sdp with
  | nil => rfl
  | cons input inputs ih => exact (each sdp input).trans (ih (step sdp input))

theorem onlyTables_mapCodec (sdp : SdpInfo) (internalMap parsedMap : RtpMap) :
    OnlyTables sdp (mapCodec sdp internalMap parsedMap) := by
  unfold OnlyTables mapCodec countCodec
  simp only
  split_ifs <;> rfl

theorem onlyTables_resolve (sdp : SdpInfo) (lookup : Lookup) : OnlyTables sdp (resolve sdp lookup) := by
  unfold OnlyTables resolve mapRtx countCodec
  simp only
  split_ifs <;> rfl

/-- **A negotiation changes only the tables.** -/
theorem onlyTables_matchRtxs {sdp next : SdpInfo} (result : matchRtxs (matchCodecs sdp).1 (matchCodecs sdp).2 = some next) :
    OnlyTables sdp next := by
  rw [matchCodecs_eq, matchRtxs_eq] at result
  obtain ⟨lookups, -, rfl⟩ := Option.map_eq_some_iff.mp result
  exact (OnlyTables.foldl (fun sdp (pair : RtpMap × RtpMap) => onlyTables_mapCodec sdp pair.1 pair.2) _ sdp).trans
    (OnlyTables.foldl onlyTables_resolve lookups _)

/-! ### What a call leaves -/

/-- What `postProcessInfo` leaves of the description that was read. -/
structure Processed (read : SdpInfo) (result : Bool) (next : SdpInfo) : Prop where
  internal : next.internalPayloadVector = read.internalPayloadVector
  parsed : next.parsedCodecs = read.parsedCodecs
  codecs : next.payloadParsedMap = read.payloadParsedMap
  isBundle : next.isBundle = read.isBundle
  bundleTags : next.bundleTags = read.bundleTags
  rids : next.rids = read.rids
  extensions : next.extMapVector = read.extMapVector
  result_iff : result = true ↔ read.Named
  silent : result = false → next = read
  credentials : result = true → next.credentials = (completed read).credentials
  candidates : result = true → next.candidateVector = (completed read).candidateVector
  negotiated : result = true → matchRtxs (matchCodecs (completed read)).1 (matchCodecs (completed read)).2 = some next

/-- **What `postProcessInfo` leaves alone.** -/
theorem processed {read next : SdpInfo} {result : Bool} (accepted : postProcessInfo read = some (result, next)) :
    Processed read result next := by
  cases result with
  | false =>
      have same : (read.iceVideoUsername = [] ∧ read.iceAudioUsername = []) ∧ read = next := by
        rw [postProcessInfo] at accepted
        split_ifs at accepted with silent
        · exact ⟨silent, (Prod.mk.inj (Option.some_injective _ accepted)).2⟩
        · obtain ⟨_, _, other⟩ := Option.bind_eq_some_iff.mp accepted
          exact absurd (Prod.mk.inj (Option.some_injective _ other)).1 Bool.noConfusion
      obtain ⟨silent, rfl⟩ := same
      have unnamed : ¬ read.Named := fun named => (named_iff read).mp named silent
      exact ⟨rfl, rfl, rfl, rfl, rfl, rfl, rfl, iff_of_false Bool.false_ne_true unnamed, fun _ => rfl,
        fun accepted => (nomatch accepted), fun accepted => (nomatch accepted), fun accepted => (nomatch accepted)⟩
  | true =>
      have named : read.Named := by
        rw [named_iff]
        intro silent
        rw [postProcessInfo, if_pos silent] at accepted
        exact absurd (Prod.mk.inj (Option.some_injective _ accepted)).1 Bool.false_ne_true
      have negotiated := postProcessInfo_true accepted
      have only := onlyTables_matchRtxs negotiated
      have keeps : ∀ {α : Type} (part : SdpInfo → α), (∀ sdp tables, part (withTables sdp tables) = part sdp) →
          part next = part (completed read) := by
        intro α part blind
        rw [only, blind]
      have completes : ∀ {α : Type} (part : SdpInfo → α), (∀ sdp, part (completed sdp) = part sdp) →
          (∀ sdp tables, part (withTables sdp tables) = part sdp) → part next = part read :=
        fun part same blind => (keeps part blind).trans (same read)
      have flag : ∀ sdp, (completed sdp).isBundle = sdp.isBundle ∧ (completed sdp).bundleTags = sdp.bundleTags ∧
          (completed sdp).rids = sdp.rids ∧ (completed sdp).extMapVector = sdp.extMapVector ∧
          (completed sdp).payloadParsedMap = sdp.payloadParsedMap := by
        intro sdp
        unfold completed completeCandidates completeCredentials
        split_ifs <;> exact ⟨rfl, rfl, rfl, rfl, rfl⟩
      exact ⟨completes _ completed_internalPayloadVector fun _ _ => rfl, completes _ completed_parsedCodecs fun _ _ => rfl,
        completes _ (fun sdp => (flag sdp).2.2.2.2) fun _ _ => rfl, completes _ (fun sdp => (flag sdp).1) fun _ _ => rfl,
        completes _ (fun sdp => (flag sdp).2.1) fun _ _ => rfl, completes _ (fun sdp => (flag sdp).2.2.1) fun _ _ => rfl,
        completes _ (fun sdp => (flag sdp).2.2.2.1) fun _ _ => rfl, iff_of_true rfl named, fun silent => (nomatch silent),
        fun _ => keeps _ fun _ _ => rfl, fun _ => keeps _ fun _ _ => rfl, fun _ => negotiated⟩

/-- `postProcessInfo` ends when, for a description with a user name, everything that is looked up can be. -/
theorem postProcessInfo_ends_iff (read : SdpInfo) : (∃ result next, postProcessInfo read = some (result, next)) ↔
    (read.Named → ∃ lookups,
      lookupsOf read.internalPayloadVector (rtxCodecs read.internalPayloadVector read.parsedCodecs) = some lookups) := by
  constructor
  · rintro ⟨result, next, post⟩ named
    have call := processed post
    obtain ⟨lookups, outIn, looked, -⟩ := negotiated (call.negotiated (call.result_iff.mpr named))
    rw [completed_internalPayloadVector, completed_parsedCodecs] at looked
    exact ⟨lookups, looked⟩
  · intro looked
    by_cases named : read.Named
    · obtain ⟨lookups, looked⟩ := looked named
      have ends : matchRtxs (matchCodecs (completed read)).1 (matchCodecs (completed read)).2 ≠ none := by
        rw [matchCodecs_eq, matchRtxs_eq, foldl_mapCodec_internalPayloadVector, completed_internalPayloadVector,
          completed_parsedCodecs, looked]
        exact Option.some_ne_none _
      obtain ⟨next, matched⟩ := Option.ne_none_iff_exists'.mp ends
      refine ⟨true, next, ?_⟩
      rw [postProcessInfo, if_neg ((named_iff read).mp named)]
      exact Option.bind_eq_some_iff.mpr ⟨next, matched, rfl⟩
    · rw [named_iff, not_not] at named
      exact ⟨false, read, if_pos named⟩

/-! ### The second call -/

/-- The lists and tables are the same. -/
structure Unchanged (first second : SdpInfo) : Prop where
  tables : second.tables = first.tables
  bundleTags : second.bundleTags = first.bundleTags
  rids : second.rids = first.rids
  extensions : second.extMapVector = first.extMapVector
  candidates : second.candidateVector = first.candidateVector

/-- The bundling after updates. -/
def bundledAfter (sdp : SdpInfo) (updates : List Update) : Bool := sdp.isBundle || decide (.bundle ∈ updates)

/-- The codecs after updates, in the order of their payload types. -/
def codecsAfter (sdp : SdpInfo) (updates : List Update) : List RtpMap :=
  (readCodecs unset sdp.payloadParsedMap updates).toList.map Prod.snd

/-- A text has no more to add to a description: it appends nothing, no codec that the description comes to
have is negotiated with an internal one, and what it sets stays set. -/
structure Settled (sdp : SdpInfo) (updates : List Update) : Prop where
  tags : updates.flatMap Update.tags = []
  rids : updates.flatMap Update.rids = []
  extensions : updates.flatMap Update.extensions = []
  candidates : updates.flatMap Update.candidates = []
  ends : midsRead (bundledAfter sdp updates) updates ≠ [] → sdp.bundleTags.length < 256
  mids : ∀ tag ∈ sdp.bundleTags, mediaNamed (midsRead sdp.isBundle updates) tag.id = none →
    ∀ mediaType ∈ mediaNamed (midsRead (bundledAfter sdp updates) updates) tag.id, mediaType = tag.mediaType
  passwords : ∀ audio, usernameAfter audio sdp updates = [] → usernameAfter (!audio) sdp updates ≠ [] →
    Overwrite.lastOf (Update.usernameOf audio) updates = none →
    (∃ candidate ∈ sdp.candidateVector, decide (candidate.mediaType ≠ .video) = audio) →
    ∀ password ∈ Overwrite.lastOf (Update.passwordOf audio) updates, password = passwordAfter (!audio) sdp updates
  codecs : (∃ audio, usernameAfter audio sdp updates ≠ []) →
    codecPairs sdp.internalPayloadVector (codecsAfter unset sdp updates) = []
  rtx : (∃ audio, usernameAfter audio sdp updates ≠ []) → ∀ lookups,
    lookupsOf sdp.internalPayloadVector
      (rtxCodecs sdp.internalPayloadVector (codecsAfter unset sdp updates)) = some lookups →
    rtxPairs (partnerOf (partnersIn sdp.outInPTMap) (rtxPairs (partnersIn sdp.outInPTMap) lookups)) lookups = []

/-- A list that is only added to, after updates. -/
theorem gathered {α : Type} {part : SdpInfo → List α} {added : Update → List α}
    (each : ∀ {sdp update next}, Applied unset sdp update next → part next = part sdp ++ added update)
    {sdp next : SdpInfo} {updates : List Update} (result : applyAll unset sdp updates = some next) :
    part next = part sdp ++ updates.flatMap added :=
  (@applyAll_read unset _ part (fun list update => list ++ added update) each sdp next updates result).trans
    (Overwrite.foldl_gather added updates (part sdp))

/-- The bundling and the number of tags after updates. -/
theorem tagsAfter_length {state next : Bool × List BundleTag} {updates : List Update}
    (result : tagsAfter state updates = some next) : next.1 = (state.1 || decide (.bundle ∈ updates)) ∧
      next.2.length = state.2.length + (updates.flatMap Update.tags).length := by
  induction updates generalizing state with
  | nil =>
      obtain rfl := Option.some_injective _ result
      simp
  | cons update updates ih =>
      obtain ⟨tags, updated, rest⟩ := Option.bind_eq_some_iff.mp result
      obtain ⟨bundled, length⟩ := ih rest
      have one : tags.length = state.2.length + update.tags.length := by
        cases update with
        | mid id mediaType =>
            rw [updateTags, setMediaType] at updated
            split_ifs at updated
            all_goals
              rw [← Option.some_injective _ updated]
              simp [Update.tags]
        | _ =>
            rw [← Option.some_injective _ updated]
            simp [Update.tags]
      refine ⟨?_, ?_⟩
      · rw [bundled, Bool.or_assoc, ← Bool.decide_or]
        exact congrArg (state.1 || ·) (decide_eq_decide.mpr ((or_congr_left eq_comm).trans List.mem_cons.symm))
      · rw [length, one, List.flatMap_cons, List.length_append, Nat.add_assoc]

/-- The bundling and the tags after updates that add no tag. -/
theorem bundleTags_applyAll {sdp next : SdpInfo} {updates : List Update} (none : updates.flatMap Update.tags = [])
    (result : applyAll unset sdp updates = some next) :
    next.bundleTags = sdp.bundleTags.map (nameTag (midsRead sdp.isBundle updates)) := by
  have after := tagsAfter_applyAll unset sdp updates
  rw [result, Option.map_some, tagsAfter_eq none] at after
  split_ifs at after
  exact (Prod.mk.inj (Option.some_injective _ after)).2

/-- Updates that add no tag can be applied as long as there are not too many tags. -/
theorem applyAll_ends_iff {sdp : SdpInfo} {updates : List Update} (none : updates.flatMap Update.tags = []) :
    (∃ next, applyAll unset sdp updates = some next) ↔
      (midsRead sdp.isBundle updates ≠ [] → sdp.bundleTags.length < 256) := by
  have after := tagsAfter_applyAll unset sdp updates
  rw [tagsAfter_eq none] at after
  rw [← not_le, ← not_and]
  constructor
  · rintro ⟨next, result⟩ full
    rw [result, if_pos full] at after
    exact (nomatch after)
  · intro room
    rw [if_neg room] at after
    obtain ⟨next, result, _⟩ := Option.map_eq_some_iff.mp after
    exact ⟨next, result⟩

theorem isBundle_applyAll {sdp next : SdpInfo} {updates : List Update} (result : applyAll unset sdp updates = some next) :
    next.isBundle = bundledAfter sdp updates := by
  have after := tagsAfter_applyAll unset sdp updates
  rw [result, Option.map_some] at after
  exact (tagsAfter_length after.symm).1

/-- As many tags are added as the updates have. -/
theorem length_bundleTags_applyAll {sdp next : SdpInfo} {updates : List Update}
    (result : applyAll unset sdp updates = some next) :
    next.bundleTags.length = sdp.bundleTags.length + (updates.flatMap Update.tags).length := by
  have after := tagsAfter_applyAll unset sdp updates
  rw [result, Option.map_some] at after
  exact (tagsAfter_length after.symm).2

section Twice

variable {unset : Uninitialised} {sdp read first again second : SdpInfo} {updates : List Update} {result other : Bool}

/-- Credentials that the first call left as they were read are read again. -/
theorem credentials_kept (one : applyAll unset sdp updates = some read) (two : applyAll unset first updates = some again)
    {audio : Bool} (kept : first.credentials audio = read.credentials audio) :
    again.credentials audio = read.credentials audio := by
  have twice : ∀ (set : Option Text) (old : Text), set.getD (set.getD old) = set.getD old := by
    intro set old
    cases set <;> rfl
  rw [credentials_applyAll unset two, usernameAfter, passwordAfter, kept, credentials_applyAll unset one, usernameAfter,
    passwordAfter, twice, twice]

/-- There is a user name again just when there was one. -/
theorem named_again_iff (one : applyAll unset sdp updates = some read) (call : Processed read result first)
    (two : applyAll unset first updates = some again) : again.Named ↔ read.Named := by
  by_cases named : read.Named
  · refine iff_of_true ?_ named
    obtain ⟨audio, username⟩ := named
    have kept : first.credentials audio = read.credentials audio := by
      rw [call.credentials (call.result_iff.mpr ⟨audio, username⟩),
        credentials_completed ⟨audio, username⟩, if_neg username]
    exact ⟨audio, by rwa [credentials_kept one two kept]⟩
  · have silent : result = false := Bool.eq_false_iff.mpr fun accepted => named (call.result_iff.mp accepted)
    rw [Named, Named]
    refine exists_congr fun audio => ?_
    rw [credentials_kept one two (congrArg (credentials · audio) (call.silent silent))]

/-- When the credentials of a medium come out the same. -/
theorem credentials_again_iff (one : applyAll unset sdp updates = some read) (call : Processed read true first)
    (two : applyAll unset first updates = some again) (audio : Bool) :
    (completed again).credentials audio = first.credentials audio ↔
      (usernameAfter audio sdp updates = [] → Overwrite.lastOf (Update.usernameOf audio) updates = none →
        ∀ password ∈ Overwrite.lastOf (Update.passwordOf audio) updates,
          password = passwordAfter (!audio) sdp updates) := by
  have named := call.result_iff.mp rfl
  have completes := credentials_completed named
  rw [← call.credentials rfl] at completes
  have renamed := (named_again_iff one call two).mpr named
  have kept : ∀ audio, (read.credentials audio).1 ≠ [] → again.credentials audio = first.credentials audio := by
    intro audio username
    have same := completes audio
    rw [if_neg username] at same
    rw [credentials_kept one two same, same]
  rw [credentials_completed renamed]
  have username : (read.credentials audio).1 = usernameAfter audio sdp updates := by rw [credentials_applyAll unset one]
  by_cases empty : (read.credentials audio).1 = []
  · -- the other medium has the user name, and lends it
    have lends : (read.credentials !audio).1 ≠ [] := by
      obtain ⟨lender, lends⟩ := named
      rcases Bool.eq_or_eq_not lender audio with rfl | rfl
      · exact absurd empty lends
      · exact lends
    have borrowed := completes audio
    rw [if_pos empty] at borrowed
    have borrowing : again.credentials (!audio) = first.credentials audio := by
      rw [kept _ lends, completes, if_neg lends, borrowed]
    have reread := credentials_applyAll unset two audio
    rw [usernameAfter, passwordAfter, borrowed, credentials_applyAll unset one] at reread
    rw [borrowing, reread, borrowed, credentials_applyAll unset one]
    rw [credentials_applyAll unset one] at lends
    have emptied := username.symm.trans empty
    cases named : Overwrite.lastOf (Update.usernameOf audio) updates with
    | some set =>
        have unset : set = [] := by rwa [usernameAfter, named, Option.getD_some] at emptied
        simp [unset]
    | none => cases Overwrite.lastOf (Update.passwordOf audio) updates <;> simp [lends, emptied]
  · rw [kept audio empty, if_neg]
    · exact iff_of_true rfl fun none => absurd (username.trans none) empty
    · rw [completes, if_neg empty]
      exact empty

/-- Candidates that get credentials twice. -/
theorem map_candidateWith_eq_iff (isBundle : Bool) (before after : Bool → Text × Text) (candidates : List CandidateInfo) :
    (candidates.map (candidateWith isBundle before)).map (candidateWith isBundle after) =
        candidates.map (candidateWith isBundle before) ↔
      ∀ candidate ∈ candidates, after (decide (candidate.mediaType ≠ .video)) =
        before (decide (candidate.mediaType ≠ .video)) := by
  rw [List.map_map, List.map_inj_left]
  refine forall₂_congr fun candidate _ => ?_
  rw [Prod.ext_iff]
  simp [candidateWith, CandidateInfo.mk.injEq]

/-- **When the candidates are left as they were.** -/
theorem candidates_again_iff (one : applyAll unset sdp updates = some read) (call : Processed read result first)
    (two : applyAll unset first updates = some again) (calledAgain : Processed again result second) :
    second.candidateVector = first.candidateVector ↔ updates.flatMap Update.candidates = [] ∧
      ∀ audio, usernameAfter audio sdp updates = [] → usernameAfter (!audio) sdp updates ≠ [] →
        Overwrite.lastOf (Update.usernameOf audio) updates = none →
        (∃ candidate ∈ sdp.candidateVector, decide (candidate.mediaType ≠ .video) = audio) →
        ∀ password ∈ Overwrite.lastOf (Update.passwordOf audio) updates, password = passwordAfter (!audio) sdp updates := by
  have added := gathered unset (fun applied => applied.candidates) one
  have more := gathered unset (fun applied => applied.candidates) two
  have length : second.candidateVector.length = first.candidateVector.length +
    (updates.flatMap Update.candidates).length := by
    rw [← List.length_append, ← more]
    cases result with
    | false => rw [calledAgain.silent rfl]
    | true => rw [calledAgain.candidates rfl, completed_candidateVector, List.length_map]
  by_cases none : updates.flatMap Update.candidates = []
  · rw [none, List.append_nil] at added more
    rw [and_iff_right none]
    cases result with
    | false =>
        rw [calledAgain.silent rfl, more]
        refine iff_of_true rfl fun audio _ lends => absurd (call.result_iff.mpr ⟨!audio, ?_⟩) Bool.false_ne_true
        rwa [credentials_applyAll unset one]
    | true =>
        have bundled : again.isBundle = read.isBundle := by
          rw [isBundle_applyAll unset two, bundledAfter, call.isBundle, isBundle_applyAll unset one,
            bundledAfter, Bool.or_assoc,
            Bool.or_self]
        have named := call.result_iff.mp rfl
        rw [calledAgain.candidates rfl, call.candidates rfl, completed_candidateVector, completed_candidateVector, more,
          call.candidates rfl, completed_candidateVector, bundled, added, map_candidateWith_eq_iff, ← call.credentials rfl]
        constructor
        · rintro same audio empty - unset ⟨candidate, member, rfl⟩
          exact (credentials_again_iff one call two _).mp (same candidate member) empty unset
        · intro same candidate member
          refine (credentials_again_iff one call two _).mpr fun empty unset => same _ empty ?_ unset
            ⟨candidate, member, rfl⟩
          intro others
          obtain ⟨lender, lends⟩ := named
          rw [credentials_applyAll _ one] at lends
          rcases Bool.eq_or_eq_not lender (decide (candidate.mediaType ≠ .video)) with rfl | rfl
          · exact lends empty
          · exact lends others
  · refine iff_of_false (fun same => none ?_) fun both => none both.1
    rw [same] at length
    exact List.length_eq_zero_iff.mp (Nat.left_eq_add.mp length)

/-- **When the bundle tags are left as they were.** -/
theorem bundleTags_again_iff (one : applyAll unset sdp updates = some read) (call : Processed read result first)
    (two : applyAll unset first updates = some again) (calledAgain : Processed again other second) :
    second.bundleTags = first.bundleTags ↔ updates.flatMap Update.tags = [] ∧
      ∀ tag ∈ sdp.bundleTags, mediaNamed (midsRead sdp.isBundle updates) tag.id = none →
        ∀ mediaType ∈ mediaNamed (midsRead (bundledAfter sdp updates) updates) tag.id, mediaType = tag.mediaType := by
  rw [calledAgain.bundleTags]
  by_cases none : updates.flatMap Update.tags = []
  · rw [and_iff_right none, bundleTags_applyAll unset none two, call.isBundle, isBundle_applyAll unset one, call.bundleTags,
      bundleTags_applyAll unset none one, List.map_map, List.map_inj_left]
    exact forall₂_congr fun tag _ =>
      nameTag_again_iff (midsRead_suffix sdp.isBundle (decide (Update.bundle ∈ updates)) updates) tag
  · refine iff_of_false (fun same => none ?_) fun both => none both.1
    have length := length_bundleTags_applyAll unset two
    rw [same] at length
    exact List.length_eq_zero_iff.mp (Nat.left_eq_add.mp length)

/-- The counted pairs are all pairs. -/
theorem countOf_add (pairs : List (RtpMap × RtpMap)) :
    countOf isVideo pairs + countOf (fun media => !isVideo media) pairs = pairs.length := by
  induction pairs with
  | nil => rfl
  | cons pair pairs ih =>
      rw [countOf_cons, countOf_cons, List.length_cons]
      cases isVideo pair.2.mediaType <;> simp <;> omega

/-- Tables in which nothing more is counted have no more pairs. -/
theorem pairs_eq_nil {pairs : List (RtpMap × RtpMap)} {payloadVector : List RtpMap} {inOut outIn : PayloadTypeMap}
    (same : ⟨payloadVector, sdp.videoCodecs + countOf isVideo pairs,
      sdp.audioCodecs + countOf (fun media => !isVideo media) pairs, inOut, outIn⟩ = sdp.tables) : pairs = [] := by
  have videos := congrArg Tables.videoCodecs same
  have audios := congrArg Tables.audioCodecs same
  have all := countOf_add pairs
  simp only [tables] at videos audios
  exact List.length_eq_zero_iff.mp (by omega)

/-- The codecs that are negotiated first. -/
theorem codecs_read (one : applyAll unset sdp updates = some read) :
    read.internalPayloadVector = sdp.internalPayloadVector ∧ read.parsedCodecs = codecsAfter unset sdp updates := by
  refine ⟨applyAll_keeps unset (fun applied => applied.internal) one, ?_⟩
  rw [parsedCodecs, applyAll_read unset (fun applied => applied.codecs) one]
  rfl

/-- The codecs that are negotiated again are the same, but for the feedback types. -/
theorem codecs_again (one : applyAll unset sdp updates = some read) (call : Processed read result first)
    (two : applyAll unset first updates = some again) : again.internalPayloadVector = sdp.internalPayloadVector ∧
      again.parsedCodecs.map withoutFeedback = (codecsAfter unset sdp updates).map withoutFeedback := by
  constructor
  · rw [applyAll_keeps unset (fun applied => applied.internal) two, call.internal, (codecs_read one).1]
  · rw [parsedCodecs, applyAll_read unset (fun applied => applied.codecs) two, call.codecs,
      applyAll_read unset (fun applied => applied.codecs) one]
    exact readCodecs_replay unset sdp.payloadParsedMap updates

/-- **When the tables are left as they were.** -/
theorem tables_again_iff (one : applyAll unset sdp updates = some read) (call : Processed read true first)
    (two : applyAll unset first updates = some again) (calledAgain : Processed again true second) :
    second.tables = first.tables ↔
      codecPairs sdp.internalPayloadVector (codecsAfter unset sdp updates) = [] ∧ ∀ lookups,
        lookupsOf sdp.internalPayloadVector (rtxCodecs sdp.internalPayloadVector (codecsAfter unset sdp updates)) =
          some lookups →
        rtxPairs (partnerOf (partnersIn sdp.outInPTMap) (rtxPairs (partnersIn sdp.outInPTMap) lookups)) lookups = [] := by
  obtain ⟨lookups, outIn, looked, tables, resolved⟩ := negotiated (call.negotiated rfl)
  obtain ⟨lookedAgain, outInAgain, lookedUp, tablesAgain, resolvedAgain⟩ := negotiated (calledAgain.negotiated rfl)
  obtain ⟨internal, codecs⟩ := codecs_read one
  obtain ⟨internalAgain, codecsAgain⟩ := codecs_again one call two
  rw [← completed_internalPayloadVector] at internal internalAgain
  rw [← completed_parsedCodecs] at codecs codecsAgain
  rw [internal, codecs] at looked
  rw [internalAgain] at lookedUp
  have lookups_eq : lookedAgain.map Lookup.withoutFeedback = lookups.map Lookup.withoutFeedback := by
    have same := lookups_withoutFeedback codecsAgain sdp.internalPayloadVector
    rw [lookedUp, looked] at same
    exact Option.some_injective _ same
  have entry : ∀ lookup ∈ lookedAgain, ∃ internalPt, first.outInPTMap[lookup.parsedApt]? = some internalPt := by
    intro lookup member
    have named : lookup.withoutFeedback ∈ lookups.map Lookup.withoutFeedback := lookups_eq ▸ List.mem_map_of_mem member
    obtain ⟨before, asked, same⟩ := List.mem_map.mp named
    obtain ⟨internalPt, found⟩ := resolved.entry asked
    have apts := congrArg Lookup.parsedApt same
    have apt : before.parsedApt = lookup.parsedApt := apts
    exact ⟨internalPt, by rw [show first.outInPTMap = outIn from congrArg Tables.outInPTMap tables, ← apt, found]⟩
  -- what the second call finds mapped is what the first call left
  have mapped : (completed again).tables = first.tables :=
    (completed_tables again).trans (applyAll_keeps unset (fun applied => applied.tables) two)
  have unmapped : (completed read).outInPTMap = sdp.outInPTMap :=
    congrArg Tables.outInPTMap ((completed_tables read).trans (applyAll_keeps unset (fun applied => applied.tables) one))
  have nothing : second.tables = first.tables ↔ (completed again).pairsFrom lookedAgain = [] := by
    rw [tablesAgain, ← mapped]
    constructor
    · exact pairs_eq_nil
    · intro none
      obtain ⟨noCodecs, noRtx⟩ := List.append_eq_nil_iff.mp none
      have entered : (completed again).codecsEntered = (completed again).outInPTMap := by
        rw [codecsEntered, noCodecs, Table.fill_nil]
      rw [entered] at resolvedAgain noRtx
      have left := resolvedAgain.unpaired noRtx fun lookup member => by
        rw [show (completed again).outInPTMap = first.outInPTMap from congrArg Tables.outInPTMap mapped]
        exact entry lookup member
      rw [none, noCodecs, entered, noRtx, left]
      simp [SdpInfo.tables, countOf]
  rw [nothing, pairsFrom, List.append_eq_nil_iff, internalAgain, codecPairs_eq_nil_iff codecsAgain]
  refine and_congr_right fun noCodecs => ?_
  have entered : (completed read).codecsEntered = sdp.outInPTMap := by
    rw [codecsEntered, internal, codecs, noCodecs, Table.fill_nil, unmapped]
  have enteredAgain : (completed again).codecsEntered = outIn := by
    rw [codecsEntered, internalAgain, (codecPairs_eq_nil_iff codecsAgain _).mpr noCodecs, Table.fill_nil]
    exact congrArg Tables.outInPTMap (mapped.trans tables)
  rw [rtxPairs_eq_nil_iff lookups_eq, enteredAgain, resolved.partners, entered]
  simp [looked]

/-- Where the first call ends and the updates can be applied again, the second call ends with the same result. -/
theorem processed_again (one : applyAll unset sdp updates = some read) (post : postProcessInfo read = some (result, first))
    (two : applyAll unset first updates = some again) : ∃ second, postProcessInfo again = some (result, second) := by
  have call := processed post
  have named := named_again_iff one call two
  cases result with
  | false =>
      have unnamed : ¬ again.Named := fun renamed => Bool.false_ne_true (call.result_iff.mpr (named.mp renamed))
      rw [named_iff, not_not] at unnamed
      exact ⟨again, if_pos unnamed⟩
  | true =>
      obtain ⟨lookups, outIn, looked, -⟩ := negotiated (call.negotiated rfl)
      rw [completed_internalPayloadVector, completed_parsedCodecs, (codecs_read one).1, (codecs_read one).2] at looked
      have same := lookups_withoutFeedback (codecs_again one call two).2 sdp.internalPayloadVector
      rw [looked, Option.map_some] at same
      obtain ⟨lookedAgain, lookedUp, -⟩ := Option.map_eq_some_iff.mp same
      rw [← (codecs_again one call two).1] at lookedUp
      obtain ⟨other, second, postAgain⟩ := (postProcessInfo_ends_iff again).mpr fun _ => ⟨lookedAgain, lookedUp⟩
      obtain rfl := (processed postAgain).result_iff.mpr (named.mpr (call.result_iff.mp rfl))
      exact ⟨second, postAgain⟩

end Twice

/-- **When a description can be processed again.** For every description and every text that is processed:
the second call ends with the same result and leaves the lists and tables as they were just when the text has
no more to add. -/
theorem reprocess_iff (unset : Uninitialised) (sdp first : SdpInfo) (text media : Text) (result : Bool)
    (processedOnce : processSdp unset sdp text media = some (result, first)) :
    ∃ updates, updatesOfText unset text media = some updates ∧
      ((∃ second, processSdp unset first text media = some (result, second) ∧ Unchanged first second) ↔
        Settled unset sdp updates) := by
  rw [processSdp_eq] at processedOnce
  obtain ⟨read, applied, post⟩ := Option.bind_eq_some_iff.mp processedOnce
  obtain ⟨updates, described, one⟩ := Option.bind_eq_some_iff.mp applied
  have call := processed post
  have named : (∃ audio, usernameAfter audio sdp updates ≠ []) ↔ result = true := by
    rw [call.result_iff, Named]
    exact exists_congr fun audio => by rw [credentials_applyAll unset one]
  have tags : updates.flatMap Update.tags = [] → first.bundleTags.length = sdp.bundleTags.length := by
    intro none
    rw [call.bundleTags, length_bundleTags_applyAll unset one, none, List.length_nil, Nat.add_zero]
  have bundled : first.isBundle = bundledAfter sdp updates := call.isBundle.trans (isBundle_applyAll unset one)
  refine ⟨updates, described, ?_, fun settled => ?_⟩
  · rintro ⟨second, processedTwice, unchanged⟩
    rw [processSdp_eq, described, Option.bind_some] at processedTwice
    obtain ⟨again, two, postAgain⟩ := Option.bind_eq_some_iff.mp processedTwice
    have calledAgain := processed postAgain
    obtain ⟨noTags, mids⟩ := (bundleTags_again_iff one call two calledAgain).mp unchanged.bundleTags
    obtain ⟨noCandidates, passwords⟩ := (candidates_again_iff one call two calledAgain).mp unchanged.candidates
    have rids := gathered unset (fun applied => applied.rids) two
    have extensions := gathered unset (fun applied => applied.extensions) two
    rw [← calledAgain.rids, unchanged.rids, List.self_eq_append_right] at rids
    rw [← calledAgain.extensions, unchanged.extensions, List.self_eq_append_right] at extensions
    have room := (applyAll_ends_iff unset noTags).mp ⟨again, two⟩
    rw [bundled, tags noTags] at room
    have negotiates : (∃ audio, usernameAfter audio sdp updates ≠ []) → _ := fun username => by
      obtain rfl := named.mp username
      exact (tables_again_iff one call two calledAgain).mp unchanged.tables
    exact ⟨noTags, rids, extensions, noCandidates, room, mids, passwords, fun username => (negotiates username).1,
      fun username => (negotiates username).2⟩
  · have room := settled.ends
    rw [← bundled, ← tags settled.tags] at room
    obtain ⟨again, two⟩ := (applyAll_ends_iff unset settled.tags).mpr room
    obtain ⟨second, postAgain⟩ := processed_again one post two
    have calledAgain := processed postAgain
    refine ⟨second, ?_, ?_, ?_, ?_, ?_, ?_⟩
    · rw [processSdp_eq, described, Option.bind_some, two, Option.bind_some, postAgain]
    · cases result with
      | false => rw [calledAgain.silent rfl, applyAll_keeps unset (fun applied => applied.tables) two]
      | true =>
          have username := named.mpr rfl
          exact (tables_again_iff one call two calledAgain).mpr ⟨settled.codecs username, settled.rtx username⟩
    · exact (bundleTags_again_iff one call two calledAgain).mpr ⟨settled.tags, settled.mids⟩
    · rw [calledAgain.rids, gathered unset (fun applied => applied.rids) two, settled.rids, List.append_nil]
    · rw [calledAgain.extensions, gathered unset (fun applied => applied.extensions) two, settled.extensions,
        List.append_nil]
    · exact (candidates_again_iff one call two calledAgain).mpr ⟨settled.candidates, settled.passwords⟩

/-- A description with a user name alone. -/
def credentialsOnly : Text := "m=video\na=ice-ufrag:u\n".toList

/-- A user name can be processed again. -/
theorem reprocess_credentialsOnly : ∃ first second,
    processSdp zeros (init zeros [vp8]) credentialsOnly [] = some (true, first) ∧
      processSdp zeros first credentialsOnly [] = some (true, second) ∧ Unchanged first second := by
  have run : (processSdp zeros (init zeros [vp8]) credentialsOnly []).map Prod.fst = some true := by decide +kernel
  have lines : updatesOfText zeros credentialsOnly [] =
    some [.videoMLine 0, .username .video "u".toList] := by decide +kernel
  obtain ⟨⟨result, first⟩, processed, accepted⟩ := Option.map_eq_some_iff.mp run
  obtain rfl : result = true := accepted
  obtain ⟨updates, described, settled⟩ := reprocess_iff zeros (init zeros [vp8]) first credentialsOnly [] true processed
  obtain rfl := Option.some_injective _ (described.symm.trans lines)
  have codecs : codecsAfter zeros (init zeros [vp8]) [.videoMLine 0, .username .video "u".toList] = [] := by decide +kernel
  obtain ⟨second, again, unchanged⟩ := settled.mpr
    { tags := rfl
      rids := rfl
      extensions := rfl
      candidates := rfl
      ends := fun _ => by decide
      mids := fun _ member => absurd member List.not_mem_nil
      passwords := fun _ _ _ _ candidate => absurd candidate.choose_spec.1 List.not_mem_nil
      codecs := fun _ => by rw [codecs]; rfl
      rtx := fun _ lookups looked => by
        rw [codecs] at looked
        obtain rfl := Option.some_injective _ (looked : some [] = some lookups)
        rfl }
  exact ⟨first, second, processed, again, unchanged⟩

/-- **A description cannot always be processed again**: its one codec is counted twice. -/
theorem reprocess_oneCodec : ¬ ∀ (unset : Uninitialised) (sdp first : SdpInfo) (text media : Text) (result : Bool),
    processSdp unset sdp text media = some (result, first) →
      ∃ second, processSdp unset first text media = some (result, second) ∧ Unchanged first second := by
  intro always
  have run : ((processSdp zeros (init zeros [vp8]) oneCodec []).bind fun once =>
      (processSdp zeros once.2 oneCodec []).map fun twice => (once.2.videoCodecs, twice.2.videoCodecs)) = some (1, 2) := by
    decide +kernel
  obtain ⟨⟨result, first⟩, once, rest⟩ := Option.bind_eq_some_iff.mp run
  obtain ⟨⟨other, second⟩, twice, counts⟩ := Option.map_eq_some_iff.mp rest
  obtain ⟨same, again, unchanged⟩ := always zeros (init zeros [vp8]) first oneCodec [] result once
  obtain ⟨rfl, rfl⟩ := Prod.mk.inj (Option.some_injective _ (again.symm.trans twice))
  have counted := congrArg Tables.videoCodecs unchanged.tables
  obtain ⟨one, two⟩ := Prod.mk.inj counts
  rw [show same.tables.videoCodecs = 2 from two, show first.tables.videoCodecs = 1 from one] at counted
  exact absurd counted (by decide)

end SdpInfo

end Erizo
