/-
**When the payload tables are consistent.**

Negotiation matches the internal codecs with the ones that were read (`codecPairs`) and then the `rtx`
codecs (`rtxPairs`), by the internal payload type of the codec they belong to: the walk keeps the internal
payload type of every external one, 0 where it has none. Every pair is mapped and counted
(`negotiated`); a pair of `codecPairs` is added only when its format parameters match. The tables are
consistent just when every pair is added and the pairs are one to one (`consistent_iff`).
-/

import Erizo.Library.Table
import Erizo.Proof.SdpUpdates

namespace Erizo

namespace SdpInfo

open Library StringUtil

/-! ### Pairs of codecs -/

/-- Whether two codecs have the same name and clock rate. -/
def sameCodec (internalMap parsedMap : RtpMap) : Bool :=
  internalMap.encodingName = parsedMap.encodingName ∧ internalMap.clockRate = parsedMap.clockRate

/-- The pairs of an internal codec and a parsed one, without `rtx`. -/
def codecPairs (internal parsed : List RtpMap) : List (RtpMap × RtpMap) :=
  internal.flatMap fun internalMap =>
    (parsed.filter fun parsedMap => sameCodec internalMap parsedMap ∧ parsedMap.encodingName ≠ rtx).map fun parsedMap =>
      (internalMap, parsedMap)

/-- The parsed `rtx` codecs, once for every internal one of the same clock rate. -/
def rtxCodecs (internal parsed : List RtpMap) : List RtpMap :=
  internal.flatMap fun internalMap =>
    parsed.filter fun parsedMap => sameCodec internalMap parsedMap ∧ parsedMap.encodingName = rtx

/-- An `rtx` codec, an internal one, and the payload types they belong to. -/
structure Lookup where
  rtxMap : RtpMap
  internalMap : RtpMap
  parsedApt : UInt32
  internalApt : UInt32
  deriving DecidableEq

/-- What is looked up for an `rtx` codec and an internal codec. -/
def lookupOf (rtxMap internalMap : RtpMap) : Option (List Lookup) :=
  if internalMap.encodingName = rtx then
    match rtxMap.formatParameters[associatedPt]?, internalMap.formatParameters[associatedPt]? with
    | none, none => some []
    | some parsedApt, some internalApt => do
        let internalApt ← stoul internalApt
        let parsedApt ← stoul parsedApt
        some [⟨rtxMap, internalMap, parsedApt.toUInt32, internalApt.toUInt32⟩]
    | _, _ => none
  else some []

/-- What is looked up for the `rtx` codecs and the internal codecs. -/
def lookupsOf (internal : List RtpMap) : List RtpMap → Option (List Lookup)
  | [] => some []
  | rtxMap :: rtxMaps => do
      some ((← (internal.mapM (lookupOf rtxMap))).flatten ++ (← lookupsOf internal rtxMaps))

/-- The internal payload type a map has for every external one, 0 where it has none. -/
def partnersIn (table : PayloadTypeMap) (external : UInt32) : UInt32 := (table[external]?).getD 0

/-- The internal payload type of every external one, after pairs. -/
def partnerOf (partner : UInt32 → UInt32) (pairs : List (RtpMap × RtpMap)) : UInt32 → UInt32 :=
  pairs.foldl (fun partner pair => Function.update partner pair.2.payloadType pair.1.payloadType) partner

/-- The pairs of `rtx` codecs whose codecs are mapped to each other. -/
def rtxPairs (partner : UInt32 → UInt32) : List Lookup → List (RtpMap × RtpMap)
  | [] => []
  | lookup :: lookups =>
      if partner lookup.parsedApt = lookup.internalApt then
        (lookup.internalMap, lookup.rtxMap) ::
          rtxPairs (Function.update partner lookup.rtxMap.payloadType lookup.internalMap.payloadType) lookups
      else rtxPairs partner lookups

/-- All pairs. -/
def allPairs (internal parsed : List RtpMap) (lookups : List Lookup) : List (RtpMap × RtpMap) :=
  codecPairs internal parsed ++ rtxPairs (partnerOf (partnersIn ∅) (codecPairs internal parsed)) lookups

/-! ### The loops over the codecs -/

/-- The codecs that were read, in the order of their payload types. -/
def parsedCodecs (sdp : SdpInfo) : List RtpMap := sdp.payloadParsedMap.toList.map Prod.snd

/-- A round of the loops, by whether the codecs are the same. -/
theorem matchCodec_eq (state : SdpInfo × List RtpMap) (internalMap parsedMap : RtpMap) :
    matchCodec state internalMap parsedMap =
      if sameCodec internalMap parsedMap then
        if parsedMap.encodingName = rtx then (state.1, state.2 ++ [parsedMap])
        else (mapCodec state.1 internalMap parsedMap, state.2)
      else state := by
  unfold matchCodec sameCodec
  by_cases name : internalMap.encodingName = parsedMap.encodingName <;>
    by_cases clock : internalMap.clockRate = parsedMap.clockRate <;> simp [name, clock]

/-- The codecs matched with one internal codec. -/
theorem foldl_matchCodec (internalMap : RtpMap) (parsed : List RtpMap) (state : SdpInfo × List RtpMap) :
    parsed.foldl (fun state parsedMap => matchCodec state internalMap parsedMap) state =
      ((codecPairs [internalMap] parsed).foldl (fun sdp pair => mapCodec sdp pair.1 pair.2) state.1,
        state.2 ++ rtxCodecs [internalMap] parsed) := by
  induction parsed generalizing state with
  | nil => simp [codecPairs, rtxCodecs]
  | cons parsedMap parsed ih =>
      rw [List.foldl_cons, ih, matchCodec_eq]
      by_cases same : sameCodec internalMap parsedMap = true
      · by_cases name : parsedMap.encodingName = rtx <;> simp [codecPairs, rtxCodecs, same, name]
      · simp [codecPairs, rtxCodecs, same]

theorem codecPairs_cons (internalMap : RtpMap) (internal parsed : List RtpMap) :
    codecPairs (internalMap :: internal) parsed = codecPairs [internalMap] parsed ++ codecPairs internal parsed := by
  simp [codecPairs]

theorem rtxCodecs_cons (internalMap : RtpMap) (internal parsed : List RtpMap) :
    rtxCodecs (internalMap :: internal) parsed = rtxCodecs [internalMap] parsed ++ rtxCodecs internal parsed := by
  simp [rtxCodecs]

/-- **The loops over the codecs.** -/
theorem matchCodecs_eq (sdp : SdpInfo) : matchCodecs sdp =
    ((codecPairs sdp.internalPayloadVector sdp.parsedCodecs).foldl (fun sdp pair => mapCodec sdp pair.1 pair.2) sdp,
      rtxCodecs sdp.internalPayloadVector sdp.parsedCodecs) := by
  have loops : ∀ (internal : List RtpMap) (state : SdpInfo × List RtpMap),
      internal.foldl (fun state internalMap =>
        sdp.payloadParsedMap.toList.foldl (fun state parsed => matchCodec state internalMap parsed.2) state) state =
      ((codecPairs internal sdp.parsedCodecs).foldl (fun sdp pair => mapCodec sdp pair.1 pair.2) state.1,
        state.2 ++ rtxCodecs internal sdp.parsedCodecs) := by
    intro internal
    induction internal with
    | nil => simp [codecPairs, rtxCodecs]
    | cons internalMap internal ih =>
        intro state
        have inner := List.foldl_map.symm.trans (foldl_matchCodec internalMap sdp.parsedCodecs state)
        rw [List.foldl_cons, inner, ih, codecPairs_cons internalMap internal, rtxCodecs_cons internalMap internal,
          List.foldl_append, List.append_assoc]
  rw [matchCodecs, loops, List.nil_append]

/-! ### What the matched codecs do to the tables -/

section MapCodec

variable (sdp : SdpInfo) (mediaType : MediaType)

@[simp] theorem countCodec_internalPayloadVector :
    (countCodec sdp mediaType).internalPayloadVector = sdp.internalPayloadVector := by
  unfold countCodec
  split_ifs <;> rfl

@[simp] theorem countCodec_payloadVector : (countCodec sdp mediaType).payloadVector = sdp.payloadVector := by
  unfold countCodec
  split_ifs <;> rfl

@[simp] theorem countCodec_inOutPTMap : (countCodec sdp mediaType).inOutPTMap = sdp.inOutPTMap := by
  unfold countCodec
  split_ifs <;> rfl

@[simp] theorem countCodec_outInPTMap : (countCodec sdp mediaType).outInPTMap = sdp.outInPTMap := by
  unfold countCodec
  split_ifs <;> rfl

@[simp] theorem countCodec_videoCodecs :
    (countCodec sdp mediaType).videoCodecs = sdp.videoCodecs + if mediaType = .video then 1 else 0 := by
  unfold countCodec
  split_ifs <;> simp

@[simp] theorem countCodec_audioCodecs :
    (countCodec sdp mediaType).audioCodecs = sdp.audioCodecs + if mediaType = .video then 0 else 1 := by
  unfold countCodec
  split_ifs <;> simp

/-- A pair of codecs is mapped and counted, and what is negotiated for it is added. -/
def Tables.pair (tables : Tables) (pair : RtpMap × RtpMap) (added : List RtpMap) : Tables where
  payloadVector := tables.payloadVector ++ added
  videoCodecs := tables.videoCodecs + if pair.2.mediaType = .video then 1 else 0
  audioCodecs := tables.audioCodecs + if pair.2.mediaType = .video then 0 else 1
  inOutPTMap := tables.inOutPTMap.insert pair.1.payloadType pair.2.payloadType
  outInPTMap := tables.outInPTMap.insert pair.2.payloadType pair.1.payloadType

/-- What a pair of codecs adds. -/
def addedFor (pair : RtpMap × RtpMap) : List RtpMap :=
  if formatMatches pair.1 pair.2 then [negotiatedMap pair.1 pair.2] else []

/-- The tables after a codec that is not `rtx`. -/
theorem tables_mapCodec (internalMap parsedMap : RtpMap) : (mapCodec sdp internalMap parsedMap).tables =
    sdp.tables.pair (internalMap, parsedMap) (addedFor (internalMap, parsedMap)) := by
  unfold mapCodec addedFor
  simp only
  split_ifs <;> simp_all [tables, Tables.pair, mapPayloadTypes]

@[simp] theorem mapCodec_internalPayloadVector (internalMap parsedMap : RtpMap) :
    (mapCodec sdp internalMap parsedMap).internalPayloadVector = sdp.internalPayloadVector := by
  unfold mapCodec
  simp only
  split_ifs <;> simp [mapPayloadTypes]

end MapCodec

/-- A lookup, resolved. -/
def resolve (sdp : SdpInfo) (lookup : Lookup) : SdpInfo :=
  mapRtx sdp lookup.rtxMap lookup.internalMap lookup.parsedApt lookup.internalApt

/-- A round of the loops over the `rtx` codecs. -/
theorem matchRtx_eq (sdp : SdpInfo) (rtxMap internalMap : RtpMap) :
    matchRtx sdp rtxMap internalMap = (lookupOf rtxMap internalMap).map fun lookups => lookups.foldl resolve sdp := by
  unfold matchRtx lookupOf
  split_ifs
  · cases rtxMap.formatParameters[associatedPt]? with
    | none => cases internalMap.formatParameters[associatedPt]? <;> rfl
    | some parsedApt =>
        cases internalMap.formatParameters[associatedPt]? with
        | none => rfl
        | some internalApt =>
            simp only
            cases stoul internalApt with
            | none => rfl
            | some internalAptPt => cases stoul parsedApt <;> rfl
  · rfl

@[simp] theorem resolve_internalPayloadVector (sdp : SdpInfo) (lookup : Lookup) :
    (resolve sdp lookup).internalPayloadVector = sdp.internalPayloadVector := by
  unfold resolve mapRtx
  simp only
  split_ifs <;> simp [mapPayloadTypes]

@[simp] theorem foldl_resolve_internalPayloadVector (sdp : SdpInfo) (lookups : List Lookup) :
    (lookups.foldl resolve sdp).internalPayloadVector = sdp.internalPayloadVector := by
  induction lookups generalizing sdp with
  | nil => rfl
  | cons lookup lookups ih => rw [List.foldl_cons, ih, resolve_internalPayloadVector]

/-- The loop over the internal codecs, for an `rtx` codec. -/
theorem foldlM_matchRtx (rtxMap : RtpMap) (internal : List RtpMap) (sdp : SdpInfo) :
    internal.foldlM (fun sdp internalMap => matchRtx sdp rtxMap internalMap) sdp =
      (internal.mapM (lookupOf rtxMap)).map fun lookups => lookups.flatten.foldl resolve sdp := by
  induction internal generalizing sdp with
  | nil => rfl
  | cons internalMap internal ih =>
      rw [List.foldlM_cons, matchRtx_eq, List.mapM_cons]
      cases lookupOf rtxMap internalMap with
      | none => rfl
      | some lookups =>
          refine (ih _).trans ?_
          cases internal.mapM (lookupOf rtxMap) with
          | none => rfl
          | some more => simp

/-- **The loops over the `rtx` codecs.** -/
theorem matchRtxs_eq (sdp : SdpInfo) (rtxMaps : List RtpMap) :
    matchRtxs sdp rtxMaps = (lookupsOf sdp.internalPayloadVector rtxMaps).map fun lookups => lookups.foldl resolve sdp := by
  induction rtxMaps generalizing sdp with
  | nil => rfl
  | cons rtxMap rtxMaps ih =>
      rw [matchRtxs, List.foldlM_cons, foldlM_matchRtx, lookupsOf]
      cases sdp.internalPayloadVector.mapM (lookupOf rtxMap) with
      | none => rfl
      | some lookups =>
          refine (ih _).trans ?_
          rw [foldl_resolve_internalPayloadVector]
          cases lookupsOf sdp.internalPayloadVector rtxMaps <;> simp

/-- The tables after all codecs that are not `rtx`. -/
theorem tables_foldl_mapCodec (pairs : List (RtpMap × RtpMap)) (sdp : SdpInfo) :
    (pairs.foldl (fun sdp pair => mapCodec sdp pair.1 pair.2) sdp).tables =
      pairs.foldl (fun tables pair => tables.pair pair (addedFor pair)) sdp.tables := by
  induction pairs generalizing sdp with
  | nil => rfl
  | cons pair pairs ih => rw [List.foldl_cons, ih, tables_mapCodec, List.foldl_cons]

/-- How many pairs of a medium there are. -/
def countOf (media : MediaType → Bool) (pairs : List (RtpMap × RtpMap)) : ℤ :=
  pairs.countP fun pair => media pair.2.mediaType

/-- Whether a codec is counted as video. -/
def isVideo (mediaType : MediaType) : Bool := mediaType = .video

/-- Whether a codec is of audio. -/
def isAudio (mediaType : MediaType) : Bool := mediaType = .audio

theorem countOf_cons (media : MediaType → Bool) (pair : RtpMap × RtpMap) (pairs : List (RtpMap × RtpMap)) :
    countOf media (pair :: pairs) = countOf media pairs + if media pair.2.mediaType then 1 else 0 := by
  rw [countOf, List.countP_cons, countOf]
  split_ifs <;> simp

/-- The tables after pairs that add something each. -/
theorem foldl_pair (added : RtpMap × RtpMap → List RtpMap) (pairs : List (RtpMap × RtpMap)) (tables : Tables) :
    pairs.foldl (fun tables pair => tables.pair pair (added pair)) tables =
      ⟨tables.payloadVector ++ pairs.flatMap added, tables.videoCodecs + countOf isVideo pairs,
        tables.audioCodecs + countOf (fun media => !isVideo media) pairs,
        Table.fill (fun pair => pair.1.payloadType) (fun pair => pair.2.payloadType) tables.inOutPTMap pairs,
        Table.fill (fun pair => pair.2.payloadType) (fun pair => pair.1.payloadType) tables.outInPTMap pairs⟩ := by
  induction pairs generalizing tables with
  | nil => simp [countOf]
  | cons pair pairs ih =>
      rw [List.foldl_cons, ih, countOf_cons, countOf_cons]
      by_cases video : pair.2.mediaType = .video <;>
        simp [Tables.pair, isVideo, video, add_assoc, add_comm (countOf _ _)]

/-! ### What the `rtx` codecs do to the tables -/

/-- Reading through `operator[]` gives 0 where there is nothing, and leaves it there. -/
theorem getElem?_insertIfNew_zero (table : PayloadTypeMap) (read asked : UInt32) :
    (table.insertIfNew read 0)[asked]? = if read = asked then some ((table[asked]?).getD 0) else table[asked]? := by
  rw [Std.ExtTreeMap.getElem?_insertIfNew]
  by_cases here : read = asked
  · rw [if_pos here, here]
    cases found : table[asked]? with
    | none => simpa using found
    | some value =>
        have member : asked ∈ table := Std.ExtTreeMap.mem_iff_isSome_getElem?.mpr (by rw [found]; rfl)
        simp [member]
  · simp [here]

/-- The tables after a lookup. -/
theorem tables_resolve (sdp : SdpInfo) (lookup : Lookup) : (resolve sdp lookup).tables =
    let read : Tables := { sdp.tables with outInPTMap := sdp.outInPTMap.insertIfNew lookup.parsedApt 0 }
    if (sdp.outInPTMap[lookup.parsedApt]?).getD 0 = lookup.internalApt then
      read.pair (lookup.internalMap, lookup.rtxMap) [lookup.rtxMap]
    else read := by
  unfold resolve mapRtx
  simp only [getElem?_insertIfNew_zero, if_true, Option.some_inj]
  split_ifs <;> simp_all [tables, Tables.pair, mapPayloadTypes]

/-- What the lookups leave of the map to internal payload types: the pairs are entered, and what is looked up
has an entry. -/
structure Resolved (partner : UInt32 → UInt32) (lookups : List Lookup) (before after : PayloadTypeMap) : Prop where
  pair : ∀ external, (∃ pair ∈ rtxPairs partner lookups, pair.2.payloadType = external ∧
      after[external]? = some pair.1.payloadType) ∨ ∀ pair ∈ rtxPairs partner lookups, pair.2.payloadType ≠ external
  read : ∀ external, (∀ pair ∈ rtxPairs partner lookups, pair.2.payloadType ≠ external) →
    (∃ lookup ∈ lookups, lookup.parsedApt = external) → after[external]? = some (partner external)
  other : ∀ external, (∀ pair ∈ rtxPairs partner lookups, pair.2.payloadType ≠ external) →
    (∀ lookup ∈ lookups, lookup.parsedApt ≠ external) → after[external]? = before[external]?
  partners : partnersIn after = partnerOf partner (rtxPairs partner lookups)

section Resolved

variable {partner : UInt32 → UInt32} {lookup : Lookup} {lookups : List Lookup} {before next after : PayloadTypeMap}

theorem rtxPairs_matched (matched : partner lookup.parsedApt = lookup.internalApt) :
    rtxPairs partner (lookup :: lookups) = (lookup.internalMap, lookup.rtxMap) ::
      rtxPairs (Function.update partner lookup.rtxMap.payloadType lookup.internalMap.payloadType) lookups := if_pos matched

theorem rtxPairs_unmatched (unmatched : partner lookup.parsedApt ≠ lookup.internalApt) :
    rtxPairs partner (lookup :: lookups) = rtxPairs partner lookups := if_neg unmatched

/-- A lookup that matches, before others. -/
theorem Resolved.matched (matched : partner lookup.parsedApt = lookup.internalApt)
    (entered : next[lookup.rtxMap.payloadType]? = some lookup.internalMap.payloadType)
    (elsewhere : ∀ external, lookup.rtxMap.payloadType ≠ external →
      next[external]? = if lookup.parsedApt = external then some (partner external) else before[external]?)
    (rest : Resolved
      (Function.update partner lookup.rtxMap.payloadType lookup.internalMap.payloadType) lookups next after) :
    Resolved partner (lookup :: lookups) before after := by
  constructor
  · intro external
    rw [rtxPairs_matched matched]
    rcases rest.pair external with ⟨pair, member, found⟩ | none
    · exact Or.inl ⟨pair, List.mem_cons_of_mem _ member, found⟩
    · by_cases here : lookup.rtxMap.payloadType = external
      · refine Or.inl ⟨_, List.mem_cons_self, here, ?_⟩
        by_cases again : ∃ later ∈ lookups, later.parsedApt = external
        · rw [rest.read external none again, ← here, Function.update_self]
        · push Not at again
          rw [rest.other external none again, ← here, entered]
      · exact Or.inr (List.forall_mem_cons.mpr ⟨here, none⟩)
  · intro external none asked
    rw [rtxPairs_matched matched, List.forall_mem_cons] at none
    by_cases again : ∃ later ∈ lookups, later.parsedApt = external
    · rw [rest.read external none.2 again, Function.update_of_ne none.1.symm]
    · obtain ⟨asking, member, apt⟩ := asked
      rcases List.mem_cons.mp member with rfl | later
      · push Not at again
        rw [rest.other external none.2 again, elsewhere external none.1, if_pos apt]
      · exact absurd ⟨asking, later, apt⟩ again
  · intro external none asked
    rw [rtxPairs_matched matched, List.forall_mem_cons] at none
    rw [List.forall_mem_cons] at asked
    rw [rest.other external none.2 asked.2, elsewhere external none.1, if_neg asked.1]
  · rw [rtxPairs_matched matched]
    exact rest.partners

/-- A lookup that does not match, before others. -/
theorem Resolved.unmatched (unmatched : partner lookup.parsedApt ≠ lookup.internalApt)
    (elsewhere : ∀ external,
      next[external]? = if lookup.parsedApt = external then some (partner external) else before[external]?)
    (rest : Resolved partner lookups next after) : Resolved partner (lookup :: lookups) before after := by
  constructor
  · intro external
    rw [rtxPairs_unmatched unmatched]
    exact rest.pair external
  · intro external none asked
    rw [rtxPairs_unmatched unmatched] at none
    by_cases again : ∃ later ∈ lookups, later.parsedApt = external
    · exact rest.read external none again
    · obtain ⟨asking, member, apt⟩ := asked
      rcases List.mem_cons.mp member with rfl | later
      · push Not at again
        rw [rest.other external none again, elsewhere external, if_pos apt]
      · exact absurd ⟨asking, later, apt⟩ again
  · intro external none asked
    rw [rtxPairs_unmatched unmatched] at none
    rw [List.forall_mem_cons] at asked
    rw [rest.other external none asked.2, elsewhere external, if_neg asked.1]
  · rw [rtxPairs_unmatched unmatched]
    exact rest.partners

end Resolved

/-- **The tables after the lookups.** -/
theorem foldl_resolve (lookups : List Lookup) (sdp : SdpInfo) (partner : UInt32 → UInt32)
    (known : partnersIn sdp.outInPTMap = partner) :
    ∃ outIn, (lookups.foldl resolve sdp).tables =
        ⟨sdp.payloadVector ++ (rtxPairs partner lookups).map Prod.snd,
          sdp.videoCodecs + countOf isVideo (rtxPairs partner lookups),
          sdp.audioCodecs + countOf (fun media => !isVideo media) (rtxPairs partner lookups),
          Table.fill (fun pair => pair.1.payloadType) (fun pair => pair.2.payloadType) sdp.inOutPTMap
            (rtxPairs partner lookups), outIn⟩ ∧
      Resolved partner lookups sdp.outInPTMap outIn := by
  induction lookups generalizing sdp partner with
  | nil =>
      refine ⟨sdp.outInPTMap, ?_, fun _ => Or.inr fun _ member => absurd member List.not_mem_nil, ?_,
        fun _ _ _ => rfl, known⟩
      · simp [rtxPairs, countOf, tables]
      · rintro external _ ⟨lookup, member, _⟩
        exact absurd member List.not_mem_nil
  | cons lookup lookups ih =>
      have step := tables_resolve sdp lookup
      have known : ∀ external, (sdp.outInPTMap[external]?).getD 0 = partner external := fun external =>
        congrFun known external
      have read : ∀ external, (sdp.outInPTMap.insertIfNew lookup.parsedApt 0)[external]? =
          if lookup.parsedApt = external then some (partner external) else sdp.outInPTMap[external]? := by
        intro external
        rw [getElem?_insertIfNew_zero, known]
      rw [known] at step
      have known' : ∀ external, (if lookup.parsedApt = external then some (partner external)
          else sdp.outInPTMap[external]?).getD 0 = partner external := by
        intro external
        split_ifs
        · rfl
        · exact known external
      by_cases matched : partner lookup.parsedApt = lookup.internalApt
      · rw [if_pos matched] at step
        have next : ∀ external, (resolve sdp lookup).outInPTMap[external]? =
            if lookup.rtxMap.payloadType = external then some lookup.internalMap.payloadType
            else if lookup.parsedApt = external then some (partner external) else sdp.outInPTMap[external]? := by
          intro external
          refine (congrArg (fun tables : Tables => tables.outInPTMap[external]?) step).trans ?_
          rw [Tables.pair, Table.getElem?_insert_eq, read]
        obtain ⟨outIn, after, rest⟩ := ih (resolve sdp lookup)
          (Function.update partner lookup.rtxMap.payloadType lookup.internalMap.payloadType) <| funext fun external => by
            rw [partnersIn, next, Function.update_apply]
            by_cases here : lookup.rtxMap.payloadType = external
            · rw [if_pos here, if_pos here.symm, Option.getD_some]
            · rw [if_neg here, if_neg (Ne.symm here), known']
        refine ⟨outIn, ?_, rest.matched matched (by rw [next, if_pos rfl]) fun external elsewhere => ?_⟩
        · have payloads := congrArg Tables.payloadVector step
          have videos := congrArg Tables.videoCodecs step
          have audios := congrArg Tables.audioCodecs step
          have inOut := congrArg Tables.inOutPTMap step
          rw [List.foldl_cons, after, rtxPairs_matched matched, countOf_cons, countOf_cons, Table.fill_cons]
          simp only [tables, Tables.pair] at payloads videos audios inOut
          rw [payloads, videos, audios, inOut, List.map_cons, List.append_assoc, List.singleton_append]
          by_cases video : lookup.rtxMap.mediaType = .video <;>
            simp [isVideo, video, add_assoc, add_comm (countOf _ _)]
        · rw [next, if_neg elsewhere]
      · rw [if_neg matched] at step
        have next : ∀ external, (resolve sdp lookup).outInPTMap[external]? =
            if lookup.parsedApt = external then some (partner external) else sdp.outInPTMap[external]? := by
          intro external
          exact (congrArg (fun tables : Tables => tables.outInPTMap[external]?) step).trans (read external)
        obtain ⟨outIn, after, rest⟩ := ih (resolve sdp lookup) partner <| funext fun external => by
          rw [partnersIn, next, known']
        refine ⟨outIn, ?_, rest.unmatched matched next⟩
        have payloads := congrArg Tables.payloadVector step
        have videos := congrArg Tables.videoCodecs step
        have audios := congrArg Tables.audioCodecs step
        have inOut := congrArg Tables.inOutPTMap step
        simp only [tables] at payloads videos audios inOut
        rw [List.foldl_cons, after, rtxPairs_unmatched matched, payloads, videos, audios, inOut]

/-! ### The tables after a negotiation -/

/-- The internal payload types, read from the map of the pairs. -/
theorem partnersIn_fill (pairs : List (RtpMap × RtpMap)) (table : PayloadTypeMap) :
    partnersIn (Table.fill (fun pair => pair.2.payloadType) (fun pair => pair.1.payloadType) table pairs) =
      partnerOf (partnersIn table) pairs := by
  induction pairs generalizing table with
  | nil => rfl
  | cons pair pairs ih =>
      refine (ih _).trans (congrArg (partnerOf · pairs) (funext fun asked => ?_))
      simp only [partnersIn, Table.getElem?_insert_eq, Function.update_apply]
      by_cases here : pair.2.payloadType = asked
      · rw [if_pos here, if_pos here.symm, Option.getD_some]
      · rw [if_neg here, if_neg (Ne.symm here)]

/-- The map to internal payload types once the pairs of codecs are entered. -/
def codecsEntered (sdp : SdpInfo) : PayloadTypeMap :=
  Table.fill (fun pair => pair.2.payloadType) (fun pair => pair.1.payloadType) sdp.outInPTMap
    (codecPairs sdp.internalPayloadVector sdp.parsedCodecs)

/-- The pairs a description negotiates, from the payload types it has mapped. -/
def pairsFrom (sdp : SdpInfo) (lookups : List Lookup) : List (RtpMap × RtpMap) :=
  codecPairs sdp.internalPayloadVector sdp.parsedCodecs ++ rtxPairs (partnersIn sdp.codecsEntered) lookups

/-- The payload tables agree with each other. -/
structure Consistent (tables : Tables) : Prop where
  distinct : (tables.payloadVector.map RtpMap.payloadType).Nodup
  inverse : ∀ internal external : UInt32, tables.inOutPTMap[internal]? = some external ↔
    tables.outInPTMap[external]? = some internal
  present : ∀ external : UInt32, (∃ internal : UInt32, tables.inOutPTMap[internal]? = some external) ↔
    ∃ codec ∈ tables.payloadVector, codec.payloadType = external
  videoCodecs : tables.videoCodecs = tables.payloadVector.countP fun codec => isVideo codec.mediaType
  audioCodecs : tables.audioCodecs = tables.payloadVector.countP fun codec => isAudio codec.mediaType

/-- The pairs of codecs are one to one, each is of audio or video and added, and every payload type that is
looked up belongs to one of them. -/
structure OneToOne (internal parsed : List RtpMap) (lookups : List Lookup) : Prop where
  format : ∀ pair ∈ codecPairs internal parsed, formatMatches pair.1 pair.2 = true
  media : ∀ pair ∈ allPairs internal parsed lookups, pair.2.mediaType ≠ .other
  internals : ((allPairs internal parsed lookups).map fun pair => pair.1.payloadType).Nodup
  externals : ((allPairs internal parsed lookups).map fun pair => pair.2.payloadType).Nodup
  looked : ∀ lookup ∈ lookups, ∃ pair ∈ allPairs internal parsed lookups, pair.2.payloadType = lookup.parsedApt

/-- The tables a negotiation fills from nothing. -/
structure Filled (internal parsed : List RtpMap) (lookups : List Lookup) (tables : Tables) : Prop where
  payloadVector : tables.payloadVector = (codecPairs internal parsed).flatMap addedFor ++
    (rtxPairs (partnerOf (partnersIn ∅) (codecPairs internal parsed)) lookups).map Prod.snd
  videoCodecs : tables.videoCodecs = countOf isVideo (allPairs internal parsed lookups)
  audioCodecs : tables.audioCodecs = countOf (fun media => !isVideo media) (allPairs internal parsed lookups)
  inOut : tables.inOutPTMap = Table.fill (fun pair => pair.1.payloadType) (fun pair => pair.2.payloadType) ∅
    (allPairs internal parsed lookups)
  outIn : ∀ external, (∃ pair ∈ allPairs internal parsed lookups, pair.2.payloadType = external ∧
      tables.outInPTMap[external]? = some pair.1.payloadType) ∨
    (∀ pair ∈ allPairs internal parsed lookups, pair.2.payloadType ≠ external) ∧
      ((∃ lookup ∈ lookups, lookup.parsedApt = external) ∧ tables.outInPTMap[external]? = some 0 ∨
        (∀ lookup ∈ lookups, lookup.parsedApt ≠ external) ∧ tables.outInPTMap[external]? = none)

@[simp] theorem foldl_mapCodec_internalPayloadVector (pairs : List (RtpMap × RtpMap)) (sdp : SdpInfo) :
    (pairs.foldl (fun sdp pair => mapCodec sdp pair.1 pair.2) sdp).internalPayloadVector = sdp.internalPayloadVector := by
  induction pairs generalizing sdp with
  | nil => rfl
  | cons pair pairs ih => rw [List.foldl_cons, ih, mapCodec_internalPayloadVector]

theorem countOf_append (media : MediaType → Bool) (first second : List (RtpMap × RtpMap)) :
    countOf media (first ++ second) = countOf media first + countOf media second := by
  simp [countOf]

/-- **What a negotiation does** to the tables. -/
theorem negotiated {sdp next : SdpInfo} (result : matchRtxs (matchCodecs sdp).1 (matchCodecs sdp).2 = some next) :
    ∃ lookups outIn,
      lookupsOf sdp.internalPayloadVector (rtxCodecs sdp.internalPayloadVector sdp.parsedCodecs) = some lookups ∧
      next.tables = ⟨sdp.payloadVector ++ (codecPairs sdp.internalPayloadVector sdp.parsedCodecs).flatMap addedFor ++
          (rtxPairs (partnersIn sdp.codecsEntered) lookups).map Prod.snd,
        sdp.videoCodecs + countOf isVideo (sdp.pairsFrom lookups),
        sdp.audioCodecs + countOf (fun media => !isVideo media) (sdp.pairsFrom lookups),
        Table.fill (fun pair => pair.1.payloadType) (fun pair => pair.2.payloadType) sdp.inOutPTMap (sdp.pairsFrom lookups),
        outIn⟩ ∧
      Resolved (partnersIn sdp.codecsEntered) lookups sdp.codecsEntered outIn := by
  rw [matchCodecs_eq, matchRtxs_eq, foldl_mapCodec_internalPayloadVector] at result
  obtain ⟨lookups, looked, rfl⟩ := Option.map_eq_some_iff.mp result
  have codecs := tables_foldl_mapCodec (codecPairs sdp.internalPayloadVector sdp.parsedCodecs) sdp
  rw [foldl_pair] at codecs
  generalize (codecPairs sdp.internalPayloadVector sdp.parsedCodecs).foldl
    (fun sdp pair => mapCodec sdp pair.1 pair.2) sdp =
    matched at codecs
  obtain ⟨payloads, videos, audios, inOut, outIn⟩ := Tables.mk.inj codecs
  obtain ⟨after, tables, resolved⟩ := foldl_resolve lookups matched (partnersIn sdp.codecsEntered)
    (congrArg partnersIn outIn)
  rw [payloads, videos, audios, inOut, add_assoc, add_assoc, ← countOf_append, ← countOf_append,
    ← Table.fill_append] at tables
  rw [outIn] at resolved
  exact ⟨lookups, after, looked, tables, resolved⟩

/-- What a negotiation does to empty tables. -/
theorem filled {sdp : SdpInfo} (empty : sdp.tables = ⟨[], 0, 0, ∅, ∅⟩) {rtxMatched : SdpInfo}
    (result : matchRtxs (matchCodecs sdp).1 (matchCodecs sdp).2 = some rtxMatched) :
    ∃ lookups, lookupsOf sdp.internalPayloadVector (rtxCodecs sdp.internalPayloadVector sdp.parsedCodecs) = some lookups ∧
      Filled sdp.internalPayloadVector sdp.parsedCodecs lookups rtxMatched.tables := by
  obtain ⟨lookups, outIn, looked, tables, resolved⟩ := negotiated result
  refine ⟨lookups, looked, ?_⟩
  obtain ⟨noPayloads, noVideos, noAudios, noInOut, noOutIn⟩ := Tables.mk.inj empty
  have entered : sdp.codecsEntered = Table.fill (fun pair => pair.2.payloadType) (fun pair => pair.1.payloadType) ∅
      (codecPairs sdp.internalPayloadVector sdp.parsedCodecs) := by
    rw [codecsEntered, noOutIn]
  have pairs : sdp.pairsFrom lookups = allPairs sdp.internalPayloadVector sdp.parsedCodecs lookups := by
    rw [pairsFrom, allPairs, entered, partnersIn_fill]
  rw [pairs, noPayloads, noVideos, noAudios, noInOut, List.nil_append, zero_add, zero_add] at tables
  rw [entered, partnersIn_fill] at resolved tables
  rw [tables]
  refine ⟨rfl, rfl, rfl, rfl, fun external => ?_⟩
  rcases resolved.pair external with ⟨pair, member, found⟩ | none
  · exact Or.inl ⟨pair, List.mem_append_right _ member, found⟩
  · have partner := congrFun (partnersIn_fill (codecPairs sdp.internalPayloadVector sdp.parsedCodecs) ∅) external
    have asked := resolved.read external none
    have unasked := resolved.other external none
    rcases Table.fill_cases (fun pair : RtpMap × RtpMap => pair.2.payloadType) (fun pair => pair.1.payloadType)
      (∅ : PayloadTypeMap) (codecPairs sdp.internalPayloadVector sdp.parsedCodecs) external with
      ⟨pair, member, here, found⟩ | ⟨other, found⟩
    · refine Or.inl ⟨pair, List.mem_append_left _ member, here, ?_⟩
      rw [partnersIn, found] at partner
      rw [found] at unasked
      by_cases looked : ∃ lookup ∈ lookups, lookup.parsedApt = external
      · rw [asked looked, ← partner, Option.getD_some]
      · push Not at looked
        exact unasked looked
    · rw [partnersIn, found, Std.ExtTreeMap.getElem?_empty] at partner
      rw [found, Std.ExtTreeMap.getElem?_empty] at unasked
      refine Or.inr ⟨List.forall_mem_append.mpr ⟨other, none⟩, ?_⟩
      by_cases looked : ∃ lookup ∈ lookups, lookup.parsedApt = external
      · refine Or.inl ⟨looked, ?_⟩
        rw [asked looked, ← partner, Option.getD_none]
      · push Not at looked
        exact Or.inr ⟨looked, unasked looked⟩

/-! ### When the tables are consistent -/

section Counting

variable {α : Type*} (condition other : α → Bool)

/-- As many elements meet two conditions as one of them just when the other follows. -/
theorem countP_and_eq_iff (list : List α) :
    list.countP (fun element => condition element && other element) = list.countP condition ↔
      ∀ element ∈ list, condition element = true → other element = true := by
  have both : list.countP (fun element => condition element && other element) = (list.filter condition).countP other := by
    rw [List.countP_filter]
    simp only [Bool.and_comm]
  rw [both, List.countP_eq_length_filter (p := condition), List.countP_eq_length]
  simp only [List.mem_filter, and_imp]

/-- At most as many elements meet two conditions as one of them. -/
theorem countP_and_le (list : List α) :
    list.countP (fun element => condition element && other element) ≤ list.countP condition :=
  List.countP_mono_left fun _ _ both => (Bool.and_eq_true_iff.mp both).1

end Counting

/-- How many of the added codecs are of a medium. -/
theorem countP_added (media : MediaType → Bool) (pairs : List (RtpMap × RtpMap)) :
    (pairs.flatMap addedFor).countP (fun codec => media codec.mediaType) =
      pairs.countP fun pair => media pair.2.mediaType && formatMatches pair.1 pair.2 := by
  induction pairs with
  | nil => rfl
  | cons pair pairs ih =>
      rw [List.flatMap_cons, List.countP_append, List.countP_cons, ih, addedFor, add_comm]
      cases formatMatches pair.1 pair.2 <;> simp [negotiatedMap]

/-- Where the formats match, every pair adds its codec. -/
theorem flatMap_addedFor {pairs : List (RtpMap × RtpMap)} (format : ∀ pair ∈ pairs, formatMatches pair.1 pair.2 = true) :
    pairs.flatMap addedFor = pairs.map fun pair => negotiatedMap pair.1 pair.2 := by
  rw [List.map_eq_flatMap]
  exact List.flatMap_congr fun pair member => if_pos (format pair member)

section Consistency

variable {internal parsed : List RtpMap} {lookups : List Lookup} {tables : Tables}

/-- The counters tell the truth just when every pair is added and of audio or video. -/
theorem Filled.counted_iff (filled : Filled internal parsed lookups tables) :
    (tables.videoCodecs = tables.payloadVector.countP (fun codec => isVideo codec.mediaType) ∧
      tables.audioCodecs = tables.payloadVector.countP fun codec => isAudio codec.mediaType) ↔
    (∀ pair ∈ codecPairs internal parsed, formatMatches pair.1 pair.2 = true) ∧
      ∀ pair ∈ allPairs internal parsed lookups, pair.2.mediaType ≠ .other := by
  -- a codec is counted as video or else as audio, and an audio codec is not video
  have split : ∀ media : MediaType, isAudio media = (!isVideo media && isAudio media) := by
    intro media
    cases media <;> rfl
  have other : ∀ media : MediaType, (isVideo media = false → isAudio media = true) ↔ media ≠ .other := by
    intro media
    cases media <;> decide
  rw [filled.payloadVector, filled.videoCodecs, filled.audioCodecs, List.countP_append, List.countP_append, countP_added,
    countP_added, List.countP_map, List.countP_map, allPairs, countOf, countOf, List.countP_append, List.countP_append]
  generalize codecPairs internal parsed = pairs
  generalize rtxPairs (partnerOf (partnersIn ∅) pairs) lookups = others
  have videos := countP_and_eq_iff (fun pair : RtpMap × RtpMap => isVideo pair.2.mediaType)
    (fun pair => formatMatches pair.1 pair.2) pairs
  have audios := countP_and_eq_iff (fun pair : RtpMap × RtpMap => !isVideo pair.2.mediaType)
    (fun pair => isAudio pair.2.mediaType && formatMatches pair.1 pair.2) pairs
  have rest := countP_and_eq_iff (fun pair : RtpMap × RtpMap => !isVideo pair.2.mediaType)
    (fun pair => isAudio pair.2.mediaType) others
  have audiosLe := countP_and_le (fun pair : RtpMap × RtpMap => !isVideo pair.2.mediaType)
    (fun pair => isAudio pair.2.mediaType && formatMatches pair.1 pair.2) pairs
  have restLe := countP_and_le (fun pair : RtpMap × RtpMap => !isVideo pair.2.mediaType)
    (fun pair => isAudio pair.2.mediaType) others
  simp only [← Bool.and_assoc, ← split] at audios rest audiosLe restLe
  simp only [Function.comp_def, Bool.not_eq_true', Bool.and_eq_true] at videos audios rest ⊢
  constructor
  · rintro ⟨video, audio⟩
    have one := videos.mp (by omega)
    have two := audios.mp (by omega)
    have three := rest.mp (by omega)
    refine ⟨fun pair member => ?_, fun pair member => (other _).mp fun notVideo => ?_⟩
    · cases media : isVideo pair.2.mediaType with
      | true => exact one pair member media
      | false => exact (two pair member media).2
    · rcases List.mem_append.mp member with here | there
      · exact (two pair here notVideo).1
      · exact three pair there notVideo
  · rintro ⟨format, media⟩
    have one := videos.mpr fun pair member _ => format pair member
    have two := audios.mpr fun pair member notVideo =>
      ⟨(other _).mpr (media pair (List.mem_append_left _ member)) notVideo, format pair member⟩
    have three := rest.mpr fun pair member => (other _).mpr (media pair (List.mem_append_right _ member))
    omega

/-- Where every pair is added, the payload types are the external ones of the pairs. -/
theorem Filled.payloadTypes (filled : Filled internal parsed lookups tables)
    (format : ∀ pair ∈ codecPairs internal parsed, formatMatches pair.1 pair.2 = true) :
    tables.payloadVector.map RtpMap.payloadType = (allPairs internal parsed lookups).map fun pair =>
      pair.2.payloadType := by
  rw [filled.payloadVector, flatMap_addedFor format, allPairs, List.map_append, List.map_map, List.map_map, List.map_append]
  rfl

/-- Where the external payload types are distinct, each has the internal one of its pair. -/
theorem Filled.outIn_of_mem (filled : Filled internal parsed lookups tables)
    (externals : ((allPairs internal parsed lookups).map fun pair => pair.2.payloadType).Nodup)
    {pair : RtpMap × RtpMap} (member : pair ∈ allPairs internal parsed lookups) :
    tables.outInPTMap[pair.2.payloadType]? = some pair.1.payloadType := by
  rcases filled.outIn pair.2.payloadType with ⟨found, there, same, read⟩ | ⟨absent, _⟩
  · rwa [List.inj_on_of_nodup_map externals there member same] at read
  · exact absurd rfl (absent pair member)

/-- **When the filled tables are consistent.** -/
theorem Filled.consistent_iff (filled : Filled internal parsed lookups tables) :
    Consistent tables ↔ OneToOne internal parsed lookups := by
  constructor
  · intro consistent
    obtain ⟨format, media⟩ := filled.counted_iff.mp ⟨consistent.videoCodecs, consistent.audioCodecs⟩
    have externals := consistent.distinct
    rw [filled.payloadTypes format] at externals
    have inOut : ∀ pair ∈ allPairs internal parsed lookups, tables.inOutPTMap[pair.1.payloadType]? =
      some pair.2.payloadType :=
      fun pair member => (consistent.inverse _ _).mpr (filled.outIn_of_mem externals member)
    refine ⟨format, media, ?_, externals, fun lookup member => ?_⟩
    · refine List.Nodup.map_on (fun first here second there same => ?_) (List.Nodup.of_map _ externals)
      have read := inOut second there
      rw [← same, inOut first here] at read
      exact List.inj_on_of_nodup_map externals here there (Option.some_injective _ read)
    · rcases filled.outIn lookup.parsedApt with ⟨pair, there, same, _⟩ | ⟨absent, ⟨_, zero⟩ | ⟨unasked, _⟩⟩
      · exact ⟨pair, there, same⟩
      · -- the entry that reading left is in no other table
        obtain ⟨codec, added, type⟩ := (consistent.present _).mp ⟨0, (consistent.inverse _ _).mpr zero⟩
        have listed : codec.payloadType ∈ tables.payloadVector.map RtpMap.payloadType := List.mem_map_of_mem added
        rw [filled.payloadTypes format] at listed
        obtain ⟨pair, there, same⟩ := List.mem_map.mp listed
        exact absurd (same.trans type) (absent pair there)
      · exact absurd rfl (unasked lookup member)
  · intro one
    have types := filled.payloadTypes one.format
    obtain ⟨videos, audios⟩ := filled.counted_iff.mpr ⟨one.format, one.media⟩
    have inOut : ∀ internalPt external : UInt32, tables.inOutPTMap[internalPt]? = some external ↔
        ∃ pair ∈ allPairs internal parsed lookups, pair.1.payloadType = internalPt ∧ pair.2.payloadType = external := by
      intro internalPt external
      rw [filled.inOut]
      exact Table.getElem?_fill_iff _ _ one.internals internalPt external
    refine ⟨types ▸ one.externals, fun internalPt external => ?_, fun external => ?_, videos, audios⟩
    · rw [inOut]
      constructor
      · rintro ⟨pair, member, rfl, rfl⟩
        exact filled.outIn_of_mem one.externals member
      · intro read
        rcases filled.outIn external with ⟨pair, member, same, found⟩ | ⟨absent, ⟨⟨lookup, asked, rfl⟩, _⟩ | ⟨_, nothing⟩⟩
        · exact ⟨pair, member, Option.some_injective _ (found.symm.trans read), same⟩
        · obtain ⟨pair, member, same⟩ := one.looked lookup asked
          exact absurd same (absent pair member)
        · rw [nothing] at read
          exact (nomatch read)
    · have listed : (∃ codec ∈ tables.payloadVector, codec.payloadType = external) ↔
          ∃ pair ∈ allPairs internal parsed lookups, pair.2.payloadType = external := by
        rw [← List.mem_map, types, List.mem_map]
      rw [listed]
      constructor
      · rintro ⟨internalPt, read⟩
        obtain ⟨pair, member, _, same⟩ := (inOut internalPt external).mp read
        exact ⟨pair, member, same⟩
      · rintro ⟨pair, member, same⟩
        exact ⟨pair.1.payloadType, (inOut _ _).mpr ⟨pair, member, rfl, same⟩⟩

end Consistency

/-! ### A description, read and negotiated -/

/-- The description whose codecs are negotiated. -/
def completed (sdp : SdpInfo) : SdpInfo := completeCandidates (completeCredentials sdp)

@[simp] theorem completed_tables (sdp : SdpInfo) : (completed sdp).tables = sdp.tables := by
  unfold completed completeCandidates completeCredentials
  split_ifs <;> rfl

@[simp] theorem completed_internalPayloadVector (sdp : SdpInfo) :
    (completed sdp).internalPayloadVector = sdp.internalPayloadVector := by
  unfold completed completeCandidates completeCredentials
  split_ifs <;> rfl

@[simp] theorem completed_parsedCodecs (sdp : SdpInfo) : (completed sdp).parsedCodecs = sdp.parsedCodecs := by
  unfold completed completeCandidates completeCredentials
  split_ifs <;> rfl

/-- A description that is accepted was negotiated. -/
theorem postProcessInfo_true {sdp next : SdpInfo} (accepted : postProcessInfo sdp = some (true, next)) :
    matchRtxs (matchCodecs (completed sdp)).1 (matchCodecs (completed sdp)).2 = some next := by
  unfold postProcessInfo at accepted
  split_ifs at accepted
  · simp at accepted
  · obtain ⟨matched, result, same⟩ := Option.bind_eq_some_iff.mp accepted
    obtain ⟨-, rfl⟩ := Prod.mk.inj (Option.some_injective _ same)
    exact result

/-- The codecs a text lists, in the order of their payload types. -/
def codecsOf (unset : Uninitialised) (updates : List Update) : List RtpMap :=
  (updates.foldl (readCodec unset) ∅).toList.map Prod.snd

/-- **When a negotiation leaves consistent payload tables.** For all internal codecs and every text that is
accepted: just when the pairs of internal codecs and codecs of the text are one to one, each of audio or
video and with matching format parameters, and every payload type an `rtx` codec belongs to is in one. -/
theorem negotiation_consistent_iff (unset : Uninitialised) (internal : List RtpMap) (text media : Text) (sdp : SdpInfo)
    (accepted : processSdp unset (init unset internal) text media = some (true, sdp)) :
    ∃ updates lookups, updatesOfText unset text media = some updates ∧
      lookupsOf internal (rtxCodecs internal (codecsOf unset updates)) = some lookups ∧
      (Consistent sdp.tables ↔ OneToOne internal (codecsOf unset updates) lookups) := by
  rw [processSdp_eq] at accepted
  obtain ⟨read, applied, processed⟩ := Option.bind_eq_some_iff.mp accepted
  obtain ⟨updates, described, result⟩ := Option.bind_eq_some_iff.mp applied
  have tables := applyAll_keeps unset (fun applied => applied.tables) result
  have internals := applyAll_keeps unset (fun applied => applied.internal) result
  have codecs := applyAll_read unset (fun applied => applied.codecs) result
  have negotiated := postProcessInfo_true processed
  obtain ⟨lookups, looked, filled⟩ := filled ((completed_tables read).trans tables) negotiated
  rw [completed_internalPayloadVector, completed_parsedCodecs, internals, parsedCodecs, codecs] at looked filled
  exact ⟨updates, lookups, described, looked, filled.consistent_iff⟩

/-- Memory that holds zeros. -/
def zeros : Uninitialised := ⟨0, .video, 0, false, 0, .sendrecv, .sendrecv⟩

/-- An internal VP8 codec. -/
def vp8 : RtpMap := ⟨100, "VP8".toList, 90000, .video, 1, [], ∅⟩

/-- A description with one VP8 codec. -/
def oneCodec : Text := "m=video\na=ice-ufrag:u\na=rtpmap:96 VP8/90000\n".toList

/-- One codec leaves consistent tables. -/
theorem negotiation_consistent_oneCodec :
    ∃ sdp, processSdp zeros (init zeros [vp8]) oneCodec [] = some (true, sdp) ∧ Consistent sdp.tables := by
  have run : (processSdp zeros (init zeros [vp8]) oneCodec []).map Prod.fst = some true := by decide +kernel
  have read : (updatesOfText zeros oneCodec []).map (codecsOf zeros) =
      some [⟨96, "VP8".toList, 90000, .video, 0, [], ∅⟩] := by decide +kernel
  obtain ⟨⟨result, sdp⟩, processed, accepted⟩ := Option.map_eq_some_iff.mp run
  obtain rfl : result = true := accepted
  obtain ⟨updates, lookups, described, looked, consistent⟩ :=
    negotiation_consistent_iff zeros [vp8] oneCodec [] sdp processed
  rw [described] at read
  rw [Option.some_injective _ read] at looked consistent
  have none : lookups = [] := by
    have nothing : lookupsOf [vp8] (rtxCodecs [vp8] [⟨96, "VP8".toList, 90000, .video, 0, [], ∅⟩]) = some [] := by
      decide +kernel
    exact Option.some_injective _ (looked.symm.trans nothing)
  rw [none] at consistent
  refine ⟨sdp, processed, consistent.mpr ⟨?_, ?_, ?_, ?_, ?_⟩⟩ <;> decide +kernel

/-- A description with two VP8 codecs. -/
def twoCodecs : Text := "m=video\na=ice-ufrag:u\na=rtpmap:96 VP8/90000\na=rtpmap:98 VP8/90000\n".toList

/-- **The tables need not be consistent**: of two codecs that match an internal one, both have its payload
type, which has only that of the second. -/
theorem negotiation_inconsistent_twoCodecs : ¬ ∀ (unset : Uninitialised) (internal : List RtpMap) (text media : Text)
    (sdp : SdpInfo), (internal.map RtpMap.payloadType).Nodup →
      processSdp unset (init unset internal) text media = some (true, sdp) → Consistent sdp.tables := by
  intro always
  have run : (processSdp zeros (init zeros [vp8]) twoCodecs []).map
      (fun result => (result.1, result.2.inOutPTMap[(100 : UInt32)]?, result.2.outInPTMap[(96 : UInt32)]?)) =
        some (true, some 98, some 100) := by decide +kernel
  obtain ⟨⟨result, sdp⟩, processed, read⟩ := Option.map_eq_some_iff.mp run
  simp only [Prod.mk.injEq] at read
  obtain ⟨accepted, inOut, outIn⟩ := read
  obtain rfl : result = true := accepted
  have both := ((always zeros [vp8] twoCodecs [] sdp (by decide) processed).inverse 100 96).mpr outIn
  rw [show sdp.tables.inOutPTMap = sdp.inOutPTMap from rfl, inOut] at both
  exact absurd both (by decide)

end SdpInfo

end Erizo
