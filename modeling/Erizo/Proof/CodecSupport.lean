/-
**What a description says about its codecs.**

`supportCodecByName` goes from the name to the payload type of an internal codec, and looks for it among those that
the external payload types of the negotiated codecs are mapped to. The map is that of the internal ones, though: an
external payload type is read as if it were internal, and one that is missing is entered.

* `supportCodecByName_iff`: the answer is right, and the maps stay as they are, exactly when the external payload types
  lead to it all the same.
-/

import Erizo.Proof.PayloadTables

namespace Erizo

namespace SdpInfo

open Library StringUtil

/-! ### The loop over the negotiated codecs -/

section Loop

variable {payloadType : UInt32} {rtp : RtpMap} {codecs : List RtpMap} {table : PayloadTypeMap}

/-- One after the other, the payload types of codecs are mapped, until one of them is mapped to a payload type. -/
def LeadsTo (table : PayloadTypeMap) (payloadType : UInt32) (codecs : List RtpMap) : Prop :=
  ∃ before codec after, codecs = before ++ codec :: after ∧
    (∀ other ∈ before, other.payloadType ∈ table) ∧ table[codec.payloadType]? = some payloadType

/-- The payload types of codecs are all mapped, and to others than a payload type. -/
def LeadsElsewhere (table : PayloadTypeMap) (payloadType : UInt32) (codecs : List RtpMap) : Prop :=
  ∀ codec ∈ codecs, ∃ other, table[codec.payloadType]? = some other ∧ other ≠ payloadType

/-- Reading an entry leaves the map as it is. -/
theorem insertIfNew_of_mem {key : UInt32} (present : key ∈ table) (entry : UInt32) :
    table.insertIfNew key entry = table := by
  refine Std.ExtTreeMap.ext_getElem? fun asked => ?_
  rw [Std.ExtTreeMap.getElem?_insertIfNew, if_neg fun both => both.2 present]

/-- What the loop reads is there afterwards. -/
theorem mem_lookUpPayloadTypes {key : UInt32} (present : key ∈ table) :
    key ∈ (lookUpPayloadTypes payloadType codecs table).1 := by
  induction codecs generalizing table with
  | nil => exact present
  | cons rtp codecs ih =>
      have read : key ∈ table.insertIfNew rtp.payloadType 0 := Std.ExtTreeMap.mem_insertIfNew.mpr (Or.inr present)
      rw [lookUpPayloadTypes]
      split_ifs
      · exact read
      · exact ih read

/-- A round of the loop that finds its entry. -/
theorem lookUpPayloadTypes_of_mem (present : rtp.payloadType ∈ table) :
    lookUpPayloadTypes payloadType (rtp :: codecs) table =
      if table[rtp.payloadType]? = some payloadType then (table, true)
      else lookUpPayloadTypes payloadType codecs table := by
  rw [lookUpPayloadTypes, insertIfNew_of_mem present]

/-- A round of the loop that does not find its entry leaves one. -/
theorem lookUpPayloadTypes_ne (missing : rtp.payloadType ∉ table) :
    (lookUpPayloadTypes payloadType (rtp :: codecs) table).1 ≠ table := by
  intro same
  refine missing (same ▸ ?_)
  have read : rtp.payloadType ∈ table.insertIfNew rtp.payloadType 0 := Std.ExtTreeMap.mem_insertIfNew_self
  rw [lookUpPayloadTypes]
  split_ifs
  · exact read
  · exact mem_lookUpPayloadTypes read

theorem leadsTo_cons : LeadsTo table payloadType (rtp :: codecs) ↔
    table[rtp.payloadType]? = some payloadType ∨ rtp.payloadType ∈ table ∧ LeadsTo table payloadType codecs := by
  constructor
  · rintro ⟨before, codec, after, split, mapped, found⟩
    cases before with
    | nil =>
        obtain ⟨rfl, -⟩ := List.cons_eq_cons.mp split
        exact Or.inl found
    | cons first before =>
        obtain ⟨rfl, rest⟩ := List.cons_eq_cons.mp split
        obtain ⟨here, others⟩ := List.forall_mem_cons.mp mapped
        exact Or.inr ⟨here, before, codec, after, rest, others, found⟩
  · rintro (found | ⟨here, before, codec, after, rfl, mapped, found⟩)
    · exact ⟨[], rtp, codecs, rfl, fun _ member => absurd member List.not_mem_nil, found⟩
    · exact ⟨rtp :: before, codec, after, rfl, List.forall_mem_cons.mpr ⟨here, mapped⟩, found⟩

/-- **When the loop finds a payload type** and leaves the map as it is. -/
theorem lookUpPayloadTypes_true_iff :
    lookUpPayloadTypes payloadType codecs table = (table, true) ↔ LeadsTo table payloadType codecs := by
  induction codecs with
  | nil => exact iff_of_false (fun same => by simp [lookUpPayloadTypes] at same) fun ⟨_, _, _, split, _⟩ => by simp at split
  | cons rtp codecs ih =>
      rw [leadsTo_cons]
      by_cases present : rtp.payloadType ∈ table
      · rw [lookUpPayloadTypes_of_mem present, ← ih]
        split_ifs with found
        · exact iff_of_true rfl (Or.inl found)
        · rw [or_iff_right found, and_iff_right present]
      · have missing : table[rtp.payloadType]? ≠ some payloadType := by
          rw [Std.ExtTreeMap.getElem?_eq_none present]
          exact Option.some_ne_none _ ∘ Eq.symm
        refine iff_of_false (fun same => lookUpPayloadTypes_ne present (congrArg Prod.fst same)) ?_
        exact not_or.mpr ⟨missing, fun both => present both.1⟩

/-- **When the loop does not find a payload type** and leaves the map as it is. -/
theorem lookUpPayloadTypes_false_iff :
    lookUpPayloadTypes payloadType codecs table = (table, false) ↔ LeadsElsewhere table payloadType codecs := by
  induction codecs with
  | nil => exact iff_of_true rfl fun _ member => absurd member List.not_mem_nil
  | cons rtp codecs ih =>
      rw [LeadsElsewhere, List.forall_mem_cons, ← LeadsElsewhere, ← ih]
      by_cases present : rtp.payloadType ∈ table
      · obtain ⟨other, read⟩ : ∃ other, table[rtp.payloadType]? = some other :=
          ⟨_, Std.ExtTreeMap.getElem?_eq_some_getElem present⟩
        rw [lookUpPayloadTypes_of_mem present, read]
        by_cases found : other = payloadType <;> simp [found]
      · refine iff_of_false (fun same => lookUpPayloadTypes_ne present (congrArg Prod.fst same)) fun both => ?_
        obtain ⟨other, read, -⟩ := both.1
        rw [Std.ExtTreeMap.getElem?_eq_none present] at read
        exact nomatch read

end Loop

/-! ### The negotiated codecs -/

/-- A codec of a name and clock rate was negotiated. -/
def Negotiated (sdp : SdpInfo) (codecName : Text) (clockRate : UInt32) : Prop :=
  ∃ codec ∈ sdp.payloadVector, codec.encodingName = codecName ∧ codec.clockRate = clockRate

instance (sdp : SdpInfo) (codecName : Text) (clockRate : UInt32) : Decidable (Negotiated sdp codecName clockRate) :=
  inferInstanceAs (Decidable (∃ codec ∈ sdp.payloadVector, codec.encodingName = codecName ∧ codec.clockRate = clockRate))

theorem lookupOf_rtxMap {rtxMap internalMap : RtpMap} {lookups : List Lookup}
    (looked : lookupOf rtxMap internalMap = some lookups) : ∀ lookup ∈ lookups, lookup.rtxMap = rtxMap := by
  unfold lookupOf at looked
  split_ifs at looked
  · split at looked
    · obtain rfl := Option.some.inj looked
      exact fun _ member => absurd member List.not_mem_nil
    · obtain ⟨_, _, onward⟩ := Option.bind_eq_some_iff.mp looked
      obtain ⟨_, _, result⟩ := Option.bind_eq_some_iff.mp onward
      obtain rfl := Option.some.inj result
      exact List.forall_mem_singleton.mpr rfl
    · exact nomatch looked
  · obtain rfl := Option.some.inj looked
    exact fun _ member => absurd member List.not_mem_nil

/-- What is looked up, is looked up for one of the codecs. -/
theorem lookupsOf_rtxMap {internal rtxMaps : List RtpMap} {lookups : List Lookup}
    (looked : lookupsOf internal rtxMaps = some lookups) : ∀ lookup ∈ lookups, lookup.rtxMap ∈ rtxMaps := by
  induction rtxMaps generalizing lookups with
  | nil =>
      obtain rfl := Option.some.inj looked
      exact fun _ member => absurd member List.not_mem_nil
  | cons rtxMap rtxMaps ih =>
      obtain ⟨here, first, onward⟩ := Option.bind_eq_some_iff.mp looked
      obtain ⟨others, rest, result⟩ := Option.bind_eq_some_iff.mp onward
      obtain rfl := Option.some.inj result
      refine List.forall_mem_append.mpr
        ⟨fun lookup member => ?_, fun lookup member => List.mem_cons_of_mem _ (ih rest lookup member)⟩
      obtain ⟨group, found, inside⟩ := List.mem_flatten.mp member
      obtain ⟨internalMap, _, of⟩ := Table.exists_of_mem_mapM first found
      rw [lookupOf_rtxMap of lookup inside]
      exact List.mem_cons_self

/-- The `rtx` codecs of the pairs are those that were looked up. -/
theorem mem_rtxPairs {lookups : List Lookup} {partner : UInt32 → UInt32} {pair : RtpMap × RtpMap}
    (member : pair ∈ rtxPairs partner lookups) : ∃ lookup ∈ lookups, lookup.rtxMap = pair.2 := by
  induction lookups generalizing partner with
  | nil => exact absurd member List.not_mem_nil
  | cons lookup lookups ih =>
      rw [rtxPairs] at member
      split_ifs at member
      · rcases List.mem_cons.mp member with rfl | later
        · exact ⟨lookup, List.mem_cons_self, rfl⟩
        · obtain ⟨other, there, same⟩ := ih later
          exact ⟨other, List.mem_cons_of_mem _ there, same⟩
      · obtain ⟨other, there, same⟩ := ih member
        exact ⟨other, List.mem_cons_of_mem _ there, same⟩

/-- What is added for a pair of codecs has the name and the clock rate of the internal one. -/
theorem sameCodec_of_mem_addedFor {pair : RtpMap × RtpMap} {codec : RtpMap} (same : sameCodec pair.1 pair.2 = true)
    (added : codec ∈ addedFor pair) : sameCodec pair.1 codec = true := by
  rw [addedFor] at added
  split_ifs at added
  · rw [List.mem_singleton.mp added]
    exact same
  · exact absurd added List.not_mem_nil

/-- **A negotiated codec has the name and the clock rate of an internal one.** -/
theorem Filled.exists_internal {internal parsed : List RtpMap} {lookups : List Lookup} {tables : Tables}
    (filled : Filled internal parsed lookups tables)
    (looked : lookupsOf internal (rtxCodecs internal parsed) = some lookups) {codec : RtpMap}
    (member : codec ∈ tables.payloadVector) : ∃ internalMap ∈ internal, sameCodec internalMap codec = true := by
  rw [filled.payloadVector, List.mem_append] at member
  rcases member with added | rtxAdded
  · obtain ⟨pair, listed, added⟩ := List.mem_flatMap.mp added
    obtain ⟨internalMap, known, matched⟩ := List.mem_flatMap.mp listed
    obtain ⟨parsedMap, kept, rfl⟩ := List.mem_map.mp matched
    have same := (of_decide_eq_true (List.mem_filter.mp kept).2).1
    exact ⟨internalMap, known, sameCodec_of_mem_addedFor same added⟩
  · obtain ⟨pair, matched, rfl⟩ := List.mem_map.mp rtxAdded
    obtain ⟨lookup, asked, same⟩ := mem_rtxPairs matched
    obtain ⟨internalMap, known, kept⟩ := List.mem_flatMap.mp (same ▸ lookupsOf_rtxMap looked lookup asked)
    exact ⟨internalMap, known, (of_decide_eq_true (List.mem_filter.mp kept).2).1⟩

/-- **A codec that was negotiated is known internally**, after every description that was accepted. -/
theorem getCodecByName_of_negotiated {unset : Uninitialised} {internal : List RtpMap} {text media : Text} {sdp : SdpInfo}
    (accepted : processSdp unset (init unset internal) text media = some (true, sdp)) {codecName : Text}
    {clockRate : UInt32} (negotiated : sdp.Negotiated codecName clockRate) :
    ∃ rtp, sdp.getCodecByName codecName clockRate = some rtp := by
  obtain ⟨codec, member, rfl, rfl⟩ := negotiated
  rw [processSdp_eq] at accepted
  obtain ⟨read, applied, processed⟩ := Option.bind_eq_some_iff.mp accepted
  obtain ⟨updates, described, result⟩ := Option.bind_eq_some_iff.mp applied
  have tables := applyAll_keeps unset (fun applied => applied.tables) result
  have matched := postProcessInfo_true processed
  have kept : sdp.internalPayloadVector = (completed read).internalPayloadVector := by
    rw [matchCodecs_eq, matchRtxs_eq] at matched
    obtain ⟨lookups, -, rfl⟩ := Option.map_eq_some_iff.mp matched
    rw [foldl_resolve_internalPayloadVector, foldl_mapCodec_internalPayloadVector]
  obtain ⟨lookups, looked, filled⟩ := filled ((completed_tables read).trans tables) matched
  obtain ⟨internalMap, known, same⟩ := filled.exists_internal looked member
  rw [← kept] at known
  obtain ⟨name, clock⟩ := of_decide_eq_true same
  refine Option.isSome_iff_exists.mp (List.find?_isSome.mpr ⟨internalMap, known, ?_⟩)
  exact decide_eq_true ⟨name, clock⟩

/-! ### The answer -/

/-- A description says that a codec is supported exactly when it was negotiated, and is not changed by the question. -/
structure TellsTruth (sdp : SdpInfo) (codecName : Text) (clockRate : UInt32) : Prop where
  answer : (sdp.supportCodecByName codecName clockRate).2 = true ↔ sdp.Negotiated codecName clockRate
  inOut : (sdp.supportCodecByName codecName clockRate).1.inOutPTMap = sdp.inOutPTMap
  outIn : (sdp.supportCodecByName codecName clockRate).1.outInPTMap = sdp.outInPTMap

/-- The external payload types lead to an internal codec when the codec was negotiated, and elsewhere when it was not,
if it is mapped at all. -/
def Leads (sdp : SdpInfo) (rtp : RtpMap) (negotiated : Prop) : Prop :=
  (negotiated → rtp.payloadType ∈ sdp.inOutPTMap ∧ LeadsTo sdp.inOutPTMap rtp.payloadType sdp.payloadVector) ∧
    (¬ negotiated → rtp.payloadType ∈ sdp.inOutPTMap →
      LeadsElsewhere sdp.inOutPTMap rtp.payloadType sdp.payloadVector)

/-- The answer for a payload type. -/
theorem supportPayloadType_iff (sdp : SdpInfo) (rtp : RtpMap) (negotiated : Prop) :
    ((sdp.supportPayloadType rtp.payloadType).2 = true ↔ negotiated) ∧
        (sdp.supportPayloadType rtp.payloadType).1.inOutPTMap = sdp.inOutPTMap ↔ sdp.Leads rtp negotiated := by
  rw [Leads, ← lookUpPayloadTypes_true_iff, ← lookUpPayloadTypes_false_iff, supportPayloadType]
  by_cases mapped : rtp.payloadType ∈ sdp.inOutPTMap
  · rw [if_pos mapped]
    rcases lookUpPayloadTypes rtp.payloadType sdp.payloadVector sdp.inOutPTMap with ⟨table, found⟩
    cases found <;> by_cases known : negotiated <;> simp [mapped, known]
  · rw [if_neg mapped]
    by_cases known : negotiated <;> simp [mapped, known]

/-- **When codec support is told truly**: after every description that is accepted, and for every name and clock rate,
exactly when the external payload types lead to the internal codec, or elsewhere. -/
theorem supportCodecByName_iff {unset : Uninitialised} {internal : List RtpMap} {text media : Text} {sdp : SdpInfo}
    (accepted : processSdp unset (init unset internal) text media = some (true, sdp)) (codecName : Text)
    (clockRate : UInt32) :
    TellsTruth sdp codecName clockRate ↔
      ∀ rtp ∈ sdp.getCodecByName codecName clockRate, sdp.Leads rtp (sdp.Negotiated codecName clockRate) := by
  cases known : sdp.getCodecByName codecName clockRate with
  | none =>
      have other : ¬ sdp.Negotiated codecName clockRate := fun negotiated => by
        obtain ⟨rtp, found⟩ := getCodecByName_of_negotiated accepted negotiated
        exact nomatch known.symm.trans found
      have silent : sdp.supportCodecByName codecName clockRate = (sdp, false) := by rw [supportCodecByName, known]
      refine iff_of_true ⟨?_, ?_, ?_⟩ fun _ impossible => absurd impossible (Option.not_mem_none _)
      · rw [silent]
        exact iff_of_false Bool.false_ne_true other
      · rw [silent]
      · rw [silent]
  | some rtp =>
      have asked : sdp.supportCodecByName codecName clockRate = sdp.supportPayloadType rtp.payloadType := by
        rw [supportCodecByName, known]
      have outIn : (sdp.supportPayloadType rtp.payloadType).1.outInPTMap = sdp.outInPTMap := by
        rw [supportPayloadType]
        split_ifs <;> rfl
      have one : (∀ found ∈ some rtp, sdp.Leads found (sdp.Negotiated codecName clockRate)) ↔
          sdp.Leads rtp (sdp.Negotiated codecName clockRate) := by simp
      rw [one, ← supportPayloadType_iff, ← asked]
      exact ⟨fun truth => ⟨truth.answer, truth.inOut⟩, fun truth => ⟨truth.1, truth.2, by rw [asked, outIn]⟩⟩

/-- Where both sides number VP8 alike, the answer is right. -/
theorem supportCodecByName_iff_alike :
    ∃ sdp, processSdp zeros (init zeros [{ vp8 with payloadType := 96 }]) oneCodec [] = some (true, sdp) ∧
      TellsTruth sdp "VP8".toList 90000 := by
  have run : (processSdp zeros (init zeros [{ vp8 with payloadType := 96 }]) oneCodec []).map
      (fun result => (result.1, (result.2.getCodecByName "VP8".toList 90000).map RtpMap.payloadType,
        result.2.inOutPTMap[(96 : UInt32)]?, result.2.payloadVector.map RtpMap.payloadType,
        decide (result.2.Negotiated "VP8".toList 90000))) = some (true, some 96, some 96, [96], true) := by
    decide +kernel
  obtain ⟨⟨result, sdp⟩, processed, read⟩ := Option.map_eq_some_iff.mp run
  simp only [Prod.mk.injEq] at read
  obtain ⟨accepted, internal, mapped, types, negotiated⟩ := read
  obtain rfl : result = true := accepted
  refine ⟨sdp, processed, (supportCodecByName_iff processed _ _).mpr fun rtp found => ?_⟩
  obtain ⟨codec, one, type⟩ := List.map_eq_singleton_iff.mp types
  rw [Option.mem_def.mp found, Option.map_some, Option.some_inj] at internal
  refine ⟨fun _ => ⟨?_, [], codec, [], one, fun _ member => absurd member List.not_mem_nil, ?_⟩,
    fun other => absurd (of_decide_eq_true negotiated) other⟩
  · rw [internal, Std.ExtTreeMap.mem_iff_isSome_getElem?, mapped]
    rfl
  · rw [type, internal, mapped]

/-- **A codec that was negotiated is denied**, where the two sides number it differently. -/
theorem supportCodecByName_denied : ¬ ∀ (unset : Uninitialised) (internal : List RtpMap) (text media : Text)
    (sdp : SdpInfo), (internal.map RtpMap.payloadType).Nodup →
      processSdp unset (init unset internal) text media = some (true, sdp) →
      ∀ codecName clockRate, TellsTruth sdp codecName clockRate := by
  intro always
  have run : (processSdp zeros (init zeros [vp8]) oneCodec []).map
      (fun result => (result.1, (result.2.supportCodecByName "VP8".toList 90000).2,
        decide (result.2.Negotiated "VP8".toList 90000))) = some (true, false, true) := by decide +kernel
  obtain ⟨⟨result, sdp⟩, processed, read⟩ := Option.map_eq_some_iff.mp run
  simp only [Prod.mk.injEq] at read
  obtain ⟨accepted, denied, negotiated⟩ := read
  obtain rfl : result = true := accepted
  have answer := (always zeros [vp8] oneCodec [] sdp (by decide) processed "VP8".toList 90000).answer
  rw [denied] at answer
  exact Bool.false_ne_true (answer.mpr (of_decide_eq_true negotiated))

end SdpInfo

end Erizo
