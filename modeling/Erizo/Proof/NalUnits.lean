/-
**The frames of an H264 depacketizer are made of NAL units.**

* `safe_iff`: a payload that was cleared is accessed exactly when a run of fragments is interrupted by a single NAL unit
  or by another start fragment.
* `delivered_annexB`: otherwise, and as long as no fragment comes without its start and no aggregate inside a run, what
  is delivered is a sequence of start codes and whole units.
-/

import Erizo.Model.Depacketizer

namespace Erizo

open Library

namespace RtpH264Parser

open RTPPayloadH264

/-! ### What a payload is parsed to -/

/-- **The three kinds of payloads.** What is too short, not handled or not defined is a single unit without bytes. -/
theorem parseH264_cases (payload : List UInt8) :
    ((parseH264 payload).nalType = .single ∧ ((parseH264 payload).data = [] ∨
        (parseH264 payload).data = payload ∧ nalTypeOf (payload.headD 0) ≤ 23)) ∨
      (∃ fuIndicator fuHeader byte rest, payload = fuIndicator :: fuHeader :: byte :: rest ∧ nalTypeOf fuIndicator = 28 ∧
        parseH264 payload = parsePacketFuA payload) ∨
      ∃ nal rest, payload = nal :: rest ∧ nalTypeOf nal = 24 ∧ parseH264 payload = parseAggregatedPacket rest := by
  cases payload with
  | nil => exact Or.inl ⟨rfl, Or.inl rfl⟩
  | cons nal rest =>
      show ((parseH264 (nal :: rest)).nalType = .single ∧ ((parseH264 (nal :: rest)).data = [] ∨
        (parseH264 (nal :: rest)).data = nal :: rest ∧ nalTypeOf nal ≤ 23)) ∨ _
      unfold parseH264
      simp only
      generalize kind : nalTypeOf nal = type
      by_cases plain : 1 ≤ type ∧ type ≤ 23 ∧ type ≠ 5
      · rw [if_pos plain]
        exact Or.inl ⟨rfl, Or.inr ⟨rfl, plain.2.1⟩⟩
      · rw [if_neg plain]
        split_ifs with keyframe through aggregate fragment
        · exact Or.inl ⟨rfl, Or.inr ⟨rfl, by rw [keyframe]; decide⟩⟩
        · exact Or.inl ⟨rfl, Or.inr ⟨rfl, by rcases through with rfl | rfl <;> decide⟩⟩
        · exact Or.inr (Or.inr ⟨nal, rest, rfl, kind.trans aggregate, rfl⟩)
        · match rest with
          | [] => exact Or.inl ⟨rfl, Or.inl rfl⟩
          | [_] => exact Or.inl ⟨rfl, Or.inl rfl⟩
          | fuHeader :: byte :: rest =>
              exact Or.inr (Or.inl ⟨nal, fuHeader, byte, rest, rfl, kind.trans fragment, rfl⟩)
        · exact Or.inl ⟨rfl, Or.inl rfl⟩

/-! ### Aggregates -/

/-- A unit in an aggregate: its size in two bytes, and its bytes. -/
def sized (nal : List UInt8) : List UInt8 :=
  UInt8.ofNat (nal.length / 256) :: UInt8.ofNat (nal.length % 256) :: nal

/-- A stream of units, each behind a start code. -/
def annexB (nals : List (List UInt8)) : List UInt8 := nals.flatMap fun nal => startSequence ++ nal

theorem annexB_append (first second : List (List UInt8)) : annexB (first ++ second) = annexB first ++ annexB second :=
  List.flatMap_append

theorem annexB_singleton (nal : List UInt8) : annexB [nal] = startSequence ++ nal := List.flatMap_singleton ..

/-- Two bytes are those of the number that they make up. -/
theorem bytes_of_size (high low : UInt8) :
    UInt8.ofNat ((high.toNat * 256 + low.toNat) / 256) = high ∧
      UInt8.ofNat ((high.toNat * 256 + low.toNat) % 256) = low := by
  have small := low.toNat_lt
  rw [show (high.toNat * 256 + low.toNat) / 256 = high.toNat by omega,
    show (high.toNat * 256 + low.toNat) % 256 = low.toNat by omega]
  exact ⟨UInt8.ofNat_toNat, UInt8.ofNat_toNat⟩

/-- The bytes of an aggregate: its units, and what is too short to be one. -/
structure Aggregates (buf : List UInt8) (nals : List (List UInt8)) : Prop where
  bytes : ∃ rest : List UInt8, rest.length ≤ 2 ∧ buf = nals.flatMap sized ++ rest
  sizes : ∀ nal ∈ nals, nal.length < 2 ^ 16

/-- One more unit in front. -/
theorem Aggregates.cons {high low : UInt8} {src : List UInt8} (fits : high.toNat * 256 + low.toNat ≤ src.length)
    {nals : List (List UInt8)} (aggregates : Aggregates (src.drop (high.toNat * 256 + low.toNat)) nals) :
    Aggregates (high :: low :: src) (src.take (high.toNat * 256 + low.toNat) :: nals) := by
  have length : (src.take (high.toNat * 256 + low.toNat)).length = high.toNat * 256 + low.toNat :=
    List.length_take_of_le fits
  obtain ⟨rest, short, same⟩ := aggregates.bytes
  refine ⟨⟨rest, short, ?_⟩, List.forall_mem_cons.mpr ⟨?_, aggregates.sizes⟩⟩
  · rw [List.flatMap_cons, sized, length, (bytes_of_size high low).1, (bytes_of_size high low).2, List.append_assoc,
      ← same, List.cons_append, List.cons_append, List.take_append_drop]
  · have := high.toNat_lt
    have := low.toNat_lt
    omega

/-- **The second pass writes the units of the aggregate**, each behind a start code. -/
theorem forEachNal_copyNal {rounds : ℕ} {buf : List UInt8} (enough : buf.length ≤ rounds)
    {state result : List UInt8 × H264FrameTypes} (done : forEachNal copyNal rounds buf state = some result) :
    ∃ nals, Aggregates buf nals ∧ result.1 = state.1 ++ annexB nals := by
  induction rounds generalizing buf state with
  | zero =>
      obtain rfl := List.length_eq_zero_iff.mp (Nat.le_zero.mp enough)
      obtain rfl := Option.some.inj done
      exact ⟨[], ⟨⟨[], Nat.zero_le _, rfl⟩, fun _ member => absurd member List.not_mem_nil⟩, (List.append_nil _).symm⟩
  | succ rounds ih =>
      match buf with
      | [] | [_] | [_, _] =>
          obtain rfl := Option.some.inj done
          exact ⟨[], ⟨⟨_, by simp, rfl⟩, fun _ member => absurd member List.not_mem_nil⟩, (List.append_nil _).symm⟩
      | high :: low :: byte :: rest =>
          rw [forEachNal] at done
          split at done
          · rename_i fits
            obtain ⟨nals, aggregates, same⟩ := ih (by simp at enough ⊢; omega) done
            refine ⟨_ :: nals, aggregates.cons fits, same.trans ?_⟩
            rw [copyNal, annexB, annexB, List.flatMap_cons, List.append_assoc, List.append_assoc, List.append_assoc]
          · exact absurd done (Option.some_ne_none _).symm

/-- Both passes go through the same units: the first one counts what the second one writes. -/
theorem forEachNal_countNal (rounds : ℕ) (buf : List UInt8) (state : List UInt8 × H264FrameTypes) :
    forEachNal countNal rounds buf state.1.length = (forEachNal copyNal rounds buf state).map (·.1.length) := by
  induction rounds generalizing buf state with
  | zero => cases buf <;> rfl
  | succ rounds ih =>
      match buf with
      | [] | [_] | [_, _] => rfl
      | high :: low :: byte :: rest =>
          rw [forEachNal, forEachNal]
          split
          · rename_i fits
            have length : (copyNal (byte :: rest) (high.toNat * 256 + low.toNat) state).1.length =
                countNal (byte :: rest) (high.toNat * 256 + low.toNat) state.1.length := by
              rw [copyNal, countNal, List.length_append, List.length_append, List.length_take_of_le fits]
            rw [← length, ih]
          · rfl

/-- **What an aggregate is parsed to**: its units, or nothing where a unit exceeds it. -/
theorem parseAggregatedPacket_spec (buf : List UInt8) :
    (parseAggregatedPacket buf).nalType = .aggregated ∧
      ((parseAggregatedPacket buf).unpackedDataLen = 0 ∨
        ∃ nals, Aggregates buf nals ∧ (parseAggregatedPacket buf).unpackedData = annexB nals ∧
          (parseAggregatedPacket buf).unpackedDataLen = (annexB nals).length) := by
  have counted := forEachNal_countNal buf.length buf ([], .pFrame)
  unfold parseAggregatedPacket
  rw [show (([], .pFrame) : List UInt8 × H264FrameTypes).1.length = 0 from rfl] at counted
  cases copied : forEachNal copyNal buf.length buf ([], .pFrame) with
  | none =>
      rw [copied] at counted
      rw [counted]
      exact ⟨rfl, Or.inl rfl⟩
  | some result =>
      obtain ⟨nals, aggregates, same⟩ := forEachNal_copyNal le_rfl copied
      rw [List.nil_append] at same
      rw [copied] at counted
      rw [counted]
      exact ⟨rfl, Or.inr ⟨nals, aggregates, same, congrArg List.length same⟩⟩

end RtpH264Parser

namespace H264Depacketizer

open RTPPayloadH264 RtpH264Parser

/-! ### What a packet does -/

section Packets

variable {depacketizer : H264Depacketizer} {payload : RTPPayloadH264}

/-- A single unit in a run of fragments. -/
theorem processSingle_lookingForEnd (looking : depacketizer.searchState = .lookingForEnd) :
    processSingle depacketizer = none := by
  unfold processSingle
  rw [if_pos looking]
  rfl

/-- A single unit by itself. -/
theorem processSingle_lookingForStart (kept : depacketizer.lastPayload = some payload)
    (looking : depacketizer.searchState = .lookingForStart) :
    processSingle depacketizer =
      if payload.data.length = 0 then some (depacketizer, false)
      else if depacketizer.bufferCheck (payload.data.length + startSequence.length) then
        some ((depacketizer.append startSequence).append payload.data, true)
      else some (depacketizer.reset, false) := by
  have other : ¬depacketizer.searchState = .lookingForEnd := by
    rw [looking]
    exact SearchState.noConfusion
  unfold processSingle
  simp only [if_neg other, kept]
  rfl

/-- A fragment that does not fit. -/
theorem processFragment_dropped (kept : depacketizer.lastPayload = some payload) (some_data : ¬payload.data.length = 0)
    (full : ¬depacketizer.bufferCheck
      (payload.data.length + startSequence.length + payload.fragmentNalHeaderLen) = true) :
    processFragment depacketizer = some (depacketizer.reset, false) := by
  unfold processFragment
  simp only [kept, Option.bind_eq_bind, Option.bind_some, if_neg some_data, if_neg full]

variable (kept : depacketizer.lastPayload = some payload) (some_data : ¬payload.data.length = 0)
  (fits : depacketizer.bufferCheck (payload.data.length + startSequence.length + payload.fragmentNalHeaderLen) = true)
include kept some_data fits

/-- A fragment that is no start. -/
theorem processFragment_next (next : payload.startBit = false) :
    processFragment depacketizer = some
      ({ depacketizer with
          buffer := depacketizer.buffer ++ payload.data
          searchState := if payload.endBit then .lookingForStart else depacketizer.searchState }, payload.endBit) := by
  unfold processFragment
  simp only [kept, Option.bind_eq_bind, Option.bind_some, if_neg some_data, if_pos fits, next, Bool.false_eq_true,
    if_false, Depacketizer.append]
  cases payload.endBit with
  | true => rfl
  | false => rfl

/-- A start fragment in a run of fragments. -/
theorem processFragment_interrupting (start : payload.startBit = true)
    (looking : depacketizer.searchState = .lookingForEnd) : processFragment depacketizer = none := by
  unfold processFragment
  simp only [kept, Option.bind_eq_bind, Option.bind_some, if_neg some_data, if_pos fits, start, if_true, processStart,
    if_pos looking]
  rfl

/-- A start fragment by itself. -/
theorem processFragment_start (start : payload.startBit = true) (looking : depacketizer.searchState = .lookingForStart) :
    processFragment depacketizer = some
      ({ depacketizer with
          buffer := depacketizer.buffer ++ startSequence ++ [payload.fragmentNalHeader].take payload.fragmentNalHeaderLen ++
            payload.data
          searchState := if payload.endBit then .lookingForStart else .lookingForEnd }, payload.endBit) := by
  have other : ¬depacketizer.searchState = .lookingForEnd := by
    rw [looking]
    exact SearchState.noConfusion
  unfold processFragment
  simp only [kept, Option.bind_eq_bind, Option.bind_some, if_neg some_data, if_pos fits, start, if_true, processStart,
    if_neg other, Depacketizer.append]
  cases payload.endBit with
  | true => rfl
  | false => rfl

end Packets

/-! ### Accesses to a cleared payload -/

/-- **A packet interrupts a run of fragments**: it is parsed to a single unit, or it is a start fragment that fits. -/
def Interrupts (depacketizer : H264Depacketizer) : Event → Prop
  | .packet packet =>
      let payload := parseH264 packet.payload
      depacketizer.searchState = .lookingForEnd ∧ (payload.nalType = .single ∨
        payload.nalType = .fragmented ∧ payload.startBit = true ∧ depacketizer.bufferCheck
          (payload.data.length + startSequence.length + payload.fragmentNalHeaderLen) = true)
  | .reset => False

instance (depacketizer : H264Depacketizer) : DecidablePred depacketizer.Interrupts
  | .packet _ => inferInstanceAs (Decidable (_ ∧ _))
  | .reset => inferInstanceAs (Decidable False)

/-- A fragment has bytes. -/
theorem data_of_fragmented {payload : List UInt8} (fragmented : (parseH264 payload).nalType = .fragmented) :
    ¬(parseH264 payload).data.length = 0 := by
  rcases parseH264_cases payload with ⟨single, _⟩ | ⟨_, _, _, _, rfl, _, parsed⟩ | ⟨_, rest, rfl, _, parsed⟩
  · exact absurd (single.symm.trans fragmented) NALTypes.noConfusion
  · rw [parsed]
    exact Nat.succ_ne_zero _
  · rw [parsed, (parseAggregatedPacket_spec rest).1] at fragmented
    exact absurd fragmented NALTypes.noConfusion

/-- A single unit with bytes is the payload. -/
theorem data_of_single {payload : List UInt8} (single : (parseH264 payload).nalType = .single)
    (some_data : ¬(parseH264 payload).data.length = 0) :
    (parseH264 payload).data = payload ∧ nalTypeOf (payload.headD 0) ≤ 23 := by
  rcases parseH264_cases payload with ⟨_, nothing | whole⟩ | ⟨_, _, _, _, rfl, _, parsed⟩ | ⟨_, rest, rfl, _, parsed⟩
  · exact absurd (congrArg List.length nothing) some_data
  · exact whole
  · rw [parsed] at single
    exact absurd single NALTypes.noConfusion
  · rw [parsed, (parseAggregatedPacket_spec rest).1] at single
    exact absurd single NALTypes.noConfusion

theorem processPacket_eq {depacketizer : H264Depacketizer} {payload : RTPPayloadH264}
    (kept : depacketizer.lastPayload = some payload) :
    processPacket depacketizer =
      match payload.nalType with
      | .single => processSingle depacketizer
      | .fragmented => processFragment depacketizer
      | .aggregated => processAggregate depacketizer := by
  unfold processPacket
  rw [kept]
  rfl

/-- The fragment of a packet fits. -/
def Fits (depacketizer : H264Depacketizer) (payload : RTPPayloadH264) : Prop :=
  depacketizer.bufferCheck (payload.data.length + startSequence.length + payload.fragmentNalHeaderLen) = true

/-- **What a packet does to a depacketizer**, with the answer of `processPacket`. -/
inductive Takes (depacketizer : H264Depacketizer) (packet : DataPacket) : Option (H264Depacketizer × Bool) → Prop
  | interrupts : depacketizer.Interrupts (.packet packet) → Takes depacketizer packet none
  | dropped : ¬depacketizer.Interrupts (.packet packet) →
      Takes depacketizer packet (some ((fetchPacket depacketizer packet).reset, false))
  | ignored : ¬depacketizer.Interrupts (.packet packet) →
      (depacketizer.searchState = .lookingForEnd → (parseH264 packet.payload).nalType = .aggregated ∧
        (parseH264 packet.payload).unpackedDataLen = 0) →
      Takes depacketizer packet (some (fetchPacket depacketizer packet, false))
  | single : depacketizer.searchState = .lookingForStart → packet.payload ≠ [] → nalTypeOf (packet.payload.headD 0) ≤ 23 →
      (parseH264 packet.payload).nalType = .single →
      Takes depacketizer packet
        (some (((fetchPacket depacketizer packet).append startSequence).append packet.payload, true))
  | next : (parseH264 packet.payload).nalType = .fragmented → (parseH264 packet.payload).startBit = false →
      Fits depacketizer (parseH264 packet.payload) →
      Takes depacketizer packet (some
        ({ fetchPacket depacketizer packet with
            buffer := depacketizer.buffer ++ (parseH264 packet.payload).data
            searchState :=
              if (parseH264 packet.payload).endBit then .lookingForStart else depacketizer.searchState },
          (parseH264 packet.payload).endBit))
  | start : (parseH264 packet.payload).nalType = .fragmented → (parseH264 packet.payload).startBit = true →
      depacketizer.searchState = .lookingForStart →
      Takes depacketizer packet (some
        ({ fetchPacket depacketizer packet with
            buffer := depacketizer.buffer ++ startSequence ++
              [(parseH264 packet.payload).fragmentNalHeader].take (parseH264 packet.payload).fragmentNalHeaderLen ++
              (parseH264 packet.payload).data
            searchState := if (parseH264 packet.payload).endBit then .lookingForStart else .lookingForEnd },
          (parseH264 packet.payload).endBit))
  | aggregate : (parseH264 packet.payload).nalType = .aggregated → ¬(parseH264 packet.payload).unpackedDataLen = 0 →
      depacketizer.bufferCheck (parseH264 packet.payload).unpackedDataLen = true →
      Takes depacketizer packet
        (some ((fetchPacket depacketizer packet).append
          ((parseH264 packet.payload).unpackedData.take (parseH264 packet.payload).unpackedDataLen), true))

/-- A packet that is neither a single unit nor a start fragment interrupts nothing. -/
theorem not_interrupts {depacketizer : H264Depacketizer} {packet : DataPacket}
    (other : depacketizer.searchState = .lookingForEnd → (parseH264 packet.payload).nalType ≠ .single ∧
      ((parseH264 packet.payload).nalType = .fragmented → (parseH264 packet.payload).startBit = true →
        ¬Fits depacketizer (parseH264 packet.payload))) : ¬depacketizer.Interrupts (.packet packet) := by
  rintro ⟨looking, single | ⟨fragmented, start, fits⟩⟩
  · exact (other looking).1 single
  · exact (other looking).2 fragmented start fits

theorem takes (depacketizer : H264Depacketizer) (packet : DataPacket) :
    Takes depacketizer packet (processPacket (fetchPacket depacketizer packet)) := by
  have kept : (fetchPacket depacketizer packet).lastPayload = some (parseH264 packet.payload) := rfl
  rw [processPacket_eq kept]
  cases kind : (parseH264 packet.payload).nalType with
  | single =>
      show Takes depacketizer packet (processSingle (fetchPacket depacketizer packet))
      cases looking : depacketizer.searchState with
      | lookingForEnd =>
          rw [@processSingle_lookingForEnd (fetchPacket depacketizer packet) looking]
          exact .interrupts ⟨looking, Or.inl kind⟩
      | lookingForStart =>
          have calm : ¬depacketizer.Interrupts (.packet packet) :=
            not_interrupts fun other => absurd (looking.symm.trans other) SearchState.noConfusion
          rw [processSingle_lookingForStart kept looking]
          split
          · exact .ignored calm fun other => absurd (looking.symm.trans other) SearchState.noConfusion
          · rename_i some_data
            obtain ⟨same, kept_type⟩ := data_of_single kind some_data
            split
            · rw [same]
              exact .single looking (fun none => some_data (by rw [same, none]; rfl)) kept_type kind
            · exact .dropped calm
  | fragmented =>
      show Takes depacketizer packet (processFragment (fetchPacket depacketizer packet))
      have some_data := data_of_fragmented kind
      by_cases fits : Fits depacketizer (parseH264 packet.payload)
      · cases start : (parseH264 packet.payload).startBit with
        | false =>
            rw [processFragment_next kept some_data fits start]
            exact .next kind start fits
        | true =>
            cases looking : depacketizer.searchState with
            | lookingForEnd =>
                rw [processFragment_interrupting kept some_data fits start looking]
                exact .interrupts ⟨looking, Or.inr ⟨kind, start, fits⟩⟩
            | lookingForStart =>
                rw [processFragment_start kept some_data fits start looking]
                exact .start kind start looking
      · rw [processFragment_dropped kept some_data fits]
        exact .dropped (not_interrupts fun _ => ⟨fun single => NALTypes.noConfusion (kind.symm.trans single),
          fun _ _ => fits⟩)
  | aggregated =>
      show Takes depacketizer packet (processAggregate (fetchPacket depacketizer packet))
      have calm : ¬depacketizer.Interrupts (.packet packet) :=
        not_interrupts fun _ => ⟨fun single => NALTypes.noConfusion (kind.symm.trans single),
          fun fragmented => NALTypes.noConfusion (kind.symm.trans fragmented)⟩
      unfold processAggregate
      simp only [kept, Option.bind_eq_bind, Option.bind_some]
      split
      · rename_i nothing
        exact .ignored calm fun _ => ⟨kind, nothing⟩
      · split
        · rename_i some_data fits
          exact .aggregate kind some_data fits
        · exact .dropped calm

/-- What has an answer interrupts nothing. -/
theorem Takes.calm {depacketizer : H264Depacketizer} {packet : DataPacket} {result : H264Depacketizer × Bool}
    (taken : Takes depacketizer packet (some result)) : ¬depacketizer.Interrupts (.packet packet) := by
  have apart (looking : depacketizer.searchState = .lookingForStart) : ¬depacketizer.Interrupts (.packet packet) :=
    fun interrupts => SearchState.noConfusion (looking.symm.trans interrupts.1)
  cases taken with
  | dropped calm => exact calm
  | ignored calm _ => exact calm
  | single looking _ _ _ => exact apart looking
  | start _ _ looking => exact apart looking
  | next kind next _ =>
      exact not_interrupts fun _ => ⟨fun single => NALTypes.noConfusion (kind.symm.trans single),
        fun _ start => absurd (next.symm.trans start) Bool.false_ne_true⟩
  | aggregate kind _ _ =>
      exact not_interrupts fun _ => ⟨fun single => NALTypes.noConfusion (kind.symm.trans single),
        fun fragmented => NALTypes.noConfusion (kind.symm.trans fragmented)⟩

/-- A step is a fault exactly if it interrupts a run. -/
theorem step_fault_iff (depacketizer : H264Depacketizer) (event : Event) :
    (¬depacketizer.Interrupts event) ↔ (depacketizer.step event).2 ≠ .fault := by
  cases event with
  | reset => exact iff_of_true id Depacketizer.Outcome.noConfusion
  | packet packet =>
      have taken := takes depacketizer packet
      rw [step]
      match result : processPacket (fetchPacket depacketizer packet) with
      | none =>
          rw [result] at taken
          cases taken with
          | interrupts interrupts => exact iff_of_false (not_not_intro interrupts) (not_not_intro rfl)
      | some (next, true) => exact iff_of_true (Takes.calm (result ▸ taken)) Depacketizer.Outcome.noConfusion
      | some (next, false) => exact iff_of_true (Takes.calm (result ▸ taken)) Depacketizer.Outcome.noConfusion

/-- **A cleared payload is accessed exactly in the runs in which a run of fragments is interrupted.** -/
theorem safe_iff (events : List Event) :
    (∀ outcome ∈ Machine.outputs step Depacketizer.create events, outcome ≠ .fault) ↔
      Machine.Guarded step (fun depacketizer event => ¬depacketizer.Interrupts event)
        Depacketizer.create events :=
  (Machine.guarded_iff_outputs step_fault_iff _ events).symm

/-- A packet with a payload behind a header without extensions. -/
def rtpPacket (payload : List UInt8) : DataPacket :=
  videoPacket ([0x80, 96, 0, 1] ++ Bytes.encode32 0 ++ Bytes.encode32 7 ++ payload)

/-- The end of a run of fragments is lost, and a single unit comes. -/
def interruptedOnce : List Event := [.packet (rtpPacket [0x7C, 0x81, 0xAA]), .packet (rtpPacket [0x61, 0xBB])]

theorem not_safe_interruptedOnce :
    ¬∀ events, ∀ outcome ∈ Machine.outputs step Depacketizer.create events, outcome ≠ .fault := by
  intro all
  exact all interruptedOnce .fault (by decide +kernel) rfl

/-! ### Units -/

/-- A fragment of a unit: what stands in a packet of type 28. -/
structure Fragment where
  indicator : UInt8
  header : UInt8
  data : List UInt8

namespace Fragment

/-- The start bit. -/
def starts (fragment : Fragment) : Prop := fragment.header >>> 7 = 1

/-- The end bit. -/
def ends (fragment : Fragment) : Prop := fragment.header &&& 0x40 ≠ 0

/-- The first byte of the unit. -/
def nal (fragment : Fragment) : UInt8 := (fragment.indicator &&& 0xE0) ||| nalTypeOf fragment.header

end Fragment

/-- A packet carries a fragment. -/
structure Carries (packet : DataPacket) (fragment : Fragment) : Prop where
  bytes : packet.payload = fragment.indicator :: fragment.header :: fragment.data
  kind : nalTypeOf fragment.indicator = 28
  some_data : fragment.data ≠ []

/-- **A run of fragments**, with the bytes of its unit so far: it begins with a start fragment, and it is complete when
an end fragment came. -/
inductive Run : List DataPacket → List UInt8 → Prop → Prop
  | start {packet : DataPacket} {fragment : Fragment} : Carries packet fragment → fragment.starts →
      Run [packet] (fragment.nal :: fragment.data) fragment.ends
  | next {packets : List DataPacket} {nal : List UInt8} {complete : Prop} {packet : DataPacket} {fragment : Fragment} :
      Run packets nal complete → ¬complete → Carries packet fragment → ¬fragment.starts →
      Run (packets ++ [packet]) (nal ++ fragment.data) fragment.ends

/-- **A whole unit of some events**: a payload by itself, a part of an aggregate, or what the packets of a complete run
of fragments carry, with no event in between. -/
inductive IsUnit (events : List Event) (nal : List UInt8) : Prop
  | single {packet : DataPacket} : .packet packet ∈ events → packet.payload = nal → nal ≠ [] →
      nalTypeOf (nal.headD 0) ≤ 23 → IsUnit events nal
  | aggregated {packet : DataPacket} {header : UInt8} {buf : List UInt8} {nals : List (List UInt8)} :
      .packet packet ∈ events → packet.payload = header :: buf → nalTypeOf header = 24 → Aggregates buf nals →
      nal ∈ nals → IsUnit events nal
  | fragmented {before after : List Event} {packets : List DataPacket} {complete : Prop} :
      events = before ++ packets.map .packet ++ after → Run packets nal complete → complete → IsUnit events nal

/-- Units stay when more happens. -/
theorem IsUnit.mono {events : List Event} {nal : List UInt8} (unit : IsUnit events nal) (event : Event) :
    IsUnit (events ++ [event]) nal := by
  cases unit with
  | single member same some_data kind => exact .single (List.mem_append_left _ member) same some_data kind
  | aggregated member same kind aggregates inside =>
      exact .aggregated (List.mem_append_left _ member) same kind aggregates inside
  | fragmented same run complete => exact .fragmented (by rw [same, List.append_assoc]) run complete

/-! ### Runs of packets in order -/

/-- **A packet finds the depacketizer where it belongs**: no fragment comes without its start, and no aggregate inside a
run of fragments, unless the buffer is too full for it. -/
def InPlace (depacketizer : H264Depacketizer) : Event → Prop
  | .packet packet =>
      let payload := parseH264 packet.payload
      (payload.nalType = .fragmented → payload.startBit = false → Fits depacketizer payload →
        depacketizer.searchState = .lookingForEnd) ∧
      (payload.nalType = .aggregated →
        payload.unpackedDataLen = 0 ∨ depacketizer.bufferCheck payload.unpackedDataLen = true →
          depacketizer.searchState = .lookingForStart)
  | .reset => True

/-- **What is in the buffer**: units, and behind them the open run while its end is looked for. -/
def Follows (depacketizer : H264Depacketizer) (events : List Event) : Prop :=
  ∃ nals : List (List UInt8), (∀ nal ∈ nals, IsUnit events nal) ∧
    match depacketizer.searchState with
    | .lookingForStart => depacketizer.buffer = annexB nals
    | .lookingForEnd => ∃ (before : List Event) (packets : List DataPacket) (nal : List UInt8) (complete : Prop),
        events = before ++ packets.map .packet ∧ Run packets nal complete ∧ ¬complete ∧
          depacketizer.buffer = annexB nals ++ startSequence ++ nal

/-- What is parsed to a fragment carries one. -/
theorem carries_of_fragmented {packet : DataPacket} (fragmented : (parseH264 packet.payload).nalType = .fragmented) :
    ∃ fragment, Carries packet fragment ∧ ((parseH264 packet.payload).startBit = true ↔ fragment.starts) ∧
      ((parseH264 packet.payload).endBit = true ↔ fragment.ends) ∧ (parseH264 packet.payload).data = fragment.data ∧
      [(parseH264 packet.payload).fragmentNalHeader].take (parseH264 packet.payload).fragmentNalHeaderLen =
        [fragment.nal] := by
  rcases parseH264_cases packet.payload with
    ⟨single, _⟩ | ⟨fuIndicator, fuHeader, byte, rest, same, kind, parsed⟩ | ⟨_, rest, _, _, parsed⟩
  · exact absurd (single.symm.trans fragmented) NALTypes.noConfusion
  · rw [parsed, same]
    exact ⟨⟨fuIndicator, fuHeader, byte :: rest⟩, ⟨same, kind, List.cons_ne_nil _ _⟩, decide_eq_true_iff,
      decide_eq_true_iff, rfl, rfl⟩
  · rw [parsed, (parseAggregatedPacket_spec rest).1] at fragmented
    exact absurd fragmented NALTypes.noConfusion

/-- What is parsed to an aggregate with bytes is one. -/
theorem aggregates_of_aggregated {payload : List UInt8} (aggregated : (parseH264 payload).nalType = .aggregated)
    (some_data : ¬(parseH264 payload).unpackedDataLen = 0) :
    ∃ header buf nals, payload = header :: buf ∧ nalTypeOf header = 24 ∧ Aggregates buf nals ∧
      (parseH264 payload).unpackedData.take (parseH264 payload).unpackedDataLen = annexB nals := by
  rcases parseH264_cases payload with ⟨single, _⟩ | ⟨_, _, _, _, rfl, _, parsed⟩ | ⟨header, rest, same, kind, parsed⟩
  · exact absurd (single.symm.trans aggregated) NALTypes.noConfusion
  · rw [parsed] at aggregated
    exact absurd aggregated NALTypes.noConfusion
  · rw [parsed] at some_data ⊢
    obtain ⟨nals, aggregates, unpacked, length⟩ := (parseAggregatedPacket_spec rest).2.resolve_left some_data
    refine ⟨header, rest, nals, same, kind, aggregates, ?_⟩
    rw [unpacked, length, List.take_length]

/-- Between runs of fragments the buffer has units. -/
theorem follows_lookingForStart {depacketizer : H264Depacketizer} {events : List Event}
    (looking : depacketizer.searchState = .lookingForStart) :
    Follows depacketizer events ↔
      ∃ nals : List (List UInt8), (∀ nal ∈ nals, IsUnit events nal) ∧ depacketizer.buffer = annexB nals := by
  unfold Follows
  rw [looking]

/-- In a run of fragments it has units and what the run carried. -/
theorem follows_lookingForEnd {depacketizer : H264Depacketizer} {events : List Event}
    (looking : depacketizer.searchState = .lookingForEnd) :
    Follows depacketizer events ↔
      ∃ nals : List (List UInt8), (∀ nal ∈ nals, IsUnit events nal) ∧
        ∃ (before : List Event) (packets : List DataPacket) (nal : List UInt8) (complete : Prop),
          events = before ++ packets.map .packet ∧ Run packets nal complete ∧ ¬complete ∧
            depacketizer.buffer = annexB nals ++ startSequence ++ nal := by
  unfold Follows
  rw [looking]

/-- A depacketizer that was reset. -/
theorem follows_reset (depacketizer : H264Depacketizer) (events : List Event) :
    Follows depacketizer.reset events := ⟨[], fun _ member => absurd member List.not_mem_nil, rfl⟩

/-- Units and one more. -/
theorem isUnit_append {events : List Event} {event : Event} {nals more : List (List UInt8)}
    (units : ∀ nal ∈ nals, IsUnit events nal) (new : ∀ nal ∈ more, IsUnit (events ++ [event]) nal) :
    ∀ nal ∈ nals ++ more, IsUnit (events ++ [event]) nal :=
  List.forall_mem_append.mpr ⟨fun nal member => (units nal member).mono event, new⟩

/-- Behind the units a run of fragments is open, or it is complete and one of them. -/
theorem follows_fragment {depacketizer : H264Depacketizer} {events before : List Event} {event : Event}
    {packets : List DataPacket} {nals : List (List UInt8)} {nal : List UInt8} {complete : Prop} {ending : Bool}
    (units : ∀ nal ∈ nals, IsUnit events nal) (longer : events ++ [event] = before ++ packets.map .packet)
    (run : Run packets nal complete) (ends : ending = true ↔ complete)
    (state : depacketizer.searchState = if ending then .lookingForStart else .lookingForEnd)
    (buffered : depacketizer.buffer = annexB nals ++ startSequence ++ nal) :
    Follows depacketizer (events ++ [event]) ∧ (ending = true → depacketizer.searchState = .lookingForStart) := by
  cases ending with
  | true =>
      refine ⟨(follows_lookingForStart state).mpr ⟨nals ++ [nal], ?_, ?_⟩, fun _ => state⟩
      · refine isUnit_append units (List.forall_mem_singleton.mpr ?_)
        exact .fragmented (longer.trans (List.append_nil _).symm) run (ends.mp rfl)
      · rw [annexB_append, annexB_singleton, ← List.append_assoc, buffered]
  | false =>
      refine ⟨(follows_lookingForEnd state).mpr ⟨nals, fun nal member => (units nal member).mono _, before, packets, nal,
        complete, longer, run, fun done => Bool.false_ne_true (ends.mpr done), buffered⟩,
        fun delivers => absurd delivers Bool.false_ne_true⟩

/-- **The step lemma**: where nothing is interrupted and every packet is in its place, the buffer goes on. -/
theorem follows_packet {depacketizer next : H264Depacketizer} {events : List Event} {packet : DataPacket} {deliver : Bool}
    (follows : Follows depacketizer events) (inPlace : depacketizer.InPlace (.packet packet))
    (taken : Takes depacketizer packet (some (next, deliver))) :
    Follows next (events ++ [.packet packet]) ∧ (deliver = true → next.searchState = .lookingForStart) := by
  have here : Event.packet packet ∈ events ++ [.packet packet] := List.mem_append_right _ (List.mem_singleton_self _)
  cases taken with
  | dropped calm => exact ⟨follows_reset _ _, fun delivers => absurd delivers Bool.false_ne_true⟩
  | ignored calm quiet =>
      refine ⟨?_, fun delivers => absurd delivers Bool.false_ne_true⟩
      obtain ⟨nals, units, buffered⟩ := follows
      refine ⟨nals, fun nal member => (units nal member).mono _, ?_⟩
      cases looking : depacketizer.searchState with
      | lookingForStart =>
          rw [looking] at buffered
          rw [show (fetchPacket depacketizer packet).searchState = .lookingForStart from looking]
          exact buffered
      | lookingForEnd =>
          obtain ⟨aggregated, nothing⟩ := quiet looking
          exact absurd (looking.symm.trans (inPlace.2 aggregated (Or.inl nothing))) SearchState.noConfusion
  | single looking some_data kind _ =>
      obtain ⟨nals, units, buffered⟩ := (follows_lookingForStart looking).mp follows
      refine ⟨(follows_lookingForStart ?_).mpr ⟨nals ++ [packet.payload], ?_, ?_⟩, fun _ => looking⟩
      · exact looking
      · exact isUnit_append units (List.forall_mem_singleton.mpr (.single here rfl some_data kind))
      · rw [annexB_append, annexB_singleton, ← buffered, ← List.append_assoc]
        rfl
  | next fragmented continues fits =>
      have looking := inPlace.1 fragmented continues fits
      obtain ⟨fragment, carries, starts, ends, data, _⟩ := carries_of_fragmented fragmented
      obtain ⟨nals, units, before, packets, nal, complete, same, run, incomplete, buffered⟩ :=
        (follows_lookingForEnd looking).mp follows
      have longer : events ++ [.packet packet] = before ++ (packets ++ [packet]).map .packet := by
        rw [same, List.map_append, List.append_assoc]
        rfl
      have run := run.next incomplete carries fun begins => Bool.false_ne_true (continues.symm.trans (starts.mpr begins))
      rw [data, looking]
      refine follows_fragment units longer run ends rfl ?_
      rw [← List.append_assoc, ← buffered]
  | start fragmented begins looking =>
      obtain ⟨fragment, carries, starts, ends, data, header⟩ := carries_of_fragmented fragmented
      obtain ⟨nals, units, buffered⟩ := (follows_lookingForStart looking).mp follows
      rw [data, header]
      refine follows_fragment units rfl (Run.start carries (starts.mp begins)) ends rfl ?_
      rw [← buffered, List.append_assoc _ [fragment.nal]]
      rfl
  | aggregate aggregated some_data fits =>
      have looking := inPlace.2 aggregated (Or.inr fits)
      obtain ⟨header, buf, members, same, kind, aggregates, unpacked⟩ := aggregates_of_aggregated aggregated some_data
      obtain ⟨nals, units, buffered⟩ := (follows_lookingForStart looking).mp follows
      rw [unpacked]
      refine ⟨(follows_lookingForStart ?_).mpr ⟨nals ++ members, ?_, ?_⟩, fun _ => looking⟩
      · exact looking
      · exact isUnit_append units fun nal member => .aggregated here same kind aggregates member
      · rw [annexB_append, ← buffered]
        rfl

/-- An event in its place keeps the buffer in order, and what it delivers is units. -/
theorem follows_step {depacketizer : H264Depacketizer} {events : List Event} {event : Event}
    (follows : Follows depacketizer events) (inPlace : depacketizer.InPlace event)
    (safe : (depacketizer.step event).2 ≠ .fault) :
    Follows (depacketizer.step event).1 (events ++ [event]) ∧
      ∀ frame, (depacketizer.step event).2 = .delivered frame →
        ∃ nals, frame = annexB nals ∧ ∀ nal ∈ nals, IsUnit (events ++ [event]) nal := by
  cases event with
  | reset => exact ⟨follows_reset _ _, fun _ delivered => absurd delivered Depacketizer.Outcome.noConfusion⟩
  | packet packet =>
      have taken := takes depacketizer packet
      rw [step] at safe ⊢
      match result : processPacket (fetchPacket depacketizer packet) with
      | none =>
          rw [result] at safe
          exact absurd rfl safe
      | some (next, true) =>
          rw [result] at taken
          obtain ⟨onward, looking⟩ := follows_packet follows inPlace taken
          obtain ⟨nals, units, buffered⟩ := (follows_lookingForStart (looking rfl)).mp onward
          refine ⟨onward, fun frame delivered => ⟨nals, ?_, units⟩⟩
          exact (Depacketizer.Outcome.delivered.inj delivered).symm.trans buffered
      | some (next, false) =>
          rw [result] at taken
          exact ⟨(follows_packet follows inPlace taken).1, fun _ delivered =>
            absurd delivered Depacketizer.Outcome.noConfusion⟩

theorem follows_run {events : List Event}
    (safe : ∀ outcome ∈ Machine.outputs step Depacketizer.create events, outcome ≠ .fault)
    (inPlace : Machine.Guarded step InPlace Depacketizer.create events) :
    Follows (Machine.run step Depacketizer.create events) events := by
  induction events using List.reverseRecOn with
  | nil => exact follows_reset Depacketizer.create []
  | append_singleton events event ih =>
      obtain ⟨before, here⟩ := Machine.guarded_append.mp inPlace
      rw [Machine.outputs_append, List.forall_mem_append] at safe
      rw [Machine.run_append]
      exact (follows_step (ih safe.1 before) here.1 (safe.2 _ List.mem_cons_self)).1

/-- **Every frame that is delivered is a sequence of start codes and whole units**, in every run without an access to a
cleared payload in which the packets are in their places. -/
theorem delivered_annexB (events : List Event) (event : Event)
    (safe : ∀ outcome ∈ Machine.outputs step Depacketizer.create (events ++ [event]), outcome ≠ .fault)
    (inPlace : Machine.Guarded step InPlace Depacketizer.create (events ++ [event])) :
    ∀ frame, (step (Machine.run step Depacketizer.create events) event).2 = .delivered frame →
      ∃ nals, frame = annexB nals ∧ ∀ nal ∈ nals, IsUnit (events ++ [event]) nal := by
  obtain ⟨before, here⟩ := Machine.guarded_append.mp inPlace
  rw [Machine.outputs_append, List.forall_mem_append] at safe
  exact (follows_step (follows_run safe.1 before) here.1 (safe.2 _ List.mem_cons_self)).2

instance (depacketizer : H264Depacketizer) (payload : RTPPayloadH264) : Decidable (Fits depacketizer payload) :=
  inferInstanceAs (Decidable (_ = true))

instance (depacketizer : H264Depacketizer) : DecidablePred depacketizer.InPlace
  | .packet _ => inferInstanceAs (Decidable (_ ∧ _))
  | .reset => inferInstanceAs (Decidable True)

/-- A unit in two fragments, and an aggregate of two units behind it. -/
def fragmentsAndAggregate : List Event :=
  [.packet (rtpPacket [0x7C, 0x81, 0xAA]), .packet (rtpPacket [0x7C, 0x41, 0xBB])]

theorem delivered_annexB_aggregate :
    ∃ nals, [0, 0, 0, 1, 0x61, 0xAA, 0xBB, 0, 0, 0, 1, 0x61, 0, 0, 0, 1, 0x62, 0xCC] = annexB nals ∧
      ∀ nal ∈ nals, IsUnit (fragmentsAndAggregate ++ [.packet (rtpPacket [0x78, 0, 1, 0x61, 0, 2, 0x62, 0xCC])]) nal :=
  delivered_annexB fragmentsAndAggregate (.packet (rtpPacket [0x78, 0, 1, 0x61, 0, 2, 0x62, 0xCC])) (by decide +kernel)
    (by decide +kernel) _ (by decide +kernel)

/-- An end fragment whose start is lost. -/
def lostStart : Event := .packet (rtpPacket [0x7C, 0x41, 0xAA])

theorem not_delivered_annexB_lostStart :
    ¬∀ (events : List Event) (event : Event),
      (∀ outcome ∈ Machine.outputs step Depacketizer.create (events ++ [event]), outcome ≠ .fault) →
        ∀ frame, (step (Machine.run step Depacketizer.create events) event).2 = .delivered frame →
          ∃ nals, frame = annexB nals ∧ ∀ nal ∈ nals, IsUnit (events ++ [event]) nal := by
  intro all
  obtain ⟨nals, same, _⟩ := all [] lostStart (by decide +kernel) [0xAA] (by decide +kernel)
  cases nals with
  | nil => exact absurd same (by decide)
  | cons nal rest =>
      have first := congrArg List.head? same
      exact absurd first (by simp [annexB, startSequence])

end H264Depacketizer

end Erizo
