/-
**The frames of a VP8 depacketizer.**

* `delivered_frame`: what is delivered is what came from the start of the frame on, in every run in which the start bit
  is set for the first partition only and no frame starts behind one that was delivered and not written.
* `reassembles`: frames that are split by the fragmenter come out whole.
-/

import Erizo.Model.Depacketizer
import Erizo.Model.RtpVP8Fragmenter

namespace Erizo

open Library

namespace Vp8Depacketizer

open RtpVP8Parser

/-! ### What a packet does -/

/-- The start bit of a packet. -/
def starts (packet : DataPacket) : Bool := (parseVP8 packet.payload).beginningOfPartition

/-- The bytes behind the descriptor. -/
def content (packet : DataPacket) : List UInt8 := (parseVP8 packet.payload).data.getD []

/-- The descriptor of a packet can be parsed, and there are bytes behind it. -/
def WellFormed (packet : DataPacket) : Prop := (parseVP8 packet.payload).data.isSome = true

/-- What stands in the buffer when the bytes of a packet are added: nothing at a start, unless that is a start without
marker where one is looked for. -/
def kept (depacketizer : Depacketizer RTPPayloadVP8) (startOfFrame endOfFrame : Bool) : List UInt8 :=
  if startOfFrame && (depacketizer.searchState = .lookingForEnd || endOfFrame) then [] else depacketizer.buffer

/-- The state that is reached behind a packet. -/
def reached (endOfFrame : Bool) : SearchState := if endOfFrame then .lookingForStart else .lookingForEnd

theorem store_some (depacketizer : Depacketizer RTPPayloadVP8) (data : List UInt8)
    (stored : Depacketizer RTPPayloadVP8 → Depacketizer RTPPayloadVP8 × Bool) :
    store depacketizer (some data) stored = some
      (if data.length + depacketizer.buffer.length < Depacketizer.unpackageBufferSize then
        stored (depacketizer.append data)
      else (depacketizer.reset, false)) := by
  rw [store, Option.bind_eq_bind, Option.bind_some, Depacketizer.bufferCheck]
  simp only [decide_eq_true_eq]
  split
  · rfl
  · rfl

/-- **A payload in a frame, or at its start.** -/
theorem processPayload_accepts (depacketizer : Depacketizer RTPPayloadVP8) {startOfFrame : Bool} (endOfFrame : Bool)
    (data : List UInt8) (accepts : depacketizer.searchState = .lookingForEnd ∨ startOfFrame = true) :
    ∃ last, processPayload depacketizer startOfFrame endOfFrame (some data) = some
      (if data.length + (kept depacketizer startOfFrame endOfFrame).length < Depacketizer.unpackageBufferSize then
        (⟨kept depacketizer startOfFrame endOfFrame ++ data, reached endOfFrame, last⟩, endOfFrame)
      else (depacketizer.reset, false)) := by
  obtain ⟨buffer, searchState, last⟩ := depacketizer
  unfold processPayload kept reached
  cases searchState with
  | lookingForStart =>
      obtain rfl := accepts.resolve_left SearchState.noConfusion
      cases endOfFrame with
      | true => exact ⟨last, store_some _ _ _⟩
      | false => exact ⟨last, store_some _ _ _⟩
  | lookingForEnd =>
      cases startOfFrame with
      | true =>
          cases endOfFrame with
          | true => exact ⟨none, store_some _ _ _⟩
          | false => exact ⟨last, store_some _ _ _⟩
      | false =>
          cases endOfFrame with
          | true => exact ⟨last, store_some _ _ _⟩
          | false => exact ⟨last, store_some _ _ _⟩

/-- A payload that is neither. -/
theorem processPayload_refuses {depacketizer : Depacketizer RTPPayloadVP8} (endOfFrame : Bool) (data : Option (List UInt8))
    (looking : depacketizer.searchState = .lookingForStart) :
    processPayload depacketizer false endOfFrame data = some (depacketizer.resetBuffer, false) := by
  unfold processPayload
  rw [looking]
  cases endOfFrame with
  | true => rfl
  | false => rfl

/-- The payload of a packet fits behind what is kept. -/
def Fits (depacketizer : Vp8Depacketizer) (packet : DataPacket) : Prop :=
  (content packet).length +
    (kept depacketizer.toDepacketizer (starts packet) (RtpHeader.getMarker packet.data)).length <
      Depacketizer.unpackageBufferSize

instance (depacketizer : Vp8Depacketizer) : DecidablePred depacketizer.Fits := fun _ =>
  inferInstanceAs (Decidable (_ < _))

section Packets

variable {depacketizer : Vp8Depacketizer} {packet : DataPacket} (wellFormed : WellFormed packet)
include wellFormed

/-- **A packet that is accepted**: its bytes are added, or the depacketizer is reset. -/
theorem processPacket_accepts (accepts : depacketizer.searchState = .lookingForEnd ∨ starts packet = true) :
    if depacketizer.Fits packet then
      ∃ next, processPacket (fetchPacket depacketizer packet) = some (next, RtpHeader.getMarker packet.data) ∧
        next.buffer = kept depacketizer.toDepacketizer (starts packet) (RtpHeader.getMarker packet.data) ++ content packet ∧
        next.searchState = reached (RtpHeader.getMarker packet.data)
    else
      ∃ next, processPacket (fetchPacket depacketizer packet) = some (next, false) ∧ next.buffer = [] ∧
        next.searchState = .lookingForStart := by
  have parsed : (parseVP8 packet.payload).data = some (content packet) := by
    obtain ⟨data, parsed⟩ := Option.isSome_iff_exists.mp wellFormed
    rw [content, parsed]
    rfl
  obtain ⟨last, processed⟩ := processPayload_accepts (fetchPacket depacketizer packet).toDepacketizer
    (RtpHeader.getMarker packet.data) (content packet) accepts
  have answer : processPacket (fetchPacket depacketizer packet) =
      (processPayload (fetchPacket depacketizer packet).toDepacketizer (starts packet)
        (RtpHeader.getMarker packet.data) (some (content packet))).bind fun result =>
          some ({ fetchPacket depacketizer packet with toDepacketizer := result.1 }, result.2) := by
    rw [← parsed]
    rfl
  rw [answer, processed, Option.bind_some]
  by_cases fits : depacketizer.Fits packet
  · rw [if_pos fits, if_pos (show (content packet).length + (kept (fetchPacket depacketizer packet).toDepacketizer
      (starts packet) (RtpHeader.getMarker packet.data)).length < _ from fits)]
    exact ⟨_, rfl, rfl, rfl⟩
  · rw [if_neg fits, if_neg (show ¬(content packet).length + (kept (fetchPacket depacketizer packet).toDepacketizer
      (starts packet) (RtpHeader.getMarker packet.data)).length < _ from fits)]
    exact ⟨_, rfl, rfl, rfl⟩

omit wellFormed in
/-- **A packet that is not.** -/
theorem processPacket_refuses (looking : depacketizer.searchState = .lookingForStart) (inside : starts packet = false) :
    ∃ next, processPacket (fetchPacket depacketizer packet) = some (next, false) ∧ next.buffer = [] ∧
      next.searchState = .lookingForStart := by
  have answer : processPacket (fetchPacket depacketizer packet) =
      (processPayload (fetchPacket depacketizer packet).toDepacketizer (starts packet)
        (RtpHeader.getMarker packet.data) (parseVP8 packet.payload).data).bind fun result =>
          some ({ fetchPacket depacketizer packet with toDepacketizer := result.1 }, result.2) := rfl
  rw [answer, inside, @processPayload_refuses (fetchPacket depacketizer packet).toDepacketizer _ _ looking]
  exact ⟨_, rfl, rfl, looking⟩

end Packets

/-! ### Frames -/

/-- **A packet starts a frame**: the start bit is set, and the partition is the first one. -/
def StartsFrame (packet : DataPacket) : Prop :=
  starts packet = true ∧ (parseVP8 packet.payload).partitionID = 0

instance : DecidablePred StartsFrame := fun _ => inferInstanceAs (Decidable (_ ∧ _))

/-- **What came from the most recent start of a frame on.** -/
def IsFrame (packets : List DataPacket) (frame : List UInt8) : Prop :=
  ∃ before first after, packets = before ++ first :: after ∧ StartsFrame first ∧
    (∀ packet ∈ after, ¬StartsFrame packet) ∧ frame = (first :: after).flatMap content

/-- The packets of some events. -/
def packetsOf (events : List Event) : List DataPacket :=
  events.filterMap fun
    | .maybeWriteVideoPacket packet _ => some packet
    | .reset => none

/-- **A packet finds the depacketizer where it belongs**: its start bit is set for the first partition only, and a frame
of several packets does not start behind something that is still in the buffer. -/
def InPlace (depacketizer : Vp8Depacketizer) : Event → Prop
  | .maybeWriteVideoPacket packet _ =>
      (starts packet = true → (parseVP8 packet.payload).partitionID = 0) ∧
        (depacketizer.searchState = .lookingForStart → starts packet = true → RtpHeader.getMarker packet.data = false →
          depacketizer.Fits packet → depacketizer.buffer = [])
  | .reset => True

/-- While the end of a frame is looked for, the buffer has what came of it. -/
def Follows (depacketizer : Vp8Depacketizer) (packets : List DataPacket) : Prop :=
  depacketizer.searchState = .lookingForEnd → IsFrame packets depacketizer.buffer

theorem follows_reset (depacketizer : Vp8Depacketizer) (packets : List DataPacket) :
    Follows depacketizer.reset packets := fun looking => absurd looking SearchState.noConfusion

/-- **The step lemma.** What is in the buffer behind an accepted packet is what came of its frame. -/
theorem isFrame_kept {depacketizer : Vp8Depacketizer} {packets : List DataPacket} {packet : DataPacket}
    (follows : Follows depacketizer packets)
    (accepts : depacketizer.searchState = .lookingForEnd ∨ starts packet = true)
    (first : starts packet = true → (parseVP8 packet.payload).partitionID = 0)
    (clean : depacketizer.searchState = .lookingForStart → starts packet = true →
      RtpHeader.getMarker packet.data = false → depacketizer.buffer = []) :
    IsFrame (packets ++ [packet])
      (kept depacketizer.toDepacketizer (starts packet) (RtpHeader.getMarker packet.data) ++ content packet) := by
  cases start : starts packet with
  | true =>
      have nothing : kept depacketizer.toDepacketizer true (RtpHeader.getMarker packet.data) = [] := by
        unfold kept
        split
        · rfl
        · rename_i stale
          rw [Bool.true_and, Bool.or_eq_true, decide_eq_true_iff, not_or, Bool.not_eq_true] at stale
          refine clean ?_ start stale.2
          cases looking : depacketizer.searchState with
          | lookingForStart => rfl
          | lookingForEnd => exact absurd looking stale.1
      rw [nothing]
      exact ⟨packets, packet, [], rfl, ⟨start, first start⟩, fun _ member => absurd member List.not_mem_nil, by simp⟩
  | false =>
      have looking := accepts.resolve_right (start ▸ Bool.false_ne_true)
      obtain ⟨before, begins, after, rfl, starting, none, same⟩ := follows looking
      have goesOn : kept depacketizer.toDepacketizer false (RtpHeader.getMarker packet.data) = depacketizer.buffer := rfl
      rw [goesOn, same]
      refine ⟨before, begins, after ++ [packet], by simp, starting, ?_, by simp⟩
      exact List.forall_mem_append.mpr ⟨none, List.forall_mem_singleton.mpr fun other =>
        Bool.false_ne_true (start.symm.trans other.1)⟩

/-- A packet in its place. -/
theorem follows_packet {depacketizer : Vp8Depacketizer} {packets : List DataPacket} {packet : DataPacket} (hasStream : Bool)
    (follows : Follows depacketizer packets) (wellFormed : WellFormed packet)
    (inPlace : depacketizer.InPlace (.maybeWriteVideoPacket packet hasStream)) :
    Follows (depacketizer.step (.maybeWriteVideoPacket packet hasStream)).1 (packets ++ [packet]) ∧
      ∀ frame, (depacketizer.step (.maybeWriteVideoPacket packet hasStream)).2 = .delivered frame →
        RtpHeader.getMarker packet.data = true ∧ IsFrame (packets ++ [packet]) frame := by
  have quiet {next : Vp8Depacketizer} (result : processPacket (fetchPacket depacketizer packet) = some (next, false))
      (onward : Follows next (packets ++ [packet])) :
      Follows (depacketizer.step (.maybeWriteVideoPacket packet hasStream)).1 (packets ++ [packet]) ∧
        ∀ frame, (depacketizer.step (.maybeWriteVideoPacket packet hasStream)).2 = .delivered frame →
          RtpHeader.getMarker packet.data = true ∧ IsFrame (packets ++ [packet]) frame := by
    rw [step, result]
    exact ⟨onward, fun _ delivered => absurd delivered Depacketizer.Outcome.noConfusion⟩
  by_cases accepts : depacketizer.searchState = .lookingForEnd ∨ starts packet = true
  · have processed := processPacket_accepts wellFormed accepts
    by_cases fits : depacketizer.Fits packet
    · rw [if_pos fits] at processed
      obtain ⟨next, result, buffered, looking⟩ := processed
      have frame := isFrame_kept follows accepts inPlace.1 fun looking start last => inPlace.2 looking start last fits
      rw [← buffered] at frame
      cases last : RtpHeader.getMarker packet.data with
      | true =>
          rw [last] at result looking
          rw [step, result]
          refine ⟨?_, fun other delivered => ⟨rfl, (Depacketizer.Outcome.delivered.inj delivered) ▸ frame⟩⟩
          cases hasStream with
          | true => exact follows_reset next _
          | false => exact fun other => absurd (looking.symm.trans other) SearchState.noConfusion
      | false =>
          rw [last] at result quiet
          exact quiet result fun _ => frame
    · rw [if_neg fits] at processed
      obtain ⟨next, result, _, looking⟩ := processed
      exact quiet result fun other => absurd (looking.symm.trans other) SearchState.noConfusion
  · obtain ⟨inside, before⟩ := not_or.mp accepts
    have looking : depacketizer.searchState = .lookingForStart := by
      cases looking : depacketizer.searchState with
      | lookingForStart => rfl
      | lookingForEnd => exact absurd looking inside
    obtain ⟨next, result, _, looking⟩ := processPacket_refuses looking (Bool.not_eq_true _ ▸ before)
    exact quiet result fun other => absurd (looking.symm.trans other) SearchState.noConfusion

theorem packetsOf_append (first second : List Event) : packetsOf (first ++ second) = packetsOf first ++ packetsOf second :=
  List.filterMap_append

theorem follows_run {events : List Event} (wellFormed : ∀ packet ∈ packetsOf events, WellFormed packet)
    (inPlace : Machine.Guarded step InPlace create events) :
    Follows (Machine.run step create events) (packetsOf events) := by
  induction events using List.reverseRecOn with
  | nil => exact fun looking => absurd looking SearchState.noConfusion
  | append_singleton events event ih =>
      obtain ⟨before, here⟩ := Machine.guarded_append.mp inPlace
      rw [packetsOf_append, List.forall_mem_append] at wellFormed
      rw [Machine.run_append, packetsOf_append]
      cases event with
      | maybeWriteVideoPacket packet hasStream =>
          exact (follows_packet hasStream (ih wellFormed.1 before) (wellFormed.2 packet List.mem_cons_self) here.1).1
      | reset => exact follows_reset _ _

/-- **Only whole frames are delivered**, in every run in which the packets are in their places. -/
theorem delivered_frame (events : List Event) (packet : DataPacket) (hasStream : Bool)
    (wellFormed : ∀ fed ∈ packetsOf (events ++ [.maybeWriteVideoPacket packet hasStream]), WellFormed fed)
    (inPlace : Machine.Guarded step InPlace create (events ++ [.maybeWriteVideoPacket packet hasStream])) :
    ∀ frame, (step (Machine.run step create events) (.maybeWriteVideoPacket packet hasStream)).2 = .delivered frame →
      RtpHeader.getMarker packet.data = true ∧ IsFrame (packetsOf events ++ [packet]) frame := by
  obtain ⟨before, here⟩ := Machine.guarded_append.mp inPlace
  rw [packetsOf_append, List.forall_mem_append] at wellFormed
  exact (follows_packet hasStream (follows_run wellFormed.1 before) (wellFormed.2 packet List.mem_cons_self) here.1).2

instance : DecidablePred WellFormed := fun _ => inferInstanceAs (Decidable (_ = true))

instance (depacketizer : Vp8Depacketizer) : DecidablePred depacketizer.InPlace
  | .maybeWriteVideoPacket _ _ => inferInstanceAs (Decidable (_ ∧ _))
  | .reset => inferInstanceAs (Decidable True)

/-- A packet with a payload, with the marker or without. -/
def rtpPacket (marker : Bool) (payload : List UInt8) : DataPacket :=
  videoPacket ([0x80, if marker then 228 else 100, 0, 1] ++ Bytes.encode32 0 ++ Bytes.encode32 7 ++ payload)

theorem delivered_frame_two :
    RtpHeader.getMarker (rtpPacket true [0, 0xBB]).data = true ∧
      IsFrame (packetsOf [.maybeWriteVideoPacket (rtpPacket false [0x10, 0xAA]) true] ++ [rtpPacket true [0, 0xBB]])
        [0xAA, 0xBB] :=
  delivered_frame [.maybeWriteVideoPacket (rtpPacket false [0x10, 0xAA]) true] (rtpPacket true [0, 0xBB]) true
    (by decide +kernel) (by decide +kernel) _ (by decide +kernel)

/-- A frame is delivered before there is a stream, and a frame of two packets follows. -/
def deliveredEarly : List Event :=
  [.maybeWriteVideoPacket (rtpPacket true [0x10, 0xAA]) false, .maybeWriteVideoPacket (rtpPacket false [0x10, 0xBB]) true]

/-- The first frame is delivered again, in front of the second one. -/
theorem not_delivered_frame_deliveredEarly :
    ¬∀ (events : List Event) (packet : DataPacket) (hasStream : Bool),
      (∀ fed ∈ packetsOf (events ++ [.maybeWriteVideoPacket packet hasStream]), WellFormed fed) →
        ∀ frame, (step (Machine.run step create events) (.maybeWriteVideoPacket packet hasStream)).2 = .delivered frame →
          RtpHeader.getMarker packet.data = true ∧ IsFrame (packetsOf events ++ [packet]) frame := by
  intro all
  obtain ⟨_, before, first, after, same, _, none, frame⟩ := all deliveredEarly (rtpPacket true [0, 0xCC]) true
    (by decide +kernel) [0xAA, 0xBB, 0xCC] (by decide +kernel)
  match before with
  | [] =>
      obtain ⟨rfl, rfl⟩ := List.cons.inj same
      exact none (rtpPacket false [0x10, 0xBB]) List.mem_cons_self (by decide +kernel)
  | [_] =>
      obtain ⟨rfl, rfl⟩ := List.cons.inj (List.cons.inj same).2
      exact absurd frame (by decide +kernel)
  | [_, _] =>
      obtain ⟨rfl, rfl⟩ := List.cons.inj (List.cons.inj (List.cons.inj same).2).2
      exact absurd frame (by decide +kernel)
  | _ :: _ :: _ :: _ => exact absurd (congrArg List.length same) (by simp [packetsOf, deliveredEarly])

/-! ### Splitting and reassembling -/

/-- The bytes behind a header. -/
theorem payload_videoPacket {bytes : List UInt8} {length : ℕ}
    (header : RtpHeader.getHeaderLength (videoPacket bytes).data = length) :
    (videoPacket bytes).payload = bytes.drop length := by
  rw [DataPacket.payload, header]
  show (List.range ((bytes.length : ℤ) - length).toNat).map (fun index => bytes.getD (length + index) 0) = _
  rw [Int.toNat_sub]
  refine List.ext_getElem (by simp) fun index first second => ?_
  rw [List.getElem_map, List.getElem_range, List.getElem_drop, List.getD_eq_getElem _ _ (by simp at second; omega)]

/-- A packet of a fragment. -/
def fragmentPacket (last : Bool) (seqnum : UInt16) (timestamp : UInt32) (outBuff : List UInt8) : DataPacket :=
  videoPacket ([0x80, (if last then 0x80 else 0) + 100] ++ Bytes.encode16 seqnum ++ Bytes.encode32 timestamp ++
    Bytes.encode32 55543 ++ outBuff)

theorem payload_fragmentPacket (last : Bool) (seqnum : UInt16) (timestamp : UInt32) (outBuff : List UInt8) :
    (fragmentPacket last seqnum timestamp outBuff).payload = outBuff := by
  have first : (fragmentPacket last seqnum timestamp outBuff).data 0 = 0x80 := rfl
  have header : RtpHeader.getHeaderLength (fragmentPacket last seqnum timestamp outBuff).data = 12 := by
    rw [RtpHeader.getHeaderLength, RtpHeader.getCc, RtpHeader.getExtension, first,
      show (0x80 : UInt8).toNat / 16 % 2 = 0 from rfl, Nat.zero_mul]
    rfl
  exact payload_videoPacket header

theorem getMarker_fragmentPacket (last : Bool) (seqnum : UInt16) (timestamp : UInt32) (outBuff : List UInt8) :
    RtpHeader.getMarker (fragmentPacket last seqnum timestamp outBuff).data = last := by
  have second : (fragmentPacket last seqnum timestamp outBuff).data 1 = (if last then 0x80 else 0) + 100 := rfl
  rw [RtpHeader.getMarker, second]
  cases last with
  | true => rfl
  | false => rfl

/-- A fragment is parsed to its bytes. -/
theorem parseVP8_fragment (first : Bool) (byte : UInt8) (rest : List UInt8) :
    (parseVP8 ((if first then 0x10 else 0) :: byte :: rest)).beginningOfPartition = first ∧
      (parseVP8 ((if first then 0x10 else 0) :: byte :: rest)).data = some (byte :: rest) := by
  have parsed : parseVP8 ((if first then 0x10 else 0) :: byte :: rest) =
      parseVP8Payload { beginningOfPartition := first, partitionID := 0 } (byte :: rest) := by
    cases first with
    | true => rfl
    | false => rfl
  rw [parsed]
  refine ⟨?_, rfl⟩
  rw [parseVP8Payload]
  simp only [parseVP8FrameSize]
  split_ifs <;> rfl

/-- A packet that carries a part of a frame. -/
structure CarriesPart (packet : DataPacket) (frame : List UInt8) (position size : ℕ) (last : Bool) : Prop where
  wellFormed : WellFormed packet
  starts : starts packet = decide (position = 0)
  content : content packet = (frame.drop position).take size
  marker : RtpHeader.getMarker packet.data = last

/-- The packet of a fragment carries the fragment. -/
theorem carriesPart_fragmentPacket {frame : List UInt8} {position size : ℕ} (positive : 0 < size)
    (inside : position + size ≤ frame.length) (last : Bool) (seqnum : UInt16) (timestamp : UInt32) :
    CarriesPart (fragmentPacket last seqnum timestamp
      ((if decide (position = 0) then 0x10 else 0) :: (frame.drop position).take size)) frame position size last := by
  have some_bytes : (frame.drop position).take size ≠ [] := by
    refine List.ne_nil_of_length_pos ?_
    rw [List.length_take, List.length_drop]
    omega
  obtain ⟨byte, rest, same⟩ := List.exists_cons_of_ne_nil some_bytes
  obtain ⟨start, data⟩ := parseVP8_fragment (decide (position = 0)) byte rest
  rw [same]
  refine ⟨?_, ?_, ?_, getMarker_fragmentPacket _ _ _ _⟩
  · rw [WellFormed, payload_fragmentPacket, data]
    rfl
  · rw [Vp8Depacketizer.starts, payload_fragmentPacket, start]
  · rw [Vp8Depacketizer.content, payload_fragmentPacket, data]
    exact same.symm

/-- A depacketizer between two frames. -/
structure Idle (depacketizer : Vp8Depacketizer) : Prop where
  looking : depacketizer.searchState = .lookingForStart
  empty : depacketizer.buffer = []

/-- A depacketizer that has the first bytes of a frame. -/
structure Reached (depacketizer : Vp8Depacketizer) (frame : List UInt8) (position : ℕ) : Prop where
  buffered : depacketizer.buffer = frame.take position
  looking : depacketizer.searchState = if position = 0 then .lookingForStart else .lookingForEnd

/-- A packet that is written as soon as it completes a frame. -/
def written (packet : DataPacket) : Event := .maybeWriteVideoPacket packet true

/-- **A part of a frame that fits is added**, and the frame is delivered with the last one. -/
theorem step_part {depacketizer : Vp8Depacketizer} {packet : DataPacket} {frame : List UInt8} {position size : ℕ}
    {last : Bool} (reached : Reached depacketizer frame position) (part : CarriesPart packet frame position size last)
    (positive : 0 < size) (inside : position + size ≤ frame.length)
    (short : frame.length < Depacketizer.unpackageBufferSize) :
    (last = true → Idle (depacketizer.step (written packet)).1 ∧
        (depacketizer.step (written packet)).2 = .delivered (frame.take (position + size))) ∧
      (last = false → Reached (depacketizer.step (written packet)).1 frame (position + size) ∧
        (depacketizer.step (written packet)).2 = .quiet) := by
  obtain ⟨buffered, looking⟩ := reached
  have accepts : depacketizer.searchState = .lookingForEnd ∨ starts packet = true := by
    rw [part.starts, looking]
    by_cases first : position = 0
    · exact Or.inr (decide_eq_true first)
    · exact Or.inl (if_neg first)
  have same : kept depacketizer.toDepacketizer (starts packet) (RtpHeader.getMarker packet.data) = frame.take position := by
    unfold kept
    rw [part.starts, buffered]
    by_cases first : position = 0
    · rw [first, List.take_zero, ite_self]
    · rw [decide_eq_false first]
      rfl
  have fits : depacketizer.Fits packet := by
    rw [Fits, same, part.content, List.length_take, List.length_take, List.length_drop]
    omega
  have processed := processPacket_accepts part.wellFormed accepts
  rw [if_pos fits, same, part.content, ← List.take_add, part.marker] at processed
  obtain ⟨next, result, buffer, state⟩ := processed
  rw [written, step, result]
  refine ⟨fun ends => ?_, fun goesOn => ?_⟩
  · subst ends
    exact ⟨⟨rfl, rfl⟩, congrArg _ buffer⟩
  · subst goesOn
    exact ⟨⟨buffer, state.trans (if_neg (by omega)).symm⟩, rfl⟩

open RtpVP8Fragmenter

/-- The outcomes of a frame: nothing until its last packet. -/
def outcomesOf (frame : List UInt8) (packets : List DataPacket) : List Depacketizer.Outcome :=
  List.replicate (packets.length - 1) .quiet ++ [.delivered frame]

theorem outcomesOf_cons (frame : List UInt8) (packet : DataPacket) {packets : List DataPacket}
    (some_packets : packets ≠ []) : .quiet :: outcomesOf frame packets = outcomesOf frame (packet :: packets) := by
  obtain ⟨first, rest, rfl⟩ := List.exists_cons_of_ne_nil some_packets
  rfl

/-- The queue is empty when nothing remains, and only then. -/
theorem calculateLoop_isEmpty {rounds position remaining : ℕ} (enough : remaining ≤ rounds) :
    (calculateLoop rounds position remaining).isEmpty = decide (remaining = 0) := by
  cases rounds with
  | zero =>
      obtain rfl := Nat.le_zero.mp enough
      rfl
  | succ rounds =>
      rw [calculateLoop]
      split
      · rename_i more
        exact (decide_eq_false (Nat.ne_of_gt more)).symm
      · rename_i none
        exact (decide_eq_true (Nat.eq_zero_of_not_pos none)).symm

/-- The next fragment, and what remains behind it. -/
theorem calculateLoop_succ (rounds position : ℕ) {remaining : ℕ} (more : 0 < remaining) :
    calculateLoop (rounds + 1) position remaining =
      ⟨position, min remaining (maxSize - 1), position = 0⟩ ::
        calculateLoop rounds (position + min remaining (maxSize - 1)) (remaining - min remaining (maxSize - 1)) := by
  have size : (if remaining > maxSize - 1 then maxSize - 1 else remaining) = min remaining (maxSize - 1) := by
    split <;> omega
  rw [calculateLoop, if_pos more]
  simp only [size]

/-- **The rest of a frame is packaged and comes out**, from a position on. -/
theorem packageLoop_outputs {frame : List UInt8} (short : frame.length < Depacketizer.unpackageBufferSize)
    (timestamp : UInt32) {rounds position : ℕ} (before : position < frame.length)
    (enough : frame.length - position ≤ rounds) (seqnum : UInt16) {depacketizer : Vp8Depacketizer}
    (reached : Reached depacketizer frame position) :
    let queue := calculateLoop rounds position (frame.length - position)
    let packets := packageLoop timestamp queue.length ⟨frame, queue⟩ seqnum
    Machine.outputs step depacketizer (packets.map written) = outcomesOf frame packets ∧
      Idle (Machine.run step depacketizer (packets.map written)) ∧ packets ≠ [] ∧
        ∀ packet ∈ packets, packet.payload.length ≤ maxSize := by
  induction rounds generalizing position seqnum depacketizer with
  | zero => omega
  | succ rounds ih =>
      obtain ⟨size, sized⟩ : ∃ size, size = min (frame.length - position) (maxSize - 1) := ⟨_, rfl⟩
      have limit : maxSize = 1100 := rfl
      rw [calculateLoop_succ rounds position (by omega), ← sized, Nat.sub_sub]
      have empty := @calculateLoop_isEmpty rounds (position + size) (frame.length - (position + size)) (by omega)
      generalize queued : calculateLoop rounds (position + size) (frame.length - (position + size)) = rest at empty ⊢
      have part := carriesPart_fragmentPacket (by omega : 0 < size) (by omega : position + size ≤ frame.length)
        rest.isEmpty seqnum timestamp
      have small : (fragmentPacket rest.isEmpty seqnum timestamp
          ((if decide (position = 0) then 0x10 else 0) :: (frame.drop position).take size)).payload.length ≤ maxSize := by
        rw [payload_fragmentPacket, List.length_cons, List.length_take]
        omega
      have package : packageLoop timestamp (rest.length + 1) ⟨frame, ⟨position, size, position = 0⟩ :: rest⟩ seqnum =
          if rest.isEmpty then [fragmentPacket rest.isEmpty seqnum timestamp
            ((if decide (position = 0) then 0x10 else 0) :: (frame.drop position).take size)]
          else fragmentPacket rest.isEmpty seqnum timestamp
            ((if decide (position = 0) then 0x10 else 0) :: (frame.drop position).take size) ::
              packageLoop timestamp rest.length ⟨frame, rest⟩ (seqnum + 1) := rfl
      simp only [List.length_cons, package]
      generalize fragmentPacket rest.isEmpty seqnum timestamp
        ((if decide (position = 0) then 0x10 else 0) :: (frame.drop position).take size) = packet at part small ⊢
      have stepped := step_part reached part (by omega) (by omega) short
      cases ends : rest.isEmpty with
      | true =>
          rw [ends] at empty stepped
          obtain ⟨idle, delivered⟩ := stepped.1 rfl
          have whole : frame.take (position + size) = frame :=
            List.take_of_length_le (Nat.le_of_sub_eq_zero (of_decide_eq_true empty.symm))
          rw [whole] at delivered
          refine ⟨?_, idle, List.cons_ne_nil _ _, List.forall_mem_singleton.mpr small⟩
          exact congrArg (fun outcome => [outcome]) delivered
      | false =>
          rw [ends] at empty stepped
          obtain ⟨onward, quiet⟩ := stepped.2 rfl
          have more := of_decide_eq_false empty.symm
          have following := ih (by omega) (by omega) (seqnum + 1) onward
          simp only [queued] at following
          obtain ⟨outputs, idle, some_packets, sizes⟩ := following
          refine ⟨?_, idle, List.cons_ne_nil _ _, List.forall_mem_cons.mpr ⟨small, sizes⟩⟩
          rw [if_neg Bool.false_ne_true, List.map_cons, Machine.outputs, outputs, quiet]
          exact outcomesOf_cons frame _ some_packets

/-- **A frame is packaged and comes out.** -/
theorem packageVideo_outputs {frame : List UInt8} (some_bytes : frame ≠ [])
    (short : frame.length < Depacketizer.unpackageBufferSize) (timestamp : UInt32) (seqnum : UInt16)
    {depacketizer : Vp8Depacketizer} (idle : Idle depacketizer) :
    Machine.outputs step depacketizer ((packageVideo frame timestamp seqnum).map written) =
        outcomesOf frame (packageVideo frame timestamp seqnum) ∧
      Idle (Machine.run step depacketizer ((packageVideo frame timestamp seqnum).map written)) ∧
        packageVideo frame timestamp seqnum ≠ [] ∧
          ∀ packet ∈ packageVideo frame timestamp seqnum, packet.payload.length ≤ maxSize :=
  packageLoop_outputs short timestamp (List.length_pos_of_ne_nil some_bytes) le_rfl seqnum
    ⟨idle.empty.trans List.take_zero.symm, idle.looking⟩

/-- **Splitting and reassembling are inverse**: of every frame's packets the last one delivers the frame, and no other
one delivers anything. No fragment is longer than `maxSize`. -/
theorem reassembles (frames : List (List UInt8 × UInt32)) (some_bytes : ∀ frame ∈ frames, frame.1 ≠ [])
    (short : ∀ frame ∈ frames, frame.1.length < 1000000) (seqnum : UInt16) :
    Machine.outputs step create ((packageFrames seqnum frames).flatMap fun sent => sent.2.map written) =
        (packageFrames seqnum frames).flatMap (fun sent => outcomesOf sent.1 sent.2) ∧
      (packageFrames seqnum frames).map Prod.fst = frames.map Prod.fst ∧
        ∀ sent ∈ packageFrames seqnum frames, sent.2 ≠ [] ∧ ∀ packet ∈ sent.2, packet.payload.length ≤ 1100 := by
  have idle : Idle create := ⟨rfl, rfl⟩
  generalize create = depacketizer at idle ⊢
  induction frames generalizing seqnum depacketizer with
  | nil => exact ⟨rfl, rfl, fun _ member => absurd member List.not_mem_nil⟩
  | cons frame rest ih =>
      obtain ⟨first, others⟩ := List.forall_mem_cons.mp some_bytes
      obtain ⟨fits, otherFits⟩ := List.forall_mem_cons.mp short
      obtain ⟨outputs, onward, some_packets, sizes⟩ := packageVideo_outputs first fits frame.2 seqnum idle
      obtain ⟨following, names, each⟩ := ih others otherFits
        (seqnum + UInt16.ofNat (packageVideo frame.1 frame.2 seqnum).length) _ onward
      rw [packageFrames]
      refine ⟨?_, ?_, List.forall_mem_cons.mpr ⟨⟨some_packets, sizes⟩, each⟩⟩
      · rw [List.flatMap_cons, List.flatMap_cons, Machine.outputs_append, outputs, following]
      · rw [List.map_cons, List.map_cons, names]

/-- Two frames, the first of which is one byte longer than a fragment. -/
def twoFrames : List (List UInt8 × UInt32) := [(List.replicate 1100 7, 3000), ([9], 6000)]

theorem reassembles_twoFrames :
    Machine.outputs step create ((packageFrames 65535 twoFrames).flatMap fun sent => sent.2.map written) =
        (packageFrames 65535 twoFrames).flatMap (fun sent => outcomesOf sent.1 sent.2) ∧
      (packageFrames 65535 twoFrames).map Prod.fst = twoFrames.map Prod.fst ∧
        ∀ sent ∈ packageFrames 65535 twoFrames, sent.2 ≠ [] ∧ ∀ packet ∈ sent.2, packet.payload.length ≤ 1100 :=
  reassembles twoFrames (by decide +kernel) (by decide +kernel) 65535

end Vp8Depacketizer

end Erizo
