/-
**Feedback on a slideshow.**

The callback of `read` rewrites the first extended number of a receiver report and the first PID of a feedback
block, when their numbers have an input (`rewrite_report`, `rewrite_feedback`). It takes one from the cycles when the
input is behind the number, not when the number wraps.

* `read_translates_iff`: the reports and items of a packet are translated exactly when the reports have come through
  without a wrap, or back across one, and the items ask for inputs that are as far apart as their numbers.
-/

import Erizo.Model.RtpSlideShowHandler
import Erizo.Proof.RtcpWalk

namespace Erizo

open Library Library.Bytes Library.Serial RtcpHeader RtpUtils

namespace RtpSlideShowHandler

variable {translator : SequenceNumberTranslator .standard}

/-! ### What should be translated -/

/-- The difference of two numbers that is closest to zero. -/
def serialDifference (input output : UInt16) : ℤ := Int.bmod ((input.toNat : ℤ) - output.toNat) (2 ^ 16)

/-- The numbers an item requests. -/
def requested (data : Memory) (header : ℕ) : List UInt16 := nackNumbers (getNackPid data header) (getNackBlp data header)

/-- All numbers of an item have inputs. -/
def Known (translator : SequenceNumberTranslator .standard) (data : Memory) (header : ℕ) : Prop :=
  ∀ number ∈ requested data header, (translator.reverse number).type = .valid

/-- **The reports and the items are translated.** A report whose number has an input is moved by the difference of
the two, and an item whose numbers have inputs requests the inputs. -/
structure Translated (translator : SequenceNumberTranslator .standard) (data written : Memory) (blocks : List ℕ) :
    Prop where
  highest : ∀ block ∈ blocks, ∀ header ∈ reports data block,
    let entry := translator.reverse (getHighestSeqnum data header)
    entry.type = .valid →
      ((extendedHighest written header).toNat : ℤ) =
        ((extendedHighest data header).toNat + serialDifference entry.input entry.output) % 2 ^ 32
  items : ∀ block ∈ blocks, ∀ header ∈ nacks data block, Known translator data header →
    ∀ number, number ∈ requested written header ↔
      ∃ output ∈ requested data header, (translator.reverse output).input = number

/-- What is rewritten is in the block. -/
def Contained (translator : SequenceNumberTranslator .standard) (data : Memory) (block : ℕ) : Prop :=
  (getPacketType data block = receiverPt →
    (translator.reverse (getHighestSeqnum data block)).type = .valid → 20 ≤ blockLength data block) ∧
  (getPacketType data block = rtpFeedbackPt →
    (translator.reverse (getNackPid data block)).type = .valid → 14 ≤ blockLength data block)

instance (translator : SequenceNumberTranslator .standard) (data : Memory) (block : ℕ) :
    Decidable (Contained translator data block) := inferInstanceAs (Decidable (_ ∧ _))

/-- A first report has come through without a wrap, by fewer than `2 ^ 12`, or back across one; the further ones
have their own numbers. -/
def AlignedReport (block header : ℕ) (highest input : UInt16) : Prop :=
  if header = block then
    highest.toNat ≤ input.toNat ∧ (input.toNat < highest.toNat + 2 ^ 12 ∨ highest.toNat + 2 ^ 15 ≤ input.toNat)
  else input = highest

instance (block header : ℕ) (highest input : UInt16) : Decidable (AlignedReport block header highest input) := by
  unfold AlignedReport
  infer_instance

/-- The inputs of an item are as far from the PID that is written as its numbers are from its PID. -/
def AlignedItem (translator : SequenceNumberTranslator .standard) (data : Memory) (block header : ℕ) : Prop :=
  let pid := getNackPid data header
  let written := if header = block then (translator.reverse pid).input else pid
  ∀ distance : UInt16, (∃ output ∈ requested data header, (translator.reverse output).input - written = distance) ↔
    ∃ output ∈ requested data header, output - pid = distance

/-- A block whose translation is a shift. -/
def Aligned (translator : SequenceNumberTranslator .standard) (data : Memory) (block : ℕ) : Prop :=
  (∀ header ∈ reports data block,
    let entry := translator.reverse (getHighestSeqnum data header)
    entry.type = .valid → AlignedReport block header (getHighestSeqnum data header) entry.input) ∧
  ∀ header ∈ nacks data block, Known translator data header → AlignedItem translator data block header

/-! ### One block -/

/-- The memory that the callback leaves. -/
def rewrite (translator : SequenceNumberTranslator .standard) (block : ℕ) (data : Memory) : Memory :=
  (translateBlock translator block data).getD data

/-- The callback never fails. -/
theorem translateBlock_eq (block : ℕ) (data : Memory) :
    translateBlock translator block data = some (rewrite translator block data) := by
  unfold rewrite translateBlock
  simp only
  split
  · split <;> rfl
  · split
    · split <;> rfl
    · rfl

section Block

variable {data : Memory} {block : ℕ}

/-- **A receiver report.** -/
theorem rewrite_report (report : getPacketType data block = receiverPt) :
    let entry := translator.reverse (getHighestSeqnum data block)
    (entry.type ≠ .valid → rewrite translator block data = data) ∧
      (entry.type = .valid →
        rewrite translator block data =
          setHighestSeqnum (if sequenceNumberLessThan entry.input (getHighestSeqnum data block) then
            setSeqnumCycles data block (getSeqnumCycles data block - 1) else data) block entry.input) := by
  intro entry
  unfold rewrite translateBlock
  simp only [if_pos report]
  constructor
  · intro unknown
    rw [if_pos unknown]
    rfl
  · intro known
    rw [if_neg (not_not_intro known)]
    rfl

/-- **A feedback block.** -/
theorem rewrite_feedback (feedback : getPacketType data block = rtpFeedbackPt) :
    let entry := translator.reverse (getNackPid data block)
    rewrite translator block data = if entry.type = .valid then setNackPid data block entry.input else data := by
  intro entry
  have other : ¬ getPacketType data block = receiverPt := by rw [feedback]; decide
  unfold rewrite translateBlock
  simp only [if_neg other, if_pos feedback]
  split <;> rfl

/-- Any other block. -/
theorem rewrite_other (report : getPacketType data block ≠ receiverPt)
    (feedback : getPacketType data block ≠ rtpFeedbackPt) :
    rewrite translator block data = data := by
  unfold rewrite translateBlock
  simp only [if_neg report, if_neg feedback]
  rfl

/-- The bytes of a receiver report that are not written. -/
theorem rewrite_report_of_disjoint (report : getPacketType data block = receiverPt) {address : ℕ}
    (apart : address < block + 16 ∨ block + 20 ≤ address) : rewrite translator block data address = data address := by
  obtain ⟨unknown, known⟩ := @rewrite_report translator data block report
  by_cases valid : (translator.reverse (getHighestSeqnum data block)).type = .valid
  · rw [known valid, setHighestSeqnum, write16_of_disjoint _ _ (by omega)]
    split
    · exact write16_of_disjoint _ _ (by omega)
    · rfl
  · rw [unknown valid]

/-- The bytes of a feedback block that are not written. -/
theorem rewrite_feedback_of_disjoint (feedback : getPacketType data block = rtpFeedbackPt) {address : ℕ}
    (apart : address < block + 12 ∨ block + 14 ≤ address) : rewrite translator block data address = data address := by
  rw [rewrite_feedback feedback]
  split
  · exact write16_of_disjoint _ _ apart
  · rfl

/-- The callback reads nothing in front of its block. -/
theorem rewrite_congr {first second : Memory} (same : ∀ address, block ≤ address → first address = second address)
    {address : ℕ} (above : block ≤ address) :
    rewrite translator block first address = rewrite translator block second address := by
  have here := same address above
  have type : getPacketType first block = getPacketType second block := same (block + 1) (by omega)
  have highest : getHighestSeqnum first block = getHighestSeqnum second block :=
    read16_congr fun address above _ => same address (by omega)
  have cycles : getSeqnumCycles first block = getSeqnumCycles second block :=
    read16_congr fun address above _ => same address (by omega)
  have pid : getNackPid first block = getNackPid second block :=
    read16_congr fun address above _ => same address (by omega)
  unfold rewrite translateBlock
  simp only [type, highest, cycles, pid]
  split
  · split
    · exact here
    · split
      · exact copy_congr (copy_congr here _ _) _ _
      · exact copy_congr here _ _
  · split
    · split
      · exact copy_congr here _ _
      · exact here
    · exact here

theorem contained_congr {first second : Memory} (same : ∀ address, block ≤ address → first address = second address)
    (contained : Contained translator first block) : Contained translator second block := by
  have type : getPacketType first block = getPacketType second block := same (block + 1) (by omega)
  have highest : getHighestSeqnum first block = getHighestSeqnum second block :=
    read16_congr fun address above _ => same address (by omega)
  have pid : getNackPid first block = getNackPid second block :=
    read16_congr fun address above _ => same address (by omega)
  rw [Contained, type, highest, pid, blockLength_congr same] at contained
  exact contained

/-- What is written is in the block. -/
theorem Contained.inside (contained : Contained translator data block) (address : ℕ)
    (outside : address < block ∨ block + blockLength data block ≤ address) :
    rewrite translator block data address = data address := by
  by_cases report : getPacketType data block = receiverPt
  · by_cases known : (translator.reverse (getHighestSeqnum data block)).type = .valid
    · have long := contained.1 report known
      exact rewrite_report_of_disjoint report (by omega)
    · rw [(rewrite_report report).1 known]
  · by_cases feedback : getPacketType data block = rtpFeedbackPt
    · by_cases known : (translator.reverse (getNackPid data block)).type = .valid
      · have long := contained.2 feedback known
        exact rewrite_feedback_of_disjoint feedback (by omega)
      · rw [rewrite_feedback feedback, if_neg known]
    · rw [rewrite_other report feedback]

end Block

/-! ### One report and one item -/

theorem reverse_output (translator : SequenceNumberTranslator .standard) (output : UInt16) :
    (translator.reverse output).output = output := by
  unfold SequenceNumberTranslator.reverse
  simp only
  split
  · rfl
  · rename_i found
    exact not_not.mp fun other => found (Or.inl other)

theorem serialDifference_cases (input output : UInt16) :
    serialDifference input output = input.toNat - output.toNat ∧ -2 ^ 15 ≤ (input.toNat : ℤ) - output.toNat ∧
        (input.toNat : ℤ) - output.toNat < 2 ^ 15 ∨
      serialDifference input output = input.toNat - output.toNat - 2 ^ 16 ∧ 2 ^ 15 ≤ (input.toNat : ℤ) - output.toNat ∨
      serialDifference input output = input.toNat - output.toNat + 2 ^ 16 ∧ (input.toNat : ℤ) - output.toNat < -2 ^ 15 := by
  have left := input.toNat_lt
  have right := output.toNat_lt
  unfold serialDifference Int.bmod
  simp only [Nat.reducePow, Nat.cast_ofNat]
  split
  · omega
  · omega

/-- **A number and its cycles** come out right when the number does not wrap and does not fall, or wraps back. -/
theorem extended_iff (cycles highest input : UInt16) :
    (((if sequenceNumberLessThan input highest then cycles - 1 else cycles).toNat * 2 ^ 16 + input.toNat : ℕ) : ℤ) =
        (((cycles.toNat * 2 ^ 16 + highest.toNat : ℕ) : ℤ) + serialDifference input highest) % 2 ^ 32 ↔
      highest.toNat ≤ input.toNat ∧
        (input.toNat < highest.toNat + 2 ^ 12 ∨ highest.toNat + 2 ^ 15 ≤ input.toNat) := by
  have high := cycles.toNat_lt
  have low := highest.toNat_lt
  have top := input.toNat_lt
  have less : sequenceNumberLessThan input highest = true ↔ 2 ^ 12 ≤ ahead 16 highest input :=
    numberLessThan_iff input highest (by decide) le_rfl
  have distance := ahead_reduced (le_refl 16) highest input highest.toNat_lt input.toNat_lt
  have below := ahead_lt 16 highest input
  have difference := serialDifference_cases input highest
  have back : (cycles - 1).toNat = (2 ^ 16 - 1 + cycles.toNat) % 2 ^ 16 := UInt16.toNat_sub _ _
  by_cases behind : sequenceNumberLessThan input highest = true
  · have far := less.mp behind
    rw [if_pos behind, back]
    omega
  · have near : ¬ 2 ^ 12 ≤ ahead 16 highest input := fun far => behind (less.mpr far)
    rw [if_neg behind]
    omega

section Fields

variable {data : Memory} {block header : ℕ}

/-- **A report.** -/
theorem report_iff (member : header ∈ reports data block)
    (known : (translator.reverse (getHighestSeqnum data header)).type = .valid) :
    (((extendedHighest (rewrite translator block data) header).toNat : ℤ) =
        ((extendedHighest data header).toNat +
          serialDifference (translator.reverse (getHighestSeqnum data header)).input
            (translator.reverse (getHighestSeqnum data header)).output) % 2 ^ 32) ↔
      AlignedReport block header (getHighestSeqnum data header)
        (translator.reverse (getHighestSeqnum data header)).input := by
  have place := mem_reports member
  have low : header + 16 + 2 = header + 18 := rfl
  rw [reverse_output, extendedHighest, extendedHighest, toNat_read32, toNat_read32, low, AlignedReport]
  by_cases first : header = block
  · subst first
    rw [if_pos rfl, (rewrite_report place.1).2 known, ← extended_iff (getSeqnumCycles data header)]
    rw [setHighestSeqnum, read16_write16, read16_write16_of_disjoint _ _ (Or.inl le_rfl)]
    have cycles : read16 (if sequenceNumberLessThan (translator.reverse (getHighestSeqnum data header)).input
        (getHighestSeqnum data header) then setSeqnumCycles data header (getSeqnumCycles data header - 1) else data)
          (header + 16) =
        if sequenceNumberLessThan (translator.reverse (getHighestSeqnum data header)).input (getHighestSeqnum data header)
          then getSeqnumCycles data header - 1 else getSeqnumCycles data header := by
      split
      · exact read16_write16 _ _ _
      · rfl
    rw [cycles]
    rfl
  · have later : block + 24 ≤ header := by
      unfold reports at member
      rw [if_pos place.1] at member
      obtain ⟨index, -, rfl⟩ := List.mem_map.mp member
      omega
    have kept : ∀ position, header + 16 ≤ position →
        read16 (rewrite translator block data) position = read16 data position := fun position behind =>
      read16_congr fun address above _ => rewrite_report_of_disjoint place.1 (Or.inr (by omega))
    rw [if_neg first, kept _ le_rfl, kept _ (by omega)]
    have difference := serialDifference_cases (translator.reverse (getHighestSeqnum data header)).input
      (getHighestSeqnum data header)
    have high := (read16 data (header + 16)).toNat_lt
    have left := (translator.reverse (getHighestSeqnum data header)).input.toNat_lt
    have right := (getHighestSeqnum data header).toNat_lt
    rw [show read16 data (header + 18) = getHighestSeqnum data header from rfl, ← UInt16.toNat_inj]
    omega

/-- **An item.** -/
theorem item_iff (member : header ∈ nacks data block) (known : Known translator data header) :
    (∀ number, number ∈ requested (rewrite translator block data) header ↔
        ∃ output ∈ requested data header, (translator.reverse output).input = number) ↔
      AlignedItem translator data block header := by
  have place := mem_nacks member
  have pid : getNackPid (rewrite translator block data) header =
      if header = block then (translator.reverse (getNackPid data header)).input else getNackPid data header := by
    split
    · rename_i first
      subst first
      have own : (translator.reverse (getNackPid data header)).type = .valid :=
        known _ (mem_nackNumbers.mpr (Or.inl rfl))
      rw [rewrite_feedback place.1, if_pos own]
      exact read16_write16 _ _ _
    · have later : block + 4 ≤ header := by omega
      exact read16_congr fun address above _ => rewrite_feedback_of_disjoint place.1 (Or.inr (by omega))
  have blp : getNackBlp (rewrite translator block data) header = getNackBlp data header :=
    read16_congr fun address above _ => rewrite_feedback_of_disjoint place.1 (Or.inr (by omega))
  have shift : ∀ number, number ∈ requested (rewrite translator block data) header ↔
      ∃ output ∈ requested data header,
        output - getNackPid data header = number - getNackPid (rewrite translator block data) header := by
    intro number
    rw [requested, mem_nackNumbers, blp]
    constructor
    · intro asked
      refine ⟨number - getNackPid (rewrite translator block data) header + getNackPid data header, ?_, by abel⟩
      rw [requested, mem_nackNumbers, add_sub_cancel_right]
      refine asked.imp (fun same => ?_) id
      rw [same, sub_self, zero_add]
    · rintro ⟨output, asked, apart⟩
      rw [requested, mem_nackNumbers, apart] at asked
      refine asked.imp (fun same => ?_) id
      rw [same, sub_self] at apart
      exact (sub_eq_zero.mp apart.symm)
  simp only [shift]
  unfold AlignedItem
  simp only
  rw [← pid]
  constructor
  · intro asked distance
    have moved := asked (distance + getNackPid (rewrite translator block data) header)
    rw [add_sub_cancel_right] at moved
    rw [moved]
    refine exists_congr fun output => and_congr_right fun _ => ?_
    exact sub_eq_iff_eq_add
  · intro aligned number
    rw [← aligned]
    refine exists_congr fun output => and_congr_right fun _ => ?_
    exact sub_left_inj

end Fields

/-! ### Whole packets -/

/-- **When the feedback of a slideshow is translated.** -/
theorem read_translates_iff (handler : RtpSlideShowHandler) (packet : DataPacket)
    (own : handler.stream.videoSinkSSRC = getSourceSSRC packet.data 0)
    (contained : ∀ block ∈ rtcpBlocks packet.data packet.length, Contained handler.translator packet.data block) :
    (∃ data, handler.read packet = some { packet with data := data } ∧
        Translated handler.translator packet.data data (rtcpBlocks packet.data packet.length)) ↔
      ∀ block ∈ rtcpBlocks packet.data packet.length, Aligned handler.translator packet.data block := by
  obtain ⟨final, walked, within⟩ : ∃ final,
      forEachRtcpBlock id packet.length (translateBlock handler.translator) packet.data = some final ∧
        ∀ block ∈ rtcpBlocks packet.data packet.length, ∀ address, block ≤ address →
          address < block + blockLength packet.data block →
            final address = rewrite handler.translator block packet.data address := by
    unfold forEachRtcpBlock rtcpBlocks
    unfold rtcpBlocks at contained
    by_cases rtcp : isRtcp packet.data 0 = true
    · rw [if_pos rtcp] at contained
      obtain ⟨final, walked, -, within⟩ :=
        @blockLoop_each (rewrite handler.translator) (Contained handler.translator)
          (fun same => ⟨contained_congr same, fun address above => rewrite_congr same above⟩)
          (fun contained => contained.inside) packet.length _ 0 packet.data contained
      refine ⟨final, ?_, by rwa [if_pos rtcp]⟩
      rw [id, if_pos rtcp, ← walked]
      congr 1
      funext block data
      exact translateBlock_eq block data
    · refine ⟨packet.data, if_neg rtcp, ?_⟩
      rw [if_neg rtcp]
      exact fun _ absent => absurd absent List.not_mem_nil
  have outcome : handler.read packet = some { packet with data := final } := by
    unfold read
    rw [if_neg (not_not_intro own), walked]
    rfl
  have reports_same : ∀ block ∈ rtcpBlocks packet.data packet.length, ∀ header ∈ reports packet.data block,
      extendedHighest final header = extendedHighest (rewrite handler.translator block packet.data) header := by
    intro block member header inside
    have place := mem_reports inside
    exact read32_congr fun address above below => within block member address (by omega) (by omega)
  have items_same : ∀ block ∈ rtcpBlocks packet.data packet.length, ∀ header ∈ nacks packet.data block,
      requested final header = requested (rewrite handler.translator block packet.data) header := by
    intro block member header inside
    have place := mem_nacks inside
    refine congrArg₂ nackNumbers ?_ ?_ <;>
      exact read16_congr fun address above below => within block member address (by omega) (by omega)
  constructor
  · rintro ⟨data, read, translated⟩ block member
    rw [outcome, Option.some_inj] at read
    obtain rfl : final = data := congrArg DataPacket.data read
    refine ⟨fun header inside known => ?_, fun header inside known => ?_⟩
    · have moved := translated.highest block member header inside known
      rw [reports_same block member header inside] at moved
      exact (report_iff inside known).mp moved
    · have asked := translated.items block member header inside known
      rw [items_same block member header inside] at asked
      exact (item_iff inside known).mp asked
  · intro aligned
    refine ⟨final, outcome, fun block member header inside known => ?_, fun block member header inside known => ?_⟩
    · rw [reports_same block member header inside]
      exact (report_iff inside known).mpr ((aligned block member).1 header inside known)
    · rw [items_same block member header inside]
      exact (item_iff inside known).mpr ((aligned block member).2 header inside known)

/-! ### Keyframes across the wrap -/

/-- A slideshow of two keyframes, with a packet between them that is skipped. -/
def twoKeyframes (first : UInt16) : List Call :=
  [.setSlideShowMode true 0, .write (picturePacket true first 10 true) vp8Description 0 0,
    .write (picturePacket false (first + 1) 20 true) vp8Description 0 0,
    .write (picturePacket true (first + 2) 30 true) vp8Description 0 0]

theorem read_translates_skipped :
    ∃ data, (Machine.run step (create videoStream 0) (twoKeyframes 5)).read (reportPacket 3 6) =
        some { reportPacket 3 6 with data := data } ∧
      Translated (Machine.run step (create videoStream 0) (twoKeyframes 5)).translator (reportPacket 3 6).data data
        (rtcpBlocks (reportPacket 3 6).data (reportPacket 3 6).length) := by
  have blocks : rtcpBlocks (reportPacket 3 6).data (reportPacket 3 6).length = [0] := by decide +kernel
  refine (read_translates_iff _ (reportPacket 3 6) (by decide +kernel) ?_).mpr ?_
  · rw [blocks]
    decide +kernel
  · rw [blocks]
    refine List.forall_mem_singleton.mpr ⟨by decide +kernel, ?_⟩
    have none : nacks (reportPacket 3 6).data 0 = [] := by decide +kernel
    rw [none]
    exact fun _ absent => absurd absent List.not_mem_nil

/-- The second keyframe is packet 0 and has been sent as 65535: the cycle it has begun is lost. -/
theorem read_loses_cycle :
    ¬ ∀ (stream : MediaStream) (now : ℤ) (calls : List Call) (packet : DataPacket),
      stream.videoSinkSSRC = getSourceSSRC packet.data 0 →
        ∃ data, (Machine.run step (create stream now) calls).read packet = some { packet with data := data } ∧
          Translated (Machine.run step (create stream now) calls).translator packet.data data
            (rtcpBlocks packet.data packet.length) := by
  intro translates
  obtain ⟨data, read, translated⟩ := translates videoStream 0 (twoKeyframes 65534)
    (reportPacket 0 65535) (by decide +kernel)
  have number := translated.highest 0 (by decide +kernel) 0 (by decide +kernel) (by decide +kernel)
  have written : ((Machine.run step (create videoStream 0) (twoKeyframes 65534)).read (reportPacket 0 65535)).map
      (fun packet => extendedHighest packet.data 0) = some 0 := by decide +kernel
  rw [read, Option.map_some, Option.some_inj] at written
  rw [written] at number
  exact absurd number (by decide +kernel)

end RtpSlideShowHandler

end Erizo
