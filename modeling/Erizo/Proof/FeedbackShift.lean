/-
**What is added back to feedback.**

A block has one word changed by `handleFeedback`, if any (`shiftBlock_eq`): the low half of the first extended
number of a receiver report, or the first PID of a PT 205 block, whether or not there is a report or an item. No
word is changed twice, since blocks are a multiple of four bytes long (`loop_frame`).

* `shifts_iff`: everything is shifted as it should be exactly when each block has a single report or item, and no
  report's number carries.
-/

import Erizo.Model.RtpTrackMuteHandler
import Erizo.Proof.RtcpWalk

namespace Erizo

open Library Library.Bytes RtcpHeader RtpUtils

namespace RtpTrackMuteHandler

/-! ### Shifted packets -/

/-- No report and no item is at an address. -/
def Outside (data : Memory) (blocks : List ℕ) (address : ℕ) : Prop :=
  ∀ block ∈ blocks, (∀ header ∈ reports data block, address < header + 16 ∨ header + 20 ≤ address) ∧
    ∀ header ∈ nacks data block, address < header + 12 ∨ header + 14 ≤ address

/-- **The offset is added to everything it should be added to**, and nothing else is changed. -/
structure Shifted (offset : UInt16) (data shifted : Memory) (blocks : List ℕ) : Prop where
  highest : ∀ block ∈ blocks, ∀ header ∈ reports data block,
    extendedHighest shifted header = extendedHighest data header + offset.toUInt32
  pids : ∀ block ∈ blocks, ∀ header ∈ nacks data block, getNackPid shifted header = getNackPid data header + offset
  rest : ∀ address, Outside data blocks address → shifted address = data address

/-- A block with a single report, whose number does not carry, or with a single item, or with neither. -/
def Single (offset : UInt16) (data : Memory) (block : ℕ) : Prop :=
  (getPacketType data block = receiverPt →
    reports data block = [block] ∧ (getHighestSeqnum data block).toNat + offset.toNat < 2 ^ 16) ∧
  (getPacketType data block = rtpFeedbackPt → nacks data block = [block])

instance (offset : UInt16) (data : Memory) (block : ℕ) : Decidable (Single offset data block) :=
  inferInstanceAs (Decidable (_ ∧ _))

theorem single_congr {offset : UInt16} {first second : Memory} {block : ℕ}
    (same : ∀ address, block ≤ address → first address = second address) :
    Single offset first block ↔ Single offset second block := by
  rw [Single, Single, reports_congr same, nacks_congr same, getPacketType, getPacketType, same (block + 1) (by omega),
    getHighestSeqnum, getHighestSeqnum, read16_congr fun address above _ => same address (by omega)]

/-! ### One block -/

/-- The word of a block that is changed. -/
def target (data : Memory) (block : ℕ) : Option ℕ :=
  if getPacketType data block = receiverPt then some (block + 18)
  else if getPacketType data block = rtpFeedbackPt then some (block + 12)
  else none

/-- The memory with the offset added to a word. -/
def addWord (offset : UInt16) (data : Memory) : Option ℕ → Memory
  | none => data
  | some address => write16 data address (read16 data address + offset)

/-- **A block has one word changed.** The carry into the cycles is never seen. -/
theorem shiftBlock_eq (offset : UInt16) (block : ℕ) (data : Memory) :
    shiftBlock offset block data = some (addWord offset data (target data block)) := by
  unfold shiftBlock target
  simp only
  split
  · rw [if_neg (by omega)]
    rfl
  · split <;> rfl

theorem addWord_other (offset : UInt16) (data : Memory) {word : Option ℕ} {address : ℕ}
    (apart : ∀ position ∈ word, address < position ∨ position + 2 ≤ address) :
    addWord offset data word address = data address := by
  cases word with
  | none => rfl
  | some position => exact write16_of_disjoint _ _ (apart position rfl)

theorem target_report {data : Memory} {block : ℕ} (report : getPacketType data block = receiverPt) :
    target data block = some (block + 18) := if_pos report

theorem target_feedback {data : Memory} {block : ℕ} (feedback : getPacketType data block = rtpFeedbackPt) :
    target data block = some (block + 12) := by
  rw [target, if_neg (by rw [feedback]; decide), if_pos feedback]

theorem mem_target {data : Memory} {block position : ℕ} (member : position ∈ target data block) :
    position = block + 12 ∨ position = block + 18 := by
  unfold target at member
  split at member
  · exact Or.inr (Option.mem_some_iff.mp member).symm
  · split at member
    · exact Or.inl (Option.mem_some_iff.mp member).symm
    · exact absurd member (Option.not_mem_none _)

/-! ### A block and the ones after it -/

/-- The walk over the blocks from an address on does not change another address. -/
def Spared (start address : ℕ) : Prop :=
  address < start + 12 ∨ address < start + 18 ∧ address % 4 ≠ start % 4 ∧ address % 4 ≠ (start + 1) % 4

section Blocks

variable {offset : UInt16} {data final : Memory} {block : ℕ} {rest : List ℕ}

/-- The memory after a walk, seen from its first block: what the blocks after it do not change is as the block has
left it. -/
structure Left (offset : UInt16) (data final : Memory) (block : ℕ) (rest : List ℕ) : Prop where
  later : ∀ other ∈ rest, block + blockLength data block ≤ other ∧ other % 4 = block % 4
  spared : ∀ address, Spared (block + blockLength data block) address →
    final address = addWord offset data (target data block) address

/-- The changed word. -/
theorem Left.read16_target (left : Left offset data final block rest) {position : ℕ}
    (member : position ∈ target data block) : read16 final position = read16 data position + offset := by
  have length := blockLength_spec data block
  have place := mem_target member
  have word : addWord offset data (target data block) = write16 data position (read16 data position + offset) := by
    rw [Option.mem_def.mp member]
    rfl
  have kept : read16 final position = read16 (addWord offset data (target data block)) position :=
    read16_congr fun address above below => left.spared address (by unfold Spared; omega)
  rw [kept, word, read16_write16]

/-- What is neither the word nor behind the block. -/
theorem Left.read16_other (left : Left offset data final block rest) {position : ℕ}
    (apart : ∀ word ∈ target data block, position + 2 ≤ word ∨ word + 2 ≤ position)
    (before : position + 2 ≤ block + blockLength data block + 12) : read16 final position = read16 data position := by
  refine read16_congr fun address above below => ?_
  rw [left.spared address (Or.inl (by omega))]
  refine addWord_other offset data fun word member => ?_
  have := apart word member
  omega

/-- A word that the offset is added to is another one. -/
theorem eq_zero_of_add {word : UInt16} (same : word + offset = word) : offset = 0 := by
  rwa [add_eq_left] at same

/-- The two halves of the number of a report. -/
theorem extendedHighest_add_iff {header : ℕ} (cycles : read16 final (header + 16) = read16 data (header + 16))
    (highest : read16 final (header + 18) = read16 data (header + 18) + offset) :
    extendedHighest final header = extendedHighest data header + offset.toUInt32 ↔
      (getHighestSeqnum data header).toNat + offset.toNat < 2 ^ 16 := by
  have high := (read16 data (header + 16)).toNat_lt
  have low := (read16 data (header + 18)).toNat_lt
  have small := offset.toNat_lt
  rw [← UInt32.toNat_inj, UInt32.toNat_add, extendedHighest, extendedHighest, toNat_read32, toNat_read32,
    show header + 16 + 2 = header + 18 from rfl, cycles, highest, UInt16.toNat_add, UInt16.toNat_toUInt32, getHighestSeqnum]
  omega

/-- What the blocks after it spare is of none of their reports and items. -/
theorem Left.elsewhere (left : Left offset data final block rest) {address : ℕ}
    (spared : Spared (block + blockLength data block) address)
    (before : address < block + blockLength data block + 16) : Outside data rest address := by
  have length := blockLength_spec data block
  unfold Spared at spared
  refine fun other member => ⟨fun header place => ?_, fun header place => ?_⟩
  · have behind := left.later other member
    have within := mem_reports place
    omega
  · have behind := left.later other member
    have within := mem_nacks place
    omega

/-- **A block that is not single is not shifted as it should be.** -/
theorem Left.single (left : Left offset data final block rest) (positive : offset ≠ 0)
    (shifted : Shifted offset data final (block :: rest)) : Single offset data block := by
  have length := blockLength_spec data block
  refine ⟨fun report => ?_, fun feedback => ?_⟩
  · have word := left.read16_target (Option.mem_def.mpr (target_report report))
    rcases reports_cases data block with none | one | two
    · -- The word that is changed belongs to no report and no item.
      have outside : ∀ address, block + 18 ≤ address → address < block + 20 → final address = data address := by
        refine fun address above below => shifted.rest address
          (List.forall_mem_cons.mpr ⟨⟨?_, ?_⟩, left.elsewhere (by unfold Spared; omega) (by omega)⟩)
        · rw [none]
          exact fun _ absent => absurd absent List.not_mem_nil
        · exact fun header member => absurd (report.symm.trans (mem_nacks member).1) (by decide)
      rw [read16_congr outside] at word
      exact absurd (eq_zero_of_add word.symm) positive
    · have single : block ∈ reports data block := by rw [one]; exact List.mem_singleton_self block
      have inside := mem_reports single
      have cycles : read16 final (block + 16) = read16 data (block + 16) := by
        refine left.read16_other (fun position member => ?_) (by omega)
        rw [target_report report, Option.mem_some_iff] at member
        omega
      exact ⟨one, (extendedHighest_add_iff cycles word).mp (shifted.highest block List.mem_cons_self block single)⟩
    · -- The second report stays as it is.
      have inside := mem_reports two
      have unchanged : extendedHighest final (block + 24) = extendedHighest data (block + 24) := by
        refine read32_congr fun address above below => ?_
        rw [left.spared address (Or.inl (by omega))]
        refine addWord_other offset data fun position member => ?_
        rw [target_report report, Option.mem_some_iff] at member
        omega
      have added := shifted.highest block List.mem_cons_self (block + 24) two
      rw [unchanged, left_eq_add] at added
      refine absurd ?_ positive
      rw [← UInt16.toNat_inj, ← UInt16.toNat_toUInt32, added]
      rfl
  · have word := left.read16_target (Option.mem_def.mpr (target_feedback feedback))
    rcases nacks_cases data block with none | one | two
    · have outside : ∀ address, block + 12 ≤ address → address < block + 14 → final address = data address := by
        refine fun address above below => shifted.rest address
          (List.forall_mem_cons.mpr ⟨⟨?_, ?_⟩, left.elsewhere (by unfold Spared; omega) (by omega)⟩)
        · exact fun header member => absurd (feedback.symm.trans (mem_reports member).1) (by decide)
        · rw [none]
          exact fun _ absent => absurd absent List.not_mem_nil
      rw [read16_congr outside] at word
      exact absurd (eq_zero_of_add word.symm) positive
    · exact one
    · have inside := mem_nacks two
      have unchanged : getNackPid final (block + 4) = getNackPid data (block + 4) := by
        refine left.read16_other (fun position member => ?_) (by omega)
        rw [target_feedback feedback, Option.mem_some_iff] at member
        omega
      have added := shifted.pids block List.mem_cons_self (block + 4) two
      rw [unchanged] at added
      exact absurd (eq_zero_of_add added.symm) positive

/-- A single block is changed inside. -/
theorem Single.same (single : Single offset data block) {address : ℕ}
    (behind : block + blockLength data block ≤ address) :
      addWord offset data (target data block) address = data address := by
  refine addWord_other offset data fun position member => ?_
  unfold target at member
  split at member
  · rename_i report
    have own : block ∈ reports data block := by rw [(single.1 report).1]; exact List.mem_singleton_self block
    have inside := mem_reports own
    rw [Option.mem_some_iff] at member
    omega
  · split at member
    · rename_i feedback
      have own : block ∈ nacks data block := by rw [single.2 feedback]; exact List.mem_singleton_self block
      have inside := mem_nacks own
      rw [Option.mem_some_iff] at member
      omega
    · exact absurd member (Option.not_mem_none _)

/-- A single block's own report and item are shifted. -/
theorem Left.shifted_own (left : Left offset data final block rest) (single : Single offset data block) :
    (∀ header ∈ reports data block, extendedHighest final header = extendedHighest data header + offset.toUInt32) ∧
      ∀ header ∈ nacks data block, getNackPid final header = getNackPid data header + offset := by
  refine ⟨fun header member => ?_, fun header member => ?_⟩
  · have inside := mem_reports member
    obtain ⟨one, fits⟩ := single.1 inside.1
    rw [one] at member
    obtain rfl := List.mem_singleton.mp member
    refine (extendedHighest_add_iff ?_ (left.read16_target (Option.mem_def.mpr (target_report inside.1)))).mpr fits
    refine left.read16_other (fun position word => ?_) (by omega)
    rw [target_report inside.1, Option.mem_some_iff] at word
    omega
  · have inside := mem_nacks member
    rw [single.2 inside.1] at member
    obtain rfl := List.mem_singleton.mp member
    exact left.read16_target (Option.mem_def.mpr (target_feedback inside.1))

/-- An address outside the reports and items is outside the changed word. -/
theorem Single.target_outside (single : Single offset data block) {address : ℕ} (outside : Outside data [block] address) :
    ∀ position ∈ target data block, address < position ∨ position + 2 ≤ address := by
  obtain ⟨awayReports, awayNacks⟩ := outside block (List.mem_singleton_self block)
  intro position member
  unfold target at member
  split at member
  · rename_i report
    have away := awayReports block (by rw [(single.1 report).1]; exact List.mem_singleton_self block)
    rw [Option.mem_some_iff] at member
    omega
  · split at member
    · rename_i feedback
      have away := awayNacks block (by rw [single.2 feedback]; exact List.mem_singleton_self block)
      rw [Option.mem_some_iff] at member
      omega
    · exact absurd member (Option.not_mem_none _)

/-- **After a single block the others are on their own.** -/
theorem Left.shifted_cons_iff (left : Left offset data final block rest) (single : Single offset data block) :
    Shifted offset data final (block :: rest) ↔
      Shifted offset (addWord offset data (target data block)) final rest := by
  have same : ∀ other ∈ rest, ∀ address, other ≤ address → addWord offset data (target data block) address = data address :=
    fun other member address above => single.same (le_trans (left.later other member).1 above)
  have outsides : ∀ address, Outside data (block :: rest) address ↔
      Outside data [block] address ∧ Outside (addWord offset data (target data block)) rest address := by
    intro address
    unfold Outside
    rw [List.forall_mem_cons, List.forall_mem_singleton]
    refine and_congr_right fun _ => forall₂_congr fun other member => ?_
    rw [reports_congr (same other member), nacks_congr (same other member)]
  constructor
  · intro shifted
    refine ⟨fun other member header inside => ?_, fun other member header inside => ?_, fun address outside => ?_⟩
    · rw [reports_congr (same other member)] at inside
      have place := mem_reports inside
      rw [shifted.highest other (List.mem_cons_of_mem _ member) header inside, extendedHighest, extendedHighest,
        read32_congr fun address above _ => same other member address (by omega)]
    · rw [nacks_congr (same other member)] at inside
      have place := mem_nacks inside
      rw [shifted.pids other (List.mem_cons_of_mem _ member) header inside, getNackPid, getNackPid,
        read16_congr fun address above _ => same other member address (by omega)]
    · by_cases near : address < block + blockLength data block
      · exact left.spared address (Or.inl (by omega))
      · have own : Outside data [block] address := by
          refine List.forall_mem_singleton.mpr ⟨fun header inside => ?_, fun header inside => ?_⟩
          · have place := mem_reports inside
            omega
          · have place := mem_nacks inside
            omega
        rw [shifted.rest address ((outsides address).mpr ⟨own, outside⟩), single.same (by omega)]
  · intro shifted
    obtain ⟨ownReports, ownNacks⟩ := left.shifted_own single
    refine ⟨List.forall_mem_cons.mpr ⟨ownReports, fun other member header inside => ?_⟩,
      List.forall_mem_cons.mpr ⟨ownNacks, fun other member header inside => ?_⟩, fun address outside => ?_⟩
    · have place := mem_reports inside
      rw [← reports_congr (same other member)] at inside
      rw [shifted.highest other member header inside, extendedHighest, extendedHighest,
        read32_congr fun address above _ => same other member address (by omega)]
    · have place := mem_nacks inside
      rw [← nacks_congr (same other member)] at inside
      rw [shifted.pids other member header inside, getNackPid, getNackPid,
        read16_congr fun address above _ => same other member address (by omega)]
    · obtain ⟨own, others⟩ := (outsides address).mp outside
      rw [shifted.rest address others]
      exact addWord_other offset data (single.target_outside own)

/-- What decides about the others decides about all. -/
theorem Left.shifted_iff (left : Left offset data final block rest) (positive : offset ≠ 0)
    (onward : Single offset data block →
      (Shifted offset (addWord offset data (target data block)) final rest ↔
        ∀ other ∈ rest, Single offset (addWord offset data (target data block)) other)) :
    Shifted offset data final (block :: rest) ↔ ∀ other ∈ block :: rest, Single offset data other := by
  rw [List.forall_mem_cons]
  by_cases single : Single offset data block
  · rw [left.shifted_cons_iff single, onward single, and_iff_right single]
    refine forall₂_congr fun other member => single_congr fun address above => ?_
    exact single.same (le_trans (left.later other member).1 above)
  · exact ⟨fun shifted => absurd (left.single positive shifted) single, fun all => absurd all.1 single⟩

end Blocks

/-! ### The walk -/

theorem rtcpBlocksFrom_aligned (data : Memory) (len : ℤ) :
    ∀ rounds position : ℕ, ∀ block ∈ rtcpBlocksFrom data len rounds position, block % 4 = position % 4
  | 0, _, _, member => absurd member List.not_mem_nil
  | rounds + 1, position, block, member => by
      have length := blockLength_spec data position
      rcases List.mem_cons.mp member with rfl | later
      · rfl
      · split at later
        · have aligned := rtcpBlocksFrom_aligned data len rounds _ block later
          omega
        · exact absurd later List.not_mem_nil

/-- **The walk over the blocks.** It ends, it changes one word of a block at most, and it shifts what it should
exactly when the blocks are single. -/
theorem blockLoop_spec (offset : UInt16) (len : ℤ) (rounds : ℕ) :
    ∀ (position : ℕ) (data : Memory), ∃ final,
      blockLoop id (shiftBlock offset) len rounds position position data = some final ∧
        (∀ address, Spared position address → final address = data address) ∧
        (offset ≠ 0 → (Shifted offset data final (rtcpBlocksFrom data len rounds position) ↔
          ∀ block ∈ rtcpBlocksFrom data len rounds position, Single offset data block)) := by
  induction rounds with
  | zero =>
      refine fun position data => ⟨data, rfl, fun _ _ => rfl, fun _ => iff_of_true ⟨?_, ?_, fun _ _ => rfl⟩ ?_⟩
      · exact fun _ absent => absurd absent List.not_mem_nil
      · exact fun _ absent => absurd absent List.not_mem_nil
      · exact fun _ absent => absurd absent List.not_mem_nil
  | succ rounds ih =>
      intro position data
      have length := blockLength_spec data position
      have step : ∀ address, Spared position address →
          Spared (position + blockLength data position) address ∧
            addWord offset data (target data position) address = data address := by
        intro address spared
        unfold Spared at spared ⊢
        refine ⟨by omega, addWord_other offset data fun word member => ?_⟩
        have place := mem_target member
        omega
      rw [blockLoop, rtcpBlocksFrom, shiftBlock_eq]
      simp only [id_eq, Option.bind_eq_bind, Option.bind_some]
      by_cases more : ((position + blockLength data position : ℕ) : ℤ) < len
      · rw [if_pos more, if_pos more]
        obtain ⟨final, walked, spared, onward⟩ :=
          ih (position + blockLength data position) (addWord offset data (target data position))
        refine ⟨final, walked, fun address here => ?_, fun positive => ?_⟩
        · rw [spared address (step address here).1, (step address here).2]
        · have left : Left offset data final position
              (rtcpBlocksFrom data len rounds (position + blockLength data position)) := by
            refine ⟨fun other member => ⟨rtcpBlocksFrom_le _ _ _ _ other member, ?_⟩, spared⟩
            have aligned := rtcpBlocksFrom_aligned _ _ _ _ other member
            omega
          refine left.shifted_iff positive fun single => ?_
          rw [rtcpBlocksFrom_congr len rounds _ fun address behind => (single.same behind).symm]
          exact onward positive
      · rw [if_neg more, if_neg more]
        refine ⟨_, rfl, fun address here => (step address here).2, fun positive => ?_⟩
        refine Left.shifted_iff ⟨fun _ absent => absurd absent List.not_mem_nil, fun _ _ => rfl⟩ positive fun _ => ?_
        refine iff_of_true ⟨?_, ?_, fun _ _ => rfl⟩ fun _ absent => absurd absent List.not_mem_nil
        · exact fun _ absent => absurd absent List.not_mem_nil
        · exact fun _ absent => absurd absent List.not_mem_nil

/-- The blocks of a packet. -/
def blocks (packet : DataPacket) : List ℕ := rtcpBlocksFrom packet.data packet.length (packet.length.toNat + 1) 0

/-- **When feedback is translated back by exactly the offset.** -/
theorem handleFeedback_shifts_iff (info : TrackMuteInfo) (packet : DataPacket) :
    (∃ data, handleFeedback info packet = some { packet with data := data } ∧
        Shifted info.seqNumOffset packet.data data (blocks packet)) ↔
      info.seqNumOffset = 0 ∨ ∀ block ∈ blocks packet, Single info.seqNumOffset packet.data block := by
  obtain ⟨final, walked, -, shifts⟩ := blockLoop_spec info.seqNumOffset packet.length
    (packet.length.toNat + 1) 0 packet.data
  unfold handleFeedback
  simp only
  by_cases zero : info.seqNumOffset = 0
  · rw [zero, if_neg (UInt16.lt_irrefl 0)]
    refine iff_of_true ⟨packet.data, rfl, fun _ _ header _ => ?_, fun _ _ header _ => (add_zero _).symm, fun _ _ => rfl⟩
      (Or.inl rfl)
    exact (add_zero _).symm
  · rw [if_pos (UInt16.pos_iff_ne_zero.mpr zero), walked, or_iff_right zero, blocks, ← shifts zero]
    constructor
    · rintro ⟨data, same, shifted⟩
      have equal := congrArg DataPacket.data (Option.some_injective _ same)
      change final = data at equal
      rwa [equal]
    · exact fun shifted => ⟨final, rfl, shifted⟩

/-- The carry of a report's number into its cycles is lost. -/
theorem handleFeedback_loses_carry :
    ¬ ∀ (info : TrackMuteInfo) (packet : DataPacket), ∃ data,
      handleFeedback info packet = some { packet with data := data } ∧
        Shifted info.seqNumOffset packet.data data (blocks packet) := by
  intro exactly
  obtain ⟨data, handled, shifted⟩ := exactly { TrackMuteInfo.create .audio with seqNumOffset := 1 } (reportPacket 0 65535)
  have number := shifted.highest 0 (by decide +kernel) 0 (by decide +kernel)
  have written : (handleFeedback { TrackMuteInfo.create .audio with seqNumOffset := 1 } (reportPacket 0 65535)).map
      (fun packet => extendedHighest packet.data 0) = some 0 := by decide +kernel
  rw [handled, Option.map_some, Option.some_inj] at written
  rw [written] at number
  exact absurd number (by decide +kernel)

end RtpTrackMuteHandler

end Erizo
