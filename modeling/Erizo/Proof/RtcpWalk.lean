/-
**The blocks and items a walk visits.**

`rtcpBlocks data len` lists the addresses of the blocks of a compound packet, `nackItems data chead`
those of the items of a block, both read off the packet before the walk. `forEachNack` is a fold over
the items of its block (`forEachNack_eq`); `forEachRtcpBlock` is a fold over the blocks when its
callback leaves the memory behind a block alone (`forEachRtcpBlock_eq`).

An item requests its PID and, for every bit set in its BLP, the number that many steps after the PID
plus one (`nackNumbers`).
-/

import Erizo.Model.RtpUtils

namespace Erizo

namespace RtpUtils

open Library Library.Bytes RtcpHeader

/-- A walk that collects what it finds at the visited positions. -/
theorem foldlM_collect {α : Type} (find : Memory → ℕ → α) (data : Memory) (positions : List ℕ) (found : List α) :
    positions.foldlM (fun (state : Memory × List α) position => some (state.1, state.2 ++ [find state.1 position]))
      (data, found) = some (data, found ++ positions.map (find data)) := by
  induction positions generalizing found with
  | nil => simp
  | cons position positions ih =>
      rw [List.foldlM_cons]
      show positions.foldlM _ (data, found ++ [find data position]) = _
      rw [ih, List.append_assoc, List.singleton_append, List.map_cons]

/-! ### Items -/

/-- The headers `forEachNack` hands to its callback. -/
def nackItems (data : Memory) (chead : ℕ) : List ℕ :=
  if getPacketType data chead = rtpFeedbackPt then
    (List.range ((blockLength data chead - 12) / 4)).map fun index => chead + 4 * index
  else []

section Items

variable {σ : Type} (bytes : σ → Memory) (f : UInt16 → UInt16 → ℕ → σ → Option σ)

/-- The callback, with the item read off the state. -/
def visitItem (state : σ) (header : ℕ) : Option σ :=
  f (getNackPid (bytes state) header) (getNackBlp (bytes state) header) header state

/-- The loop, round by round. -/
theorem nackLoop_eq {length : ℕ} :
    ∀ (count rounds position header : ℕ) (state : σ), count ≤ rounds → position + 4 * count = length →
      nackLoop bytes f length rounds position header state =
        ((List.range count).map fun index => header + 4 * index).foldlM (visitItem bytes f) state
  | 0, 0, _, _, _, _, _ => rfl
  | 0, rounds + 1, position, _, _, _, stop => by
      rw [nackLoop, if_neg (by omega)]
      rfl
  | count + 1, rounds + 1, position, header, state, enough, stop => by
      have shift : ((List.range count).map Nat.succ).map (fun index => header + 4 * index) =
          (List.range count).map fun index => header + 4 + 4 * index := by
        rw [List.map_map]
        refine List.map_congr_left fun index _ => ?_
        show header + 4 * (index + 1) = _
        omega
      rw [nackLoop, if_pos (by omega), List.range_succ_eq_map, List.map_cons, shift, List.foldlM_cons]
      show (visitItem bytes f state header >>= fun next => _) = (visitItem bytes f state (header + 4 * 0) >>= _)
      rw [Nat.mul_zero, Nat.add_zero]
      congr 1
      funext next
      exact nackLoop_eq count rounds (position + 4) (header + 4) next (by omega) (by omega)

/-- **`forEachNack` visits the items of its block in order.** -/
theorem forEachNack_eq (chead : ℕ) (state : σ) :
    forEachNack bytes chead f state = (nackItems (bytes state) chead).foldlM (visitItem bytes f) state := by
  unfold forEachNack nackItems
  by_cases feedback : getPacketType (bytes state) chead = rtpFeedbackPt
  · rw [if_pos feedback, if_pos feedback]
    have words : blockLength (bytes state) chead = ((getLength (bytes state) chead).toNat + 1) * 4 := rfl
    by_cases short : blockLength (bytes state) chead ≤ 12
    · have none : (blockLength (bytes state) chead - 12) / 4 = 0 := by omega
      rw [none]
      show nackLoop bytes f _ (blockLength (bytes state) chead) 12 chead state = _
      cases rounds : blockLength (bytes state) chead with
      | zero => rfl
      | succ rounds =>
          rw [nackLoop, if_neg (by omega)]
          rfl
    · exact nackLoop_eq bytes f _ _ 12 chead state (by omega) (by omega)
  · rw [if_neg feedback, if_neg feedback]
    rfl

end Items

/-- The items of a block lie inside it, after its header. -/
theorem nackItems_inside {data : Memory} {chead header : ℕ} (member : header ∈ nackItems data chead) :
    chead ≤ header ∧ header + 16 ≤ chead + blockLength data chead := by
  unfold nackItems at member
  split at member
  · obtain ⟨index, below, rfl⟩ := List.mem_map.mp member
    rw [List.mem_range] at below
    omega
  · exact absurd member (List.not_mem_nil)

/-- Items do not overlap. -/
theorem nackItems_sorted (data : Memory) (chead : ℕ) :
    (nackItems data chead).Pairwise fun first second => first + 4 ≤ second := by
  unfold nackItems
  split
  · refine List.pairwise_map.mpr (List.pairwise_lt_range.imp fun before => ?_)
    omega
  · exact List.Pairwise.nil

/-! ### Blocks -/

/-- The blocks from an address on, at most `rounds` of them. -/
def rtcpBlocksFrom (data : Memory) (len : ℤ) : ℕ → ℕ → List ℕ
  | 0, _ => []
  | rounds + 1, position =>
      position :: if ((position + blockLength data position : ℕ) : ℤ) < len then
        rtcpBlocksFrom data len rounds (position + blockLength data position) else []

/-- The blocks `forEachRtcpBlock` hands to its callback. -/
def rtcpBlocks (data : Memory) (len : ℤ) : List ℕ :=
  if isRtcp data 0 then rtcpBlocksFrom data len (len.toNat + 1) 0 else []

theorem blockLength_congr {first second : Memory} {position : ℕ}
    (same : ∀ address, position ≤ address → first address = second address) :
    blockLength first position = blockLength second position := by
  rw [blockLength, blockLength, getLength, getLength, read16_congr fun address above _ => same address (by omega)]

theorem nackItems_congr {first second : Memory} {position : ℕ}
    (same : ∀ address, position ≤ address → first address = second address) :
    nackItems first position = nackItems second position := by
  rw [nackItems, nackItems, blockLength_congr same, getPacketType, getPacketType, same (position + 1) (by omega)]

theorem rtcpBlocksFrom_congr {first second : Memory} (len : ℤ) :
    ∀ (rounds position : ℕ), (∀ address, position ≤ address → first address = second address) →
      rtcpBlocksFrom first len rounds position = rtcpBlocksFrom second len rounds position
  | 0, _, _ => rfl
  | rounds + 1, position, same => by
      rw [rtcpBlocksFrom, rtcpBlocksFrom, blockLength_congr same,
        rtcpBlocksFrom_congr len rounds _ fun address above => same address (by omega)]

theorem rtcpBlocksFrom_le (data : Memory) (len : ℤ) :
    ∀ (rounds position : ℕ), ∀ block ∈ rtcpBlocksFrom data len rounds position, position ≤ block
  | 0, _, _, member => absurd member (List.not_mem_nil)
  | rounds + 1, position, block, member => by
      rcases List.mem_cons.mp member with rfl | later
      · exact le_rfl
      · split at later
        · have := rtcpBlocksFrom_le data len rounds _ block later
          omega
        · exact absurd later (List.not_mem_nil)

/-! ### Reports -/

/-- The headers that have the reports of a receiver report where a first report is: those that are counted and that
the block has room for. -/
def reports (data : Memory) (block : ℕ) : List ℕ :=
  if getPacketType data block = receiverPt then
    (List.range (min (getBlockCount data block) ((blockLength data block - 8) / 24))).map fun index => block + 24 * index
  else []

/-- The headers that have the items of a NACK, which is a feedback of format 1, where a first item is. -/
def nacks (data : Memory) (block : ℕ) : List ℕ :=
  if getBlockCount data block = 1 then nackItems data block else []

/-- The extended highest sequence number of a report. -/
def extendedHighest (data : Memory) (header : ℕ) : UInt32 := read32 data (header + 16)

theorem blockLength_spec (data : Memory) (block : ℕ) : 4 ≤ blockLength data block ∧ blockLength data block % 4 = 0 := by
  unfold blockLength
  omega

section Reports

variable {data : Memory} {block : ℕ}

theorem mem_reports {header : ℕ} (member : header ∈ reports data block) :
    getPacketType data block = receiverPt ∧ block ≤ header ∧ header + 32 ≤ block + blockLength data block ∧
      header % 4 = block % 4 := by
  unfold reports at member
  split at member
  · rename_i report
    obtain ⟨index, below, rfl⟩ := List.mem_map.mp member
    rw [List.mem_range] at below
    refine ⟨report, ?_⟩
    omega
  · exact absurd member List.not_mem_nil

theorem mem_nacks {header : ℕ} (member : header ∈ nacks data block) :
    getPacketType data block = rtpFeedbackPt ∧ block ≤ header ∧ header + 16 ≤ block + blockLength data block ∧
      header % 4 = block % 4 := by
  unfold nacks nackItems at member
  split at member
  · split at member
    · rename_i feedback
      obtain ⟨index, below, rfl⟩ := List.mem_map.mp member
      rw [List.mem_range] at below
      refine ⟨feedback, ?_⟩
      omega
    · exact absurd member List.not_mem_nil
  · exact absurd member List.not_mem_nil

/-- Evenly spaced headers: none, one, or the second one too. -/
theorem spaced_cases (start space count : ℕ) :
    ((List.range count).map fun index => start + space * index) = [] ∨
      ((List.range count).map fun index => start + space * index) = [start] ∨
        start + space ∈ (List.range count).map fun index => start + space * index := by
  match count with
  | 0 => exact Or.inl rfl
  | 1 => exact Or.inr (Or.inl (by rw [List.range_one, List.map_singleton, Nat.mul_zero, Nat.add_zero]))
  | count + 2 =>
      exact Or.inr (Or.inr (List.mem_map.mpr ⟨1, List.mem_range.mpr (by omega), by rw [Nat.mul_one]⟩))

theorem reports_cases (data : Memory) (block : ℕ) :
    reports data block = [] ∨ reports data block = [block] ∨ block + 24 ∈ reports data block := by
  unfold reports
  split
  · exact spaced_cases block 24 _
  · exact Or.inl rfl

theorem nacks_cases (data : Memory) (block : ℕ) :
    nacks data block = [] ∨ nacks data block = [block] ∨ block + 4 ∈ nacks data block := by
  unfold nacks nackItems
  split
  · split
    · exact spaced_cases block 4 _
    · exact Or.inl rfl
  · exact Or.inl rfl

theorem reports_congr (same : ∀ address, block ≤ address → first address = second address) :
    reports first block = reports second block := by
  rw [reports, reports, blockLength_congr same, getPacketType, getPacketType, getBlockCount, getBlockCount,
    same (block + 1) (by omega), same block le_rfl]

theorem nacks_congr (same : ∀ address, block ≤ address → first address = second address) :
    nacks first block = nacks second block := by
  rw [nacks, nacks, nackItems_congr same, getBlockCount, getBlockCount, same block le_rfl]

end Reports

section Blocks

variable {σ : Type} {bytes : σ → Memory} {f : ℕ → σ → Option σ}

/-- A callback that leaves the memory behind its block alone. -/
def Local (bytes : σ → Memory) (f : ℕ → σ → Option σ) : Prop :=
  ∀ block state state', f block state = some state' →
    ∀ address, block + blockLength (bytes state) block ≤ address → bytes state' address = bytes state address

theorem blockLoop_eq (inside : Local bytes f) (len : ℤ) :
    ∀ (rounds position : ℕ) (state : σ),
      blockLoop bytes f len rounds position position state =
        (rtcpBlocksFrom (bytes state) len rounds position).foldlM (fun current block => f block current) state
  | 0, _, _ => rfl
  | rounds + 1, position, state => by
      rw [blockLoop, rtcpBlocksFrom, List.foldlM_cons]
      show (f position state >>= fun next => _) = (f position state >>= fun next => _)
      cases outcome : f position state with
      | none => rfl
      | some next =>
          show (if _ then _ else _) = _
          by_cases more : ((position + blockLength (bytes state) position : ℕ) : ℤ) < len
          · rw [if_pos more, if_pos more, blockLoop_eq inside len rounds _ next,
              rtcpBlocksFrom_congr len rounds _ (inside position state next outcome)]
            rfl
          · rw [if_neg more, if_neg more]
            rfl

/-- The rounds the loop is given are enough: more of them change nothing. -/
theorem blockLoop_succ (len : ℤ) :
    ∀ (rounds position : ℕ) (state : σ), len ≤ position + rounds →
      blockLoop bytes f len (rounds + 2) position position state =
        blockLoop bytes f len (rounds + 1) position position state
  | rounds, position, state, enough => by
      have long : 4 ≤ blockLength (bytes state) position := Nat.le_mul_of_pos_left 4 (Nat.succ_pos _)
      rw [blockLoop, blockLoop]
      show (f position state >>= fun next => _) = (f position state >>= fun next => _)
      congr 1
      funext next
      by_cases more : ((position + blockLength (bytes state) position : ℕ) : ℤ) < len
      · rw [if_pos more, if_pos more]
        obtain ⟨fewer, rfl⟩ : ∃ fewer, rounds = fewer + 1 := ⟨rounds - 1, by omega⟩
        exact blockLoop_succ len fewer _ next (by push_cast at enough ⊢; omega)
      · rw [if_neg more, if_neg more]

/-- **`forEachRtcpBlock` visits the blocks of the packet in order.** -/
theorem forEachRtcpBlock_eq (inside : Local bytes f) (len : ℤ) (state : σ) :
    forEachRtcpBlock bytes len f state =
      (rtcpBlocks (bytes state) len).foldlM (fun current block => f block current) state := by
  unfold forEachRtcpBlock rtcpBlocks
  by_cases rtcp : isRtcp (bytes state) 0 = true
  · rw [if_pos rtcp, if_pos rtcp, blockLoop_eq inside]
  · rw [if_neg rtcp, if_neg rtcp]
    rfl

end Blocks

/-- **Blocks that are rewritten inside are rewritten independently.** -/
theorem blockLoop_each {rewrite : ℕ → Memory → Memory} {contained : Memory → ℕ → Prop}
    (depends : ∀ {first second : Memory} {block : ℕ}, (∀ address, block ≤ address → first address = second address) →
      (contained first block → contained second block) ∧
        ∀ address, block ≤ address → rewrite block first address = rewrite block second address)
    (inside : ∀ {data : Memory} {block : ℕ}, contained data block →
      ∀ address, address < block ∨ block + blockLength data block ≤ address → rewrite block data address = data address)
    (len : ℤ) : ∀ (rounds position : ℕ) (data : Memory),
      (∀ block ∈ rtcpBlocksFrom data len rounds position, contained data block) →
        ∃ final, blockLoop id (fun block data => some (rewrite block data)) len rounds position position data = some final ∧
          (∀ address, (∀ block ∈ rtcpBlocksFrom data len rounds position,
            address < block ∨ block + blockLength data block ≤ address) → final address = data address) ∧
          ∀ block ∈ rtcpBlocksFrom data len rounds position, ∀ address, block ≤ address →
            address < block + blockLength data block → final address = rewrite block data address
  | 0, _, data, _ => ⟨data, rfl, fun _ _ => rfl, fun _ absent => absurd absent List.not_mem_nil⟩
  | rounds + 1, position, data, each => by
      obtain ⟨here, others⟩ := List.forall_mem_cons.mp each
      have same : ∀ address, position + blockLength data position ≤ address →
          rewrite position data address = data address := fun address behind => inside here address (Or.inr behind)
      have length := blockLength_spec data position
      rw [blockLoop, rtcpBlocksFrom]
      simp only [id_eq, Option.bind_eq_bind, Option.bind_some]
      by_cases more : ((position + blockLength data position : ℕ) : ℤ) < len
      · rw [if_pos more] at others ⊢
        rw [if_pos more]
        have blocks := rtcpBlocksFrom_congr len rounds _ same
        obtain ⟨final, walked, outside, within⟩ := blockLoop_each depends inside len rounds
          (position + blockLength data position) (rewrite position data) fun block member => by
            rw [blocks] at member
            refine (depends fun address above => ?_).1 (others block member)
            exact (same address (le_trans (rtcpBlocksFrom_le _ _ _ _ block member) above)).symm
        have spared : ∀ address, (∀ block ∈ rtcpBlocksFrom data len rounds (position + blockLength data position),
            address < block ∨ block + blockLength data block ≤ address) →
              final address = rewrite position data address := by
          intro address away
          refine outside address fun block member => ?_
          rw [blocks] at member
          rw [blockLength_congr fun address above =>
            same address (le_trans (rtcpBlocksFrom_le _ _ _ _ block member) above)]
          exact away block member
        refine ⟨final, walked, fun address away => ?_, List.forall_mem_cons.mpr ⟨fun address _ below => ?_, ?_⟩⟩
        · obtain ⟨own, away⟩ := List.forall_mem_cons.mp away
          rw [spared address away, inside here address own]
        · exact spared address fun block member =>
            Or.inl (lt_of_lt_of_le below (rtcpBlocksFrom_le _ _ _ _ block member))
        · intro block member address above below
          have behind : ∀ address, block ≤ address → rewrite position data address = data address :=
            fun address above => same address (le_trans (rtcpBlocksFrom_le _ _ _ _ block member) above)
          rw [← blocks] at member
          rw [← blockLength_congr behind] at below
          rw [within block member address above below, (depends behind).2 address above]
      · rw [if_neg more, if_neg more]
        refine ⟨_, rfl, fun address away => inside here address (away position (List.mem_singleton_self position)),
          fun block member address _ _ => ?_⟩
        rw [List.mem_singleton.mp member]

/-! ### The blocks a loop comes to -/

section Visits

variable {σ : Type} (bytes : σ → Memory) (f : ℕ → σ → Option σ)

/-- The blocks that the loop comes to, each with the state before it. -/
def blockVisits (len : ℤ) : ℕ → ℕ → ℕ → σ → List (ℕ × σ)
  | 0, _, _, _ => []
  | rounds + 1, position, total, state =>
      (position, state) ::
        match f position state with
        | none => []
        | some next =>
            if ((total + blockLength (bytes state) position : ℕ) : ℤ) < len then
              blockVisits len rounds (position + blockLength (bytes state) position)
                (total + blockLength (bytes state) position) next
            else []

variable {bytes f}

/-- **The loop ends with what the callback makes of its last block.** -/
theorem blockLoop_eq_visits (len : ℤ) (rounds position total : ℕ) (state : σ) :
    blockLoop bytes f len (rounds + 1) position total state =
      ((blockVisits bytes f len (rounds + 1) position total state).getLast?).bind fun visit => f visit.1 visit.2 := by
  induction rounds generalizing position total state with
  | zero =>
      rw [blockLoop, blockVisits]
      cases given : f position state with
      | none => exact given.symm
      | some next =>
          have last : ∀ visits, visits = [] → (((position, state) :: visits).getLast?.bind fun visit => f visit.1 visit.2) =
              some next := by
            rintro _ rfl
            exact given
          rw [last _ (by simp only [blockVisits, ite_self])]
          show (if _ then some next else some next) = _
          exact ite_self _
  | succ rounds ih =>
      rw [blockLoop, blockVisits]
      cases given : f position state with
      | none => exact given.symm
      | some next =>
          simp only [Option.bind_eq_bind, Option.bind_some]
          split
          · rw [ih, List.getLast?_cons_of_ne_nil]
            rw [blockVisits]
            exact List.cons_ne_nil _ _
          · exact given.symm

/-- What every block keeps, holds before every block. -/
theorem forall_blockVisits {property : σ → Prop}
    (keeps : ∀ block state next, f block state = some next → property state → property next) (len : ℤ)
    (rounds position total : ℕ) (state : σ) (holds : property state) :
    ∀ visit ∈ blockVisits bytes f len rounds position total state, property visit.2 := by
  induction rounds generalizing position total state with
  | zero => exact fun _ absent => absurd absent List.not_mem_nil
  | succ rounds ih =>
      rw [blockVisits]
      refine List.forall_mem_cons.mpr ⟨holds, ?_⟩
      cases given : f position state with
      | none => exact fun _ absent => absurd absent List.not_mem_nil
      | some next =>
          simp only
          split
          · exact ih _ _ next (keeps position state next given holds)
          · exact fun _ absent => absurd absent List.not_mem_nil

end Visits

/-! ### The numbers of an item -/

/-- How far a number is from being the one after a PID. -/
def distance (pid number : UInt16) : ℕ := (number - pid - 1).toNat

theorem distance_self (pid : UInt16) : distance pid pid = 65535 := by
  rw [distance, sub_self]
  rfl

theorem distance_injective {pid first second : UInt16} (same : distance pid first = distance pid second) :
    first = second := by
  have equal : first - pid - 1 = second - pid - 1 := UInt16.toNat_inj.mp same
  rwa [sub_left_inj, sub_left_inj] at equal

/-- The numbers an item requests. -/
def nackNumbers (pid blp : UInt16) : List UInt16 :=
  pid :: ((List.range 16).filter fun bit => blp.toNat.testBit bit).map fun bit => pid + 1 + UInt16.ofNat bit

theorem mem_nackNumbers {pid blp number : UInt16} :
    number ∈ nackNumbers pid blp ↔
      number = pid ∨ ((number - pid - 1).toNat < 16 ∧ blp.toNat.testBit (number - pid - 1).toNat = true) := by
  unfold nackNumbers
  rw [List.mem_cons]
  refine or_congr_right ?_
  simp only [List.mem_map, List.mem_filter, List.mem_range]
  constructor
  · rintro ⟨bit, ⟨below, isSet⟩, rfl⟩
    have distance : (pid + 1 + UInt16.ofNat bit - pid - 1).toNat = bit := by
      have back : pid + 1 + UInt16.ofNat bit - pid - 1 = UInt16.ofNat bit := by abel
      rw [back, UInt16.toNat_ofNat', Nat.mod_eq_of_lt (by omega)]
    rw [distance]
    exact ⟨below, isSet⟩
  · rintro ⟨below, isSet⟩
    refine ⟨(number - pid - 1).toNat, ⟨below, isSet⟩, ?_⟩
    rw [UInt16.ofNat_toNat]
    abel

/-- The bits of a word that a power of two was added to. -/
theorem testBit_or_pow (word : UInt16) (distance : ℕ) {bit : ℕ} (below : bit < 16) :
    (word ||| UInt16.ofNat (2 ^ distance)).toNat.testBit bit = (word.toNat.testBit bit || decide (distance = bit)) := by
  rw [UInt16.toNat_or, Nat.testBit_or, UInt16.toNat_ofNat', Nat.testBit_mod_two_pow, Nat.testBit_two_pow]
  simp [below]

/-- The numbers a packed item requests. -/
theorem mem_packed {first packed : UInt16} {rest : List UInt16}
    (bits : ∀ bit < 16, packed.toNat.testBit bit = true ↔ ∃ number ∈ rest, distance first number = bit)
    (number : UInt16) :
    number ∈ nackNumbers first packed ↔ number = first ∨ (distance first number < 16 ∧ number ∈ rest) := by
  rw [mem_nackNumbers]
  refine or_congr_right (and_congr_right fun below => ?_)
  rw [bits _ below]
  constructor
  · rintro ⟨other, member, same⟩
    rwa [← distance_injective same]
  · exact fun member => ⟨number, member, rfl⟩

end RtpUtils

end Erizo
