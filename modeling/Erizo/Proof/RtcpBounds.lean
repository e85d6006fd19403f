/-
**When the walk over a received packet stays inside it.**

`onRtcpFromTransport` trusts the lengths and counts of the blocks. What is read and copied stays
inside a block if and only if the block is long enough for its kind (`withinBlock_iff`), and the
blocks stay inside the packet if and only if they fill it exactly; `Compound` says both of the bytes
of the packet, and `staysInside_iff` that the walk stays inside exactly then. The items of a NACK lie
inside their block in any case (`RtpUtils.nackItems_inside`).
-/

import Erizo.Model.WebRtcConnection
import Erizo.Proof.RtcpWalk

namespace Erizo

namespace WebRtcConnection

open Library Library.Bytes RtcpHeader RtpUtils

/-! ### What is handed on -/

/-- The blocks `forEachRtcpBlock` hands to its callback. -/
def handedBlocks (packet : DataPacket) : Option (List ℕ) :=
  (forEachRtcpBlock Prod.fst packet.length (fun chead state => some (state.1, state.2 ++ [chead])) (packet.data, [])).map
    Prod.snd

/-- The headers `forEachNack` hands to its callback. -/
def handedItems (data : Memory) (chead : ℕ) : Option (List ℕ) :=
  (forEachNack Prod.fst chead (fun _ _ header state => some (state.1, state.2 ++ [header])) (data, [])).map Prod.snd

theorem handedBlocks_eq (packet : DataPacket) : handedBlocks packet = some (rtcpBlocks packet.data packet.length) := by
  have inside : Local Prod.fst fun chead (state : Memory × List ℕ) => some (state.1, state.2 ++ [chead]) := by
    intro block state next stepped address _
    obtain rfl := Option.some_injective _ stepped
    rfl
  have collected := foldlM_collect (fun _ chead => chead) packet.data (rtcpBlocks packet.data packet.length) []
  rw [List.map_id', List.nil_append] at collected
  rw [handedBlocks, forEachRtcpBlock_eq inside, collected]
  rfl

theorem handedItems_eq (data : Memory) (chead : ℕ) : handedItems data chead = some (nackItems data chead) := by
  have collected := foldlM_collect (fun _ header => header) data (nackItems data chead) []
  rw [List.map_id', List.nil_append] at collected
  rw [handedItems, forEachNack_eq]
  exact congrArg (Option.map Prod.snd) collected

/-! ### The accesses of a block -/

/-- The bytes lie inside the block, and a copy inside the data of the packet it is made into. -/
def Access.Within (data : Memory) : Access → Prop
  | .read chead offset size => offset + size ≤ blockLength data chead
  | .copy chead size => size ≤ blockLength data chead ∧ size ≤ DataPacket.capacity

/-- What is read and copied from a block. -/
def blockAccesses (data : Memory) (chead : ℕ) : List Access :=
  [.read chead 1 1, .read chead (if isFeedback data chead then 8 else 4) 4, .read chead 0 2] ++
    if isREMB data chead then
      .read chead 16 1 :: (List.range (getREMBNumSSRC data chead).toNat).map (fun index =>
        .read chead (20 + 4 * index) 4) ++ [.read chead 17 3, .read chead 4 4]
    else [.read chead 2 2, .copy chead (blockLength data chead)]

section Blocks

variable (streams : List MediaStream) (packet : DataPacket)

theorem foldl_addFeed (chead : ℕ) (indexes : List ℕ) (walk : Walk) (found : List MediaStream) :
    (indexes.foldl (addFeed streams chead) (walk, found)).1 =
      { walk with accesses := walk.accesses ++ indexes.map fun index => .read chead (20 + 4 * index) 4 } := by
  induction indexes generalizing walk found with
  | nil => simp
  | cons index indexes ih =>
      rw [List.foldl_cons, addFeed, ih, List.map_cons]
      simp [Walk.read]

theorem foldl_emit (handed : List MediaStream) (effect : MediaStream → Effect) (walk : Walk) :
    (handed.foldl (fun walk mediaStream => walk.emit (effect mediaStream)) walk).data = walk.data ∧
      (handed.foldl (fun walk mediaStream => walk.emit (effect mediaStream)) walk).accesses = walk.accesses := by
  induction handed generalizing walk with
  | nil => exact ⟨rfl, rfl⟩
  | cons mediaStream handed ih =>
      rw [List.foldl_cons]
      exact ih (walk.emit (effect mediaStream))

/-- The callback reads what `blockAccesses` lists and leaves the packet alone. -/
theorem onBlock_eq (chead : ℕ) (walk : Walk) :
    ∃ next, onBlock streams packet chead walk = some next ∧ next.data = walk.data ∧
      next.accesses = walk.accesses ++ blockAccesses walk.data chead := by
  unfold onBlock blockAccesses
  by_cases remb : isREMB walk.data chead = true
  · refine ⟨_, if_pos remb, ?_, ?_⟩
    · simp only [onREMBFromTransport, foldl_addFeed]
      rfl
    · simp only [onREMBFromTransport, foldl_addFeed, remb, if_true]
      simp [Walk.read, Walk.emit]
      rfl
  · refine ⟨_, if_neg remb, ?_, ?_⟩
    · rw [(foldl_emit _ _ _).1]
      rfl
    · rw [(foldl_emit _ _ _).2, if_neg remb]
      simp [Walk.read, Walk.copy]
      rfl

theorem foldlM_onBlock (blocks : List ℕ) (walk : Walk) :
    ∃ last, blocks.foldlM (fun current block => onBlock streams packet block current) walk = some last ∧
      last.accesses = walk.accesses ++ blocks.flatMap (blockAccesses walk.data) := by
  induction blocks generalizing walk with
  | nil => exact ⟨walk, rfl, by rw [List.flatMap_nil, List.append_nil]⟩
  | cons block blocks ih =>
      obtain ⟨next, stepped, same, here⟩ := onBlock_eq streams packet block walk
      obtain ⟨last, rest, later⟩ := ih next
      refine ⟨last, ?_, ?_⟩
      · rw [List.foldlM_cons, stepped]
        exact rest
      · rw [later, here, same, List.append_assoc, List.flatMap_cons]

/-- The accesses of a packet are those of its blocks. -/
theorem onRtcpFromTransport_accesses :
    ∃ walk, onRtcpFromTransport streams packet = some walk ∧
      walk.accesses = (rtcpBlocks packet.data packet.length).flatMap (blockAccesses packet.data) := by
  have inside : Local Walk.data (onBlock streams packet) := by
    intro block walk next stepped address _
    obtain ⟨other, same, kept, _⟩ := onBlock_eq streams packet block walk
    obtain rfl := Option.some_injective _ (same.symm.trans stepped)
    rw [kept]
  obtain ⟨walk, walked, accesses⟩ := foldlM_onBlock streams packet
    (rtcpBlocks packet.data packet.length) ⟨packet.data, [], []⟩
  refine ⟨walk, ?_, accesses⟩
  rw [onRtcpFromTransport, forEachRtcpBlock_eq inside]
  exact walked

end Blocks

/-! ### Blocks that are long enough -/

/-- The bytes that are read from a block of its kind. -/
def requiredLength (data : Memory) (chead : ℕ) : ℕ :=
  if isREMB data chead then 20 + 4 * (getREMBNumSSRC data chead).toNat
  else if isFeedback data chead then 12
  else 8

theorem isFeedback_of_isREMB {data : Memory} {chead : ℕ} (remb : isREMB data chead = true) :
    isFeedback data chead = true := by
  unfold isREMB at remb
  unfold isFeedback
  rw [Bool.and_eq_true] at remb
  rw [remb.1, Bool.or_true, Bool.true_or]

/-- **The accesses of a block stay inside it** if and only if it is long enough, and short enough to be copied. -/
theorem withinBlock_iff (data : Memory) (chead : ℕ) :
    (∀ access ∈ blockAccesses data chead, access.Within data) ↔
      requiredLength data chead ≤ blockLength data chead ∧
        (isREMB data chead = false → blockLength data chead ≤ DataPacket.capacity) := by
  unfold blockAccesses requiredLength
  cases remb : isREMB data chead with
  | true =>
      have feedback := isFeedback_of_isREMB remb
      simp only [feedback, if_true, List.forall_mem_append, List.forall_mem_cons, List.forall_mem_map, List.mem_range,
        Access.Within, List.not_mem_nil, IsEmpty.forall_iff, implies_true, and_true, Bool.true_eq_false]
      constructor
      · rintro ⟨_, ⟨_, feeds⟩, rate, _⟩
        by_cases none : (getREMBNumSSRC data chead).toNat = 0
        · omega
        · have last := feeds ((getREMBNumSSRC data chead).toNat - 1) (by omega)
          omega
      · intro long
        refine ⟨⟨by omega, by omega, by omega⟩, ⟨by omega, fun index below => by omega⟩, by omega, by omega⟩
  | false =>
      simp only [Bool.false_eq_true, if_false, List.forall_mem_append, List.forall_mem_cons, Access.Within,
        List.not_mem_nil, IsEmpty.forall_iff, implies_true, and_true, forall_const]
      by_cases feedback : isFeedback data chead = true
      · rw [if_pos feedback, if_pos feedback]
        omega
      · rw [if_neg feedback, if_neg feedback]
        omega

/-! ### Packets that are filled by their blocks -/

/-- **The bytes from an address to the end of the packet are one or more complete blocks**, each long
enough for its kind. -/
inductive Compound (data : Memory) (len : ℤ) : ℕ → Prop
  | last {position : ℕ} (long : requiredLength data position ≤ blockLength data position)
      (fills : ((position + blockLength data position : ℕ) : ℤ) = len) : Compound data len position
  | more {position : ℕ} (long : requiredLength data position ≤ blockLength data position)
      (rest : Compound data len (position + blockLength data position)) : Compound data len position

theorem blockLength_pos (data : Memory) (chead : ℕ) : 0 < blockLength data chead :=
  Nat.mul_pos (Nat.succ_pos _) (by decide)

theorem Compound.lt {data : Memory} {len : ℤ} {position : ℕ} (compound : Compound data len position) :
    (position : ℤ) < len := by
  induction compound with
  | last long fills =>
      have size := blockLength_pos data
      rw [← fills]
      exact_mod_cast Nat.lt_add_of_pos_right (size _)
  | more long rest ih =>
      refine lt_of_le_of_lt ?_ ih
      exact_mod_cast Nat.le_add_right _ _

/-- The blocks of a walk are long enough and inside the packet exactly when they fill it. -/
theorem compound_iff (data : Memory) (len : ℤ) (rounds : ℕ) :
    ∀ position : ℕ, len ≤ position + rounds →
      ((∀ chead ∈ rtcpBlocksFrom data len (rounds + 1) position,
          requiredLength data chead ≤ blockLength data chead ∧
            ((chead + blockLength data chead : ℕ) : ℤ) ≤ len) ↔
        Compound data len position) := by
  induction rounds with
  | zero =>
      intro position enough
      have size := blockLength_pos data position
      have past : ¬ ((position + blockLength data position : ℕ) : ℤ) < len := by push_cast; omega
      rw [rtcpBlocksFrom, if_neg past]
      constructor
      · intro inside
        have here := inside position List.mem_cons_self
        exact Compound.last here.1 (le_antisymm here.2 (not_lt.mp past))
      · intro compound
        have below := compound.lt
        exact absurd below (by push_cast at enough; omega)
  | succ rounds ih =>
      intro position enough
      have size := blockLength_pos data position
      have later := ih (position + blockLength data position) (by push_cast at enough ⊢; omega)
      rw [rtcpBlocksFrom]
      by_cases more : ((position + blockLength data position : ℕ) : ℤ) < len
      · rw [if_pos more, List.forall_mem_cons, later]
        constructor
        · rintro ⟨here, rest⟩
          exact Compound.more here.1 rest
        · intro compound
          cases compound with
          | last long fills => exact absurd fills (ne_of_lt more)
          | more long rest => exact ⟨⟨long, le_of_lt more⟩, rest⟩
      · rw [if_neg more]
        constructor
        · intro inside
          have here := inside position List.mem_cons_self
          exact Compound.last here.1 (le_antisymm here.2 (not_lt.mp more))
        · intro compound
          cases compound with
          | last long fills =>
              intro chead member
              obtain rfl := List.mem_singleton.mp member
              exact ⟨long, le_of_eq fills⟩
          | more long rest => exact absurd rest.lt more

/-- What it means that the walk over a received packet stays inside it. -/
structure StaysInside (streams : List MediaStream) (packet : DataPacket) : Prop where
  blocks : ∃ blocks, handedBlocks packet = some blocks ∧
    ∀ chead ∈ blocks, ((chead + blockLength packet.data chead : ℕ) : ℤ) ≤ packet.length
  items : ∀ chead, ∃ items, handedItems packet.data chead = some items ∧
    ∀ header ∈ items, chead ≤ header + 12 ∧ header + 16 ≤ chead + blockLength packet.data chead
  accesses : ∃ walk, onRtcpFromTransport streams packet = some walk ∧
    ∀ access ∈ walk.accesses, access.Within packet.data

/-- **When the walk stays inside a packet of any bytes and any length up to 1500.** Exactly when the
packet is not RTCP or its blocks are long enough for their kinds and fill it. -/
theorem staysInside_iff (streams : List MediaStream) (packet : DataPacket) (placed : 0 ≤ packet.length)
    (fits : packet.length ≤ DataPacket.capacity) :
    StaysInside streams packet ↔ (isRtcp packet.data 0 = true → Compound packet.data packet.length 0) := by
  obtain ⟨walk, walked, accesses⟩ := onRtcpFromTransport_accesses streams packet
  have enough : packet.length ≤ ((0 : ℕ) : ℤ) + packet.length.toNat := by omega
  have filled := compound_iff packet.data packet.length packet.length.toNat 0 enough
  constructor
  · rintro ⟨⟨blocks, handed, inside⟩, _, ⟨other, same, within⟩⟩ rtcp
    obtain rfl := Option.some_injective _ ((handedBlocks_eq packet).symm.trans handed)
    obtain rfl := Option.some_injective _ (walked.symm.trans same)
    rw [rtcpBlocks, if_pos rtcp] at inside accesses
    refine filled.mp fun chead member => ⟨?_, inside chead member⟩
    refine ((withinBlock_iff packet.data chead).mp fun access here => within access ?_).1
    rw [accesses]
    exact List.mem_flatMap.mpr ⟨chead, member, here⟩
  · intro compound
    have whole : ∀ chead ∈ rtcpBlocks packet.data packet.length,
        requiredLength packet.data chead ≤ blockLength packet.data chead ∧
          ((chead + blockLength packet.data chead : ℕ) : ℤ) ≤ packet.length := by
      unfold rtcpBlocks
      by_cases rtcp : isRtcp packet.data 0 = true
      · rw [if_pos rtcp]
        exact filled.mpr (compound rtcp)
      · rw [if_neg rtcp]
        exact fun _ member => absurd member List.not_mem_nil
    refine ⟨⟨_, handedBlocks_eq packet, fun chead member => (whole chead member).2⟩, fun chead => ?_,
      ⟨walk, walked, fun access member => ?_⟩⟩
    · refine ⟨_, handedItems_eq packet.data chead, fun header member => ?_⟩
      have inside := nackItems_inside member
      omega
    · rw [accesses] at member
      obtain ⟨chead, here, inside⟩ := List.mem_flatMap.mp member
      obtain ⟨long, ends⟩ := whole chead here
      refine (withinBlock_iff packet.data chead).mpr ⟨long, fun _ => ?_⟩ access inside
      have bound : ((chead + blockLength packet.data chead : ℕ) : ℤ) ≤ DataPacket.capacity := le_trans ends fits
      omega

/-- A NACK with one item is read inside it. -/
theorem staysInside_nack : StaysInside [] (nackPacket 10 1) := by
  refine (staysInside_iff [] (nackPacket 10 1) (by decide) (by decide)).mpr fun _ => ?_
  exact Compound.last (by decide +kernel) (by decide +kernel)

/-- Eight bytes that announce a block of `2 ^ 18`. -/
def lyingPacket : DataPacket := videoPacket [0x80, 200, 0xFF, 0xFF, 0, 0, 0, 7]

/-- The block is handed on, and its `2 ^ 18` bytes are copied. -/
theorem not_staysInside_lyingPacket :
    ¬ ∀ (streams : List MediaStream) (packet : DataPacket), 0 ≤ packet.length → packet.length ≤ 1500 →
      StaysInside streams packet := by
  intro always
  obtain ⟨⟨blocks, handed, inside⟩, _, _⟩ := always [] lyingPacket (by decide) (by decide)
  have first : handedBlocks lyingPacket = some [0] := by decide +kernel
  obtain rfl := Option.some_injective _ (first.symm.trans handed)
  exact absurd (inside 0 List.mem_cons_self) (by decide +kernel)

end WebRtcConnection

end Erizo
