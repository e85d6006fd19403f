/-
**The NACKs the aggregator remembers.**

Watched from outside are the numbers that were nacked of each source. In a run in which every NACK is one the aggregator
can take (`Taken`), its set of a source has numbers of these only and not more than `mapNackSize` of them, and a NACK is
left pending exactly by a block that requests a number the set had not before the call.

* `inserts_spec`: what is left of the set when a list of numbers is inserted.
* `remembers_of_taken`: every such run.
-/

import Erizo.Proof.SourceData

namespace Erizo

open Library Library.Bytes RtcpHeader RtpUtils

namespace RtcpData

/-! ### The numbers of a block -/

/-- The numbers that the bits of a NACK stand for, as sums that are not reduced. -/
def bitNumbers (pid blp : UInt16) : List ℕ :=
  ((List.range 16).filter fun bit => blp.toNat.testBit bit).map fun bit => pid.toNat + 1 + bit

/-- Insert numbers one after the other, and note whether one is new. -/
def inserts (numbers : List ℕ) (state : List ℕ × Bool) : List ℕ × Bool :=
  numbers.foldl (fun state number =>
    ((insertNacked state.1 number).1, state.2 || (insertNacked state.1 number).2)) state

theorem mem_insertNacked (nacked : List ℕ) (number asked : ℕ) :
    asked ∈ (insertNacked nacked number).1 ↔ asked = number ∨ asked ∈ nacked := by
  unfold insertNacked
  split
  · rename_i known
    exact (or_iff_right_of_imp fun same => same ▸ known).symm
  · exact List.mem_orderedInsert (· ≤ ·)

theorem insertNacked_isNew (nacked : List ℕ) (number : ℕ) :
    (insertNacked nacked number).2 = decide (number ∉ nacked) := by
  unfold insertNacked
  split
  · rename_i known
    exact (decide_eq_false (not_not.mpr known)).symm
  · rename_i fresh
    exact (decide_eq_true fresh).symm

/-- **Inserted numbers**: they are members, every new one counts once at most, and a new one is noted. -/
theorem inserts_spec (numbers : List ℕ) (state : List ℕ × Bool) :
    (∀ asked, asked ∈ (inserts numbers state).1 ↔ asked ∈ state.1 ∨ asked ∈ numbers) ∧
      (inserts numbers state).1.length ≤ state.1.length + numbers.countP (· ∉ state.1) ∧
      ((inserts numbers state).2 = true ↔ state.2 = true ∨ ∃ number ∈ numbers, number ∉ state.1) := by
  induction numbers generalizing state with
  | nil =>
      refine ⟨fun asked => ?_, le_rfl, ?_⟩
      · exact (or_iff_left List.not_mem_nil).symm
      · exact (or_iff_left fun ⟨_, absent, _⟩ => absurd absent List.not_mem_nil).symm
  | cons number rest ih =>
      obtain ⟨members, length, noted⟩ := ih ((insertNacked state.1 number).1, state.2 || (insertNacked state.1 number).2)
      dsimp only at members length noted
      have each := mem_insertNacked state.1 number
      refine ⟨fun asked => ?_, ?_, ?_⟩
      · refine (members asked).trans ?_
        rw [each, List.mem_cons]
        tauto
      · refine length.trans ?_
        have fewer : rest.countP (· ∉ (insertNacked state.1 number).1) ≤ rest.countP (· ∉ state.1) := by
          refine List.countP_mono_left fun asked _ absent => ?_
          rw [decide_eq_true_eq] at absent ⊢
          exact fun known => absent ((each asked).mpr (Or.inr known))
        rw [List.countP_cons]
        by_cases known : number ∈ state.1
        · have same : (insertNacked state.1 number).1 = state.1 := by rw [insertNacked, if_pos known]
          rw [same] at fewer ⊢
          omega
        · have one : (insertNacked state.1 number).1.length = state.1.length + 1 := by
            rw [insertNacked, if_neg known]
            exact List.orderedInsert_length _ _ _
          rw [if_pos (decide_eq_true known)]
          omega
      · refine noted.trans ?_
        rw [insertNacked_isNew, Bool.or_eq_true, decide_eq_true_eq, List.exists_mem_cons_iff, or_assoc]
        refine or_congr_right ⟨?_, ?_⟩
        · rintro (fresh | ⟨other, member, fresh⟩)
          · exact Or.inl fresh
          · exact Or.inr ⟨other, member, fun known => fresh ((each other).mpr (Or.inr known))⟩
        · rintro (fresh | ⟨other, member, fresh⟩)
          · exact Or.inl fresh
          · by_cases same : other = number
            · exact Or.inl (same ▸ fresh)
            · refine Or.inr ⟨other, member, fun known => ?_⟩
              exact ((each other).mp known).elim same fresh

/-- What the set is when the PID was inserted: the smallest numbers are erased if it was known. -/
def kept (nacked : List ℕ) (pid : ℕ) : List ℕ :=
  if pid ∈ nacked then nacked.drop (nacked.length + 1 - mapNackSize) else nacked.orderedInsert (· ≤ ·) pid

/-- The branch for a NACK inserts the PID and then the numbers of the bits. -/
theorem analyzeNack_eq (buf : Memory) (chead : ℕ) (data : RtcpData) :
    ((data.analyzeNack buf chead).nackedPackets, (data.analyzeNack buf chead).shouldSendNACK) =
      inserts (bitNumbers (getNackPid buf chead) (getNackBlp buf chead))
        (kept data.nackedPackets (getNackPid buf chead).toNat,
          decide ((getNackPid buf chead).toNat ∉ data.nackedPackets)) := by
  have first : (kept data.nackedPackets (getNackPid buf chead).toNat,
      decide ((getNackPid buf chead).toNat ∉ data.nackedPackets)) =
      ((if (insertNacked data.nackedPackets (getNackPid buf chead).toNat).2 = true then
          (insertNacked data.nackedPackets (getNackPid buf chead).toNat).1
        else (insertNacked data.nackedPackets (getNackPid buf chead).toNat).1.drop
          ((insertNacked data.nackedPackets (getNackPid buf chead).toNat).1.length + 1 - mapNackSize)),
        (insertNacked data.nackedPackets (getNackPid buf chead).toNat).2) := by
    unfold kept insertNacked
    split
    · rename_i known
      rw [if_neg Bool.false_ne_true, decide_eq_false (not_not.mpr known)]
    · rename_i fresh
      rw [if_pos rfl, decide_eq_true fresh]
  rw [first, inserts, bitNumbers, List.foldl_map, List.foldl_filter]
  refine Prod.ext ?_ ?_
  · unfold analyzeNack
    simp only
    rw [apply_ite RtcpData.nackedPackets]
    exact ite_self _
  · unfold analyzeNack
    simp only
    rw [apply_ite RtcpData.shouldSendNACK]
    exact ite_self _

/-- What is kept was there, or is the PID. -/
theorem mem_of_mem_kept {nacked : List ℕ} {pid number : ℕ} (member : number ∈ kept nacked pid) :
    number ∈ nacked ∨ number = pid := by
  unfold kept at member
  split at member
  · exact Or.inl (List.mem_of_mem_drop member)
  · exact ((List.mem_orderedInsert (· ≤ ·)).mp member).symm

/-- The numbers that a known PID makes the code erase: the smallest ones, as many as there are above all but one of
`mapNackSize`. -/
def erasedBy (nacked : List ℕ) (pid : ℕ) : List ℕ :=
  if pid ∈ nacked then nacked.take (nacked.length + 1 - mapNackSize) else []

/-- How many numbers a block adds to a set: those the set has not, and those of its bits that were erased before. -/
def added (nacked : List ℕ) (pid : ℕ) (bits : List ℕ) : ℕ :=
  (pid :: bits).countP (· ∉ nacked) + bits.countP (· ∈ erasedBy nacked pid)

/-- What is not erased is kept. -/
theorem mem_kept {nacked : List ℕ} {pid number : ℕ} (member : number ∈ nacked) (stays : number ∉ erasedBy nacked pid) :
    number ∈ kept nacked pid := by
  unfold erasedBy at stays
  unfold kept
  split
  · next known =>
      rw [if_pos known] at stays
      rw [← List.take_append_drop (nacked.length + 1 - mapNackSize) nacked, List.mem_append] at member
      exact member.resolve_left stays
  · exact (List.mem_orderedInsert (· ≤ ·)).mpr (Or.inr member)

theorem length_kept (nacked : List ℕ) (pid : ℕ) :
    (kept nacked pid).length + (erasedBy nacked pid).length = nacked.length + if pid ∈ nacked then 0 else 1 := by
  unfold kept erasedBy
  split
  · rw [List.length_drop, List.length_take]
    omega
  · rw [List.orderedInsert_length, List.length_nil]

/-- **What a block adds bounds the set it leaves.** -/
theorem kept_add_le (nacked : List ℕ) (pid : ℕ) (bits : List ℕ) :
    (kept nacked pid).length + bits.countP (· ∉ kept nacked pid) + (erasedBy nacked pid).length ≤
      nacked.length + added nacked pid bits := by
  have length := length_kept nacked pid
  have bound : bits.countP (· ∉ kept nacked pid) ≤
      bits.countP (· ∉ nacked) + bits.countP (· ∈ erasedBy nacked pid) := by
    induction bits with
    | nil => exact le_rfl
    | cons number rest ih =>
        have known : number ∈ nacked → number ∉ erasedBy nacked pid → number ∈ kept nacked pid := mem_kept
        simp only [List.countP_cons, decide_eq_true_eq]
        split_ifs <;> first | omega | tauto
  have pidCounts : (pid :: bits).countP (· ∉ nacked) = bits.countP (· ∉ nacked) + if pid ∈ nacked then 0 else 1 := by
    simp only [List.countP_cons, decide_eq_true_eq, ite_not]
  rw [added]
  omega

end RtcpData

namespace RtcpAggregator

open RtcpData

/-! ### What is watched -/

/-- The numbers that the items of a NACK request. -/
def requested (buf : Memory) (block : ℕ) : List UInt16 :=
  (nacks buf block).flatMap fun header => nackNumbers (getNackPid buf header) (getNackBlp buf header)

/-- The numbers that the first item of a block requests. -/
def firstRequested (buf : Memory) (block : ℕ) : List UInt16 := nackNumbers (getNackPid buf block) (getNackBlp buf block)

/-- What a block leaves: whether a NACK is pending, and whether one had to be, as a number was requested that the set
had not before the call. -/
structure NackVerdict where
  pending : Bool
  asksNew : Bool

/-- The data and the local variable `delay`, with the numbers that were nacked of each source. -/
abbrev Walk := (RtcpData × UInt32) × (UInt32 → List UInt16)

/-- A block, watched. The set before the call is given. -/
def hearBlock (aggregator : RtcpAggregator) (buf : Memory) (nowms : UInt64) (before : List ℕ) (state : Walk) (block : ℕ) :
    Walk × Option NackVerdict :=
  let next := aggregator.analyzeBlock buf nowms block state.1
  let source := getSourceSSRC buf block
  ((next, Function.update state.2 source (state.2 source ++ requested buf block)),
    if getPacketType buf block = rtpFeedbackPt then
      some ⟨next.1.shouldSendNACK, (requested buf block).any fun number => number.toNat ∉ before⟩
    else none)

/-- The aggregator, watched: a call comes with the verdicts on its blocks. -/
def watchedNacks (state : RtcpAggregator × (UInt32 → List UInt16)) (event : Event) :
    (RtcpAggregator × (UInt32 → List UInt16)) × List (Option NackVerdict) :=
  match event with
  | .analyzeFeedback nowms buf len =>
      if isHeard buf len then
        let data := state.1.dataOf (getSourceSSRC buf 0)
        let blocks := rtcpBlocksFrom buf len (len.toNat + 1) 0
        let hear := state.1.hearBlock buf nowms data.nackedPackets
        (((state.1.step event).1, (Machine.run hear ((data, 0), state.2) blocks).2),
          Machine.outputs hear ((data, 0), state.2) blocks)
      else (((state.1.step event).1, state.2), [])
  | _ => (((state.1.step event).1, state.2), [])

/-- **The set of a source**: not too many numbers, each of which was nacked. -/
structure Remembers (nacked : List UInt16) (data : RtcpData) : Prop where
  size : data.nackedPackets.length ≤ mapNackSize
  nacked : ∀ number ∈ data.nackedPackets, ∃ asked ∈ nacked, asked.toNat = number

/-- **A NACK the aggregator can take**, given the set before the call and the set before the block. -/
structure Taken (buf : Memory) (before : List ℕ) (block : ℕ) (nackedPackets : List ℕ) : Prop where
  /-- It is a NACK with an item, for the source of the packet. -/
  item : block ∈ nacks buf block
  source : getSourceSSRC buf block = getSourceSSRC buf 0
  /-- Its numbers do not wrap around. -/
  wraps : ∀ number ∈ bitNumbers (getNackPid buf block) (getNackBlp buf block), number < 2 ^ 16
  /-- There is room for the numbers it adds. -/
  room : nackedPackets.length +
      added nackedPackets (getNackPid buf block).toNat (bitNumbers (getNackPid buf block) (getNackBlp buf block)) ≤
    mapNackSize + (erasedBy nackedPackets (getNackPid buf block).toNat).length
  /-- Later items do not request something new alone. -/
  items : (∃ number ∈ requested buf block, number.toNat ∉ before) →
    ∃ number ∈ firstRequested buf block, number.toNat ∉ before
  /-- Earlier blocks of the call did not change what is new. -/
  earlier : (∃ number ∈ firstRequested buf block, number.toNat ∉ before) ↔
    ∃ number ∈ firstRequested buf block, number.toNat ∉ nackedPackets
  /-- A known number is not erased before it is looked up. -/
  erased : (∀ number ∈ firstRequested buf block, number.toNat ∈ nackedPackets) →
    ∀ number ∈ bitNumbers (getNackPid buf block) (getNackBlp buf block),
      number ∉ erasedBy nackedPackets (getNackPid buf block).toNat

/-- Every NACK of a call can be taken. -/
def TakesAll (state : RtcpAggregator × (UInt32 → List UInt16)) : Event → Prop
  | .analyzeFeedback nowms buf len => isHeard buf len = true →
      let data := state.1.dataOf (getSourceSSRC buf 0)
      Machine.Guarded (state.1.hearBlock buf nowms data.nackedPackets)
        (fun walk block => getPacketType buf block = rtpFeedbackPt →
          Taken buf data.nackedPackets block walk.1.1.nackedPackets)
        ((data, 0), state.2) (rtcpBlocksFrom buf len (len.toNat + 1) 0)
  | _ => True

/-! ### A block -/

section Block

variable {buf : Memory} {before : List ℕ} {block : ℕ} {nackedPackets : List ℕ}

/-- Numbers that do not wrap around are the sums. -/
theorem Taken.firstRequested_eq (taken : Taken buf before block nackedPackets) :
    (firstRequested buf block).map UInt16.toNat =
      (getNackPid buf block).toNat :: bitNumbers (getNackPid buf block) (getNackBlp buf block) := by
  unfold firstRequested nackNumbers bitNumbers
  rw [List.map_cons, List.map_map]
  refine congrArg _ (List.map_congr_left fun bit member => ?_)
  have sum := taken.wraps _ (List.mem_map_of_mem member)
  have small := List.mem_range.mp (List.mem_of_mem_filter member)
  show (getNackPid buf block + 1 + UInt16.ofNat bit).toNat = _
  rw [UInt16.toNat_add, UInt16.toNat_add, UInt16.toNat_ofNat']
  show (((getNackPid buf block).toNat + 1) % 2 ^ 16 + bit % 2 ^ 16) % 2 ^ 16 = _
  omega

/-- The set that a block leaves is not too large. -/
theorem Taken.length_le (taken : Taken buf before block nackedPackets) :
    (kept nackedPackets (getNackPid buf block).toNat).length +
      (bitNumbers (getNackPid buf block) (getNackBlp buf block)).countP
        (· ∉ kept nackedPackets (getNackPid buf block).toNat) ≤ mapNackSize := by
  have grown := kept_add_le nackedPackets (getNackPid buf block).toNat
    (bitNumbers (getNackPid buf block) (getNackBlp buf block))
  have room := taken.room
  omega

theorem Taken.exists_iff (taken : Taken buf before block nackedPackets) (property : ℕ → Prop) :
    (∃ number ∈ firstRequested buf block, property number.toNat) ↔
      property (getNackPid buf block).toNat ∨
        ∃ number ∈ bitNumbers (getNackPid buf block) (getNackBlp buf block), property number := by
  rw [← List.exists_mem_cons_iff, ← taken.firstRequested_eq]
  simp only [List.mem_map, exists_exists_and_eq_and]

theorem Taken.firstRequested_subset (taken : Taken buf before block nackedPackets) :
    firstRequested buf block ⊆ requested buf block :=
  fun _ member => List.mem_flatMap.mpr ⟨block, taken.item, member⟩

/-- **The flag of a block** says whether something new was requested. -/
theorem Taken.asksNew_iff (taken : Taken buf before block nackedPackets) :
    ((getNackPid buf block).toNat ∉ nackedPackets ∨
        ∃ number ∈ bitNumbers (getNackPid buf block) (getNackBlp buf block),
          number ∉ kept nackedPackets (getNackPid buf block).toNat) ↔
      ∃ number ∈ requested buf block, number.toNat ∉ before := by
  have news : (∃ number ∈ requested buf block, number.toNat ∉ before) ↔
      ∃ number ∈ firstRequested buf block, number.toNat ∉ nackedPackets := by
    rw [← taken.earlier]
    refine ⟨taken.items, ?_⟩
    rintro ⟨number, member, fresh⟩
    exact ⟨number, taken.firstRequested_subset member, fresh⟩
  rw [news]
  constructor
  · rintro (fresh | ⟨number, member, fresh⟩)
    · exact (taken.exists_iff (· ∉ nackedPackets)).mpr (Or.inl fresh)
    · by_contra known
      push Not at known
      have listed : number ∈ nackedPackets := by
        by_contra absent
        obtain ⟨asked, among, new⟩ := (taken.exists_iff (· ∉ nackedPackets)).mpr (Or.inr ⟨number, member, absent⟩)
        exact new (known asked among)
      exact fresh (mem_kept listed (taken.erased known number member))
  · intro fresh
    by_cases known : (getNackPid buf block).toNat ∈ nackedPackets
    · rcases (taken.exists_iff (· ∉ nackedPackets)).mp fresh with absent | ⟨number, member, absent⟩
      · exact absurd known absent
      · refine Or.inr ⟨number, member, fun there => ?_⟩
        rw [kept, if_pos known] at there
        exact absent (List.mem_of_mem_drop there)
    · exact Or.inl known

variable {aggregator : RtcpAggregator} {nowms : UInt64}

theorem hearBlock_data (walk : Walk) :
    (aggregator.hearBlock buf nowms before walk block).1.1 = aggregator.analyzeBlock buf nowms block walk.1 := rfl

theorem hearBlock_nacked (walk : Walk) : (aggregator.hearBlock buf nowms before walk block).1.2 =
    Function.update walk.2 (getSourceSSRC buf block)
      (walk.2 (getSourceSSRC buf block) ++ requested buf block) := rfl

/-- Numbers that were nacked stay so. -/
theorem subset_hearBlock (walk : Walk) (ssrc : UInt32) :
    walk.2 ssrc ⊆ (aggregator.hearBlock buf nowms before walk block).1.2 ssrc := by
  rw [hearBlock_nacked]
  by_cases same : ssrc = getSourceSSRC buf block
  · rw [same, Function.update_self]
    exact List.subset_append_left _ _
  · rw [Function.update_of_ne same]
    exact fun _ member => member

/-- **A block that can be taken** keeps the set, and its verdict is right. -/
theorem hearBlock_spec (walk : Walk)
    (taken : getPacketType buf block = rtpFeedbackPt → Taken buf before block walk.1.1.nackedPackets)
    (remembers : Remembers (walk.2 (getSourceSSRC buf 0)) walk.1.1) :
    Remembers ((aggregator.hearBlock buf nowms before walk block).1.2 (getSourceSSRC buf 0))
        (aggregator.hearBlock buf nowms before walk block).1.1.1 ∧
      ∀ verdict ∈ (aggregator.hearBlock buf nowms before walk block).2, verdict.pending = verdict.asksNew := by
  obtain ⟨⟨data, delay⟩, nacked⟩ := walk
  by_cases feedback : getPacketType buf block = rtpFeedbackPt
  · have taken := taken feedback
    have next : aggregator.analyzeBlock buf nowms block (data, delay) = (data.analyzeNack buf block, delay) :=
      aggregator.analyzeBlock_of_feedback buf nowms block feedback
    have left := analyzeNack_eq buf block data
    obtain ⟨members, length, noted⟩ := inserts_spec (bitNumbers (getNackPid buf block) (getNackBlp buf block))
      (kept data.nackedPackets (getNackPid buf block).toNat, decide ((getNackPid buf block).toNat ∉ data.nackedPackets))
    rw [← left] at members length noted
    refine ⟨?_, ?_⟩
    · rw [hearBlock_nacked, hearBlock_data, taken.source, Function.update_self, next]
      refine ⟨length.trans taken.length_le, fun number member => ?_⟩
      have cases : number ∈ data.nackedPackets ∨ number ∈ (firstRequested buf block).map UInt16.toNat := by
        rw [taken.firstRequested_eq, List.mem_cons]
        rcases (members number).mp member with old | bit
        · exact (mem_of_mem_kept old).imp_right Or.inl
        · exact Or.inr (Or.inr bit)
      rcases cases with old | first
      · obtain ⟨asked, inside, same⟩ := remembers.nacked number old
        exact ⟨asked, List.mem_append_left _ inside, same⟩
      · obtain ⟨asked, inside, same⟩ := List.mem_map.mp first
        exact ⟨asked, List.mem_append_right _ (taken.firstRequested_subset inside), same⟩
    · intro verdict member
      unfold hearBlock at member
      simp only [if_pos feedback, next, Option.mem_def, Option.some_inj] at member
      rw [← member, Bool.eq_iff_iff]
      refine noted.trans ?_
      rw [decide_eq_true_eq, taken.asksNew_iff]
      simp only [List.any_eq_true, decide_eq_true_eq]
  · have same : (aggregator.analyzeBlock buf nowms block (data, delay)).1.nackedPackets = data.nackedPackets :=
      congrArg Prod.fst (aggregator.remembered_analyzeBlock buf nowms block feedback)
    refine ⟨⟨?_, fun number member => ?_⟩, ?_⟩
    · rw [hearBlock_data, same]
      exact remembers.size
    · rw [hearBlock_data, same] at member
      obtain ⟨asked, inside, number⟩ := remembers.nacked number member
      exact ⟨asked, subset_hearBlock _ _ inside, number⟩
    · intro verdict member
      unfold hearBlock at member
      simp only [if_neg feedback] at member
      exact nomatch member

end Block

/-! ### A call -/

/-- The data that is watched is that of the loop. -/
theorem run_hearBlock (aggregator : RtcpAggregator) (buf : Memory) (nowms : UInt64) (before : List ℕ) (blocks : List ℕ)
    (walk : Walk) :
    (Machine.run (aggregator.hearBlock buf nowms before) walk blocks).1 =
      blocks.foldl (fun state chead => aggregator.analyzeBlock buf nowms chead state) walk.1 := by
  induction blocks generalizing walk with
  | nil => rfl
  | cons block rest ih => exact ih _

/-- **The sets of all sources.** -/
def RemembersAll (state : RtcpAggregator × (UInt32 → List UInt16)) : Prop :=
  ∀ ssrc, Remembers (state.2 ssrc) (state.1.dataOf ssrc)

theorem Remembers.mono {fewer more : List UInt16} {data : RtcpData} (remembers : Remembers fewer data)
    (subset : fewer ⊆ more) : Remembers more data := by
  refine ⟨remembers.size, fun number member => ?_⟩
  obtain ⟨asked, inside, same⟩ := remembers.nacked number member
  exact ⟨asked, subset inside, same⟩

/-- Only the set matters. -/
theorem Remembers.congr {nacked : List UInt16} {first second : RtcpData} (same : first.remembered = second.remembered)
    (remembers : Remembers nacked first) : Remembers nacked second := by
  have sets : first.nackedPackets = second.nackedPackets := congrArg Prod.fst same
  exact ⟨sets ▸ remembers.size, sets ▸ remembers.nacked⟩

section Call

variable {state : RtcpAggregator × (UInt32 → List UInt16)}

/-- **Feedback that can be taken** keeps the sets. -/
theorem RemembersAll.hear {nowms : UInt64} {buf : Memory} {len : ℤ} (remembers : RemembersAll state)
    (hears : isHeard buf len = true) (takes : TakesAll state (.analyzeFeedback nowms buf len)) :
    RemembersAll (watchedNacks state (.analyzeFeedback nowms buf len)).1 ∧
      ∀ verdict ∈ (watchedNacks state (.analyzeFeedback nowms buf len)).2.reduceOption,
        verdict.pending = verdict.asksNew := by
  obtain ⟨aggregator, nacked⟩ := state
  have start : Remembers (nacked (getSourceSSRC buf 0)) (aggregator.dataOf (getSourceSSRC buf 0)) := remembers _
  have guarded := takes hears
  have left := guarded.run_invariant
    (fun walk block taken remembers => (@hearBlock_spec _ _ _ aggregator nowms walk taken remembers).1) start
  have verdicts := @Machine.Guarded.forall_outputs _ _ _ _ _ _
    (fun output : Option NackVerdict => ∀ verdict ∈ output, verdict.pending = verdict.asksNew)
    (fun walk block taken remembers => (@hearBlock_spec _ _ _ aggregator nowms walk taken remembers).1)
    (fun walk block taken remembers => (@hearBlock_spec _ _ _ aggregator nowms walk taken remembers).2) _ _ guarded start
  have grows : ∀ ssrc, nacked ssrc ⊆
      (Machine.run (aggregator.hearBlock buf nowms (aggregator.dataOf (getSourceSSRC buf 0)).nackedPackets)
        ((aggregator.dataOf (getSourceSSRC buf 0), 0), nacked) (rtcpBlocksFrom buf len (len.toNat + 1) 0)).2 ssrc :=
    @Machine.run_invariant _ _ _ _ (fun walk : Walk => ∀ ssrc, nacked ssrc ⊆ walk.2 ssrc) (fun _ => True)
      (fun walk block _ grows ssrc => List.Subset.trans (grows ssrc) (subset_hearBlock walk ssrc))
      _ (fun ssrc => List.Subset.refl _) _ fun _ _ => trivial
  rw [run_hearBlock] at left
  unfold watchedNacks
  simp only [hears, if_true]
  refine ⟨fun asked => ?_, fun verdict member => ?_⟩
  · show Remembers _ ((aggregator.analyzeFeedback nowms buf len).dataOf asked)
    rw [dataOf_analyzeFeedback nowms hears]
    split
    · rename_i same
      rw [← same]
      exact left
    · exact (remembers asked).mono (grows asked)
  · obtain ⟨output, inside, same⟩ := List.mem_filterMap.mp member
    exact verdicts output inside verdict same

/-- **Every call that can be taken** keeps the sets, and its verdicts are right. -/
theorem RemembersAll.step {event : Event} (remembers : RemembersAll state) (takes : TakesAll state event) :
    RemembersAll (watchedNacks state event).1 ∧
      ∀ verdict ∈ (watchedNacks state event).2.reduceOption, verdict.pending = verdict.asksNew := by
  have silent : ∀ verdict ∈ ([] : List (Option NackVerdict)).reduceOption, verdict.pending = verdict.asksNew :=
    fun _ absent => absurd absent List.not_mem_nil
  cases event with
  | analyzeSr now chead =>
      refine ⟨fun asked => ?_, silent⟩
      show Remembers _ ((state.1.analyzeSr now chead).dataOf asked)
      rw [dataOf_analyzeSr]
      split
      · exact ⟨(remembers asked).size, (remembers asked).nacked⟩
      · exact remembers asked
  | checkRtcpFb now nextPacketInMs =>
      exact ⟨fun asked => (remembers asked).congr (remembered_timer now nextPacketInMs asked).symm, silent⟩
  | analyzeFeedback nowms buf len =>
      by_cases hears : isHeard buf len = true
      · exact remembers.hear hears takes
      · have ignored : watchedNacks state (.analyzeFeedback nowms buf len) = (state, []) := by
          unfold watchedNacks RtcpAggregator.step analyzeFeedback
          simp only [if_neg hears]
        rw [ignored]
        exact ⟨remembers, silent⟩

end Call

/-! ### Every run -/

/-- **The NACKs that are remembered.** In every run whose NACKs can be taken, the set of each source has numbers that were
nacked, not more than `mapNackSize` of them, and a block leaves a NACK pending exactly if it requests a number that the
set had not before the call. -/
theorem remembers_of_taken (maxVideoBw audioSourceSSRC : UInt32) (videoSourceSSRCList : List UInt32)
    (audioSinkSSRC videoSinkSSRC : UInt32) (farShift : ℕ → ℕ → UInt64) (events : List Event)
    (takes : Machine.Guarded watchedNacks TakesAll
      (create maxVideoBw audioSourceSSRC videoSourceSSRCList audioSinkSSRC videoSinkSSRC farShift, fun _ => []) events) :
    RemembersAll (Machine.run watchedNacks
        (create maxVideoBw audioSourceSSRC videoSourceSSRCList audioSinkSSRC videoSinkSSRC farShift, fun _ => []) events) ∧
      ∀ output ∈ Machine.outputs watchedNacks
        (create maxVideoBw audioSourceSSRC videoSourceSSRCList audioSinkSSRC videoSinkSSRC farShift, fun _ => []) events,
        ∀ verdict ∈ output.reduceOption, verdict.pending = verdict.asksNew := by
  have start : RemembersAll
      (create maxVideoBw audioSourceSSRC videoSourceSSRCList audioSinkSSRC videoSinkSSRC farShift, fun _ => []) :=
    fun _ => by
      rw [dataOf_create]
      exact ⟨Nat.zero_le _, fun _ absent => absurd absent List.not_mem_nil⟩
  exact ⟨takes.run_invariant (fun state event takes remembers => (remembers.step takes).1) start,
    takes.forall_outputs (fun state event takes remembers => (remembers.step takes).1)
      (fun state event takes remembers => (remembers.step takes).2) start⟩

/-- The items 5 and 6 are nacked. -/
theorem remembers_of_taken_two :
    RemembersAll (Machine.run watchedNacks (videoAggregator, fun _ => [])
        [.analyzeFeedback 0 (nackPacket 5 1).data 16]) ∧
      ∀ output ∈ Machine.outputs watchedNacks (videoAggregator, fun _ => [])
        [.analyzeFeedback 0 (nackPacket 5 1).data 16], ∀ verdict ∈ output.reduceOption,
        verdict.pending = verdict.asksNew := by
  refine remembers_of_taken 300000 0 [7] 1 2 (fun _ _ => 0) _ ⟨fun _ => ?_, trivial⟩
  have blocks : rtcpBlocksFrom (nackPacket 5 1).data 16 ((16 : ℤ).toNat + 1) 0 = [0] := by decide
  have nothing : (videoAggregator.dataOf (getSourceSSRC (nackPacket 5 1).data 0)).nackedPackets = [] := by decide
  rw [blocks]
  refine ⟨fun _ => ?_, trivial⟩
  show Taken (nackPacket 5 1).data (videoAggregator.dataOf (getSourceSSRC (nackPacket 5 1).data 0)).nackedPackets 0
    (videoAggregator.dataOf (getSourceSSRC (nackPacket 5 1).data 0)).nackedPackets
  rw [nothing]
  refine ⟨by decide, rfl, by decide, by decide, fun fresh => by decide, by decide, fun known => ?_⟩
  exact absurd (known 5 (by decide)) List.not_mem_nil

/-- **The number behind the largest one**: the set has 65536, which nobody nacked. -/
theorem not_remembers_wrapped :
    ¬RemembersAll (Machine.run watchedNacks (videoAggregator, fun _ => [])
      [.analyzeFeedback 0 (nackPacket 65535 1).data 16]) := by
  intro remembers
  have set : ((Machine.run watchedNacks (videoAggregator, fun _ => [])
      [.analyzeFeedback 0 (nackPacket 65535 1).data 16]).1.dataOf 7).nackedPackets = [65535, 65536] := by decide
  have known := (remembers 7).nacked 65536
  rw [set] at known
  obtain ⟨asked, -, same⟩ := known (List.mem_cons_of_mem _ (List.mem_singleton_self _))
  exact absurd same asked.toNat_lt.ne

end RtcpAggregator

end Erizo
