/-
**What the forwarder makes of a compound packet.**

A block has its SSRC changed (`rewrite_of_report`), or the three bytes of its bitrate (`rewrite_of_remb`), or nothing,
and no block is changed by another one. What is read back of a bitrate is the bitrate that was meant exactly when the
shift of the 32-bit word loses nothing that matters and the first 18 bits of the result are not all set (`rate_iff`).

* `analyzeFeedback_iff`: a compound packet is rewritten as it should be exactly when its bitrates are of that kind.
-/

import Erizo.Model.RtcpForwarder
import Erizo.Proof.RembBitRate
import Erizo.Proof.RtcpWalk

namespace Erizo

open Library Library.Bytes Library.ShortFloat RtcpHeader RtpUtils

namespace RtcpForwarder

/-! ### Compound packets -/

/-- The blocks of a packet, by their lengths. -/
def blocksOf (data : Memory) (len : ℤ) : List ℕ := rtcpBlocksFrom data len (len.toNat + 1) 0

/-- A block is a REMB. -/
def isRembBlock (data : Memory) (block : ℕ) : Bool := isREMB data block && isRembId data block

/-- **A well-formed compound packet**: its blocks fill it, and have room for what they are said to have. -/
structure WellFormed (data : Memory) (len : ℤ) : Prop where
  inside : ∀ block ∈ blocksOf data len, ((block + blockLength data block : ℕ) : ℤ) ≤ len
  reports : ∀ block ∈ blocksOf data len, getPacketType data block = receiverPt →
    8 + 24 * getBlockCount data block ≤ blockLength data block
  feedback : ∀ block ∈ blocksOf data len, isREMB data block = true → 16 ≤ blockLength data block
  rembs : ∀ block ∈ blocksOf data len, isRembBlock data block = true →
    20 + 4 * (getREMBNumSSRC data block).toNat ≤ blockLength data block

/-- The bitrate that a REMB asks for, capped. -/
def cappedRate (forwarder : RtcpForwarder) (data : Memory) (block : ℕ) : ℕ :=
  min (getBrMantis data block * 2 ^ getBrExp data block) forwarder.maxVideoBw.toNat

/-- No field that is to be rewritten is at an address. -/
def Outside (data : Memory) (blocks : List ℕ) (address : ℕ) : Prop :=
  ∀ block ∈ blocks, (getPacketType data block = receiverPt → address < block + 4 ∨ block + 8 ≤ address) ∧
    (isRembBlock data block = true → address < block + 17 ∨ block + 20 ≤ address)

/-- **The packet is rewritten as it should be.** A receiver report without reports is of no medium. -/
structure Rewritten (forwarder : RtcpForwarder) (data after : Memory) (blocks : List ℕ) : Prop where
  reports : ∀ block ∈ blocks, getPacketType data block = receiverPt →
    (getSSRC after block = forwarder.videoSinkSSRC ∨ getSSRC after block = forwarder.audioSinkSSRC) ∧
      (0 < getBlockCount data block → getSSRC after block =
        if forwarder.isVideoSourceSSRC (getSourceSSRC data block) then forwarder.videoSinkSSRC
        else forwarder.audioSinkSSRC)
  rates : ∀ block ∈ blocks, isRembBlock data block = true → ∃ rate, getREMBBitRate after block = some rate ∧
    rate.toNat = leading 18 (forwarder.cappedRate data block)
  rest : ∀ address, Outside data blocks address → after address = data address

/-- **A bitrate that is not lost on the way**: the exponent is below 32; the shifted mantissa fits in 32 bits, or what
is left of it is not below the cap without all but its first bits; and the first 18 bits of the result are not all
set. -/
structure Representable (forwarder : RtcpForwarder) (data : Memory) (block : ℕ) : Prop where
  shift : getBrExp data block < 32
  fits : getBrMantis data block * 2 ^ getBrExp data block < 2 ^ 32 ∨
    leading 18 forwarder.maxVideoBw.toNat ≤ getBrMantis data block * 2 ^ getBrExp data block % 2 ^ 32
  clear : ¬AllOnes 18 (forwarder.cappedRate data block)

/-! ### Bitrates -/

/-- The rate that is written, as a word. -/
def capped (forwarder : RtcpForwarder) (rate : ℕ) : UInt32 :=
  if rate % 2 ^ 32 < forwarder.maxVideoBw.toNat then UInt32.ofNat rate else forwarder.maxVideoBw

theorem toNat_capped (forwarder : RtcpForwarder) (rate : ℕ) :
    (forwarder.capped rate).toNat = min (rate % 2 ^ 32) forwarder.maxVideoBw.toNat := by
  unfold capped
  split
  · rename_i less
    rw [UInt32.toNat_ofNat', min_eq_left less.le]
  · rename_i more
    rw [min_eq_right (not_lt.mp more)]

/-- What is read back of it. -/
theorem toNat_readBack_capped_iff (forwarder : RtcpForwarder) (rate : ℕ) :
    (readBack (forwarder.capped rate)).toNat = leading 18 (min rate forwarder.maxVideoBw.toNat) ↔
      (rate < 2 ^ 32 ∨ leading 18 forwarder.maxVideoBw.toNat ≤ rate % 2 ^ 32) ∧
        ¬AllOnes 18 (min rate forwarder.maxVideoBw.toNat) := by
  rw [toNat_readBack]
  have written := exponentOf_isExponent (forwarder.capped rate)
  rw [toNat_capped] at written ⊢
  by_cases fits : rate < 2 ^ 32
  · rw [Nat.mod_eq_of_lt fits] at written ⊢
    rw [rounded_eq_leading_iff (by decide) _ written]
    exact ⟨fun clear => ⟨Or.inl fits, clear⟩, And.right⟩
  · obtain ⟨exponent, of_cap⟩ := exists_isExponent (show 0 < mantissaLimit by decide) forwarder.maxVideoBw.toNat
    have word := forwarder.maxVideoBw.toNat_lt
    have lower : min (rate % 2 ^ 32) forwarder.maxVideoBw.toNat ≤ forwarder.maxVideoBw.toNat := min_le_right _ _
    rw [min_eq_right (by omega : forwarder.maxVideoBw.toNat ≤ rate)]
    by_cases ones : AllOnes 18 forwarder.maxVideoBw.toNat
    · -- The cap itself is not read back.
      have other : rounded forwarder.maxVideoBw.toNat exponent ≠ leading 18 forwarder.maxVideoBw.toNat := fun same =>
        (rounded_eq_leading_iff (by decide) _ of_cap).mp same ones
      have less := lt_of_le_of_ne (rounded_le_rounded_of_le _ of_cap.size_sub_le) other
      have below := rounded_le_rounded written of_cap lower
      exact ⟨fun same => absurd same (Nat.ne_of_lt (lt_of_le_of_lt below less)), fun both => absurd ones both.2⟩
    · have same := (rounded_eq_leading_iff (by decide) _ of_cap).mpr ones
      rw [← same, rounded_eq_rounded_iff (by decide) written of_cap lower]
      exact ⟨fun reached => ⟨Or.inr (reached.trans (min_le_left _ _)), ones⟩, fun both =>
        le_min (both.1.resolve_left fits) (rounded_le _ _)⟩

/-! ### One block -/

/-- A block has room for what is written to it. -/
def Contained (data : Memory) (block : ℕ) : Prop :=
  (getPacketType data block = receiverPt → 8 ≤ blockLength data block) ∧
    (isRembBlock data block = true → 20 ≤ blockLength data block)

/-- What a block makes of the packet. -/
def rewrite (forwarder : RtcpForwarder) (block : ℕ) (data : Memory) : Memory :=
  (forwarder.analyzeBlock block data).getD data

section Congruence

variable {first second : Memory} {block : ℕ}

theorem isRembBlock_congr (same : ∀ address, block ≤ address → first address = second address) :
    isRembBlock first block = isRembBlock second block := by
  unfold isRembBlock isREMB isRembId getPacketType getBlockCount
  rw [same block le_rfl, same (block + 1) (by omega), same (block + 12) (by omega), same (block + 13) (by omega),
    same (block + 14) (by omega), same (block + 15) (by omega)]

theorem getBrExp_congr (same : ∀ address, block ≤ address → first address = second address) :
    getBrExp first block = getBrExp second block := by
  rw [getBrExp, getBrExp, same (block + 17) (by omega)]

theorem getREMBBitRate_congr (same : ∀ address, block + 17 ≤ address → address < block + 20 →
    first address = second address) : getREMBBitRate first block = getREMBBitRate second block := by
  unfold getREMBBitRate getBrExp getBrMantis
  rw [same (block + 17) le_rfl (by omega), same (block + 18) (by omega) (by omega),
    same (block + 19) (by omega) (by omega)]

theorem contained_congr (same : ∀ address, block ≤ address → first address = second address)
    (contained : Contained first block) : Contained second block := by
  unfold Contained at contained ⊢
  rwa [isRembBlock_congr same, blockLength_congr same, getPacketType, same (block + 1) (by omega)] at contained

/-- What is written depends on the bitrate alone. -/
theorem setREMBBitRate_congr (bitRate : UInt64) {address : ℕ} (same : first address = second address) :
    ((setREMBBitRate first block bitRate).getD first) address =
      ((setREMBBitRate second block bitRate).getD second) address := by
  unfold setREMBBitRate
  by_cases room : brExponent bitRate 64 0x3FFFF 0 < 64
  · rw [if_pos room, if_pos room]
    exact copy_congr same _ _
  · rw [if_neg room, if_neg room]
    exact same

theorem rewrite_congr (forwarder : RtcpForwarder) (same : ∀ address, block ≤ address → first address = second address)
    {address : ℕ} (above : block ≤ address) :
    forwarder.rewrite block first address = forwarder.rewrite block second address := by
  have remb : (isREMB first block && isRembId first block) = (isREMB second block && isRembId second block) :=
    isRembBlock_congr same
  have kind : getPacketType first block = getPacketType second block := same (block + 1) (by omega)
  have source : getSourceSSRC first block = getSourceSSRC second block :=
    read32_congr fun address after _ => same address (by omega)
  unfold rewrite analyzeBlock
  rw [kind, remb]
  split
  · unfold rewriteReport
    rw [source]
    split
    · exact copy_congr (same address above) _ _
    · exact copy_congr (same address above) _ _
  · split
    · unfold rewriteRemb
      rw [getREMBBitRate_congr fun address after _ => same address (by omega)]
      cases getREMBBitRate second block with
      | none => exact same address above
      | some bitrate => exact setREMBBitRate_congr _ (same address above)
    · exact same address above

end Congruence

section Block

variable (forwarder : RtcpForwarder) (data : Memory) (block : ℕ)

/-- A bitrate that can be read is capped. -/
theorem rewriteRemb_eq (shift : getBrExp data block < 32) :
    forwarder.rewriteRemb block data =
      setREMBBitRate data block (forwarder.capped (getBrMantis data block * 2 ^ getBrExp data block)).toUInt64 := by
  unfold rewriteRemb getREMBBitRate
  rw [if_pos shift]
  generalize getBrMantis data block * 2 ^ getBrExp data block = rate
  have word : (UInt64.ofNat (rate % 2 ^ 32)).toNat = rate % 2 ^ 32 := by
    rw [UInt64.toNat_ofNat']
    exact Nat.mod_eq_of_lt (by omega)
  simp only [Option.bind_eq_bind, Option.bind_some, capped, UInt64.lt_iff_toNat_lt, word, UInt32.toNat_toUInt64]
  split
  · congr 1
    rw [← UInt64.toNat_inj, word, UInt32.toNat_toUInt64, UInt32.toNat_ofNat']
  · rfl

/-- A REMB is no receiver report. -/
theorem not_report_of_remb {data : Memory} {block : ℕ} (remb : isRembBlock data block = true) :
    getPacketType data block ≠ receiverPt := by
  have kind : getPacketType data block = psFeedbackPt := by
    unfold isRembBlock isREMB at remb
    simp only [Bool.and_eq_true, decide_eq_true_eq] at remb
    exact remb.1.1
  rw [kind]
  decide

/-- A block is rewritten, unless its shift is undefined. -/
theorem analyzeBlock_eq :
    forwarder.analyzeBlock block data =
      if isRembBlock data block = true → getBrExp data block < 32 then some (forwarder.rewrite block data) else none := by
  by_cases defined : isRembBlock data block = true → getBrExp data block < 32
  · rw [if_pos defined, rewrite]
    unfold analyzeBlock
    split
    · rfl
    · split
      · rename_i remb
        obtain ⟨after, written, -, -⟩ := setREMBBitRate_spec data block
          (forwarder.capped (getBrMantis data block * 2 ^ getBrExp data block))
        rw [rewriteRemb_eq forwarder data block (defined remb), written]
        rfl
      · rfl
  · rw [if_neg defined]
    obtain ⟨remb, undefined⟩ := Classical.not_imp.mp defined
    unfold analyzeBlock
    rw [if_neg (not_report_of_remb remb), if_pos (show (isREMB data block && isRembId data block) = true from remb)]
    unfold rewriteRemb getREMBBitRate
    rw [if_neg undefined]
    rfl

/-- A receiver report gets its SSRC. -/
theorem rewrite_of_report (report : getPacketType data block = receiverPt) :
    forwarder.rewrite block data =
      setSSRC data block (if forwarder.isVideoSourceSSRC (getSourceSSRC data block) then forwarder.videoSinkSSRC
        else forwarder.audioSinkSSRC) := by
  unfold rewrite analyzeBlock
  rw [if_pos report]
  unfold rewriteReport
  split
  · rfl
  · rfl

/-- A REMB gets its bitrate. -/
theorem rewrite_of_remb (remb : isRembBlock data block = true) :
    forwarder.rewrite block data = (forwarder.rewriteRemb block data).getD data := by
  unfold rewrite analyzeBlock
  rw [if_neg (not_report_of_remb remb), if_pos (show (isREMB data block && isRembId data block) = true from remb)]

/-- Any other block gets nothing. -/
theorem rewrite_of_other (report : getPacketType data block ≠ receiverPt) (remb : isRembBlock data block ≠ true) :
    forwarder.rewrite block data = data := by
  unfold rewrite analyzeBlock
  rw [if_neg report, if_neg (show ¬(isREMB data block && isRembId data block) = true from remb)]
  rfl

/-- The bitrate that is read then. -/
theorem getREMBBitRate_rewrite (remb : isRembBlock data block = true) (shift : getBrExp data block < 32) :
    getREMBBitRate (forwarder.rewrite block data) block =
      some (readBack (forwarder.capped (getBrMantis data block * 2 ^ getBrExp data block))).toUInt64 := by
  obtain ⟨after, written, read, -⟩ := setREMBBitRate_spec data block
    (forwarder.capped (getBrMantis data block * 2 ^ getBrExp data block))
  rw [rewrite_of_remb forwarder data block remb, rewriteRemb_eq forwarder data block shift, written]
  exact read

/-- Nothing else is written. -/
theorem rewrite_of_outside {address : ℕ} (outside : Outside data [block] address) :
    forwarder.rewrite block data address = data address := by
  obtain ⟨awayReport, awayRemb⟩ := outside block (List.mem_singleton_self block)
  by_cases report : getPacketType data block = receiverPt
  · rw [rewrite_of_report forwarder data block report]
    exact write32_of_disjoint data _ (awayReport report)
  · by_cases remb : isRembBlock data block = true
    · rw [rewrite_of_remb forwarder data block remb]
      by_cases shift : getBrExp data block < 32
      · obtain ⟨after, written, -, rest⟩ := setREMBBitRate_spec data block
          (forwarder.capped (getBrMantis data block * 2 ^ getBrExp data block))
        rw [rewriteRemb_eq forwarder data block shift, written]
        exact rest address (awayRemb remb)
      · unfold rewriteRemb getREMBBitRate
        rw [if_neg shift]
        rfl
    · rw [rewrite_of_other forwarder data block report remb]

end Block

/-- What is written to a block stays inside. -/
theorem Contained.inside {data : Memory} {block : ℕ} (contained : Contained data block) (forwarder : RtcpForwarder)
    {address : ℕ} (away : address < block ∨ block + blockLength data block ≤ address) :
    forwarder.rewrite block data address = data address := by
  refine rewrite_of_outside forwarder data block (List.forall_mem_singleton.mpr ⟨fun report => ?_, fun remb => ?_⟩)
  · have room := contained.1 report
    omega
  · have room := contained.2 remb
    omega

/-! ### The whole packet -/

/-- **The loop rewrites block after block**, unless it comes to a BYE or to an undefined shift. -/
theorem analyzeLoop_cases (forwarder : RtcpForwarder) (len : ℤ) : ∀ (rounds position : ℕ) (data : Memory),
    (∀ block ∈ rtcpBlocksFrom data len rounds position, Contained data block) →
      (∃ after, forwarder.analyzeLoop len rounds position position data = some (0, after)) ∨
      (forwarder.analyzeLoop len rounds position position data = none ∧
        ∃ block ∈ rtcpBlocksFrom data len rounds position, isRembBlock data block = true ∧ 32 ≤ getBrExp data block) ∨
      (forwarder.analyzeLoop len rounds position position data =
          (blockLoop id (fun block data => some (forwarder.rewrite block data)) len rounds position position data).map
            (fun after => (len, after)) ∧
        ∀ block ∈ rtcpBlocksFrom data len rounds position, isRembBlock data block = true → getBrExp data block < 32)
  | 0, _, _, _ => Or.inr (Or.inr ⟨rfl, fun _ absent => absurd absent List.not_mem_nil⟩)
  | rounds + 1, position, data, each => by
      obtain ⟨contained, others⟩ := List.forall_mem_cons.mp each
      have same : ∀ address, position + blockLength data position ≤ address →
          forwarder.rewrite position data address = data address := fun address behind =>
        contained.inside forwarder (Or.inr behind)
      rw [analyzeLoop, rtcpBlocksFrom, blockLoop, analyzeBlock_eq]
      simp only [id_eq, Option.bind_eq_bind, Option.bind_some]
      by_cases last : getPacketType data position = bye
      · exact Or.inl ⟨data, if_pos last⟩
      by_cases defined : isRembBlock data position = true → getBrExp data position < 32
      · rw [if_neg last, if_pos defined, Option.bind_some]
        by_cases more : ((position + blockLength data position : ℕ) : ℤ) < len
        · rw [if_pos more] at others ⊢
          rw [if_pos more, if_pos more]
          have blocks := rtcpBlocksFrom_congr len rounds _ same
          have behind : ∀ block ∈ rtcpBlocksFrom data len rounds (position + blockLength data position),
              ∀ address, block ≤ address → forwarder.rewrite position data address = data address :=
            fun block member address above => same address (le_trans (rtcpBlocksFrom_le _ _ _ _ block member) above)
          rcases analyzeLoop_cases forwarder len rounds (position + blockLength data position)
            (forwarder.rewrite position data) (by
              rw [blocks]
              exact fun block member =>
                contained_congr (fun address above => (behind block member address above).symm) (others block member))
            with dropped | ⟨undefined, block, member, remb, shift⟩ | ⟨walked, shifts⟩
          · exact Or.inl dropped
          · rw [blocks] at member
            rw [isRembBlock_congr (behind block member)] at remb
            rw [getBrExp_congr (behind block member)] at shift
            exact Or.inr (Or.inl ⟨undefined, block, List.mem_cons_of_mem _ member, remb, shift⟩)
          · rw [blocks] at shifts
            refine Or.inr (Or.inr ⟨walked, List.forall_mem_cons.mpr ⟨defined, fun block member => ?_⟩⟩)
            have own := shifts block member
            rwa [isRembBlock_congr (behind block member), getBrExp_congr (behind block member)] at own
        · rw [if_neg more, if_neg more, if_neg more]
          exact Or.inr (Or.inr ⟨rfl, List.forall_mem_singleton.mpr defined⟩)
      · obtain ⟨remb, undefined⟩ := Classical.not_imp.mp defined
        rw [if_neg last, if_neg defined]
        exact Or.inr (Or.inl ⟨rfl, position, List.mem_cons_self, remb, not_lt.mp undefined⟩)

variable {forwarder : RtcpForwarder} {data : Memory} {len : ℤ}

theorem WellFormed.contained (wellFormed : WellFormed data len) : ∀ block ∈ blocksOf data len, Contained data block := by
  refine fun block member => ⟨fun report => ?_, fun remb => ?_⟩
  · have room := wellFormed.reports block member report
    omega
  · have room := wellFormed.rembs block member remb
    omega

/-- A rate is as it should be. -/
theorem rate_iff {block : ℕ} {after : Memory} (remb : isRembBlock data block = true) (shift : getBrExp data block < 32)
    (own : ∀ address, block + 17 ≤ address → address < block + 20 → after address = forwarder.rewrite block data address) :
    (∃ rate, getREMBBitRate after block = some rate ∧ rate.toNat = leading 18 (forwarder.cappedRate data block)) ↔
      Representable forwarder data block := by
  rw [getREMBBitRate_congr own, getREMBBitRate_rewrite forwarder data block remb shift]
  simp only [Option.some.injEq, exists_eq_left', UInt32.toNat_toUInt64]
  unfold cappedRate
  rw [toNat_readBack_capped_iff]
  exact ⟨fun both => ⟨shift, both.1, both.2⟩, fun all => ⟨all.fits, all.clear⟩⟩

/-- A packet that is not dropped at once is walked through. -/
theorem analyzeFeedback_walk (kept : ∀ after, forwarder.analyzeFeedback data len ≠ some (0, after)) :
    forwarder.analyzeFeedback data len = forwarder.analyzeLoop len (len.toNat + 1) 0 0 data := by
  unfold analyzeFeedback at kept ⊢
  split
  · rename_i feedback
    rw [if_pos feedback] at kept
    split
    · rename_i empty
      exact absurd (if_pos empty) (kept data)
    · rfl
  · rename_i other
    exact absurd (if_neg other) (kept data)

/-- A report that was rewritten. -/
theorem sink_of_rewrite {block : ℕ} {after : Memory} (report : getPacketType data block = receiverPt)
    (own : ∀ address, block + 4 ≤ address → address < block + 8 → after address = forwarder.rewrite block data address) :
    getSSRC after block = if forwarder.isVideoSourceSSRC (getSourceSSRC data block) then forwarder.videoSinkSSRC
      else forwarder.audioSinkSSRC := by
  rw [getSSRC, read32_congr fun address above below => own address (by omega) (by omega),
    rewrite_of_report forwarder data block report]
  exact read32_write32 _ _ _

/-- **What is forwarded.** A well-formed compound packet that is not dropped is rewritten as it should be exactly when
none of its bitrates is lost on the way. -/
theorem analyzeFeedback_iff (wellFormed : WellFormed data len)
    (kept : ∀ after, forwarder.analyzeFeedback data len ≠ some (0, after)) :
    (∃ after, forwarder.analyzeFeedback data len = some (len, after) ∧
        Rewritten forwarder data after (blocksOf data len)) ↔
      ∀ block ∈ blocksOf data len, isRembBlock data block = true → Representable forwarder data block := by
  have contained := wellFormed.contained
  have walk := analyzeFeedback_walk kept
  rw [walk] at kept ⊢
  rcases forwarder.analyzeLoop_cases len (len.toNat + 1) 0 data contained with
    ⟨after, dropped⟩ | ⟨undefined, block, member, remb, shift⟩ | ⟨walked, shifts⟩
  · exact absurd dropped (kept after)
  · constructor
    · rintro ⟨after, returned, -⟩
      rw [undefined] at returned
      cases returned
    · intro each
      exact absurd (each block member remb).shift (not_lt.mpr shift)
  · obtain ⟨final, looped, outside, within⟩ := @blockLoop_each forwarder.rewrite Contained
      (fun same => ⟨contained_congr same, fun address above => rewrite_congr forwarder same above⟩)
      (fun contained address away => contained.inside forwarder away) len (len.toNat + 1) 0 data contained
    rw [walked, looped]
    have rates : ∀ block ∈ blocksOf data len, isRembBlock data block = true →
        ((∃ rate, getREMBBitRate final block = some rate ∧ rate.toNat = leading 18 (forwarder.cappedRate data block)) ↔
          Representable forwarder data block) := by
      intro block member remb
      have room := (contained block member).2 remb
      exact rate_iff remb (shifts block member remb) fun address above below =>
        within block member address (by omega) (by omega)
    constructor
    · rintro ⟨after, returned, rewritten⟩ block member remb
      obtain rfl : final = after := congrArg Prod.snd (Option.some_injective _ returned)
      exact (rates block member remb).mp (rewritten.rates block member remb)
    · intro each
      refine ⟨final, rfl, fun block member report => ?_, fun block member remb => ?_, fun address away => ?_⟩
      · have room := (contained block member).1 report
        have written := sink_of_rewrite report fun address above below =>
          within block member address (by omega) (by omega)
        refine ⟨?_, fun _ => written⟩
        rw [written]
        split
        · exact Or.inl rfl
        · exact Or.inr rfl
      · exact (rates block member remb).mpr (each block member remb)
      · by_cases inside : ∃ block ∈ blocksOf data len, block ≤ address ∧ address < block + blockLength data block
        · obtain ⟨block, member, above, below⟩ := inside
          rw [within block member address above below]
          exact rewrite_of_outside forwarder data block (List.forall_mem_singleton.mpr (away block member))
        · refine outside address fun block member => ?_
          by_contra neither
          rw [not_or, not_lt, not_le] at neither
          exact inside ⟨block, member, neither⟩

/-- A forwarder with one video source and a cap of 300 kbit/s. -/
def cappedForwarder : RtcpForwarder := ⟨300000, [5], 8, 9⟩

/-- A REMB. -/
def rembBlock (exponent mantissa : ℕ) : List UInt8 :=
  [0x8F, 206, 0, 5] ++ encode32 1 ++ encode32 0 ++ [82, 69, 77, 66, 1] ++ encode24 (mantissa + exponent * 2 ^ 18) ++
    encode32 5

/-- A report of the video source and a REMB of 1.6 Mbit/s. -/
def reportAndRemb : Memory :=
  (videoPacket ([0x81, 201, 0, 7] ++ encode32 1 ++ encode32 5 ++ List.replicate 20 0 ++ rembBlock 3 200000)).data

theorem analyzeFeedback_iff_reportAndRemb :
    ∃ after, cappedForwarder.analyzeFeedback reportAndRemb 56 = some (56, after) ∧
      Rewritten cappedForwarder reportAndRemb after (blocksOf reportAndRemb 56) := by
  refine (analyzeFeedback_iff ⟨by decide, by decide, by decide, by decide⟩ fun after same => ?_).mpr ?_
  · have length : (cappedForwarder.analyzeFeedback reportAndRemb 56).map Prod.fst = some 56 := by decide
    rw [same] at length
    exact absurd (show (0 : ℤ) = 56 from Option.some_injective _ length) (by decide)
  · have each : ∀ block ∈ blocksOf reportAndRemb 56, isRembBlock reportAndRemb block = true →
        getBrExp reportAndRemb block < 32 ∧ getBrMantis reportAndRemb block * 2 ^ getBrExp reportAndRemb block < 2 ^ 32 ∧
          ¬AllOnes 18 (cappedForwarder.cappedRate reportAndRemb block) := by decide
    intro block member remb
    obtain ⟨shift, fits, clear⟩ := each block member remb
    exact ⟨shift, Or.inl fits, clear⟩

/-- A REMB of 4.3 Gbit/s. -/
def highRemb : Memory := (videoPacket (rembBlock 31 2)).data

/-- **It is forwarded as zero**, and not as the cap. -/
theorem not_rewritten_highRemb :
    WellFormed highRemb 24 ∧ (∃ after, cappedForwarder.analyzeFeedback highRemb 24 = some (24, after)) ∧
      ¬∃ after, cappedForwarder.analyzeFeedback highRemb 24 = some (24, after) ∧
        Rewritten cappedForwarder highRemb after (blocksOf highRemb 24) := by
  refine ⟨⟨by decide, by decide, by decide, by decide⟩, ⟨_, rfl⟩, ?_⟩
  rintro ⟨after, returned, rewritten⟩
  obtain ⟨rate, read, value⟩ := rewritten.rates 0 (by decide) (by decide)
  have zero : (cappedForwarder.analyzeFeedback highRemb 24).map (fun result => getREMBBitRate result.2 0) =
      some (some 0) := by decide
  rw [returned, Option.map_some, read] at zero
  obtain rfl : rate = 0 := Option.some_injective _ (Option.some_injective _ zero)
  exact absurd value (by decide)

end RtcpForwarder

end Erizo
