/-
**The list of missing numbers, along a run.**

`Move` says what an event can do to a generator, guards included, and `step_move` that it does one of
these. From it:

* `Sound`: the list is short, no count exceeds two. Kept by every move (`Move.sound`).
* `Ordered`: the numbers of the list are closer and closer behind the highest one, and none is it.
  Kept by a forward step as long as no number it leaves behind is lapped (`Move.ordered`).
* `Added`: since when a number is listed, and that it was not received since.

A number that is listed when the stream is `2 ^ 16 - 2 ^ 12` further than when it was added may be
lapped; `Unstale` excludes it. `nack_list_invariant` collects what then holds along every run.
-/

import Erizo.Proof.NackReport

namespace Erizo

namespace RtcpNackGenerator

open Library Library.Serial RtpUtils

variable {generator next : RtcpNackGenerator} {event : Event} {number : UInt16}

/-! ### What an event does -/

/-- The number an event brings to the stream. -/
def arrival (ssrc : UInt32) : Event → Option UInt16
  | .packet packet =>
      if packet.type = .video ∧ RtpHeader.getSSRC packet.data = ssrc then some (RtpHeader.getSeqNumber packet.data)
      else none
  | .report _ _ => none

/-- The numbers between two numbers. -/
def between (first last : UInt16) : List UInt16 :=
  (List.range (ahead 16 first last - 1)).map fun index => first + 1 + UInt16.ofNat index

/-- A number that was never requested. -/
def unsent (number : UInt16) : NackInfo := ⟨number, 0, 0⟩

/-- **The moves of a generator.** -/
inductive Move (generator : RtcpNackGenerator) (event : Event) : RtcpNackGenerator → Prop
  | foreign (other : arrival generator.ssrc event = none) : Move generator event generator
  | repeated (arrived : arrival generator.ssrc event = some generator.highestSeqNum)
      (started : generator.initialized = true) : Move generator event generator
  | first (number : UInt16) (arrived : arrival generator.ssrc event = some number)
      (fresh : generator.initialized = false) :
      Move generator event { generator with highestSeqNum := number, initialized := true }
  | late (number : UInt16) (arrived : arrival generator.ssrc event = some number)
      (started : generator.initialized = true) (behind : 2 ^ 12 ≤ ahead 16 generator.highestSeqNum number) :
      Move generator event
        { generator with nackInfoList := generator.nackInfoList.eraseP fun entry => entry.seqNum = number }
  | forward (number : UInt16) (arrived : arrival generator.ssrc event = some number)
      (started : generator.initialized = true) (apart : 0 < ahead 16 generator.highestSeqNum number)
      (near : ahead 16 generator.highestSeqNum number < 2 ^ 12) :
      Move generator event
        { generator with
          highestSeqNum := number
          nackInfoList :=
            (generator.nackInfoList ++ (between generator.highestSeqNum number).map unsent).take maxNacks }
  | report (nowMs : UInt64) (rrPacket : DataPacket) (taken : event = .report nowMs rrPacket) :
      Move generator event { generator with nackInfoList := generator.nackInfoList.filterMap (outcome nowMs) }

theorem add_one_add (word : UInt16) (index : ℕ) : word + 1 + UInt16.ofNat index = word + UInt16.ofNat (index + 1) := by
  rw [UInt16.ofNat_add, add_comm (UInt16.ofNat index), ← add_assoc]
  rfl

theorem insertNacks_eq (seqNum : UInt16) (count : ℕ) :
    ∀ (rounds : ℕ) (current : UInt16) (list : List NackInfo), count ≤ rounds → ahead 16 current seqNum = count →
      insertNacks seqNum rounds current list =
        list ++ ((List.range count).map fun index => current + UInt16.ofNat index).map unsent := by
  induction count with
  | zero =>
      intro rounds current list _ away
      have same : current = seqNum := by
        have back := add_ahead_full current seqNum
        rw [away] at back
        exact (add_zero current).symm.trans back
      cases rounds with
      | zero => simp [insertNacks]
      | succ rounds => simp [insertNacks, same]
  | succ count ih =>
      intro rounds current list enough away
      obtain ⟨fewer, rfl⟩ : ∃ fewer, rounds = fewer + 1 := ⟨rounds - 1, by omega⟩
      have apart : current ≠ seqNum := by
        rintro rfl
        rw [ahead_self] at away
        exact absurd away (Nat.succ_ne_zero count).symm
      have closer : ahead 16 (current + 1) seqNum = count := by
        have step := ahead_succ le_rfl (show 0 < ahead 16 current seqNum by omega)
        omega
      have shift : (List.range (count + 1)).map (fun index => current + UInt16.ofNat index) =
          current :: (List.range count).map fun index => current + 1 + UInt16.ofNat index := by
        rw [List.range_succ_eq_map, List.map_cons, List.map_map]
        refine congrArg₂ List.cons (add_zero current) (List.map_congr_left fun index _ => ?_)
        exact (add_one_add current index).symm
      rw [insertNacks, if_pos apart, ih fewer (current + 1) _ (by omega) closer, shift, List.map_cons,
        List.append_assoc, List.singleton_append]
      rfl

theorem trimNacks_eq (rounds : ℕ) :
    ∀ list : List NackInfo, list.length ≤ maxNacks + rounds → trimNacks rounds list = list.take maxNacks := by
  induction rounds with
  | zero => exact fun list short => (List.take_of_length_le short).symm
  | succ rounds ih =>
      intro list short
      rw [trimNacks]
      by_cases long : list.length > maxNacks
      · rw [if_pos long, ih _ (by rw [List.length_dropLast]; omega), List.dropLast_eq_take, List.take_take,
          Nat.min_eq_left (by omega)]
      · rw [if_neg long, List.take_of_length_le (by omega)]

/-- `addNacks` appends the numbers in between, as far as they fit. -/
theorem addNacks_eq (generator : RtcpNackGenerator) {seqNum : UInt16}
    (apart : 0 < ahead 16 generator.highestSeqNum seqNum) :
    (generator.addNacks seqNum).1 = { generator with
      nackInfoList := (generator.nackInfoList ++ (between generator.highestSeqNum seqNum).map unsent).take maxNacks } := by
  have closer : ahead 16 (generator.highestSeqNum + 1) seqNum = ahead 16 generator.highestSeqNum seqNum - 1 := by
    have step := ahead_succ le_rfl apart
    omega
  have below := ahead_lt 16 generator.highestSeqNum seqNum
  have inserted := insertNacks_eq seqNum _ (2 ^ 16) _ generator.nackInfoList (by omega) closer
  unfold addNacks
  rw [inserted]
  simp only [trimNacks_eq _ _ (Nat.le_add_left _ _)]
  rfl

theorem lessThan_iff (first last : UInt16) :
    sequenceNumberLessThan first last = true ↔ 2 ^ 12 ≤ ahead 16 last first :=
  numberLessThan_iff first last (by norm_num) le_rfl

/-- A report gives every entry its outcome. -/
theorem step_report (short : generator.nackInfoList.length ≤ maxNacks) (nowMs : UInt64) (rrPacket : DataPacket) :
    step generator (.report nowMs rrPacket) =
      some { generator with nackInfoList := generator.nackInfoList.filterMap (outcome nowMs) } := by
  obtain ⟨items, packed, _, _⟩ := packNacks_spec nowMs (generator.nackInfoList.length + 1) []
    generator.nackInfoList 0 [] rfl short (Nat.lt_succ_self _)
  rw [List.nil_append, List.nil_append, List.nil_append] at packed
  rw [step, addNackPacketToRr_eq generator nowMs rrPacket packed]
  split <;> rfl

theorem packet_move (generator : RtcpNackGenerator) (packet : DataPacket) :
    Move generator (.packet packet) (generator.handleRtpPacket packet).1 := by
  unfold handleRtpPacket
  by_cases video : packet.type = .video
  · by_cases ours : RtpHeader.getSSRC packet.data = generator.ssrc
    · have arrived : arrival generator.ssrc (.packet packet) = some (RtpHeader.getSeqNumber packet.data) :=
        if_pos ⟨video, ours⟩
      simp only [video, ours, ne_eq, not_true, if_false]
      generalize RtpHeader.getSeqNumber packet.data = seqNum at arrived ⊢
      by_cases started : generator.initialized = true
      · rw [if_neg (by rw [started]; decide)]
        by_cases same : seqNum = generator.highestSeqNum
        · rw [if_pos same]
          rw [same] at arrived
          exact Move.repeated arrived started
        · rw [if_neg same]
          by_cases behind : 2 ^ 12 ≤ ahead 16 generator.highestSeqNum seqNum
          · rw [if_pos ((lessThan_iff _ _).mpr behind)]
            exact Move.late seqNum arrived started behind
          · have apart : 0 < ahead 16 generator.highestSeqNum seqNum := by
              refine Nat.pos_of_ne_zero fun zero => same ?_
              have back := add_ahead_full generator.highestSeqNum seqNum
              rw [zero] at back
              exact back.symm.trans (add_zero _)
            rw [if_neg ((lessThan_iff _ _).not.mpr behind)]
            show Move generator _ { (generator.addNacks seqNum).1 with highestSeqNum := seqNum }
            rw [addNacks_eq generator apart]
            exact Move.forward seqNum arrived started apart (Nat.lt_of_not_le behind)
      · have fresh : generator.initialized = false := Bool.eq_false_iff.mpr started
        rw [if_pos (by rw [fresh]; decide)]
        exact Move.first seqNum arrived fresh
    · have other : arrival generator.ssrc (.packet packet) = none := if_neg fun both => ours both.2
      simp only [video, ours, ne_eq, not_true, not_false_iff, if_false, if_true]
      exact Move.foreign other
  · have other : arrival generator.ssrc (.packet packet) = none := if_neg fun both => video both.1
    rw [if_pos video]
    exact Move.foreign other

/-- **An event is one of the moves.** -/
theorem step_move (short : generator.nackInfoList.length ≤ maxNacks) (event : Event) :
    ∃ next, step generator event = some next ∧ Move generator event next := by
  cases event with
  | packet packet => exact ⟨_, rfl, packet_move generator packet⟩
  | report nowMs rrPacket => exact ⟨_, step_report short nowMs rrPacket, Move.report nowMs rrPacket rfl⟩

/-! ### Short lists and small counts -/

/-- What holds of every state. -/
structure Sound (ssrc : UInt32) (generator : RtcpNackGenerator) : Prop where
  stream : generator.ssrc = ssrc
  short : generator.nackInfoList.length ≤ maxNacks
  counts : ∀ entry ∈ generator.nackInfoList, entry.retransmits.toNat ≤ 2
  empty : generator.initialized = false → generator.nackInfoList = []

theorem outcome_seqNum {nowMs : UInt64} {entry kept : NackInfo} (same : outcome nowMs entry = some kept) :
    kept.seqNum = entry.seqNum := by
  unfold outcome at same
  split at same
  · obtain rfl := Option.some_injective _ same
    rfl
  · split at same
    · exact nomatch same
    · obtain rfl := Option.some_injective _ same
      rfl

theorem outcome_counts {nowMs : UInt64} {entry kept : NackInfo} (same : outcome nowMs entry = some kept)
    (small : entry.retransmits.toNat ≤ 2) : kept.retransmits.toNat ≤ 2 := by
  unfold outcome at same
  split at same
  next requested =>
    obtain rfl := Option.some_injective _ same
    have few : entry.retransmits.toNat < 2 := requested.2
    show (entry.retransmits + 1).toNat ≤ 2
    rw [UInt16.toNat_add, UInt16.toNat_one, Nat.mod_eq_of_lt (by omega)]
    omega
  next =>
    split at same
    · exact nomatch same
    · obtain rfl := Option.some_injective _ same
      exact small

theorem Move.sound {ssrc : UInt32} (move : Move generator event next) (sound : Sound ssrc generator) :
    Sound ssrc next := by
  cases move with
  | foreign other => exact sound
  | repeated arrived started => exact sound
  | first number arrived fresh =>
      exact ⟨sound.stream, sound.short, sound.counts, fun absent => nomatch absent⟩
  | late number arrived started behind =>
      have fewer := (List.eraseP_sublist (p := fun entry => decide (entry.seqNum = number))
        (l := generator.nackInfoList)).length_le
      refine ⟨sound.stream, le_trans fewer sound.short, fun entry member => ?_, fun absent => ?_⟩
      · exact sound.counts entry (List.mem_of_mem_eraseP member)
      · exact absurd (started.symm.trans absent) (by decide)
  | forward number arrived started apart near =>
      refine ⟨sound.stream, List.length_take_le _ _, fun entry member => ?_, fun absent => ?_⟩
      · rcases List.mem_append.mp (List.mem_of_mem_take member) with old | fresh
        · exact sound.counts entry old
        · obtain ⟨_, _, rfl⟩ := List.mem_map.mp fresh
          exact Nat.zero_le 2
      · exact absurd (started.symm.trans absent) (by decide)
  | report nowMs rrPacket taken =>
      refine ⟨sound.stream, le_trans (List.length_filterMap_le _ _) sound.short, fun entry member => ?_,
        fun absent => ?_⟩
      · obtain ⟨before, here, same⟩ := List.mem_filterMap.mp member
        exact outcome_counts same (sound.counts before here)
      · show generator.nackInfoList.filterMap _ = []
        rw [sound.empty absent, List.filterMap_nil]

section Runs

variable (ssrc : UInt32) (events : ℕ → Event)

theorem sound_stateAt (time : ℕ) : Sound ssrc (stateAt ssrc events time) := by
  induction time with
  | zero => exact ⟨rfl, Nat.zero_le _, fun _ member => absurd member List.not_mem_nil, fun _ => rfl⟩
  | succ time ih =>
      obtain ⟨next, stepped, move⟩ := step_move ih.short (events time)
      rw [stateAt, stepped]
      exact move.sound ih

/-- Every event of a run has a next state. -/
theorem step_stateAt (time : ℕ) :
    step (stateAt ssrc events time) (events time) = some (stateAt ssrc events (time + 1)) := by
  obtain ⟨next, stepped, _⟩ := step_move (sound_stateAt ssrc events time).short (events time)
  rw [stateAt, stepped]
  rfl

theorem move_stateAt (time : ℕ) :
    Move (stateAt ssrc events time) (events time) (stateAt ssrc events (time + 1)) := by
  obtain ⟨next, stepped, move⟩ := step_move (sound_stateAt ssrc events time).short (events time)
  rw [stateAt, stepped]
  exact move

end Runs

/-! ### Nothing is lost -/

/-- The numbers of the list. -/
def numbers (generator : RtcpNackGenerator) : List UInt16 := generator.nackInfoList.map NackInfo.seqNum

/-- The step between two states went past a number. -/
def Skipped (before after : RtcpNackGenerator) (number : UInt16) : Prop :=
  before.initialized = true ∧ 0 < ahead 16 before.highestSeqNum number ∧
    ahead 16 before.highestSeqNum number < ahead 16 before.highestSeqNum after.highestSeqNum

/-- A report finds a number due that was requested twice. -/
def Exhausts (generator : RtcpNackGenerator) (event : Event) (number : UInt16) : Prop :=
  ∃ nowMs rrPacket, event = .report nowMs rrPacket ∧
    ∃ entry ∈ generator.nackInfoList, entry.seqNum = number ∧ Due nowMs entry ∧ 2 ≤ entry.retransmits.toNat

theorem map_unsent (list : List UInt16) : (list.map unsent).map NackInfo.seqNum = list := by
  rw [List.map_map]
  exact List.map_id list

/-- A number in between stands where its distance says. -/
theorem between_getElem? {first last : UInt16} (apart : 0 < ahead 16 first number)
    (short : ahead 16 first number < ahead 16 first last) :
    (between first last)[ahead 16 first number - 1]? = some number := by
  unfold between
  rw [List.getElem?_map, List.getElem?_range (by omega), Option.map_some, add_one_add, Nat.sub_add_cancel apart,
    add_ahead_full]

theorem mem_between {first last : UInt16} :
    number ∈ between first last ↔ 0 < ahead 16 first number ∧ ahead 16 first number < ahead 16 first last := by
  have below := ahead_lt 16 first last
  constructor
  · intro member
    obtain ⟨index, inside, rfl⟩ := List.mem_map.mp member
    rw [List.mem_range] at inside
    rw [add_one_add, ahead_add le_rfl _ (by omega)]
    omega
  · rintro ⟨apart, short⟩
    exact List.mem_of_getElem? (between_getElem? apart short)

theorem numbers_late (generator : RtcpNackGenerator) (number : UInt16) :
    (generator.nackInfoList.eraseP fun entry => entry.seqNum = number).map NackInfo.seqNum =
      (numbers generator).erase number := by
  rw [List.erase_eq_eraseP', numbers, List.eraseP_map]
  rfl

/-- A number stays in the list unless it arrives or is exhausted. -/
theorem Move.kept {ssrc : UInt32} (move : Move generator event next) (sound : Sound ssrc generator)
    (listed : number ∈ numbers generator) :
    number ∈ numbers next ∨ arrival ssrc event = some number ∨ Exhausts generator event number := by
  cases move with
  | foreign other => exact Or.inl listed
  | repeated arrived started => exact Or.inl listed
  | first number arrived fresh => exact Or.inl listed
  | late other arrived started behind =>
      by_cases same : other = number
      · rw [same, sound.stream] at arrived
        exact Or.inr (Or.inl arrived)
      · refine Or.inl ?_
        rw [numbers, numbers_late]
        exact (List.mem_erase_of_ne (Ne.symm same)).mpr listed
  | forward other arrived started apart near =>
      obtain ⟨entry, member, rfl⟩ := List.mem_map.mp listed
      refine Or.inl (List.mem_map.mpr ⟨entry, ?_, rfl⟩)
      show entry ∈ List.take maxNacks _
      rw [List.take_append, List.take_of_length_le sound.short]
      exact List.mem_append_left _ member
  | report nowMs rrPacket taken =>
      obtain ⟨entry, member, rfl⟩ := List.mem_map.mp listed
      cases fate : outcome nowMs entry with
      | some kept =>
          refine Or.inl (List.mem_map.mpr ⟨kept, ?_, outcome_seqNum fate⟩)
          exact List.mem_filterMap.mpr ⟨entry, member, fate⟩
      | none =>
          have due : Due nowMs entry := by
            by_contra waiting
            rw [outcome_waiting waiting] at fate
            exact nomatch fate
          have exhausted : ¬ entry.retransmits.toNat < 2 := by
            intro few
            rw [outcome_requested ⟨due, few⟩] at fate
            exact nomatch fate
          exact Or.inr (Or.inr ⟨nowMs, rrPacket, taken, entry, member, rfl, due, Nat.le_of_not_lt exhausted⟩)

/-- Only a forward step goes past a number. -/
theorem Move.forward_of_skipped (move : Move generator event next) (skipped : Skipped generator next number) :
    ahead 16 generator.highestSeqNum next.highestSeqNum < 2 ^ 12 ∧
      next.nackInfoList = (generator.nackInfoList ++
        (between generator.highestSeqNum next.highestSeqNum).map unsent).take maxNacks := by
  obtain ⟨started, apart, short⟩ := skipped
  have still {same : UInt16} (stays : same = generator.highestSeqNum)
      (short : ahead 16 generator.highestSeqNum number < ahead 16 generator.highestSeqNum same) : False := by
    rw [stays, ahead_self] at short
    exact absurd short (Nat.not_lt_zero _)
  cases move with
  | foreign other => exact (still rfl short).elim
  | repeated arrived started => exact (still rfl short).elim
  | first number arrived fresh => exact absurd (started.symm.trans fresh) (by decide)
  | late other arrived started behind => exact (still rfl short).elim
  | forward other arrived started apart near => exact ⟨near, rfl⟩
  | report nowMs rrPacket taken => exact (still rfl short).elim

theorem numbers_forward {first last : UInt16}
    (list : next.nackInfoList = (generator.nackInfoList ++ (between first last).map unsent).take maxNacks) :
    numbers next = (numbers generator ++ between first last).take maxNacks := by
  rw [numbers, list, List.map_take, List.map_append, map_unsent]
  rfl

/-- A number a step goes past is listed, up to the size of the list. -/
theorem Move.listed_of_skipped (move : Move generator event next) (skipped : Skipped generator next number) :
    number ∈ numbers next ∨ maxNacks < generator.nackInfoList.length + ahead 16 generator.highestSeqNum number := by
  obtain ⟨near, list⟩ := move.forward_of_skipped skipped
  obtain ⟨started, apart, short⟩ := skipped
  by_cases room : generator.nackInfoList.length + ahead 16 generator.highestSeqNum number ≤ maxNacks
  · refine Or.inl (List.mem_of_getElem?
      (i := generator.nackInfoList.length + (ahead 16 generator.highestSeqNum number - 1)) ?_)
    have size : (numbers generator).length = generator.nackInfoList.length := List.length_map _
    rw [numbers_forward list, List.getElem?_take_of_lt (by omega), List.getElem?_append_right (by omega), size,
      Nat.add_sub_cancel_left]
    exact between_getElem? apart short
  · exact Or.inr (Nat.lt_of_not_le room)

/-! ### Order -/

/-- How far the highest number is ahead of a number. -/
def lead (generator : RtcpNackGenerator) (number : UInt16) : ℕ := ahead 16 number generator.highestSeqNum

/-- **The numbers are in increasing order and behind the highest one.** -/
structure Ordered (generator : RtcpNackGenerator) : Prop where
  increasing : (numbers generator).Pairwise fun first second => lead generator second < lead generator first
  behind : ∀ number ∈ numbers generator, 0 < lead generator number

theorem Ordered.nodup (ordered : Ordered generator) : (numbers generator).Nodup :=
  ordered.increasing.imp fun closer same => by
    rw [same] at closer
    exact absurd closer (lt_irrefl _)

theorem Ordered.sublist (ordered : Ordered generator) (fewer : (numbers next).Sublist (numbers generator))
    (stays : next.highestSeqNum = generator.highestSeqNum) : Ordered next := by
  have same (number : UInt16) : lead next number = lead generator number := by rw [lead, stays, lead]
  refine ⟨(ordered.increasing.sublist fewer).imp fun closer => ?_, fun number member => ?_⟩
  · rw [same, same]
    exact closer
  · rw [same]
    exact ordered.behind number (fewer.subset member)

theorem numbers_filterMap_sublist (nowMs : UInt64) (list : List NackInfo) :
    ((list.filterMap (outcome nowMs)).map NackInfo.seqNum).Sublist (list.map NackInfo.seqNum) := by
  induction list with
  | nil => exact List.Sublist.refl _
  | cons entry list ih =>
      cases fate : outcome nowMs entry with
      | none =>
          rw [List.filterMap_cons_none fate, List.map_cons]
          exact ih.cons _
      | some kept =>
          rw [List.filterMap_cons_some fate, List.map_cons, List.map_cons, outcome_seqNum fate]
          exact ih.cons_cons _

/-- A forward step moves every number it does not lap back by its length. -/
theorem lead_forward (unlapped : lead generator number + ahead 16 generator.highestSeqNum next.highestSeqNum < 2 ^ 16) :
    lead next number = lead generator number + ahead 16 generator.highestSeqNum next.highestSeqNum := by
  have split := ahead_triangle le_rfl number generator.highestSeqNum next.highestSeqNum
  unfold lead at unlapped ⊢
  omega

/-- The order of the numbers in between. -/
theorem between_increasing (first last : UInt16) :
    (between first last).Pairwise fun earlier later => ahead 16 later last < ahead 16 earlier last := by
  have below := ahead_lt 16 first last
  have away {index : ℕ} (inside : index < ahead 16 first last - 1) :
      ahead 16 (first + 1 + UInt16.ofNat index) last = ahead 16 first last - 1 - index := by
    have start : ahead 16 first (first + UInt16.ofNat (index + 1)) = index + 1 := ahead_add le_rfl first (by omega)
    have split := ahead_triangle le_rfl first (first + UInt16.ofNat (index + 1)) last
    have short := ahead_lt 16 (first + UInt16.ofNat (index + 1)) last
    rw [add_one_add]
    omega
  refine List.pairwise_map.mpr (List.pairwise_lt_range.imp_of_mem fun left right before => ?_)
  rw [List.mem_range] at left right
  rw [away left, away right]
  omega

theorem lead_between {first : UInt16} (member : number ∈ between first next.highestSeqNum) :
    0 < lead next number ∧ lead next number < ahead 16 first next.highestSeqNum := by
  obtain ⟨apart, short⟩ := mem_between.mp member
  have split := ahead_triangle le_rfl first number next.highestSeqNum
  have below := ahead_lt 16 number next.highestSeqNum
  have whole := ahead_lt 16 first next.highestSeqNum
  unfold lead
  omega

theorem Ordered.forward (ordered : Ordered generator) (short : generator.nackInfoList.length ≤ maxNacks)
    (list : next.nackInfoList = (generator.nackInfoList ++
      (between generator.highestSeqNum next.highestSeqNum).map unsent).take maxNacks)
    (unlapped : ∀ number ∈ numbers generator, number ∈ numbers next →
      lead generator number + ahead 16 generator.highestSeqNum next.highestSeqNum < 2 ^ 16) :
    Ordered next := by
  have taken := numbers_forward list
  have size : (numbers generator).length ≤ maxNacks := le_of_eq_of_le (List.length_map _) short
  have shifted : ∀ number ∈ numbers generator,
      lead next number = lead generator number + ahead 16 generator.highestSeqNum next.highestSeqNum := by
    intro number member
    refine lead_forward (unlapped number member ?_)
    rw [taken, List.take_append, List.take_of_length_le size]
    exact List.mem_append_left _ member
  have whole : (numbers generator ++ between generator.highestSeqNum next.highestSeqNum).Pairwise
      fun first second => lead next second < lead next first := by
    refine List.pairwise_append.mpr ⟨?_, between_increasing _ _, fun first old second fresh => ?_⟩
    · refine ordered.increasing.imp_of_mem fun first second closer => ?_
      rw [shifted _ first, shifted _ second]
      exact Nat.add_lt_add_right closer _
    · have close := (lead_between fresh).2
      rw [shifted first old]
      omega
  refine ⟨?_, fun number member => ?_⟩
  · rw [taken]
    exact whole.sublist (List.take_sublist _ _)
  · rw [taken] at member
    rcases List.mem_append.mp (List.mem_of_mem_take member) with old | fresh
    · rw [shifted number old]
      exact Nat.add_pos_left (ordered.behind number old) _
    · exact (lead_between fresh).1

/-- **Order is kept**, when no number that stays is lapped. -/
theorem Move.ordered {ssrc : UInt32} (move : Move generator event next) (sound : Sound ssrc generator)
    (ordered : Ordered generator)
    (unlapped : ∀ number ∈ numbers generator, number ∈ numbers next →
      lead generator number + ahead 16 generator.highestSeqNum next.highestSeqNum < 2 ^ 16) :
    Ordered next := by
  cases move with
  | foreign other => exact ordered
  | repeated arrived started => exact ordered
  | first number arrived fresh =>
      have empty : numbers generator = [] := by rw [numbers, sound.empty fresh, List.map_nil]
      refine ⟨?_, fun number member => ?_⟩
      · show (numbers generator).Pairwise _
        rw [empty]
        exact List.Pairwise.nil
      · have member : number ∈ numbers generator := member
        rw [empty] at member
        exact absurd member List.not_mem_nil
  | late number arrived started behind =>
      exact ordered.sublist (List.eraseP_sublist.map _) rfl
  | forward last arrived started apart near =>
      exact ordered.forward sound.short rfl unlapped
  | report nowMs rrPacket taken =>
      exact ordered.sublist (numbers_filterMap_sublist nowMs _) rfl

/-- A listed number was listed before, or the step went past it. -/
theorem Move.origin (move : Move generator event next) (listed : number ∈ numbers next) :
    number ∈ numbers generator ∨ Skipped generator next number := by
  cases move with
  | foreign other => exact Or.inl listed
  | repeated arrived started => exact Or.inl listed
  | first other arrived fresh => exact Or.inl listed
  | late other arrived started behind => exact Or.inl ((List.eraseP_sublist.map _).subset listed)
  | forward last arrived started apart near =>
      rw [@numbers_forward generator _ _ _ rfl] at listed
      rcases List.mem_append.mp (List.mem_of_mem_take listed) with old | fresh
      · exact Or.inl old
      · exact Or.inr ⟨started, mem_between.mp fresh⟩
  | report nowMs rrPacket taken => exact Or.inl ((numbers_filterMap_sublist nowMs _).subset listed)

/-- A number that stays in the list did not arrive. -/
theorem Move.unreceived {ssrc : UInt32} (move : Move generator event next) (sound : Sound ssrc generator)
    (ordered : Ordered generator) (listed : number ∈ numbers generator) (stays : number ∈ numbers next)
    (unlapped : lead generator number + ahead 16 generator.highestSeqNum next.highestSeqNum < 2 ^ 16) :
    arrival ssrc event ≠ some number := by
  intro received
  rw [← sound.stream] at received
  have behind := ordered.behind number listed
  cases move with
  | foreign other => exact nomatch other.symm.trans received
  | repeated arrived started =>
      obtain rfl := Option.some_injective _ (arrived.symm.trans received)
      rw [lead, ahead_self] at behind
      exact absurd behind (lt_irrefl 0)
  | first other arrived fresh =>
      rw [numbers, sound.empty fresh] at listed
      exact absurd listed List.not_mem_nil
  | late other arrived started far =>
      obtain rfl := Option.some_injective _ (arrived.symm.trans received)
      have stays : other ∈ (numbers generator).erase other := (numbers_late generator other) ▸ stays
      exact ordered.nodup.not_mem_erase stays
  | forward last arrived started apart near =>
      obtain rfl := Option.some_injective _ (arrived.symm.trans received)
      have ahead : lead _ last = _ := lead_forward unlapped
      rw [lead, ahead_self] at ahead
      omega
  | report nowMs rrPacket taken =>
      rw [taken] at received
      exact nomatch received

/-! ### Along a run -/

section Runs

variable (ssrc : UInt32) (events : ℕ → Event)

/-- How far an event moves the highest number. -/
def advance (time : ℕ) : ℕ :=
  ahead 16 (stateAt ssrc events time).highestSeqNum (stateAt ssrc events (time + 1)).highestSeqNum

/-- **No number stays listed while the highest one advances by `2 ^ 16 - 2 ^ 12` or more.** -/
def Unstale (now : ℕ) : Prop :=
  ∀ start stop number, start ≤ stop → stop ≤ now →
    (∀ time, start ≤ time → time ≤ stop → number ∈ numbers (stateAt ssrc events time)) →
    ∑ time ∈ Finset.Ico start stop, advance ssrc events time < 2 ^ 16 - 2 ^ 12

/-- A step went past a number and listed it; since then it stayed listed and was not received, and
the stream is as much further as it advanced. -/
structure Added (birth now : ℕ) (number : UInt16) : Prop where
  earlier : birth < now
  skipped : Skipped (stateAt ssrc events birth) (stateAt ssrc events (birth + 1)) number
  listed : ∀ time, birth < time → time ≤ now → number ∈ numbers (stateAt ssrc events time)
  unreceived : ∀ time, birth < time → time < now → arrival ssrc (events time) ≠ some number
  distance : lead (stateAt ssrc events now) number = lead (stateAt ssrc events (birth + 1)) number +
    ∑ time ∈ Finset.Ico (birth + 1) now, advance ssrc events time

variable {ssrc events} {birth now : ℕ}

theorem Unstale.earlier (unstale : Unstale ssrc events (now + 1)) : Unstale ssrc events now :=
  fun start stop number order below => unstale start stop number order (Nat.le_succ_of_le below)

theorem Added.of_skipped (skipped : Skipped (stateAt ssrc events now) (stateAt ssrc events (now + 1)) number)
    (listed : number ∈ numbers (stateAt ssrc events (now + 1))) : Added ssrc events now (now + 1) number where
  earlier := Nat.lt_succ_self now
  skipped := skipped
  listed := fun time after before => by
    obtain rfl : time = now + 1 := by omega
    exact listed
  unreceived := fun time after before => absurd after (by omega)
  distance := by simp

/-- A number that stays listed is not lapped. -/
theorem Added.unlapped (added : Added ssrc events birth now number) (unstale : Unstale ssrc events (now + 1))
    (stays : number ∈ numbers (stateAt ssrc events (now + 1))) :
    lead (stateAt ssrc events now) number + advance ssrc events now < 2 ^ 16 := by
  have near := (move_stateAt ssrc events birth).forward_of_skipped added.skipped
  have close : lead (stateAt ssrc events (birth + 1)) number < 2 ^ 12 :=
    lt_trans (lead_between (mem_between.mpr added.skipped.2)).2 near.1
  have total := unstale (birth + 1) (now + 1) number (Nat.succ_le_succ added.earlier.le) le_rfl
    fun time after before => by
      rcases Nat.lt_or_eq_of_le before with old | rfl
      · exact added.listed time after (Nat.le_of_lt_succ old)
      · exact stays
  rw [Finset.sum_Ico_succ_top (show birth + 1 ≤ now from added.earlier)] at total
  rw [added.distance]
  omega

theorem Added.succ (added : Added ssrc events birth now number) (unstale : Unstale ssrc events (now + 1))
    (stays : number ∈ numbers (stateAt ssrc events (now + 1)))
    (unreceived : arrival ssrc (events now) ≠ some number) : Added ssrc events birth (now + 1) number where
  earlier := Nat.lt_succ_of_lt added.earlier
  skipped := added.skipped
  listed := fun time after before => by
    rcases Nat.lt_or_eq_of_le before with old | rfl
    · exact added.listed time after (Nat.le_of_lt_succ old)
    · exact stays
  unreceived := fun time after before => by
    rcases Nat.lt_or_eq_of_le (Nat.le_of_lt_succ before) with old | rfl
    · exact added.unreceived time after old
    · exact unreceived
  distance := by
    rw [Finset.sum_Ico_succ_top (show birth + 1 ≤ now from added.earlier), ← Nat.add_assoc, ← added.distance]
    exact lead_forward (added.unlapped unstale stays)

/-- The code's comparison finds a number behind as long as the advance, the step that added it included,
is less than `2 ^ 16 - 2 ^ 12`. -/
theorem Added.lessThan (added : Added ssrc events birth now number) (ordered : Ordered (stateAt ssrc events now))
    (recent : ∑ time ∈ Finset.Ico birth now, advance ssrc events time < 2 ^ 16 - 2 ^ 12) :
    sequenceNumberLessThan number (stateAt ssrc events now).highestSeqNum = true := by
  have behind := ordered.behind number (added.listed now added.earlier le_rfl)
  have close := (lead_between (mem_between.mpr added.skipped.2)).2
  have total := Finset.sum_eq_sum_Ico_succ_bot added.earlier (advance ssrc events)
  have away := added.distance
  refine (numberLessThan_iff_ahead _ _ (by norm_num) le_rfl).mpr ⟨behind, ?_⟩
  change lead (stateAt ssrc events now) number + 2 ^ 12 ≤ 2 ^ 16
  change lead _ number < advance ssrc events birth at close
  omega

/-- **The order, and since when a number is listed.** -/
theorem ordered_stateAt (unstale : Unstale ssrc events now) :
    Ordered (stateAt ssrc events now) ∧
      ∀ number ∈ numbers (stateAt ssrc events now), ∃ birth, Added ssrc events birth now number := by
  induction now with
  | zero =>
      exact ⟨⟨List.Pairwise.nil, fun _ member => absurd member List.not_mem_nil⟩,
        fun _ member => absurd member List.not_mem_nil⟩
  | succ now ih =>
      obtain ⟨ordered, added⟩ := ih unstale.earlier
      have move := move_stateAt ssrc events now
      have sound := sound_stateAt ssrc events now
      have unlapped : ∀ number ∈ numbers (stateAt ssrc events now), number ∈ numbers (stateAt ssrc events (now + 1)) →
          lead (stateAt ssrc events now) number + advance ssrc events now < 2 ^ 16 := by
        intro number listed stays
        obtain ⟨birth, since⟩ := added number listed
        exact since.unlapped unstale stays
      refine ⟨move.ordered sound ordered unlapped, fun number stays => ?_⟩
      rcases move.origin stays with listed | skipped
      · obtain ⟨birth, since⟩ := added number listed
        exact ⟨birth, since.succ unstale stays
          (move.unreceived sound ordered listed stays (unlapped number listed stays))⟩
      · exact ⟨now, Added.of_skipped skipped stays⟩

/-- A number a step went past is listed until it is received or exhausted, if it was not dropped. -/
theorem listed_since (earlier : birth < now)
    (skipped : Skipped (stateAt ssrc events birth) (stateAt ssrc events (birth + 1)) number) :
    number ∈ numbers (stateAt ssrc events now) ∨
      maxNacks < (stateAt ssrc events birth).nackInfoList.length +
        ahead 16 (stateAt ssrc events birth).highestSeqNum number ∨
      ∃ time, birth < time ∧ time < now ∧
        (arrival ssrc (events time) = some number ∨ Exhausts (stateAt ssrc events time) (events time) number) := by
  induction now with
  | zero => exact absurd earlier (Nat.not_lt_zero _)
  | succ now ih =>
      rcases Nat.lt_or_eq_of_le (Nat.le_of_lt_succ earlier) with before | rfl
      · rcases ih before with listed | dropped | ⟨time, after, old, lost⟩
        · rcases (move_stateAt ssrc events now).kept (sound_stateAt ssrc events now) listed with kept | lost
          · exact Or.inl kept
          · exact Or.inr (Or.inr ⟨now, before, Nat.lt_succ_self now, lost⟩)
        · exact Or.inr (Or.inl dropped)
        · exact Or.inr (Or.inr ⟨time, after, Nat.lt_succ_of_lt old, lost⟩)
      · rcases (move_stateAt ssrc events birth).listed_of_skipped skipped with listed | dropped
        · exact Or.inl listed
        · exact Or.inr (Or.inl dropped)

end Runs

/-- **The list of missing numbers, along every run.** In every state of a run that keeps no number
listed while it advances by `2 ^ 16 - 2 ^ 12` or more: there are at most 150 entries, none requested
more than twice; they are distinct, in increasing order and behind the highest number; none was
received since the step that added it; and what a step went past is listed, up to the size of the
list, until it is received or exhausted. -/
theorem nack_list_invariant (ssrc : UInt32) (events : ℕ → Event) (now : ℕ) (unstale : Unstale ssrc events now) :
    step (stateAt ssrc events now) (events now) = some (stateAt ssrc events (now + 1)) ∧
    (stateAt ssrc events now).nackInfoList.length ≤ 150 ∧
    (∀ entry ∈ (stateAt ssrc events now).nackInfoList, entry.retransmits.toNat ≤ 2) ∧
    (numbers (stateAt ssrc events now)).Nodup ∧
    Ordered (stateAt ssrc events now) ∧
    (∀ number ∈ numbers (stateAt ssrc events now), ∃ birth, Added ssrc events birth now number ∧
      (∑ time ∈ Finset.Ico birth now, advance ssrc events time < 2 ^ 16 - 2 ^ 12 →
        sequenceNumberLessThan number (stateAt ssrc events now).highestSeqNum = true)) ∧
    ∀ birth < now, ∀ number, Skipped (stateAt ssrc events birth) (stateAt ssrc events (birth + 1)) number →
      number ∈ numbers (stateAt ssrc events now) ∨
        150 < (stateAt ssrc events birth).nackInfoList.length +
          ahead 16 (stateAt ssrc events birth).highestSeqNum number ∨
        ∃ time, birth < time ∧ time < now ∧
          (arrival ssrc (events time) = some number ∨ Exhausts (stateAt ssrc events time) (events time) number) := by
  obtain ⟨ordered, added⟩ := ordered_stateAt unstale
  have sound := sound_stateAt ssrc events now
  refine ⟨step_stateAt ssrc events now, sound.short, sound.counts, ordered.nodup, ordered, fun number listed => ?_,
    fun birth earlier number skipped => listed_since earlier skipped⟩
  obtain ⟨birth, since⟩ := added number listed
  exact ⟨birth, since, since.lessThan ordered⟩

/-- Packets 10 and 13, a report, and packet 11 after all. -/
def shortRun : ℕ → Event
  | 0 => .packet (mediaPacket 10)
  | 1 => .packet (mediaPacket 13)
  | 2 => .report 100 ⟨fun _ => 0, 32, .video⟩
  | 3 => .packet (mediaPacket 11)
  | _ => .packet (mediaPacket 13)

/-- After these events packet 12 is listed, and was not received since it was added. -/
theorem nack_list_invariant_shortRun :
    numbers (stateAt 7 shortRun 4) = [12] ∧ Ordered (stateAt 7 shortRun 4) ∧
      ∃ birth, Added 7 shortRun birth 4 12 := by
  have total : ∑ time ∈ Finset.range 4, advance 7 shortRun time = 13 := by decide +kernel
  have unstale : Unstale 7 shortRun 4 := by
    intro start stop number order below listed
    have part : Finset.Ico start stop ⊆ Finset.range 4 := fun time inside => by
      rw [Finset.mem_Ico] at inside
      rw [Finset.mem_range]
      omega
    have few := Finset.sum_le_sum_of_subset (f := advance 7 shortRun) part
    omega
  obtain ⟨_, _, _, _, ordered, added, _⟩ := nack_list_invariant 7 shortRun 4 unstale
  have list : numbers (stateAt 7 shortRun 4) = [12] := by decide +kernel
  obtain ⟨birth, since, _⟩ := added 12 (by rw [list]; exact List.mem_singleton_self 12)
  exact ⟨list, ordered, birth, since⟩

end RtcpNackGenerator

end Erizo
