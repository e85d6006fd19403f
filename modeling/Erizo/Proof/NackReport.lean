/-
**What a receiver report requests.**

`addNackPacketToRr` walks the list once. `packBlp_spec` says what its inner loop does with the
entries it takes after a PID, `packNacks_spec` what the two loops do with the whole list: every entry
gets its `outcome`, and the items request the entries that are `Requested` and no others.

`decodeNacks` reads a block back with `forEachNack`. The block a report is extended by decodes to the
items that were packed (`decodeNacks_appended`), and `addNackPacketToRr_exact` puts the two together.
-/

import Erizo.Model.RtcpNackGenerator
import Erizo.Proof.RtcpWalk

namespace Erizo

namespace RtcpNackGenerator

open Library Library.Bytes RtcpHeader RtpUtils

variable {nowMs : UInt64} {entry : NackInfo}

/-! ### Entries -/

/-- The entry was never requested, or more than 20 ms ago on the 64-bit clock. -/
def Due (nowMs : UInt64) (entry : NackInfo) : Prop :=
  entry.sentTime = 0 ∨ 20 < (nowMs - entry.sentTime).toNat

/-- The entry is due and was requested fewer than two times. -/
def Requested (nowMs : UInt64) (entry : NackInfo) : Prop := Due nowMs entry ∧ entry.retransmits.toNat < 2

instance (nowMs : UInt64) (entry : NackInfo) : Decidable (Due nowMs entry) := inferInstanceAs (Decidable (_ ∨ _))

instance (nowMs : UInt64) (entry : NackInfo) : Decidable (Requested nowMs entry) :=
  inferInstanceAs (Decidable (_ ∧ _))

/-- What becomes of an entry. -/
def outcome (nowMs : UInt64) (entry : NackInfo) : Option NackInfo :=
  if Requested nowMs entry then some { entry with retransmits := entry.retransmits + 1, sentTime := nowMs }
  else if Due nowMs entry then none
  else some entry

theorem isTimeToRetransmit_iff : isTimeToRetransmit entry nowMs = true ↔ Due nowMs entry := by
  unfold isTimeToRetransmit Due
  rw [Bool.or_eq_true, decide_eq_true_eq, decide_eq_true_eq, gt_iff_lt, UInt64.lt_iff_toNat_lt]
  rfl

theorem not_isTimeToRetransmit (waiting : ¬ Due nowMs entry) : isTimeToRetransmit entry nowMs = false :=
  Bool.eq_false_iff.mpr (isTimeToRetransmit_iff.not.mpr waiting)

theorem maxRetransmits_le : entry.retransmits ≥ maxRetransmits ↔ ¬ entry.retransmits.toNat < 2 := by
  rw [ge_iff_le, UInt16.le_iff_toNat_le, Nat.not_lt]
  rfl

theorem outcome_waiting (waiting : ¬ Due nowMs entry) : outcome nowMs entry = some entry := by
  rw [outcome, if_neg fun requested => waiting requested.1, if_neg waiting]

theorem outcome_exhausted (due : Due nowMs entry) (exhausted : ¬ entry.retransmits.toNat < 2) :
    outcome nowMs entry = none := by
  rw [outcome, if_neg fun requested => exhausted requested.2, if_pos due]

theorem outcome_requested (requested : Requested nowMs entry) :
    outcome nowMs entry = some (markSent nowMs entry) :=
  if_pos requested

/-- The numbers of the requested entries of a list. -/
def requestedNumbers (nowMs : UInt64) (entries : List NackInfo) : List UInt16 :=
  (entries.filter fun entry => Requested nowMs entry).map NackInfo.seqNum

theorem mem_requestedNumbers {entries : List NackInfo} {number : UInt16} :
    number ∈ requestedNumbers nowMs entries ↔ ∃ entry ∈ entries, Requested nowMs entry ∧ entry.seqNum = number := by
  simp only [requestedNumbers, List.mem_map, List.mem_filter, decide_eq_true_eq, and_assoc]

theorem requestedNumbers_cons_of_pos {entries : List NackInfo} (requested : Requested nowMs entry) :
    requestedNumbers nowMs (entry :: entries) = entry.seqNum :: requestedNumbers nowMs entries := by
  rw [requestedNumbers, List.filter_cons_of_pos (by simpa using requested), List.map_cons]
  rfl

theorem requestedNumbers_cons_of_neg {entries : List NackInfo} (idle : ¬ Requested nowMs entry) :
    requestedNumbers nowMs (entry :: entries) = requestedNumbers nowMs entries := by
  rw [requestedNumbers, List.filter_cons_of_neg (by simpa using idle)]
  rfl

theorem requestedNumbers_append (first second : List NackInfo) :
    requestedNumbers nowMs (first ++ second) = requestedNumbers nowMs first ++ requestedNumbers nowMs second := by
  rw [requestedNumbers, List.filter_append, List.map_append]
  rfl

/-! ### The inner loop -/

/-- What the inner loop has done when it ends: the entries it took are all at most 16 after the PID,
each got its outcome, and the requested ones were added to the BLP. -/
structure Packed (nowMs : UInt64) (pid blp : UInt16) (done taken rest : List NackInfo)
    (result : List NackInfo × UInt16 × UInt16) : Prop where
  list : result.1 = done ++ taken.filterMap (outcome nowMs) ++ rest
  index : result.2.1.toNat + 1 = (done ++ taken.filterMap (outcome nowMs)).length
  near : ∀ number ∈ requestedNumbers nowMs taken, distance pid number < 16
  bits : ∀ bit < 16, result.2.2.toNat.testBit bit = true ↔
    blp.toNat.testBit bit = true ∨ ∃ number ∈ requestedNumbers nowMs taken, distance pid number = bit

theorem Packed.stop {pid blp index : UInt16} {done rest : List NackInfo} (place : index.toNat + 1 = done.length) :
    Packed nowMs pid blp done [] rest (done ++ rest, index, blp) where
  list := by rw [List.filterMap_nil, List.append_nil]
  index := by rw [List.filterMap_nil, List.append_nil, place]
  near := fun _ member => absurd member List.not_mem_nil
  bits := fun bit _ => by simp [requestedNumbers]

theorem Packed.waiting {pid blp : UInt16} {done taken rest : List NackInfo}
    {result : List NackInfo × UInt16 × UInt16} (waiting : ¬ Due nowMs entry)
    (packed : Packed nowMs pid blp (done ++ [entry]) taken rest result) :
    Packed nowMs pid blp done (entry :: taken) rest result := by
  have idle : requestedNumbers nowMs (entry :: taken) = requestedNumbers nowMs taken :=
    requestedNumbers_cons_of_neg fun requested => waiting requested.1
  have kept : done ++ (entry :: taken).filterMap (outcome nowMs) =
      done ++ [entry] ++ taken.filterMap (outcome nowMs) := by
    rw [List.filterMap_cons_some (outcome_waiting waiting), List.append_assoc, List.singleton_append]
  exact ⟨by rw [packed.list, kept], by rw [packed.index, kept], by rw [idle]; exact packed.near,
    by rw [idle]; exact packed.bits⟩

theorem Packed.exhausted {pid blp : UInt16} {done taken rest : List NackInfo}
    {result : List NackInfo × UInt16 × UInt16} (due : Due nowMs entry)
    (exhausted : ¬ entry.retransmits.toNat < 2) (packed : Packed nowMs pid blp done taken rest result) :
    Packed nowMs pid blp done (entry :: taken) rest result := by
  have idle : requestedNumbers nowMs (entry :: taken) = requestedNumbers nowMs taken :=
    requestedNumbers_cons_of_neg fun requested => exhausted requested.2
  have dropped : (entry :: taken).filterMap (outcome nowMs) = taken.filterMap (outcome nowMs) :=
    List.filterMap_cons_none (outcome_exhausted due exhausted)
  exact ⟨by rw [packed.list, dropped], by rw [packed.index, dropped], by rw [idle]; exact packed.near,
    by rw [idle]; exact packed.bits⟩

theorem Packed.requested {pid blp : UInt16} {done taken rest : List NackInfo}
    {result : List NackInfo × UInt16 × UInt16} (requested : Requested nowMs entry)
    (close : distance pid entry.seqNum < 16)
    (packed : Packed nowMs pid (blp ||| UInt16.ofNat (2 ^ distance pid entry.seqNum))
      (done ++ [markSent nowMs entry]) taken rest result) :
    Packed nowMs pid blp done (entry :: taken) rest result := by
  have kept : done ++ (entry :: taken).filterMap (outcome nowMs) =
      done ++ [markSent nowMs entry] ++ taken.filterMap (outcome nowMs) := by
    rw [List.filterMap_cons_some (outcome_requested requested), List.append_assoc, List.singleton_append]
  refine ⟨by rw [packed.list, kept], by rw [packed.index, kept], ?_, fun bit below => ?_⟩
  · rw [requestedNumbers_cons_of_pos requested]
    exact List.forall_mem_cons.mpr ⟨close, packed.near⟩
  · rw [packed.bits bit below, testBit_or_pow blp _ below, Bool.or_eq_true, decide_eq_true_eq, or_assoc,
      requestedNumbers_cons_of_pos requested]
    simp only [List.mem_cons, exists_eq_or_imp]

theorem close_iff {pid number : UInt16} : number - pid - 1 ≤ 15 ↔ distance pid number < 16 := by
  rw [UInt16.le_iff_toNat_le, distance]
  exact Nat.lt_succ_iff.symm

/-- A step of an index that stays in a short list. -/
theorem toNat_succ {index : UInt16} (below : index.toNat < maxNacks) : (index + 1).toNat = index.toNat + 1 := by
  have small : index.toNat < 150 := below
  rw [UInt16.toNat_add, UInt16.toNat_one, Nat.mod_eq_of_lt (by omega)]

theorem getElem?_middle (done todo : List NackInfo) (entry : NackInfo) :
    (done ++ entry :: todo)[done.length]? = some entry := by
  rw [List.getElem?_append_right le_rfl, Nat.sub_self, List.getElem?_cons_zero]

theorem eraseIdx_middle (done todo : List NackInfo) (entry : NackInfo) :
    (done ++ entry :: todo).eraseIdx done.length = done ++ todo := by
  rw [List.eraseIdx_append_of_length_le le_rfl, Nat.sub_self, List.eraseIdx_cons_zero]

theorem set_middle (done todo : List NackInfo) (entry other : NackInfo) :
    (done ++ entry :: todo).set done.length other = done ++ [other] ++ todo := by
  rw [List.set_append_right _ _ le_rfl, Nat.sub_self, List.set_cons_zero, List.append_cons]

section InnerRounds

variable {pid index blp : UInt16} {done todo : List NackInfo} {rounds : ℕ}

theorem packBlp_far (place : index.toNat + 1 = done.length) (far : ¬ distance pid entry.seqNum < 16) :
    packBlp nowMs pid (rounds + 1) (done ++ entry :: todo) index blp = some (done ++ entry :: todo, index, blp) := by
  rw [packBlp, place, getElem?_middle]
  exact if_neg (close_iff.not.mpr far)

theorem packBlp_waiting (place : index.toNat + 1 = done.length) (close : distance pid entry.seqNum < 16)
    (waiting : ¬ Due nowMs entry) :
    packBlp nowMs pid (rounds + 1) (done ++ entry :: todo) index blp =
      packBlp nowMs pid rounds (done ++ [entry] ++ todo) (index + 1) blp := by
  rw [packBlp, place, getElem?_middle, ← List.append_cons]
  simp only [not_isTimeToRetransmit waiting, close_iff.mpr close, Bool.not_false, if_true]

theorem packBlp_exhausted (place : index.toNat + 1 = done.length) (close : distance pid entry.seqNum < 16)
    (due : Due nowMs entry) (exhausted : ¬ entry.retransmits.toNat < 2) :
    packBlp nowMs pid (rounds + 1) (done ++ entry :: todo) index blp =
      packBlp nowMs pid rounds (done ++ todo) index blp := by
  rw [packBlp, place, getElem?_middle, eraseIdx_middle]
  simp only [isTimeToRetransmit_iff.mpr due, maxRetransmits_le.mpr exhausted, close_iff.mpr close, Bool.not_true,
    Bool.false_eq_true, if_true, if_false]

theorem packBlp_requested (place : index.toNat + 1 = done.length) (close : distance pid entry.seqNum < 16)
    (requested : Requested nowMs entry) :
    packBlp nowMs pid (rounds + 1) (done ++ entry :: todo) index blp =
      packBlp nowMs pid rounds (done ++ [markSent nowMs entry] ++ todo) (index + 1)
        (blp ||| UInt16.ofNat (2 ^ distance pid entry.seqNum)) := by
  rw [packBlp, place, getElem?_middle]
  simp only [set_middle, isTimeToRetransmit_iff.mpr requested.1, maxRetransmits_le, requested.2,
    not_true, close_iff.mpr close,
    Bool.not_true, Bool.false_eq_true, if_true, if_false]
  rfl

end InnerRounds

/-- **The inner loop**, from the entry after the PID on. -/
theorem packBlp_spec (nowMs : UInt64) (pid : UInt16) (todo : List NackInfo) :
    ∀ (done : List NackInfo) (rounds : ℕ) (index blp : UInt16), index.toNat + 1 = done.length →
      (done ++ todo).length ≤ maxNacks → todo.length < rounds →
      ∃ taken rest result, todo = taken ++ rest ∧ packBlp nowMs pid rounds (done ++ todo) index blp = some result ∧
        Packed nowMs pid blp done taken rest result := by
  induction todo with
  | nil =>
      intro done rounds index blp place short enough
      obtain ⟨fewer, rfl⟩ : ∃ fewer, rounds = fewer + 1 := ⟨rounds - 1, by omega⟩
      refine ⟨[], [], (done ++ [], index, blp), rfl, ?_, Packed.stop place⟩
      rw [packBlp, List.getElem?_eq_none (by rw [List.append_nil, place])]
  | cons entry todo ih =>
      intro done rounds index blp place short enough
      obtain ⟨fewer, rfl⟩ : ∃ fewer, rounds = fewer + 1 := ⟨rounds - 1, by omega⟩
      rw [List.length_append, List.length_cons] at short
      rw [List.length_cons] at enough
      have next (kept : NackInfo) : (index + 1).toNat + 1 = (done ++ [kept]).length := by
        rw [toNat_succ (by omega), place, List.length_append, List.length_singleton]
      have bound (kept : NackInfo) : (done ++ [kept] ++ todo).length ≤ maxNacks := by
        rw [List.length_append, List.length_append, List.length_singleton]
        omega
      by_cases close : distance pid entry.seqNum < 16
      · by_cases due : Due nowMs entry
        · by_cases fresh : entry.retransmits.toNat < 2
          · obtain ⟨taken, rest, result, split, ran, packed⟩ :=
              ih _ fewer (index + 1) (blp ||| UInt16.ofNat (2 ^ distance pid entry.seqNum))
                (next (markSent nowMs entry)) (bound _) (by omega)
            refine ⟨entry :: taken, rest, result, by rw [split, List.cons_append], ?_,
              Packed.requested ⟨due, fresh⟩ close packed⟩
            rw [packBlp_requested place close ⟨due, fresh⟩, ran]
          · obtain ⟨taken, rest, result, split, ran, packed⟩ := ih done fewer index blp place
              (by rw [List.length_append]; omega) (by omega)
            refine ⟨entry :: taken, rest, result, by rw [split, List.cons_append], ?_,
              Packed.exhausted due fresh packed⟩
            rw [packBlp_exhausted place close due fresh, ran]
        · obtain ⟨taken, rest, result, split, ran, packed⟩ :=
            ih _ fewer (index + 1) blp (next entry) (bound _) (by omega)
          refine ⟨entry :: taken, rest, result, by rw [split, List.cons_append], ?_, Packed.waiting due packed⟩
          rw [packBlp_waiting place close due, ran]
      · exact ⟨[], entry :: todo, _, rfl, packBlp_far place close, Packed.stop place⟩

/-! ### The outer loop -/

/-- A number is requested by one of the items. -/
def Requests (items : List NackBlock) (number : UInt16) : Prop :=
  ∃ item ∈ items, number ∈ nackNumbers item.pid item.blp

theorem requests_cons {item : NackBlock} {items : List NackBlock} {number : UInt16} :
    Requests (item :: items) number ↔ number ∈ nackNumbers item.pid item.blp ∨ Requests items number := by
  simp only [Requests, List.mem_cons, exists_eq_or_imp]

/-- The item of a PID requests the PID and what the inner loop took. -/
theorem Packed.numbers {pid : UInt16} {done taken rest : List NackInfo}
    {result : List NackInfo × UInt16 × UInt16} (packed : Packed nowMs pid 0 done taken rest result)
    (number : UInt16) :
    number ∈ nackNumbers pid result.2.2 ↔ number = pid ∨ number ∈ requestedNumbers nowMs taken := by
  have bits : ∀ bit < 16, result.2.2.toNat.testBit bit = true ↔
      ∃ other ∈ requestedNumbers nowMs taken, distance pid other = bit := by
    intro bit below
    rw [packed.bits bit below]
    simp
  rw [mem_packed bits]
  refine or_congr_right ?_
  constructor
  · exact fun inside => inside.2
  · exact fun member => ⟨packed.near number member, member⟩

section OuterRounds

variable {index : UInt16} {done todo : List NackInfo} {nackVector : List NackBlock} {rounds : ℕ}

theorem packNacks_waiting (place : index.toNat = done.length) (waiting : ¬ Due nowMs entry) :
    packNacks nowMs (rounds + 1) (done ++ entry :: todo) index nackVector =
      packNacks nowMs rounds (done ++ [entry] ++ todo) (index + 1) nackVector := by
  rw [packNacks, place, getElem?_middle, ← List.append_cons]
  simp only [not_isTimeToRetransmit waiting, Bool.not_false, if_true]

/-- The index goes one back and one forth, also from 0. -/
theorem packNacks_exhausted (place : index.toNat = done.length) (due : Due nowMs entry)
    (exhausted : ¬ entry.retransmits.toNat < 2) :
    packNacks nowMs (rounds + 1) (done ++ entry :: todo) index nackVector =
      packNacks nowMs rounds (done ++ todo) index nackVector := by
  rw [packNacks, place, getElem?_middle, eraseIdx_middle, sub_add_cancel]
  simp only [isTimeToRetransmit_iff.mpr due, maxRetransmits_le.mpr exhausted, Bool.not_true, Bool.false_eq_true,
    if_true, if_false]

theorem packNacks_requested (place : index.toNat = done.length) (requested : Requested nowMs entry)
    {list : List NackInfo} {stop blp : UInt16}
    (ran : packBlp nowMs entry.seqNum ((done ++ [markSent nowMs entry] ++ todo).length + 1)
      (done ++ [markSent nowMs entry] ++ todo) index 0 = some (list, stop, blp)) :
    packNacks nowMs (rounds + 1) (done ++ entry :: todo) index nackVector =
      packNacks nowMs rounds list (stop + 1) (nackVector ++ [⟨entry.seqNum, blp⟩]) := by
  rw [packNacks, place, getElem?_middle]
  simp only [set_middle, isTimeToRetransmit_iff.mpr requested.1, maxRetransmits_le, requested.2, not_true, ran,
    Bool.not_true, Bool.false_eq_true, if_false]
  rfl

end OuterRounds

/-- **The two loops.** Every entry gets its outcome, in order, and the items request the requested
entries and nothing else. -/
theorem packNacks_spec (nowMs : UInt64) (rounds : ℕ) :
    ∀ (done todo : List NackInfo) (index : UInt16) (nackVector : List NackBlock), index.toNat = done.length →
      (done ++ todo).length ≤ maxNacks → todo.length < rounds →
      ∃ items, packNacks nowMs rounds (done ++ todo) index nackVector =
          some (done ++ todo.filterMap (outcome nowMs), nackVector ++ items) ∧
        items.length ≤ todo.length ∧
        ∀ number, Requests items number ↔ number ∈ requestedNumbers nowMs todo := by
  induction rounds with
  | zero => exact fun _ _ _ _ _ _ enough => absurd enough (Nat.not_lt_zero _)
  | succ rounds ih =>
      intro done todo index nackVector place short enough
      cases todo with
      | nil =>
          refine ⟨[], ?_, le_rfl, fun number => by simp [Requests, requestedNumbers]⟩
          rw [packNacks, List.getElem?_eq_none (by rw [List.append_nil, place]), List.append_nil, List.append_nil,
            List.filterMap_nil, List.append_nil]
      | cons entry todo =>
          rw [List.length_append, List.length_cons] at short
          rw [List.length_cons] at enough
          by_cases due : Due nowMs entry
          · by_cases fresh : entry.retransmits.toNat < 2
            · obtain ⟨taken, rest, ⟨list, stop, blp⟩, split, ran, packed⟩ :=
                packBlp_spec nowMs entry.seqNum todo (done ++ [markSent nowMs entry])
                  ((done ++ [markSent nowMs entry] ++ todo).length + 1) index 0
                  (by rw [place, List.length_append, List.length_singleton])
                  (by rw [List.length_append, List.length_append, List.length_singleton]; omega)
                  (by rw [List.length_append]; omega)
              have whole : list = done ++ [markSent nowMs entry] ++ taken.filterMap (outcome nowMs) ++ rest :=
                packed.list
              have spot : stop.toNat + 1 =
                  (done ++ [markSent nowMs entry] ++ taken.filterMap (outcome nowMs)).length := packed.index
              have fewer : (taken.filterMap (outcome nowMs)).length ≤ taken.length := List.length_filterMap_le _ _
              have parts : todo.length = taken.length + rest.length := by rw [split, List.length_append]
              have bound : (done ++ [markSent nowMs entry] ++ taken.filterMap (outcome nowMs) ++ rest).length ≤
                  maxNacks := by
                simp only [List.length_append, List.length_singleton]
                omega
              obtain ⟨items, finished, count, requests⟩ := ih _ rest (stop + 1)
                (nackVector ++ [⟨entry.seqNum, blp⟩])
                (by rw [toNat_succ (by rw [List.length_append, ← spot] at bound; omega), spot]) bound (by omega)
              refine ⟨⟨entry.seqNum, blp⟩ :: items, ?_, ?_, fun number => ?_⟩
              · rw [packNacks_requested place ⟨due, fresh⟩ ran, whole, finished, split,
                  List.filterMap_cons_some (outcome_requested ⟨due, fresh⟩), List.filterMap_append]
                simp only [List.append_assoc, List.cons_append]
                rfl
              · rw [List.length_cons, List.length_cons]
                omega
              · rw [requests_cons, packed.numbers number, requests number, split,
                  requestedNumbers_cons_of_pos ⟨due, fresh⟩, requestedNumbers_append, List.mem_cons, List.mem_append,
                  or_assoc]
            · obtain ⟨items, finished, count, requests⟩ := ih done todo index nackVector place
                (by rw [List.length_append]; omega) (by omega)
              refine ⟨items, ?_, by rw [List.length_cons]; omega, fun number => ?_⟩
              · rw [packNacks_exhausted place due fresh, finished,
                  List.filterMap_cons_none (outcome_exhausted due fresh)]
              · rw [requests number, requestedNumbers_cons_of_neg fun requested => fresh requested.2]
          · obtain ⟨items, finished, count, requests⟩ := ih (done ++ [entry]) todo (index + 1) nackVector
              (by rw [toNat_succ (by omega), place, List.length_append, List.length_singleton])
              (by rw [List.length_append, List.length_append, List.length_singleton]; omega) (by omega)
            refine ⟨items, ?_, by rw [List.length_cons]; omega, fun number => ?_⟩
            · rw [packNacks_waiting place due, finished, List.filterMap_cons_some (outcome_waiting due),
                List.append_assoc, List.singleton_append]
            · rw [requests number, requestedNumbers_cons_of_neg fun requested => due requested.1]

/-! ### The block, decoded -/

/-- The items `forEachNack` reads from a block. -/
def decodeNacks (data : Memory) (chead : ℕ) : Option (List NackBlock) :=
  (forEachNack Prod.fst chead (fun pid blp _ state => some (state.1, state.2 ++ [⟨pid, blp⟩])) (data, [])).map
    Prod.snd

/-- The item at a header. -/
def itemAt (data : Memory) (header : ℕ) : NackBlock := ⟨getNackPid data header, getNackBlp data header⟩

theorem decodeNacks_eq (data : Memory) (chead : ℕ) :
    decodeNacks data chead = some ((nackItems data chead).map (itemAt data)) := by
  rw [decodeNacks, forEachNack_eq]
  exact congrArg (Option.map Prod.snd) (foldlM_collect itemAt data (nackItems data chead) [])

/-- Items that were copied one after the other read back. -/
theorem itemAt_copied (data : Memory) (position : ℕ) (items : List NackBlock) :
    ∀ before : List UInt8, 12 ≤ before.length →
      (List.range items.length).map (fun index =>
        itemAt (copy data position (before ++ items.flatMap nackBlockBytes))
          (position + (before.length - 12) + 4 * index)) = items := by
  induction items with
  | nil => exact fun _ _ => rfl
  | cons item items ih =>
      intro before long
      have pidBack := read16_copy data position before item.pid
        (encode16 item.blp ++ items.flatMap nackBlockBytes)
      have blpBack := read16_copy data position (before ++ encode16 item.pid) item.blp
        (items.flatMap nackBlockBytes)
      have bytes : before ++ (item :: items).flatMap nackBlockBytes =
          before ++ nackBlockBytes item ++ items.flatMap nackBlockBytes := by
        rw [List.flatMap_cons, List.append_assoc]
      have first : itemAt (copy data position (before ++ (item :: items).flatMap nackBlockBytes))
          (position + (before.length - 12) + 4 * 0) = item := by
        have pidPlace : position + (before.length - 12) + 4 * 0 + 12 = position + before.length := by omega
        have blpPlace : position + (before.length - 12) + 4 * 0 + 14 =
            position + (before ++ encode16 item.pid).length := by
          rw [List.length_append, length_encode16]
          omega
        rw [itemAt, getNackPid, getNackBlp, pidPlace, blpPlace, bytes]
        simp only [nackBlockBytes, List.append_assoc] at pidBack blpBack ⊢
        rw [pidBack, blpBack]
      have others := ih (before ++ nackBlockBytes item) (by rw [List.length_append]; omega)
      have longer : (before ++ nackBlockBytes item).length = before.length + 4 := by
        rw [List.length_append]
        rfl
      rw [List.length_cons, List.range_succ_eq_map, List.map_cons, first, List.map_map]
      refine congrArg (item :: ·) (Eq.trans (List.map_congr_left fun index _ => ?_) others)
      have place : position + (before.length - 12) + 4 * (index + 1) =
          position + ((before ++ nackBlockBytes item).length - 12) + 4 * index := by omega
      show itemAt _ (position + (before.length - 12) + 4 * (index + 1)) = _
      rw [bytes, place]

/-- **The appended block decodes to the items that were packed.** -/
theorem decodeNacks_appended (data : Memory) (position : ℕ) (ssrc : UInt32) {items : List NackBlock}
    (few : items.length ≤ maxNacks) :
    decodeNacks (copy data position (nackPacketBytes ssrc (UInt16.ofNat (nackCommonHeaderLengthRtcp + items.length)) ++
      items.flatMap nackBlockBytes)) position = some items := by
  have small : items.length ≤ 150 := few
  generalize length : UInt16.ofNat (nackCommonHeaderLengthRtcp + items.length) = words
  have value : words.toNat = 2 + items.length := by
    rw [← length, UInt16.toNat_ofNat']
    exact Nat.mod_eq_of_lt (show 2 + items.length < 2 ^ 16 by omega)
  generalize appended : copy data position (nackPacketBytes ssrc words ++ items.flatMap nackBlockBytes) = block
  have feedback : getPacketType block position = rtpFeedbackPt := by
    rw [getPacketType, ← appended, copy_inside _ _ (show 1 < _ by
      rw [List.length_append]
      exact Nat.lt_add_right _ (show 1 < 12 by omega))]
    rfl
  have field : getLength block position = words := by
    rw [getLength, ← appended]
    have back := read16_copy data position [2 * 64 + 1, rtpFeedbackPt] words
      (encode32 ssrc ++ encode32 ssrc ++ items.flatMap nackBlockBytes)
    simp only [nackPacketBytes, List.append_assoc] at back ⊢
    exact back
  have headers : nackItems block position = (List.range items.length).map fun index => position + 4 * index := by
    have count : (blockLength block position - 12) / 4 = items.length := by
      rw [blockLength, field, value]
      omega
    rw [nackItems, if_pos feedback, count]
  have read := itemAt_copied data position items (nackPacketBytes ssrc words) (show 12 ≤ 12 from le_rfl)
  rw [appended] at read
  rw [decodeNacks_eq, headers, List.map_map]
  exact congrArg some read

/-! ### The report -/

/-- The two ways a report goes out. -/
theorem addNackPacketToRr_eq (generator : RtcpNackGenerator) (nowMs : UInt64) (rrPacket : DataPacket)
    {list : List NackInfo} {items : List NackBlock}
    (packed : packNacks nowMs (generator.nackInfoList.length + 1) generator.nackInfoList 0 [] = some (list, items)) :
    addNackPacketToRr generator nowMs rrPacket =
      if items.length = 0 then some ({ generator with nackInfoList := list }, rrPacket, false)
      else
        some ({ generator with nackInfoList := list },
          { rrPacket with
            data := copy rrPacket.data rrPacket.length.toNat (nackPacketBytes generator.ssrc
              (UInt16.ofNat (nackCommonHeaderLengthRtcp + items.length)) ++ items.flatMap nackBlockBytes)
            length := rrPacket.length +
              (((UInt16.ofNat (nackCommonHeaderLengthRtcp + items.length)).toNat + 1) * 4 : ℕ) },
          true) := by
  have joined := copy_append rrPacket.data rrPacket.length.toNat (nackPacketBytes generator.ssrc
    (UInt16.ofNat (nackCommonHeaderLengthRtcp + items.length))) (items.flatMap nackBlockBytes)
  rw [addNackPacketToRr, packed, ← joined]
  rfl

/-- **A report requests exactly what is due.** The items decoded from the appended block request the
numbers of the entries that are due and were requested fewer than two times; every entry gets its
outcome, in order; and the report grows by the block, or stays as it is when nothing is requested. -/
theorem addNackPacketToRr_exact (generator : RtcpNackGenerator) (nowMs : UInt64) (rrPacket : DataPacket)
    (short : generator.nackInfoList.length ≤ maxNacks) (placed : 0 ≤ rrPacket.length) :
    ∃ rrPacket' added,
      addNackPacketToRr generator nowMs rrPacket =
        some ({ generator with nackInfoList := generator.nackInfoList.filterMap (outcome nowMs) }, rrPacket', added) ∧
      ((added = true ∧ ∃ items, decodeNacks rrPacket'.data rrPacket.length.toNat = some items ∧ 0 < items.length ∧
          (∀ number, Requests items number ↔
            ∃ entry ∈ generator.nackInfoList, Requested nowMs entry ∧ entry.seqNum = number) ∧
          rrPacket'.length = rrPacket.length + (12 + 4 * items.length) ∧
          ∀ address : ℕ, address < rrPacket.length ∨ rrPacket'.length ≤ address →
            rrPacket'.data address = rrPacket.data address) ∨
        (added = false ∧ rrPacket' = rrPacket ∧ ∀ entry ∈ generator.nackInfoList, ¬ Requested nowMs entry)) := by
  obtain ⟨items, packed, count, requests⟩ := packNacks_spec nowMs (generator.nackInfoList.length + 1) []
    generator.nackInfoList 0 [] rfl short (Nat.lt_succ_self _)
  rw [List.nil_append, List.nil_append, List.nil_append] at packed
  have report := addNackPacketToRr_eq generator nowMs rrPacket packed
  have bound : generator.nackInfoList.length ≤ 150 := short
  by_cases none : items.length = 0
  · rw [if_pos none] at report
    refine ⟨rrPacket, false, report, Or.inr ⟨rfl, rfl, fun entry member requested => ?_⟩⟩
    obtain ⟨item, here, _⟩ := (requests entry.seqNum).mpr (mem_requestedNumbers.mpr ⟨entry, member, requested, rfl⟩)
    rw [List.length_eq_zero_iff.mp none] at here
    exact absurd here List.not_mem_nil
  · rw [if_neg none] at report
    have words : (UInt16.ofNat (nackCommonHeaderLengthRtcp + items.length)).toNat = 2 + items.length := by
      rw [UInt16.toNat_ofNat']
      exact Nat.mod_eq_of_lt (show 2 + items.length < 2 ^ 16 by omega)
    rw [words] at report
    refine ⟨_, true, report, Or.inl ⟨rfl, items, ?_, by omega, fun number => ?_, ?_, fun address outside => ?_⟩⟩
    · exact decodeNacks_appended rrPacket.data _ generator.ssrc (le_trans count short)
    · rw [requests number, mem_requestedNumbers]
    · show rrPacket.length + (((2 + items.length + 1) * 4 : ℕ) : ℤ) = _
      push_cast
      omega
    · have size : (nackPacketBytes generator.ssrc (UInt16.ofNat (nackCommonHeaderLengthRtcp + items.length)) ++
          items.flatMap nackBlockBytes).length = 12 + 4 * items.length := by
        rw [List.length_append, List.length_flatMap]
        show 12 + (items.map fun _ => 4).sum = _
        rw [List.map_const', List.sum_replicate, smul_eq_mul, Nat.mul_comm]
      have outside : (address : ℤ) < rrPacket.length ∨
          rrPacket.length + (((2 + items.length + 1) * 4 : ℕ) : ℤ) ≤ address := outside
      rcases outside with before | after
      · exact copy_of_lt _ _ (by omega)
      · refine copy_of_le _ _ ?_
        rw [size]
        omega

/-- A generator that misses a number on either side of the wrap; of two others, one was requested twice and
one just now. -/
def acrossWrap : RtcpNackGenerator where
  initialized := true
  highestSeqNum := 9
  ssrc := 7
  nackInfoList := [⟨65535, 0, 0⟩, ⟨2, 1, 50⟩, ⟨3, 2, 50⟩, ⟨4, 1, 90⟩]

theorem addNackPacketToRr_exact_across_wrap :
    ∃ rrPacket' items,
      addNackPacketToRr acrossWrap 100 ⟨fun _ => 0, 32, .video⟩ =
        some ({ acrossWrap with nackInfoList := [⟨65535, 1, 100⟩, ⟨2, 2, 100⟩, ⟨4, 1, 90⟩] }, rrPacket', true) ∧
      decodeNacks rrPacket'.data 32 = some items ∧ rrPacket'.length = 32 + (12 + 4 * items.length) ∧
      ∀ number, Requests items number ↔ number = 65535 ∨ number = 2 := by
  obtain ⟨rrPacket', added, report, ⟨rfl, items, decoded, _, requests, length, _⟩ | ⟨_, _, idle⟩⟩ :=
    addNackPacketToRr_exact acrossWrap 100 ⟨fun _ => 0, 32, .video⟩ (by decide) (by decide)
  · refine ⟨rrPacket', items, report, decoded, length, fun number => ?_⟩
    rw [requests number, ← mem_requestedNumbers]
    show number ∈ [65535, 2] ↔ _
    simp
  · exact absurd (show Requested 100 ⟨65535, 0, 0⟩ by decide) (idle _ List.mem_cons_self)

end RtcpNackGenerator

end Erizo
