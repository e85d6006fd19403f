/-
**The packet queue hands packets out in order.**

While the numbers at hand lie within half a wrap, the queue and the number handed out last, taken together, are
sorted (`Ordered`). A packet is put in its place (`place_cases`), packets leave at the old end only
(`discard_spec`, `popPacket_cases`).

* `queue_reorders`: the calls of one thread.
* `shared_increasing`: a thread that pushes and one that pops, as long as no pop between the check of a packet and
  its insertion hands out its number or a later one.
-/

import Erizo.Library.Machine
import Erizo.Library.Serial
import Erizo.Model.RtpPacketQueue

namespace Erizo

open Library Library.Serial

namespace RtpPacketQueue

/-! ### Serial order -/

/-- **`rtpSequenceLessThan` is the serial order.** -/
theorem rtpSequenceLessThan_iff (x y : UInt16) : rtpSequenceLessThan x y = true ↔ precedes 16 x y := by
  have distance := ahead_reduced (le_refl 16) x y (UInt16.toNat_lt x) (UInt16.toNat_lt y)
  have below := ahead_lt 16 x y
  have here := UInt16.toNat_lt x
  have there := UInt16.toNat_lt y
  unfold rtpSequenceLessThan precedes
  simp only
  split
  · rw [decide_eq_true_iff]
    omega
  · split
    · rw [decide_eq_true_iff]
      omega
    · simp only [Bool.false_eq_true, false_iff]
      omega

/-- Numbers that lie within half a wrap. -/
def Near (numbers : List UInt16) : Prop :=
  ∃ base, ∀ number ∈ numbers, ahead 16 base number < 2 ^ 15

theorem near_of_all {numbers : List UInt16} (base : UInt16)
    (near : (numbers.all fun number => ahead 16 base number < 2 ^ 15) = true) : Near numbers :=
  ⟨base, fun number member => of_decide_eq_true (List.all_eq_true.mp near number member)⟩

/-- Within half a wrap a number comes after another one, before it, or is the same. -/
theorem precedes_of_not {base first second : UInt16} (nearFirst : ahead 16 base first < 2 ^ 15)
    (nearSecond : ahead 16 base second < 2 ^ 15) (notBefore : ¬ precedes 16 first second)
    (different : first ≠ second) : precedes 16 second first := by
  rw [precedes_iff (by decide) (le_refl 16) nearSecond nearFirst]
  rw [precedes_iff (by decide) (le_refl 16) nearFirst nearSecond] at notBefore
  refine lt_of_le_of_ne (Nat.not_lt.mp notBefore) fun same => different ?_
  rw [← add_ahead_full base first, ← add_ahead_full base second, same]

theorem precedes_trans {base first second third : UInt16} (nearFirst : ahead 16 base first < 2 ^ 15)
    (nearSecond : ahead 16 base second < 2 ^ 15) (nearThird : ahead 16 base third < 2 ^ 15)
    (before : precedes 16 first second) (after : precedes 16 second third) : precedes 16 first third := by
  rw [precedes_iff (by decide) (le_refl 16) nearFirst nearSecond] at before
  rw [precedes_iff (by decide) (le_refl 16) nearSecond nearThird] at after
  rw [precedes_iff (by decide) (le_refl 16) nearFirst nearThird]
  exact before.trans after

/-! ### Sorted packets -/

/-- The packets are in serial order, the newest one first. -/
def Sorted (packets : List DataPacket) : Prop :=
  (packets.map number).Pairwise fun newer older => precedes 16 older newer

variable {δ : Type} (doubles : Doubles δ)

/-- The numbers in a queue and behind it. -/
def numbers (queue : RtpPacketQueue δ) : List UInt16 :=
  queue.queue.map number ++ queue.lastSequenceNumberGiven.toList

/-- The queue is sorted, and what was handed out last comes before all of it. -/
def Ordered (queue : RtpPacketQueue δ) : Prop :=
  queue.numbers.Pairwise fun newer older => precedes 16 older newer

theorem Ordered.sorted {queue : RtpPacketQueue δ} (ordered : queue.Ordered) : Sorted queue.queue :=
  (List.pairwise_append.mp ordered).1

theorem Sorted.nodup {packets : List DataPacket} (sorted : Sorted packets) : (packets.map number).Nodup := by
  refine List.Pairwise.imp (fun before same => ?_) sorted
  rw [same, precedes, ahead_self] at before
  exact absurd before.1 (lt_irrefl 0)

/-- **Where the search puts a packet**: nowhere, when its number is met; else behind packets that do not come
before it, and in front of one that does, if there are more. -/
theorem place_cases (packet : DataPacket) (packets : List DataPacket) :
    (∃ other ∈ packets, number other = number packet) ∧ place packet packets = packets ∨
      ∃ newer older, packets = newer ++ older ∧ place packet packets = newer ++ packet :: older ∧
        (∀ other ∈ newer, number other ≠ number packet ∧ ¬ precedes 16 (number other) (number packet)) ∧
        ∀ other ∈ older.head?, precedes 16 (number other) (number packet) := by
  induction packets with
  | nil =>
      exact Or.inr ⟨[], [], rfl, rfl, fun _ absent => absurd absent List.not_mem_nil,
        fun _ absent => absurd absent (Option.not_mem_none _)⟩
  | cons first rest ih =>
      rw [place]
      split
      · rename_i same
        exact Or.inl ⟨⟨first, List.mem_cons_self, same⟩, rfl⟩
      · rename_i different
        split
        · rename_i before
          refine Or.inr ⟨[], first :: rest, rfl, rfl, fun _ absent => absurd absent List.not_mem_nil, ?_⟩
          rintro other ⟨⟩
          exact (rtpSequenceLessThan_iff _ _).mp before
        · rename_i after
          rcases ih with ⟨⟨other, member, same⟩, kept⟩ | ⟨newer, older, split, placed, behind, front⟩
          · exact Or.inl ⟨⟨other, List.mem_cons_of_mem _ member, same⟩, by rw [kept]⟩
          · refine Or.inr ⟨first :: newer, older, by rw [split]; rfl, by rw [placed]; rfl, ?_, front⟩
            refine List.forall_mem_cons.mpr ⟨⟨different, fun before => after ?_⟩, behind⟩
            exact (rtpSequenceLessThan_iff _ _).mpr before

/-- A number that is not too late comes after what was handed out last. -/
theorem precedes_of_inTime {queue : RtpPacketQueue δ} {base sequenceNumber : UInt16}
    (near : ahead 16 base sequenceNumber < 2 ^ 15)
    (nearLast : ∀ last ∈ queue.lastSequenceNumberGiven, ahead 16 base last < 2 ^ 15)
    (inTime : queue.tooLate sequenceNumber = false) :
    ∀ last ∈ queue.lastSequenceNumberGiven, precedes 16 last sequenceNumber := by
  intro last given
  rw [tooLate, Option.mem_def.mp given, Bool.or_eq_false_iff, decide_eq_false_iff_not] at inTime
  refine precedes_of_not near (nearLast last given) (fun before => ?_) inTime.2
  rw [(rtpSequenceLessThan_iff _ _).mpr before] at inTime
  exact nomatch inTime.1

/-- **A packet that is not late is put where it belongs**, as long as the numbers at hand are near. -/
theorem place_ordered {queue : RtpPacketQueue δ} (ordered : queue.Ordered) {packet : DataPacket}
    (near : Near (number packet :: queue.numbers)) (inTime : queue.tooLate (number packet) = false) :
    ({ queue with queue := place packet queue.queue } : RtpPacketQueue δ).Ordered := by
  obtain ⟨base, near⟩ := near
  obtain ⟨nearPacket, near⟩ := List.forall_mem_cons.mp near
  have afterLast := precedes_of_inTime nearPacket
    (fun last given => near last (List.mem_append_right _ (Option.mem_toList.mpr given))) inTime
  unfold Ordered numbers at ordered ⊢
  rcases place_cases packet queue.queue with ⟨-, kept⟩ | ⟨newer, older, split, placed, behind, front⟩
  · rw [kept]
    exact ordered
  simp only [placed]
  rw [numbers, split] at near
  rw [split] at ordered
  simp only [List.map_append, List.map_cons, List.append_assoc, List.cons_append] at ordered near ⊢
  obtain ⟨sortedNewer, sortedRest, across⟩ := List.pairwise_append.mp ordered
  have beforePacket : ∀ other ∈ older.map number ++ queue.lastSequenceNumberGiven.toList,
      precedes 16 other (number packet) := by
    cases older with
    | nil => exact fun other member => afterLast other (Option.mem_toList.mp member)
    | cons first rest =>
        have next := front first rfl
        obtain ⟨beforeFirst, -⟩ := List.pairwise_cons.mp sortedRest
        obtain ⟨nearFirst, nearRest⟩ := List.forall_mem_cons.mp (List.forall_mem_append.mp near).2
        refine List.forall_mem_cons.mpr ⟨next, fun other member => ?_⟩
        exact precedes_trans (nearRest other member) nearFirst nearPacket (beforeFirst other member) next
  refine List.pairwise_append.mpr ⟨sortedNewer, List.pairwise_cons.mpr ⟨beforePacket, sortedRest⟩, ?_⟩
  intro newerNumber member other rest
  rcases List.mem_cons.mp rest with rfl | rest
  · obtain ⟨otherPacket, present, rfl⟩ := List.mem_map.mp member
    obtain ⟨different, notBefore⟩ := behind otherPacket present
    exact precedes_of_not ((List.forall_mem_append.mp near).1 _ member) nearPacket notBefore different
  · exact across newerNumber member other rest

/-! ### What leaves the queue -/

/-- **What is discarded is the old end of the queue**, each packet while the queue was too deep. -/
theorem discard_spec (fuel : ℕ) (queue : RtpPacketQueue δ) :
    ∃ kept, (discard doubles fuel queue).1 = { queue with queue := kept } ∧
      queue.queue = kept ++ (discard doubles fuel queue).2.reverse ∧
      ∀ first oldest rest, (discard doubles fuel queue).2 = first ++ oldest :: rest →
        doubles.greater (({ queue with queue := kept ++ (oldest :: rest).reverse } : RtpPacketQueue δ).getDepthInSeconds
          doubles) queue.maxDepthInSeconds = true := by
  induction fuel generalizing queue with
  | zero => exact ⟨queue.queue, rfl, (List.append_nil _).symm, fun first _ _ none => by simp [discard] at none⟩
  | succ fuel ih =>
      rw [discard]
      split
      · rename_i deep
        split
        · exact ⟨queue.queue, rfl, (List.append_nil _).symm, fun first _ _ none => by simp at none⟩
        · rename_i oldest last
          obtain ⟨kept, left, split, rule⟩ := ih { queue with queue := queue.queue.dropLast }
          have whole : queue.queue = kept ++ (oldest :: (discard doubles fuel
              { queue with queue := queue.queue.dropLast }).2).reverse := by
            rw [List.reverse_cons, ← List.append_assoc, ← split]
            exact (List.dropLast_append_getLast? oldest last).symm
          refine ⟨kept, left, whole, fun first gone rest cut => ?_⟩
          cases first with
          | nil =>
              cases cut
              rw [← whole]
              exact deep
          | cons other before => exact rule before gone rest (List.cons.inj cut).2
      · exact ⟨queue.queue, rfl, (List.append_nil _).symm, fun first _ _ none => by simp at none⟩

/-- What is left of an ordered queue is ordered. -/
theorem Ordered.left {queue : RtpPacketQueue δ} (ordered : queue.Ordered) {kept gone : List DataPacket}
    (split : queue.queue = kept ++ gone) : ({ queue with queue := kept } : RtpPacketQueue δ).Ordered := by
  unfold Ordered numbers at ordered ⊢
  rw [split, List.map_append, List.append_assoc] at ordered
  refine List.Pairwise.sublist (List.Sublist.append_left ?_ _) ordered
  exact List.sublist_append_right _ _

/-- **A pop takes the oldest packet, or nothing.** -/
theorem popPacket_cases (queue : RtpPacketQueue δ) (ignoreDepth : Bool) :
    queue.popPacket doubles ignoreDepth = (queue, none) ∧ (ignoreDepth = true → queue.queue = []) ∨
      ∃ kept oldest, queue.queue = kept ++ [oldest] ∧
        queue.popPacket doubles ignoreDepth =
          ({ queue with queue := kept, lastSequenceNumberGiven := some (number oldest) }, some oldest) := by
  rw [popPacket]
  split
  · rename_i empty
    exact Or.inl ⟨rfl, fun _ => List.getLast?_eq_none_iff.mp empty⟩
  · rename_i oldest last
    split
    · exact Or.inr ⟨queue.queue.dropLast, oldest, (List.dropLast_append_getLast? oldest last).symm, rfl⟩
    · rename_i shallow
      refine Or.inl ⟨rfl, fun ignored => absurd ?_ shallow⟩
      rw [ignored, Bool.true_or]

/-- A pop leaves an ordered queue, with what it hands out before the rest. -/
theorem popPacket_ordered {queue : RtpPacketQueue δ} (ordered : queue.Ordered) (ignoreDepth : Bool) :
    (queue.popPacket doubles ignoreDepth).1.Ordered := by
  rcases popPacket_cases doubles queue ignoreDepth with ⟨none, -⟩ | ⟨kept, oldest, split, popped⟩
  · rw [none]
    exact ordered
  · rw [popped]
    unfold Ordered numbers at ordered ⊢
    rw [split, List.map_append] at ordered
    exact (List.pairwise_append.mp ordered).1

/-- What it hands out comes after what was handed out before. -/
theorem popPacket_increasing {queue : RtpPacketQueue δ} (ordered : queue.Ordered) (ignoreDepth : Bool) :
    (queue.popPacket doubles ignoreDepth).2.map number = none ∧
        (queue.popPacket doubles ignoreDepth).1.lastSequenceNumberGiven = queue.lastSequenceNumberGiven ∨
      ∃ value, (queue.popPacket doubles ignoreDepth).2.map number = some value ∧
        (queue.popPacket doubles ignoreDepth).1.lastSequenceNumberGiven = some value ∧
        ∀ previous ∈ queue.lastSequenceNumberGiven, precedes 16 previous value := by
  rcases popPacket_cases doubles queue ignoreDepth with ⟨none, -⟩ | ⟨kept, oldest, split, popped⟩
  · rw [none]
    exact Or.inl ⟨rfl, rfl⟩
  · rw [popped]
    refine Or.inr ⟨number oldest, rfl, rfl, fun previous given => ?_⟩
    have order := (List.pairwise_append.mp ordered).2.2
    refine order (number oldest) ?_ previous (Option.mem_toList.mpr given)
    rw [split, List.map_append]
    exact List.mem_append_right _ List.mem_cons_self

/-- The protected part of a push keeps the order. -/
theorem insert_ordered {queue : RtpPacketQueue δ} (ordered : queue.Ordered) {packet : DataPacket}
    (near : Near (number packet :: queue.numbers)) (inTime : queue.tooLate (number packet) = false) :
    (queue.insert doubles packet).1.Ordered := by
  obtain ⟨kept, left, split, -⟩ := discard_spec doubles (place packet queue.queue).length
    { queue with queue := place packet queue.queue }
  rw [insert, left]
  exact (place_ordered ordered near inTime).left split

/-! ### One thread -/

/-- Where a packet is pushed, its number, those in the queue and the last one handed out are near. -/
def NearPush (queue : RtpPacketQueue δ) : Call → Prop
  | .push packet => Near (number packet :: queue.numbers)
  | .pop _ | .setTimebase _ => True

theorem step_ordered (queue : RtpPacketQueue δ) (call : Call) (near : queue.NearPush call)
    (ordered : queue.Ordered) : (step doubles queue call).1.Ordered := by
  cases call with
  | push packet =>
      simp only [step, pushPacket]
      split
      · exact ordered
      · rename_i inTime
        exact insert_ordered doubles ordered near (Bool.eq_false_iff.mpr inTime)
  | pop ignoreDepth => exact popPacket_ordered doubles ordered ignoreDepth
  | setTimebase timebase => exact ordered

/-! ### What becomes of a packet -/

/-- What the calls hand out. -/
def popped (outcomes : List Outcome) : List DataPacket :=
  (outcomes.map Outcome.popped).reduceOption

/-- What they discard for the depth of the queue. -/
def discarded (outcomes : List Outcome) : List DataPacket :=
  outcomes.flatMap Outcome.discarded

theorem popped_cons (outcome : Outcome) (rest : List Outcome) :
    popped (outcome :: rest) = outcome.popped.toList ++ popped rest := by
  rw [popped, List.map_cons]
  cases outcome.popped <;> rfl

theorem popped_append (first second : List Outcome) : popped (first ++ second) = popped first ++ popped second := by
  rw [popped, List.map_append, List.reduceOption_append]
  rfl

theorem discarded_cons (outcome : Outcome) (rest : List Outcome) :
    discarded (outcome :: rest) = outcome.discarded ++ discarded rest := rfl

/-- A packet whose number is not met is put in, and the others stay. -/
theorem mem_place {packet : DataPacket} {packets : List DataPacket} (new : number packet ∉ packets.map number) :
    packet ∈ place packet packets := by
  rcases place_cases packet packets with ⟨⟨other, member, same⟩, -⟩ | ⟨newer, older, -, placed, -⟩
  · exact absurd (List.mem_map.mpr ⟨other, member, same⟩) new
  · rw [placed]
    exact List.mem_append_right _ List.mem_cons_self

theorem subset_place (packet : DataPacket) (packets : List DataPacket) : packets ⊆ place packet packets := by
  intro other member
  rcases place_cases packet packets with ⟨-, kept⟩ | ⟨newer, older, split, placed, -⟩
  · rw [kept]
    exact member
  · rw [split] at member
    rw [placed]
    exact (List.Sublist.append_left (List.sublist_cons_self _ _) newer).subset member

/-- What is put in is in the queue afterwards, or discarded. -/
theorem insert_accounts (queue : RtpPacketQueue δ) {packet other : DataPacket}
    (member : other ∈ place packet queue.queue) :
    other ∈ (queue.insert doubles packet).1.queue ∨ other ∈ (queue.insert doubles packet).2 := by
  obtain ⟨kept, left, split, -⟩ := discard_spec doubles (place packet queue.queue).length
    { queue with queue := place packet queue.queue }
  rw [insert, left]
  exact (List.mem_append.mp (split ▸ member)).imp_right List.mem_reverse.mp

/-- A packet leaves the queue only by being handed out or discarded. -/
theorem step_accounts (queue : RtpPacketQueue δ) (call : Call) {packet : DataPacket} (member : packet ∈ queue.queue) :
    packet ∈ (step doubles queue call).1.queue ∨ packet ∈ (step doubles queue call).2.popped ∨
      packet ∈ (step doubles queue call).2.discarded := by
  cases call with
  | push pushed =>
      simp only [step, pushPacket]
      split
      · exact Or.inl member
      · exact (insert_accounts doubles queue (subset_place pushed _ member)).imp_right Or.inr
  | pop ignoreDepth =>
      rcases popPacket_cases doubles queue ignoreDepth with ⟨none, -⟩ | ⟨kept, oldest, split, taken⟩
      · simp only [step, none]
        exact Or.inl member
      · simp only [step, taken]
        rw [split, List.mem_append, List.mem_singleton] at member
        exact member.imp_right fun same => Or.inl (congrArg some same.symm)
  | setTimebase timebase => exact Or.inl member

theorem run_accounts (queue : RtpPacketQueue δ) (calls : List Call) {packet : DataPacket}
    (member : packet ∈ queue.queue) :
    packet ∈ (Machine.run (step doubles) queue calls).queue ∨
      packet ∈ popped (Machine.outputs (step doubles) queue calls) ∨
      packet ∈ discarded (Machine.outputs (step doubles) queue calls) := by
  induction calls generalizing queue with
  | nil => exact Or.inl member
  | cons call rest ih =>
      rw [Machine.outputs, Machine.run_cons, popped_cons, discarded_cons]
      simp only [List.mem_append, Option.mem_toList]
      rcases step_accounts doubles queue call member with stays | given | gone
      · exact (ih _ stays).imp_right fun left => left.imp Or.inr Or.inr
      · exact Or.inr (Or.inl (Or.inl given))
      · exact Or.inr (Or.inr (Or.inl gone))

/-- Enough pops that ignore the depth hand out the whole queue. -/
theorem drain (queue : RtpPacketQueue δ) {pops : ℕ} (enough : queue.queue.length ≤ pops) :
    ∀ packet ∈ queue.queue,
      packet ∈ popped (Machine.outputs (step doubles) queue (List.replicate pops (.pop true))) := by
  intro packet member
  induction pops generalizing queue with
  | zero =>
      rw [List.length_eq_zero_iff.mp (Nat.le_zero.mp enough)] at member
      exact absurd member List.not_mem_nil
  | succ pops ih =>
      rcases popPacket_cases doubles queue true with ⟨-, empty⟩ | ⟨kept, oldest, split, taken⟩
      · rw [empty rfl] at member
        exact absurd member List.not_mem_nil
      · rw [split, List.length_append] at enough
        rw [split, List.mem_append, List.mem_singleton] at member
        rw [List.replicate_succ, Machine.outputs, popped, List.map_cons]
        simp only [step, taken, List.reduceOption_cons_of_some]
        rcases member with inside | same
        · exact List.mem_cons_of_mem _ (ih _ (Nat.le_of_succ_le_succ enough) inside)
        · exact same ▸ List.mem_cons_self

/-- What was discarded was the old end of the queue, each packet while the queue was too deep. -/
structure DiscardsOldest (left : RtpPacketQueue δ) (gone : List DataPacket) : Prop where
  sorted : Sorted (left.queue ++ gone.reverse)
  tooDeep : ∀ first oldest rest, gone = first ++ oldest :: rest →
    doubles.greater (({ left with queue := left.queue ++ (oldest :: rest).reverse } :
      RtpPacketQueue δ).getDepthInSeconds doubles) left.maxDepthInSeconds = true

/-- A number is late: it is the one handed out last, or comes before it in serial order. -/
def Late (last : Option UInt16) (sequenceNumber : UInt16) : Prop :=
  ∃ given ∈ last, sequenceNumber = given ∨ precedes 16 sequenceNumber given

/-- **What the queue promises to one thread.** -/
structure Reorders (queue : RtpPacketQueue δ) (calls : List Call) : Prop where
  sorted : Sorted (Machine.run (step doubles) queue calls).queue
  nodup : ((Machine.run (step doubles) queue calls).queue.map number).Nodup
  increasing : ((popped (Machine.outputs (step doubles) queue calls)).map number).IsChain (precedes 16)
  /-- A packet that is neither late nor a duplicate is handed out, given enough pops, or discarded. -/
  keeps : ∀ before packet after, calls = before ++ .push packet :: after →
    let current := Machine.run (step doubles) queue before
    ¬Late ((popped (Machine.outputs (step doubles) queue before)).getLast?.map number) (number packet) →
      number packet ∉ current.queue.map number →
      ∀ pops, (Machine.run (step doubles) queue calls).queue.length ≤ pops →
        packet ∈ popped (Machine.outputs (step doubles) current
            (.push packet :: after ++ List.replicate pops (.pop true))) ∨
          packet ∈ discarded (Machine.outputs (step doubles) current (.push packet :: after))
  /-- Only the oldest packets are ever discarded. -/
  oldest : ∀ before call after, calls = before ++ call :: after →
    let next := step doubles (Machine.run (step doubles) queue before) call
    DiscardsOldest doubles next.1 next.2.discarded

/-- A packet that is pushed in time for the first time is accounted for. -/
theorem push_accounts (queue : RtpPacketQueue δ) {packet : DataPacket} (inTime : queue.tooLate (number packet) = false)
    (new : number packet ∉ queue.queue.map number) (after : List Call) {pops : ℕ}
    (enough : (Machine.run (step doubles) queue (.push packet :: after)).queue.length ≤ pops) :
    packet ∈ popped (Machine.outputs (step doubles) queue (.push packet :: after ++ List.replicate pops (.pop true))) ∨
      packet ∈ discarded (Machine.outputs (step doubles) queue (.push packet :: after)) := by
  have pushed : step doubles queue (.push packet) =
      ((queue.insert doubles packet).1, ⟨none, (queue.insert doubles packet).2⟩) := by
    rw [step, pushPacket, inTime]
    rfl
  rw [Machine.outputs_append, popped_append, List.mem_append, Machine.outputs, popped_cons, discarded_cons]
  rw [List.mem_append, List.mem_append, pushed]
  rcases insert_accounts doubles queue (mem_place new) with stays | gone
  · rcases run_accounts doubles _ after stays with still | given | gone
    · refine Or.inl (Or.inr (drain doubles _ enough packet ?_))
      rw [Machine.run_cons, pushed]
      exact still
    · exact Or.inl (Or.inl (Or.inr given))
    · exact Or.inr (Or.inr gone)
  · exact Or.inr (Or.inl gone)

theorem Ordered.discardsNone {queue : RtpPacketQueue δ} (ordered : queue.Ordered) :
    DiscardsOldest doubles queue [] where
  sorted := by
    rw [List.reverse_nil, List.append_nil]
    exact ordered.sorted
  tooDeep := fun first _ _ cut => by simp at cut

/-- What a call discards is the old end. -/
theorem step_discards {queue : RtpPacketQueue δ} (ordered : queue.Ordered) {call : Call} (near : queue.NearPush call) :
    DiscardsOldest doubles (step doubles queue call).1 (step doubles queue call).2.discarded := by
  cases call with
  | push packet =>
      simp only [step, pushPacket]
      split
      · exact ordered.discardsNone doubles
      · rename_i inTime
        obtain ⟨kept, left, split, tooDeep⟩ := discard_spec doubles (place packet queue.queue).length
          { queue with queue := place packet queue.queue }
        have placed := place_ordered ordered near (Bool.eq_false_iff.mpr inTime)
        rw [insert, left]
        refine ⟨?_, tooDeep⟩
        rw [← split]
        exact placed.sorted
  | pop ignoreDepth => exact (step_ordered doubles queue (.pop ignoreDepth) trivial ordered).discardsNone doubles
  | setTimebase timebase =>
      exact (step_ordered doubles queue (.setTimebase timebase) trivial ordered).discardsNone doubles

theorem insert_lastSequenceNumberGiven (queue : RtpPacketQueue δ) (packet : DataPacket) :
    (queue.insert doubles packet).1.lastSequenceNumberGiven = queue.lastSequenceNumberGiven := by
  obtain ⟨kept, left, -⟩ := discard_spec doubles (place packet queue.queue).length
    { queue with queue := place packet queue.queue }
  rw [insert, left]

/-- **The queue discards what is late.** -/
theorem tooLate_iff (queue : RtpPacketQueue δ) (sequenceNumber : UInt16) :
    queue.tooLate sequenceNumber = true ↔ Late queue.lastSequenceNumberGiven sequenceNumber := by
  unfold tooLate Late
  cases queue.lastSequenceNumberGiven with
  | none => simp
  | some last => simp [rtpSequenceLessThan_iff, or_comm]

/-- The number handed out last is that of the packet a call hands out, if it does. -/
theorem step_lastSequenceNumberGiven (queue : RtpPacketQueue δ) (call : Call) :
    (step doubles queue call).1.lastSequenceNumberGiven =
      ((step doubles queue call).2.popped.map number).or queue.lastSequenceNumberGiven := by
  cases call with
  | push packet =>
      simp only [step, pushPacket, Option.map_none, Option.none_or]
      split
      · rfl
      · exact insert_lastSequenceNumberGiven doubles queue packet
  | pop ignoreDepth =>
      rcases popPacket_cases doubles queue ignoreDepth with ⟨none, -⟩ | ⟨kept, oldest, -, taken⟩
      · simp only [step, none, Option.map_none, Option.none_or]
      · simp only [step, taken, Option.map_some, Option.some_or]
  | setTimebase timebase => rfl

/-- After a run it is that of the last packet handed out. -/
theorem run_lastSequenceNumberGiven (queue : RtpPacketQueue δ) (calls : List Call) :
    (Machine.run (step doubles) queue calls).lastSequenceNumberGiven =
      ((popped (Machine.outputs (step doubles) queue calls)).getLast?.map number).or queue.lastSequenceNumberGiven := by
  induction calls generalizing queue with
  | nil => rfl
  | cons call rest ih =>
      rw [Machine.run_cons, ih, step_lastSequenceNumberGiven, Machine.outputs, popped_cons, List.getLast?_append,
        ← Option.or_assoc]
      cases (popped (Machine.outputs (step doubles) (step doubles queue call).1 rest)).getLast? <;>
        cases (step doubles queue call).2.popped <;> rfl

/-- What a call hands out comes after what was handed out before. -/
theorem step_increasing {queue : RtpPacketQueue δ} (ordered : queue.Ordered) (call : Call) :
    (step doubles queue call).2.popped.map number = none ∧
        (step doubles queue call).1.lastSequenceNumberGiven = queue.lastSequenceNumberGiven ∨
      ∃ value, (step doubles queue call).2.popped.map number = some value ∧
        (step doubles queue call).1.lastSequenceNumberGiven = some value ∧
        ∀ previous ∈ queue.lastSequenceNumberGiven, precedes 16 previous value := by
  cases call with
  | push packet =>
      refine Or.inl ⟨rfl, ?_⟩
      simp only [step, pushPacket]
      split
      · rfl
      · exact insert_lastSequenceNumberGiven doubles queue packet
  | pop ignoreDepth => exact popPacket_increasing doubles ordered ignoreDepth
  | setTimebase timebase => exact Or.inl ⟨rfl, rfl⟩

/-- **The queue is a sorted reordering buffer without duplicates**, in every run in which the numbers at hand are
near at every push. -/
theorem queue_reorders (depthInSeconds maxDepthInSeconds : δ) (calls : List Call)
    (near : Machine.Guarded (step doubles) NearPush (create doubles depthInSeconds maxDepthInSeconds) calls) :
    Reorders doubles (create doubles depthInSeconds maxDepthInSeconds) calls := by
  have start : (create doubles depthInSeconds maxDepthInSeconds).Ordered := List.Pairwise.nil
  have ordered := near.run_invariant (step_ordered doubles) start
  refine ⟨ordered.sorted, ordered.sorted.nodup, ?_, ?_, ?_⟩
  · have chain := @Machine.Guarded.isChain_outputs _ _ _ _ _ _ _ lastSequenceNumberGiven
      (fun outcome : Outcome => outcome.popped.map number) _ (step_ordered doubles)
      (fun queue call _ ordered => step_increasing doubles ordered call) _ _ near start
    rw [popped, ← List.reduceOption_map, List.map_map]
    exact chain
  · rintro before packet after rfl current inTime new pops enough
    rw [Machine.run_append] at enough
    have last := run_lastSequenceNumberGiven doubles (create doubles depthInSeconds maxDepthInSeconds) before
    rw [show (create doubles depthInSeconds maxDepthInSeconds).lastSequenceNumberGiven = none from rfl,
      Option.or_none] at last
    rw [← last, ← tooLate_iff, Bool.not_eq_true] at inTime
    exact push_accounts doubles current inTime new after enough
  · rintro before call after rfl
    obtain ⟨upTo, here, -⟩ := Machine.guarded_append.mp near
    exact step_discards doubles (upTo.run_invariant (step_ordered doubles) start) here

/-! ### Two threads -/

/-- A packet is put in only while it is not too late, among numbers that are near. -/
def Shared.InOrder (shared : Shared δ) : SharedStep → Prop
  | .insert => ∀ packet ∈ shared.checked,
      shared.queue.tooLate (number packet) = false ∧ Near (number packet :: shared.queue.numbers)
  | .check _ | .pop _ => True

theorem sharedStep_ordered (shared : Shared δ) (next : SharedStep) (inOrder : shared.InOrder next)
    (ordered : shared.queue.Ordered) : (sharedStep doubles shared next).1.queue.Ordered := by
  cases next with
  | check packet =>
      simp only [sharedStep]
      split
      · exact ordered
      · split <;> exact ordered
  | insert =>
      simp only [sharedStep]
      split
      · exact ordered
      · rename_i packet checked
        obtain ⟨inTime, near⟩ := inOrder packet checked
        exact insert_ordered doubles ordered near inTime
  | pop ignoreDepth => exact popPacket_ordered doubles ordered ignoreDepth

theorem sharedStep_increasing {shared : Shared δ} (ordered : shared.queue.Ordered) (next : SharedStep) :
    (sharedStep doubles shared next).2.map number = none ∧
        (sharedStep doubles shared next).1.queue.lastSequenceNumberGiven = shared.queue.lastSequenceNumberGiven ∨
      ∃ value, (sharedStep doubles shared next).2.map number = some value ∧
        (sharedStep doubles shared next).1.queue.lastSequenceNumberGiven = some value ∧
        ∀ previous ∈ shared.queue.lastSequenceNumberGiven, precedes 16 previous value := by
  cases next with
  | check packet =>
      refine Or.inl ?_
      simp only [sharedStep]
      split
      · exact ⟨rfl, rfl⟩
      · split <;> exact ⟨rfl, rfl⟩
  | insert =>
      refine Or.inl ?_
      simp only [sharedStep]
      split
      · exact ⟨rfl, rfl⟩
      · rename_i packet checked
        exact ⟨rfl, insert_lastSequenceNumberGiven doubles shared.queue packet⟩
  | pop ignoreDepth => exact popPacket_increasing doubles ordered ignoreDepth

/-- The numbers that the pops of a run hand out. -/
def poppedNumbers (shared : Shared δ) (steps : List SharedStep) : List UInt16 :=
  ((Machine.outputs (sharedStep doubles) shared steps).map (Option.map number)).reduceOption

/-- **With two threads the numbers increase** in every run in which a packet is put in only while it is not too
late. -/
theorem shared_increasing (depthInSeconds maxDepthInSeconds : δ) (steps : List SharedStep)
    (inOrder : Machine.Guarded (sharedStep doubles) Shared.InOrder
      ⟨create doubles depthInSeconds maxDepthInSeconds, none⟩ steps) :
    (poppedNumbers doubles ⟨create doubles depthInSeconds maxDepthInSeconds, none⟩ steps).IsChain (precedes 16) :=
  @Machine.Guarded.isChain_outputs _ _ _ _ _ _ (fun shared : Shared δ => shared.queue.Ordered)
    (fun shared => shared.queue.lastSequenceNumberGiven) (Option.map number) _ (sharedStep_ordered doubles)
    (fun _ next _ ordered => sharedStep_increasing doubles ordered next) _ _ inOrder List.Pairwise.nil

/-! ### Three packets -/

/-- Natural numbers in place of doubles. -/
def naturals : Doubles ℕ where
  ofNat := id
  quotient := fun dividend divisor => dividend.toNat / divisor.toNat
  greater := fun first second => second < first
  greaterEqual := fun first second => second ≤ first

/-- Packets that come in the wrong order across the wrap, one of them twice. -/
theorem queue_reorders_acrossWrap : Reorders naturals (create naturals 3 5)
    [.setTimebase 90000, .push (mediaPacket 0), .push (mediaPacket 65535), .push (mediaPacket 0), .pop true,
      .push (mediaPacket 1), .pop true, .pop true] :=
  queue_reorders naturals 3 5 _ ⟨trivial, near_of_all 0 (by decide), near_of_all 65535 (by decide),
    near_of_all 65535 (by decide), trivial, near_of_all 65535 (by decide), trivial, trivial, trivial⟩

theorem shared_increasing_inTime : (poppedNumbers naturals ⟨create naturals 3 5, none⟩
    [.check (mediaPacket 6), .insert, .check (mediaPacket 5), .insert, .pop true, .pop true]).IsChain (precedes 16) :=
  shared_increasing naturals 3 5 _ (by
    refine ⟨trivial, ?_, trivial, ?_, trivial, trivial, trivial⟩ <;> rintro packet ⟨⟩
    · exact ⟨rfl, near_of_all 6 (by decide)⟩
    · exact ⟨rfl, near_of_all 5 (by decide)⟩)

/-- Packet 5 passes the check, packet 6 is handed out, then packet 5 is put in and handed out. -/
theorem shared_not_increasing : ¬ (poppedNumbers naturals ⟨create naturals 3 5, none⟩
    [.check (mediaPacket 6), .insert, .check (mediaPacket 5), .pop true, .insert, .pop true]).IsChain
      (precedes 16) := by
  have popped : poppedNumbers naturals ⟨create naturals 3 5, none⟩
      [.check (mediaPacket 6), .insert, .check (mediaPacket 5), .pop true, .insert, .pop true] = [6, 5] := by
    decide
  rw [popped]
  decide

end RtpPacketQueue

end Erizo
