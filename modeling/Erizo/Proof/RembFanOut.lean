/-
**What a REMB block asks of the distributors.**

`onREMBFromTransport` hands on every stream once for every SSRC of the block it is a sink of
(`onREMBFromTransport_effects`). A distributor counts the streams left in eight bits: with 256 streams
or more it divides by zero, and a stream that is listed twice gets two REMBs. `distributes_iff` says
when neither happens.
-/

import Erizo.Proof.RtcpBounds
import Erizo.Proof.TargetDistribution

namespace Erizo

namespace WebRtcConnection

open Library Library.Bytes RtcpHeader

/-- The SSRCs of a REMB block. -/
def feeds (data : Memory) (chead : ℕ) : List UInt32 :=
  (List.range (getREMBNumSSRC data chead).toNat).map (getREMBFeedSSRC data chead)

/-- The streams that are handed on for SSRCs. -/
def found (streams : List MediaStream) (ssrcs : List UInt32) : List MediaStream :=
  ssrcs.flatMap fun ssrc => streams.filter fun mediaStream => mediaStream.isSinkSSRC ssrc

/-- No stream is a sink of two entries of the list of SSRCs, and at most 255 streams are sinks. -/
def OneEach (streams : List MediaStream) (ssrcs : List UInt32) : Prop :=
  (∀ stream ∈ streams, ssrcs.countP stream.isSinkSSRC ≤ 1) ∧
    (streams.filter fun stream => ssrcs.any stream.isSinkSSRC).length ≤ 255

/-- The rounds end without a division by zero, and every stream of a list has exactly one. -/
def ServesEach {α : Type} (streamOf : α → MediaStream) (rounds : Option (List α)) (streams : List MediaStream) : Prop :=
  ∃ served, rounds = some served ∧ ∀ stream ∈ streams, (served.map streamOf).count stream = 1

section Found

variable (streams : List MediaStream)

theorem foldl_addFeed_found (chead : ℕ) (indexes : List ℕ) (walk : Walk) (before : List MediaStream) :
    (indexes.foldl (addFeed streams chead) (walk, before)).2 =
      before ++ found streams (indexes.map (getREMBFeedSSRC walk.data chead)) := by
  induction indexes generalizing walk before with
  | nil => exact (List.append_nil before).symm
  | cons index indexes ih =>
      rw [List.foldl_cons, addFeed, ih, List.append_assoc]
      rfl

/-- **What is handed on for a REMB.** -/
theorem onREMBFromTransport_effects (chead : ℕ) (walk : Walk) :
    (onREMBFromTransport streams chead walk).effects = walk.effects ++
      [.distribute (getREMBBitRate walk.data chead) (getSSRC walk.data chead)
        (found streams (feeds walk.data chead))] := by
  simp only [onREMBFromTransport, foldl_addFeed, foldl_addFeed_found]
  rfl

theorem mem_found {streams : List MediaStream} {ssrcs : List UInt32} {stream : MediaStream} :
    stream ∈ found streams ssrcs ↔ stream ∈ streams.filter fun stream => ssrcs.any stream.isSinkSSRC := by
  simp only [found, List.mem_flatMap, List.mem_filter, List.any_eq_true]
  tauto

variable {streams} (set : streams.Nodup)

include set

/-- A stream is handed on as often as it is a sink. -/
theorem count_found (ssrcs : List UInt32) {stream : MediaStream} (member : stream ∈ streams) :
    (found streams ssrcs).count stream = ssrcs.countP stream.isSinkSSRC := by
  induction ssrcs with
  | nil => rfl
  | cons ssrc ssrcs ih =>
      rw [found, List.flatMap_cons, List.count_append, List.countP_cons, Nat.add_comm]
      refine congrArg₂ (· + ·) ih ?_
      by_cases sink : stream.isSinkSSRC ssrc = true
      · rw [if_pos sink, ← List.count_eq_one_of_mem set member]
        exact List.count_filter (p := fun mediaStream : MediaStream => mediaStream.isSinkSSRC ssrc) sink
      · rw [if_neg sink]
        exact List.count_eq_zero_of_not_mem fun here => sink (List.mem_filter.mp here).2

/-- No stream is handed on twice when none is a sink of two SSRCs. -/
theorem nodup_found_iff (ssrcs : List UInt32) :
    (found streams ssrcs).Nodup ↔ ∀ stream ∈ streams, ssrcs.countP stream.isSinkSSRC ≤ 1 := by
  rw [List.nodup_iff_count_le_one]
  refine ⟨fun once stream member => ?_, fun once stream => ?_⟩
  · rw [← count_found set ssrcs member]
    exact once stream
  · by_cases member : stream ∈ streams
    · rw [count_found set ssrcs member]
      exact once stream member
    · refine le_of_eq_of_le (List.count_eq_zero_of_not_mem fun here => member ?_) (Nat.zero_le 1)
      exact (List.mem_filter.mp (mem_found.mp here)).1

theorem oneEach_iff (ssrcs : List UInt32) :
    OneEach streams ssrcs ↔ (found streams ssrcs).Nodup ∧ (found streams ssrcs).length ≤ 255 := by
  rw [OneEach, ← nodup_found_iff set]
  refine and_congr_right fun once => ?_
  have same : (found streams ssrcs).Perm (streams.filter fun stream => ssrcs.any stream.isSinkSSRC) :=
    (List.perm_ext_iff_of_nodup once (set.filter _)).mpr fun _ => mem_found
  rw [same.length_eq]

end Found

/-- When the rounds are those of the streams, each has one if none is listed twice. -/
theorem servesEach_iff {α : Type} {streamOf : α → MediaStream} {rounds : Option (List α)} {streams : List MediaStream}
    (enough : streams.length ≤ 255 → ∃ served, rounds = some served ∧ (served.map streamOf).Perm streams)
    (many : ¬ streams.length ≤ 255 → rounds = none) :
    ServesEach streamOf rounds streams ↔ streams.Nodup ∧ streams.length ≤ 255 := by
  by_cases few : streams.length ≤ 255
  · obtain ⟨served, ran, same⟩ := enough few
    refine ⟨fun serves => ⟨?_, few⟩, fun once => ⟨served, ran, fun stream member => ?_⟩⟩
    · obtain ⟨_, again, each⟩ := serves
      obtain rfl := Option.some_injective _ (ran.symm.trans again)
      refine List.nodup_iff_count_eq_one.mpr fun stream member => ?_
      rw [← same.count_eq]
      exact each stream member
    · rw [same.count_eq]
      exact List.count_eq_one_of_mem once.1 member
  · refine ⟨fun serves => ?_, fun once => absurd once.2 few⟩
    obtain ⟨_, ran, _⟩ := serves
    rw [many few] at ran
    exact (nomatch ran)

theorem toNat_count_lt {length : ℕ} (many : ¬ length ≤ 255) : (UInt8.ofNat length).toNat < length := by
  rw [UInt8.toNat_ofNat']
  omega

theorem servesEach_target {sort : List MediaStreamInfo → List MediaStreamInfo}
    (sorts : TargetVideoBWDistributor.SortsByTarget sort) (remb ssrc : UInt32) (streams : List MediaStream) :
    ServesEach (fun round => round.stream.stream) (TargetVideoBWDistributor.distribute sort remb ssrc streams) streams ↔
      streams.Nodup ∧ streams.length ≤ 255 := by
  refine servesEach_iff (fun few => ?_) fun many => ?_
  · obtain ⟨rounds, ran, walked, _⟩ := @TargetVideoBWDistributor.distribute_eq sort remb ssrc streams sorts few
    refine ⟨rounds, ran, ?_⟩
    have same := ((sorts.perm (streams.map TargetVideoBWDistributor.streamInfo)).map MediaStreamInfo.stream)
    rw [← TargetVideoBWDistributor.map_stream walked, List.map_map, List.map_map] at same
    exact same.trans (List.Perm.of_eq (List.map_id streams))
  · refine TargetVideoBWDistributor.forEachStream_none ssrc _ remb _ ?_
    rw [(sorts.perm _).length_eq, List.length_map]
    exact toNat_count_lt many

theorem servesEach_max {sort : List MediaStream → List MediaStream} (sorts : MaxVideoBWDistributor.SortsByMax sort)
    (remb ssrc : UInt32) (streams : List MediaStream) :
    ServesEach (fun round => round.stream) (MaxVideoBWDistributor.distribute sort remb ssrc streams) streams ↔
      streams.Nodup ∧ streams.length ≤ 255 := by
  refine servesEach_iff (fun few => ?_) fun many => ?_
  · obtain ⟨rounds, ran, shared, _⟩ := MaxVideoBWDistributor.distribute_eq sorts remb ssrc few
    refine ⟨rounds, ran, ?_⟩
    rw [MaxVideoBWDistributor.map_stream shared]
    exact sorts.perm streams
  · refine MaxVideoBWDistributor.forEachStream_none ssrc _ remb _ ?_
    rw [(sorts.perm streams).length_eq]
    exact toNat_count_lt many

/-- **When a REMB block is safe to distribute.** For every set of streams and every block, whatever
the REMB is: the distributor of a connection, and the one it replaced, divide by nothing that is zero
and send every stream they are given exactly one REMB, if and only if no stream of the connection is a
sink of two entries of the block and at most 255 are sinks of one. -/
theorem distributes_iff (targetSort : List MediaStreamInfo → List MediaStreamInfo)
    (targetSorts : TargetVideoBWDistributor.SortsByTarget targetSort) (maxSort : List MediaStream → List MediaStream)
    (maxSorts : MaxVideoBWDistributor.SortsByMax maxSort) (streams : List MediaStream) (set : streams.Nodup)
    (chead : ℕ) (walk : Walk) :
    ∃ bitRate ssrc found,
      (onREMBFromTransport streams chead walk).effects = walk.effects ++ [.distribute bitRate ssrc found] ∧
      ∀ remb : UInt32,
        (ServesEach (fun round => round.stream.stream)
            (TargetVideoBWDistributor.distribute targetSort remb ssrc found) found ↔
          OneEach streams (feeds walk.data chead)) ∧
        (ServesEach (fun round => round.stream) (MaxVideoBWDistributor.distribute maxSort remb ssrc found) found ↔
          OneEach streams (feeds walk.data chead)) := by
  refine ⟨_, _, _, onREMBFromTransport_effects streams chead walk, fun remb => ?_⟩
  rw [servesEach_target targetSorts, servesEach_max maxSorts, oneEach_iff set]
  exact ⟨Iff.rfl, Iff.rfl⟩

/-- A publisher's stream: its sink SSRCs are the default ones. -/
def publisherStream (object : ℕ) : MediaStream := ⟨object, 0, [0], 44444, 55543, 300, false, false, 0, 0⟩

/-- A REMB block with as many SSRCs as given, all of them the default video sink SSRC. -/
def defaultRemb (numSSRC : UInt8) : Walk where
  data := fun address =>
    if address = 16 then numSSRC else if address % 4 = 2 then 0xD8 else if address % 4 = 3 then 0xF7 else 0
  accesses := []
  effects := []

/-- One SSRC and one stream: the stream gets its REMB. -/
theorem distributes_single :
    ∃ bitRate ssrc found,
      (onREMBFromTransport [publisherStream 0] 0 (defaultRemb 1)).effects =
        [.distribute bitRate ssrc found] ∧
      ServesEach (fun round => round.stream.stream)
        (TargetVideoBWDistributor.distribute (List.insertionSort TargetVideoBWDistributor.noMoreTarget) 100 ssrc found)
        found := by
  obtain ⟨bitRate, ssrc, found, effects, serves⟩ := distributes_iff _ TargetVideoBWDistributor.insertionSort_sorts _
    MaxVideoBWDistributor.insertionSort_sorts [publisherStream 0] (List.nodup_singleton _) 0 (defaultRemb 1)
  refine ⟨bitRate, ssrc, found, effects, (serves 100).1.mpr ⟨fun stream member => ?_, ?_⟩⟩
  · obtain rfl := List.mem_singleton.mp member
    decide +kernel
  · decide +kernel

/-- Two publishers' streams and 128 times the default SSRC: 256 streams are counted as none. -/
theorem distributes_by_zero :
    ¬ ∀ (targetSort : List MediaStreamInfo → List MediaStreamInfo) (streams : List MediaStream) (chead : ℕ) (walk : Walk),
      TargetVideoBWDistributor.SortsByTarget targetSort → streams.Nodup →
      ∃ bitRate ssrc found,
        (onREMBFromTransport streams chead walk).effects = walk.effects ++ [.distribute bitRate ssrc found] ∧
        ∀ remb : UInt32, ∃ rounds, TargetVideoBWDistributor.distribute targetSort remb ssrc found = some rounds ∧
          ∀ stream ∈ found, (rounds.map fun round => round.stream.stream).count stream = 1 := by
  intro claim
  obtain ⟨_, _, _, effects, serves⟩ := claim _ [publisherStream 0, publisherStream 1] 0 (defaultRemb 128)
    TargetVideoBWDistributor.insertionSort_sorts (by decide)
  rw [onREMBFromTransport_effects, List.append_cancel_left_eq, List.singleton_inj, Effect.distribute.injEq] at effects
  obtain ⟨rfl, rfl, rfl⟩ := effects
  have few := ((servesEach_target TargetVideoBWDistributor.insertionSort_sorts 0 _ _).mp (serves 0)).2
  have many : (found [publisherStream 0, publisherStream 1] (feeds (defaultRemb 128).data 0)).length = 256 := by
    decide +kernel
  rw [many] at few
  exact absurd few (by decide)

end WebRtcConnection

end Erizo
