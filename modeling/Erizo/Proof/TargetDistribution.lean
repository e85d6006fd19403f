/-
**A distribution by targets reserves the fair shares.**

What the rounds of `forEachStream` reserve is the walk of `FairShare.shares` with the targets as caps
(`forEachStream_eq`), so the guarantees of the shares hold of the reservations. The REMB a stream is
sent is the lesser of its maximum and the same average: it is at least the reservation, and as the
averages do not fall, at least what the first average allows.

Without simulcast and slideshows a target is the maximum. The bitrates are then those of
`MaxVideoBWDistributor`, because shares depend on the sorted caps alone.
-/

import Erizo.Proof.Distribution

namespace Erizo

namespace TargetVideoBWDistributor

open Library.FairShare
open MaxVideoBWDistributor (toNat_min toNat_pred pred_lt SortsByMax)

/-- The most that is reserved for a stream. -/
def target (stream : MediaStreamInfo) : ℕ := (getTargetVideoBW stream).toNat

/-- The average of what remains before a round. -/
def Round.average (round : Round) : UInt32 := round.remainingBitrate / round.remainingStreams.toUInt32

/-- The bitrate a stream is sent. -/
def Round.remb (round : Round) : UInt32 := round.generatedRemb.bitrate

/-- A round sends and reserves what the code says, without a subtraction or a division that fails. -/
structure Round.Sound (ssrc : UInt32) (round : Round) : Prop where
  bitrate : round.bitrate = min (getTargetVideoBW round.stream) round.average
  remb : round.generatedRemb =
    ⟨ssrc, [round.stream.stream.videoSinkSSRC], min round.stream.maxVideoBW round.average⟩
  within : round.bitrate ≤ round.remainingBitrate
  some : 0 < round.remainingStreams

/-- A target is at most the maximum. -/
theorem target_le (stream : MediaStreamInfo) : target stream ≤ stream.maxVideoBW.toNat := by
  simp only [target, getTargetVideoBW]
  split_ifs
  · rw [toNat_min]
    exact min_le_right _ _
  · rw [toNat_min]
    exact min_le_right _ _
  · exact le_rfl

/-- Without simulcast and slideshow the target is the maximum. -/
theorem target_streamInfo {stream : MediaStream} (single : stream.isSimulcast = false)
    (moving : stream.isSlideShowModeEnabled = false) : target (streamInfo stream) = stream.maxVideoBW.toNat := by
  simp [target, getTargetVideoBW, streamInfo, single, moving]

/-- **The rounds are the walk of the averages**, without a division by zero or a subtraction below it. -/
theorem forEachStream_eq (ssrc : UInt32) (streams : List MediaStreamInfo) :
    ∀ (remainingBitrate : UInt32) (remainingStreams : UInt8), remainingStreams.toNat = streams.length →
      ∃ rounds, forEachStream ssrc streams remainingBitrate remainingStreams = some rounds ∧
        rounds.map (fun round => (round.stream, round.average.toNat)) =
          averages target streams remainingBitrate.toNat ∧
        ∀ round ∈ rounds, round.Sound ssrc := by
  induction streams with
  | nil => exact fun _ _ _ => ⟨[], rfl, rfl, fun _ member => absurd member List.not_mem_nil⟩
  | cons stream streams ih =>
      intro remainingBitrate remainingStreams count
      rw [List.length_cons] at count
      have some : remainingStreams ≠ 0 := by
        rintro rfl
        exact absurd count (Nat.succ_ne_zero _).symm
      have fewer : (remainingStreams - 1).toNat = streams.length := by
        rw [toNat_pred some, count]
        rfl
      have average : (remainingBitrate / remainingStreams.toUInt32).toNat =
          remainingBitrate.toNat / (streams.length + 1) := by
        rw [UInt32.toNat_div, UInt8.toNat_toUInt32, count]
      generalize share : min (getTargetVideoBW stream) (remainingBitrate / remainingStreams.toUInt32) = bitrate
      have value : bitrate.toNat = min (target stream) (remainingBitrate.toNat / (streams.length + 1)) := by
        rw [← share, toNat_min, average, target]
      have within : bitrate ≤ remainingBitrate := by
        rw [UInt32.le_iff_toNat_le, value]
        exact le_trans (min_le_right _ _) (Nat.div_le_self _ _)
      obtain ⟨rounds, ran, walked, sound⟩ := ih (remainingBitrate - bitrate) (remainingStreams - 1) fewer
      refine ⟨⟨stream, remainingBitrate, remainingStreams, bitrate, ⟨ssrc, [stream.stream.videoSinkSSRC],
        min stream.maxVideoBW (remainingBitrate / remainingStreams.toUInt32)⟩⟩ :: rounds, ?_, ?_, ?_⟩
      · simp only [forEachStream, if_neg some, share, ran]
        rfl
      · rw [UInt32.toNat_sub_of_le _ _ within, value] at walked
        rw [List.map_cons, walked, averages, Round.average, average]
      · exact List.forall_mem_cons.mpr ⟨⟨share.symm, rfl, within, UInt8.pos_iff_ne_zero.mpr some⟩, sound⟩

/-- When the count runs out before the streams do, a round divides by zero. -/
theorem forEachStream_none (ssrc : UInt32) (streams : List MediaStreamInfo) :
    ∀ (remainingBitrate : UInt32) (remainingStreams : UInt8), remainingStreams.toNat < streams.length →
      forEachStream ssrc streams remainingBitrate remainingStreams = none := by
  induction streams with
  | nil => exact fun _ _ fewer => absurd fewer (Nat.not_lt_zero _)
  | cons stream streams ih =>
      intro remainingBitrate remainingStreams fewer
      by_cases zero : remainingStreams = 0
      · rw [forEachStream, if_pos zero]
      · have left : (remainingStreams - 1).toNat < streams.length := pred_lt zero fewer
        simp only [forEachStream, if_neg zero, ih _ _ left]
        rfl

section Rounds

variable {ssrc : UInt32} {streams : List MediaStreamInfo} {remb : UInt32} {rounds : List Round}
  (walked : rounds.map (fun round => (round.stream, round.average.toNat)) = averages target streams remb.toNat)
  (sound : ∀ round ∈ rounds, round.Sound ssrc)

include walked

theorem map_stream : rounds.map Round.stream = streams := by
  rw [← @map_fst_shares _ target streams remb.toNat, ← map_averages, ← walked, List.map_map, List.map_map]
  rfl

/-- No average is below the first. -/
theorem le_average : ∀ round ∈ rounds, remb.toNat / streams.length ≤ round.average.toNat := by
  intro round here
  have member : (round.stream, round.average.toNat) ∈ averages target streams remb.toNat := by
    rw [← walked]
    exact List.mem_map_of_mem (f := fun round : Round => (round.stream, round.average.toNat)) here
  exact le_averages (Nat.div_mul_le_self _ _) _ member

include sound

/-- What is reserved are the shares. -/
theorem map_bitrate : rounds.map (fun round => round.bitrate.toNat) =
    (shares target streams remb.toNat).map Prod.snd := by
  rw [← map_averages, ← walked, List.map_map, List.map_map]
  refine List.map_congr_left fun round here => ?_
  rw [(sound round here).bitrate, toNat_min]
  rfl

end Rounds

section Distribute

variable {sort : List MediaStreamInfo → List MediaStreamInfo} {remb ssrc : UInt32} {streams : List MediaStream}
  {rounds : List Round}

/-- The rounds of `distribute` are a walk over the sorted streams. -/
theorem distribute_eq (sorts : SortsByTarget sort) (few : streams.length ≤ 255) :
    ∃ rounds, distribute sort remb ssrc streams = some rounds ∧
      rounds.map (fun round => (round.stream, round.average.toNat)) =
        averages target (sort (streams.map streamInfo)) remb.toNat ∧
      ∀ round ∈ rounds, round.Sound ssrc := by
  refine forEachStream_eq ssrc (sort (streams.map streamInfo)) remb _ ?_
  rw [(sorts.perm _).length_eq, List.length_map, UInt8.toNat_ofNat', Nat.mod_eq_of_lt (by omega)]

theorem sorted_target (sorts : SortsByTarget sort) (streamInfos : List MediaStreamInfo) :
    (sort streamInfos).Pairwise fun first second => target first ≤ target second :=
  (sorts.sorted streamInfos).imp fun order => UInt32.le_iff_toNat_le.mp (UInt32.not_lt.mp order)

/-- Without simulcast and slideshows both distributors send the same bitrates, whatever the sorts do
with streams of the same maximum; in the same order of the streams they send the same REMBs. -/
theorem sends_max (sorts : SortsByTarget sort) (few : streams.length ≤ 255)
    (plain : ∀ stream ∈ streams, stream.isSimulcast = false ∧ stream.isSlideShowModeEnabled = false)
    (ran : distribute sort remb ssrc streams = some rounds)
    (maxSort : List MediaStream → List MediaStream) (maxSorts : SortsByMax maxSort) :
    ∃ maxRounds, MaxVideoBWDistributor.distribute maxSort remb ssrc streams = some maxRounds ∧
      rounds.map Round.remb = maxRounds.map MaxVideoBWDistributor.Round.bitrate ∧
      ((sort (streams.map streamInfo)).map MediaStreamInfo.stream = maxSort streams →
        rounds.map Round.generatedRemb = maxRounds.map MaxVideoBWDistributor.Round.generatedRemb) := by
  obtain ⟨_, same, walked, sound⟩ := @distribute_eq sort remb ssrc streams sorts few
  obtain rfl := Option.some_injective _ (ran.symm.trans same)
  obtain ⟨maxRounds, maxRan, shared, maxSound⟩ := MaxVideoBWDistributor.distribute_eq maxSorts remb ssrc few
  have targets : ∀ info ∈ sort (streams.map streamInfo), target info = info.maxVideoBW.toNat := by
    intro info member
    obtain ⟨stream, here, rfl⟩ := List.mem_map.mp ((sorts.perm _).mem_iff.mp member)
    exact target_streamInfo (plain stream here).1 (plain stream here).2
  have caps : (sort (streams.map streamInfo)).map target = (maxSort streams).map MaxVideoBWDistributor.cap := by
    refine List.Perm.eq_of_pairwise (fun _ _ _ _ => Nat.le_antisymm) ?_ ?_ ?_
    · exact List.pairwise_map.mpr (sorted_target sorts _)
    · exact List.pairwise_map.mpr (MaxVideoBWDistributor.sorted_cap maxSorts streams)
    · refine ((sorts.perm _).map target).trans ?_
      rw [List.map_map]
      refine (List.Perm.of_eq (List.map_congr_left fun stream here => ?_)).trans
        ((maxSorts.perm streams).map MaxVideoBWDistributor.cap).symm
      exact target_streamInfo (plain stream here).1 (plain stream here).2
  have bitrates : rounds.map Round.remb = maxRounds.map MaxVideoBWDistributor.Round.bitrate := by
    refine (List.map_injective_iff.mpr fun _ _ => UInt32.toNat_inj.mp) ?_
    rw [List.map_map, List.map_map]
    calc rounds.map (UInt32.toNat ∘ Round.remb)
        = rounds.map fun round => round.bitrate.toNat := by
          refine List.map_congr_left fun round here => ?_
          have listed : round.stream ∈ sort (streams.map streamInfo) := by
            rw [← map_stream walked]
            exact List.mem_map_of_mem here
          rw [Function.comp, Round.remb, (sound round here).remb, (sound round here).bitrate, toNat_min, toNat_min,
            ← targets round.stream listed, target]
      _ = (shares id ((maxSort streams).map MaxVideoBWDistributor.cap) remb.toNat).map Prod.snd := by
          rw [map_bitrate walked sound, map_snd_shares, caps]
      _ = maxRounds.map (UInt32.toNat ∘ MaxVideoBWDistributor.Round.bitrate) := by
          rw [← map_snd_shares, ← shared, List.map_map]
          rfl
  refine ⟨maxRounds, maxRan, bitrates, fun order => ?_⟩
  -- a REMB is made of the stream and the bitrate
  let generated (sent : MediaStream × UInt32) : GeneratedRemb := ⟨ssrc, [sent.1.videoSinkSSRC], sent.2⟩
  have streamsSent : rounds.map (fun round => round.stream.stream) = maxRounds.map MaxVideoBWDistributor.Round.stream := by
    rw [MaxVideoBWDistributor.map_stream shared, ← order, ← map_stream walked, List.map_map]
    rfl
  calc rounds.map Round.generatedRemb
      = (rounds.map fun round => (round.stream.stream, round.remb)).map generated := by
        rw [List.map_map]
        refine List.map_congr_left fun round here => ?_
        rw [Function.comp, Round.remb, (sound round here).remb]
    _ = (maxRounds.map fun round => (round.stream, round.bitrate)).map generated := by
        rw [← List.zip_map', streamsSent, bitrates, List.zip_map']
    _ = maxRounds.map MaxVideoBWDistributor.Round.generatedRemb := by
        rw [List.map_map]
        exact List.map_congr_left fun round here => (maxSound round here).remb.symm

end Distribute

/-- **Never too much, never too little.** For every REMB and up to 255 streams, in whatever order the
sort leaves streams of the same target: every stream has one round; a round reserves the lesser of
the target and the average of what remains, and the reservations sum to the REMB or the sum of the
targets, whichever is less, without an underflow or a division by zero; a stream is sent at most its
maximum, at least what is reserved for it, and at least the lesser of its maximum and the average of
the REMB. Without simulcast and slideshows the bitrates are those `MaxVideoBWDistributor` sends. -/
theorem distribute_target (sort : List MediaStreamInfo → List MediaStreamInfo) (sorts : SortsByTarget sort)
    (remb ssrc : UInt32) (streams : List MediaStream) (few : streams.length ≤ 255) :
    ∃ rounds, distribute sort remb ssrc streams = some rounds ∧
      (rounds.map Round.stream).Perm (streams.map streamInfo) ∧
      (∀ round ∈ rounds, round.bitrate =
        min (getTargetVideoBW round.stream) (round.remainingBitrate / round.remainingStreams.toUInt32)) ∧
      (rounds.map fun round => round.bitrate.toNat).sum =
        min remb.toNat (streams.map fun stream => (getTargetVideoBW (streamInfo stream)).toNat).sum ∧
      (∀ round ∈ rounds, round.bitrate ≤ round.remainingBitrate ∧ 0 < round.remainingStreams) ∧
      (∀ round ∈ rounds, round.remb ≤ round.stream.maxVideoBW ∧ round.bitrate ≤ round.remb ∧
        min round.stream.maxVideoBW.toNat (remb.toNat / streams.length) ≤ round.remb.toNat) ∧
      ((∀ stream ∈ streams, stream.isSimulcast = false ∧ stream.isSlideShowModeEnabled = false) →
        ∀ maxSort, SortsByMax maxSort →
          ∃ maxRounds, MaxVideoBWDistributor.distribute maxSort remb ssrc streams = some maxRounds ∧
            rounds.map Round.remb = maxRounds.map MaxVideoBWDistributor.Round.bitrate ∧
            ((sort (streams.map streamInfo)).map MediaStreamInfo.stream = maxSort streams →
              rounds.map Round.generatedRemb = maxRounds.map MaxVideoBWDistributor.Round.generatedRemb)) := by
  obtain ⟨rounds, ran, walked, sound⟩ := @distribute_eq sort remb ssrc streams sorts few
  have sent : ∀ round ∈ rounds, round.remb.toNat = min round.stream.maxVideoBW.toNat round.average.toNat :=
    fun round here => by rw [Round.remb, (sound round here).remb, toNat_min]
  refine ⟨rounds, ran, ?_, fun round here => (sound round here).bitrate, ?_,
    fun round here => ⟨(sound round here).within, (sound round here).some⟩, fun round here => ⟨?_, ?_, ?_⟩,
    fun plain maxSort maxSorts => sends_max sorts few plain ran maxSort maxSorts⟩
  · rw [map_stream walked]
    exact sorts.perm _
  · rw [map_bitrate walked sound, sum_shares (sorted_target sorts _), ((sorts.perm _).map target).sum_eq, List.map_map]
    rfl
  · rw [UInt32.le_iff_toNat_le, sent round here]
    exact min_le_left _ _
  · rw [UInt32.le_iff_toNat_le, sent round here, (sound round here).bitrate, toNat_min]
    exact min_le_min_right _ (target_le round.stream)
  · have first := le_average walked round here
    rw [(sorts.perm _).length_eq, List.length_map] at first
    rw [sent round here]
    exact min_le_min_left _ first

/-- An order of the streams by their target. -/
def noMoreTarget (first second : MediaStreamInfo) : Prop := target first ≤ target second

instance : DecidableRel noMoreTarget := fun first second => inferInstanceAs (Decidable (target first ≤ target second))

instance : Std.Total noMoreTarget := ⟨fun first second => le_total (target first) (target second)⟩

instance : IsTrans MediaStreamInfo noMoreTarget := ⟨fun _ _ _ => le_trans⟩

theorem insertionSort_sorts : SortsByTarget (List.insertionSort noMoreTarget) where
  perm := List.perm_insertionSort noMoreTarget
  sorted := fun streamInfos => (List.pairwise_insertionSort noMoreTarget streamInfos).imp fun order =>
    UInt32.not_lt.mpr (UInt32.le_iff_toNat_le.mpr order)

/-- A simulcast stream in slideshow mode and two of a single layer. -/
def slideshowStreams : List MediaStream :=
  [⟨0, 0, [0], 0, 1, 900, true, true, 40, 300⟩, ⟨1, 0, [0], 0, 2, 100, true, false, 100, 100⟩,
    ⟨2, 0, [0], 0, 3, 100, true, false, 100, 100⟩]

/-- A REMB of 500: the slideshow reserves 40 of the average of 166 it is sent. -/
theorem distribute_target_slideshow :
    ∃ rounds, distribute (List.insertionSort noMoreTarget) 500 9 slideshowStreams = some rounds ∧
      (rounds.map fun round => round.bitrate.toNat).sum = 240 ∧ rounds.map Round.remb = [166, 100, 100] := by
  obtain ⟨rounds, ran, _, _, total, _⟩ := distribute_target _ insertionSort_sorts 500 9 slideshowStreams (by decide)
  refine ⟨rounds, ran, total, ?_⟩
  have bitrates : (distribute (List.insertionSort noMoreTarget) 500 9 slideshowStreams).map (List.map Round.remb) =
      some [166, 100, 100] := by decide +kernel
  rw [ran] at bitrates
  exact Option.some_injective _ bitrates

end TargetVideoBWDistributor

end Erizo
