/-
**The bitrates of a distribution are the fair shares.**

The rounds of `forEachStream` are the walk of `FairShare.shares`, on the words of the code
(`forEachStream_eq`): a bitrate is at most the average of what remains, so no subtraction goes below
zero, and as many streams are counted as there are left, so none is divided by. On the sorted streams
the shares are max-min fair, which `distribute_fair` says of the bitrates.
-/

import Erizo.Model.BandwidthDistribution
import Mathlib.Data.List.Sort

namespace Erizo

namespace MaxVideoBWDistributor

open Library.FairShare

/-- The most a stream takes. -/
def cap (stream : MediaStream) : ℕ := stream.maxVideoBW.toNat

/-- The bitrate a stream is sent. -/
def Round.bitrate (round : Round) : UInt32 := round.generatedRemb.bitrate

/-- What a stream gets in its round. -/
def Round.share (round : Round) : MediaStream × ℕ := (round.stream, round.bitrate.toNat)

/-- A round sends what the code says, without a subtraction or a division that fails. -/
structure Round.Sound (ssrc : UInt32) (round : Round) : Prop where
  remb : round.generatedRemb = ⟨ssrc, [round.stream.videoSinkSSRC], round.bitrate⟩
  within : round.bitrate ≤ round.remainingBitrate
  some : 0 < round.remainingStreams

theorem toNat_min (first second : UInt32) : (min first second).toNat = min first.toNat second.toNat := by
  show (if first ≤ second then first else second).toNat = _
  by_cases order : first ≤ second
  · rw [if_pos order, min_eq_left (UInt32.le_iff_toNat_le.mp order)]
  · have above : second.toNat ≤ first.toNat := Nat.le_of_not_le (UInt32.le_iff_toNat_le.not.mp order)
    rw [if_neg order, min_eq_right above]

theorem toNat_pred {count : UInt8} (some : count ≠ 0) : (count - 1).toNat = count.toNat - 1 := by
  have one : (1 : UInt8) ≤ count := by
    rw [UInt8.le_iff_toNat_le]
    exact UInt8.lt_iff_toNat_lt.mp (UInt8.pos_iff_ne_zero.mpr some)
  rw [UInt8.toNat_sub_of_le _ _ one]
  rfl

theorem pred_lt {count : UInt8} {length : ℕ} (some : count ≠ 0) (fewer : count.toNat < length + 1) :
    (count - 1).toNat < length := by
  have positive : 0 < count.toNat := UInt8.lt_iff_toNat_lt.mp (UInt8.pos_iff_ne_zero.mpr some)
  rw [toNat_pred some]
  omega

/-- **The rounds are the walk of the shares**, without a division by zero or a subtraction below it. -/
theorem forEachStream_eq (ssrc : UInt32) (streams : List MediaStream) :
    ∀ (remainingBitrate : UInt32) (remainingStreams : UInt8), remainingStreams.toNat = streams.length →
      ∃ rounds, forEachStream ssrc streams remainingBitrate remainingStreams = some rounds ∧
        rounds.map Round.share = shares cap streams remainingBitrate.toNat ∧
        ∀ round ∈ rounds, round.Sound ssrc := by
  induction streams with
  | nil => exact fun _ _ _ => ⟨[], rfl, rfl, fun _ member => absurd member List.not_mem_nil⟩
  | cons stream streams ih =>
      intro remainingBitrate remainingStreams count
      rw [List.length_cons] at count
      have some : remainingStreams ≠ 0 := by
        rintro rfl
        exact absurd count (Nat.succ_ne_zero _).symm
      have fewer : (remainingStreams - 1).toNat = streams.length := by
        rw [toNat_pred some, count]
        rfl
      generalize share : min stream.maxVideoBW (remainingBitrate / remainingStreams.toUInt32) = bitrate
      have value : bitrate.toNat = min (cap stream) (remainingBitrate.toNat / (streams.length + 1)) := by
        rw [← share, toNat_min, UInt32.toNat_div, UInt8.toNat_toUInt32, count]
        rfl
      have within : bitrate ≤ remainingBitrate := by
        rw [UInt32.le_iff_toNat_le, value]
        exact le_trans (min_le_right _ _) (Nat.div_le_self _ _)
      obtain ⟨rounds, ran, shared, sound⟩ := ih (remainingBitrate - bitrate) (remainingStreams - 1) fewer
      refine ⟨⟨stream, remainingBitrate, remainingStreams, ⟨ssrc, [stream.videoSinkSSRC], bitrate⟩⟩ :: rounds,
        ?_, ?_, ?_⟩
      · simp only [forEachStream, if_neg some, share, ran]
        rfl
      · rw [UInt32.toNat_sub_of_le _ _ within, value] at shared
        rw [List.map_cons, shared, shares, ← value]
        rfl
      · exact List.forall_mem_cons.mpr ⟨⟨rfl, within, UInt8.pos_iff_ne_zero.mpr some⟩, sound⟩

/-- When the count runs out before the streams do, a round divides by zero. -/
theorem forEachStream_none (ssrc : UInt32) (streams : List MediaStream) :
    ∀ (remainingBitrate : UInt32) (remainingStreams : UInt8), remainingStreams.toNat < streams.length →
      forEachStream ssrc streams remainingBitrate remainingStreams = none := by
  induction streams with
  | nil => exact fun _ _ fewer => absurd fewer (Nat.not_lt_zero _)
  | cons stream streams ih =>
      intro remainingBitrate remainingStreams fewer
      by_cases zero : remainingStreams = 0
      · rw [forEachStream, if_pos zero]
      · have left : (remainingStreams - 1).toNat < streams.length := pred_lt zero fewer
        simp only [forEachStream, if_neg zero, ih _ _ left]
        rfl

/-- The rounds of `distribute` are a walk over the sorted streams. -/
theorem distribute_eq {sort : List MediaStream → List MediaStream} (sorts : SortsByMax sort) (remb ssrc : UInt32)
    {streams : List MediaStream} (few : streams.length ≤ 255) :
    ∃ rounds, distribute sort remb ssrc streams = some rounds ∧
      rounds.map Round.share = shares cap (sort streams) remb.toNat ∧ ∀ round ∈ rounds, round.Sound ssrc := by
  refine forEachStream_eq ssrc (sort streams) remb _ ?_
  rw [(sorts.perm streams).length_eq, UInt8.toNat_ofNat', Nat.mod_eq_of_lt (by omega)]

theorem sorted_cap {sort : List MediaStream → List MediaStream} (sorts : SortsByMax sort) (streams : List MediaStream) :
    (sort streams).Pairwise fun first second => cap first ≤ cap second :=
  (sorts.sorted streams).imp fun order => UInt32.le_iff_toNat_le.mp (UInt32.not_lt.mp order)

/-- The streams of a walk are those it was started with. -/
theorem map_stream {streams : List MediaStream} {remb : UInt32} {rounds : List Round}
    (shared : rounds.map Round.share = shares cap streams remb.toNat) : rounds.map Round.stream = streams := by
  rw [← @map_fst_shares _ cap streams remb.toNat, ← shared, List.map_map]
  rfl

/-- **The max-min fair share.** For every REMB and up to 255 streams, in whatever order the sort
leaves streams of the same maximum: the bitrates sum to the REMB or the sum of the maxima, whichever
is less; none exceeds its stream's maximum; two streams below theirs differ by at most one, and no
stream exceeds one below its maximum by more than one. Nothing underflows and nothing is divided by
zero. -/
theorem distribute_fair (sort : List MediaStream → List MediaStream) (sorts : SortsByMax sort) (remb ssrc : UInt32)
    (streams : List MediaStream) (few : streams.length ≤ 255) :
    ∃ rounds, distribute sort remb ssrc streams = some rounds ∧
      (rounds.map Round.stream).Perm streams ∧
      (rounds.map fun round => round.bitrate.toNat).sum =
        min remb.toNat (streams.map fun stream => stream.maxVideoBW.toNat).sum ∧
      (∀ round ∈ rounds, round.bitrate ≤ round.stream.maxVideoBW) ∧
      (∀ round ∈ rounds, ∀ other ∈ rounds, round.bitrate < round.stream.maxVideoBW →
        other.bitrate < other.stream.maxVideoBW →
        other.bitrate.toNat ≤ round.bitrate.toNat + 1 ∧ round.bitrate.toNat ≤ other.bitrate.toNat + 1) ∧
      (∀ round ∈ rounds, ∀ other ∈ rounds, round.bitrate < round.stream.maxVideoBW →
        other.bitrate.toNat ≤ round.bitrate.toNat + 1) ∧
      ∀ round ∈ rounds, round.bitrate ≤ round.remainingBitrate ∧ 0 < round.remainingStreams := by
  have sorted := sorted_cap sorts streams
  obtain ⟨rounds, ran, shared, sound⟩ := distribute_eq sorts remb ssrc few
  have member : ∀ round ∈ rounds, round.share ∈ shares cap (sort streams) remb.toNat := fun round here => by
    rw [← shared]
    exact List.mem_map_of_mem here
  have fair : ∀ round ∈ rounds, ∀ other ∈ rounds, round.bitrate < round.stream.maxVideoBW →
      other.bitrate.toNat ≤ round.bitrate.toNat + 1 := fun round here other there below =>
    shares_fair sorted round.share (member round here) other.share (member other there)
      (UInt32.lt_iff_toNat_lt.mp below)
  refine ⟨rounds, ran, ?_, ?_, ?_, ?_, fair, fun round here => ⟨(sound round here).within, (sound round here).some⟩⟩
  · rw [map_stream shared]
    exact sorts.perm streams
  · have total : ((shares cap (sort streams) remb.toNat).map Prod.snd).sum = _ := sum_shares sorted
    rw [← shared, List.map_map, ((sorts.perm streams).map cap).sum_eq] at total
    exact total
  · intro round here
    exact UInt32.le_iff_toNat_le.mpr (shares_le_cap round.share (member round here))
  · intro round here other there below lower
    exact ⟨fair round here other there below, fair other there round here lower⟩

/-- An order of the streams by their maximum. -/
def noMore (first second : MediaStream) : Prop := cap first ≤ cap second

instance : DecidableRel noMore := fun first second => inferInstanceAs (Decidable (cap first ≤ cap second))

instance : Std.Total noMore := ⟨fun first second => le_total (cap first) (cap second)⟩

instance : IsTrans MediaStream noMore := ⟨fun _ _ _ => le_trans⟩

theorem insertionSort_sorts : SortsByMax (List.insertionSort noMore) where
  perm := List.perm_insertionSort noMore
  sorted := fun streams => (List.pairwise_insertionSort noMore streams).imp fun order =>
    UInt32.not_lt.mpr (UInt32.le_iff_toNat_le.mpr order)

/-- A stream with a sink SSRC and a maximum. -/
def sinkStream (ssrc maxVideoBW : UInt32) : MediaStream := ⟨0, 0, [0], 0, ssrc, maxVideoBW, false, false, 0, 0⟩

/-- A REMB of 800 for maxima of 500, 100 and 500 is used up; the stream of 100 gets it whole. -/
theorem distribute_fair_three :
    ∃ rounds,
      distribute (List.insertionSort noMore) 800 9 [sinkStream 1 500, sinkStream 2 100, sinkStream 3 500] = some rounds ∧
      (rounds.map fun round => round.bitrate.toNat).sum = 800 ∧
      rounds.map (fun round => round.bitrate) = [100, 350, 350] := by
  obtain ⟨rounds, ran, _, total, _⟩ := distribute_fair _ insertionSort_sorts 800 9
    [sinkStream 1 500, sinkStream 2 100, sinkStream 3 500] (by decide)
  refine ⟨rounds, ran, total, ?_⟩
  have bitrates : (distribute (List.insertionSort noMore) 800 9
      [sinkStream 1 500, sinkStream 2 100, sinkStream 3 500]).map (List.map Round.bitrate) =
        some [100, 350, 350] := by decide +kernel
  rw [ran] at bitrates
  exact Option.some_injective _ bitrates

end MaxVideoBWDistributor

end Erizo
