/-
**The rate of the token bucket.**

Where no number of 64 bits wraps (`Fits`), `consume` is the request of a clock that runs behind (`consume_eq`), with
`1000000 / rate` microseconds for a token. The bucket keeps its rate when that is the exact time of a token
(`limited_of_fits`). A division with a rest makes tokens too cheap: after a burst the next token comes early
(`not_limited_of_not_whole`), and beyond a million tokens in a second they cost nothing.
-/

import Erizo.Library.VirtualClock
import Erizo.Model.RtpRetransmissionHandler

namespace Erizo

namespace TokenBucket

open Library Library.VirtualClock

/-! ### Runs -/

/-- A call of `consume`: the microseconds of the clock, and the tokens asked for. -/
structure Call where
  now : UInt64
  tokens : UInt64
  deriving DecidableEq, Repr

/-- A call, with the tokens that are granted and when. -/
def step (bucket : TokenBucket) (call : Call) : TokenBucket × ℕ × ℕ :=
  let (bucket, granted) := bucket.consume call.now call.tokens
  (bucket, call.now.toNat, if granted then call.tokens.toNat else 0)

/-- What a new bucket grants, call by call. -/
def grants (rate burst : UInt64) (calls : List Call) : List (ℕ × ℕ) := Machine.outputs step (init rate burst) calls

/-- The clock does not go back. -/
def InOrder (calls : List Call) : Prop := calls.Pairwise fun earlier later => earlier.now ≤ later.now

instance InOrder.decidable (calls : List Call) : Decidable (InOrder calls) :=
  inferInstanceAs (Decidable (List.Pairwise _ _))

/-- In every span of microseconds at most the burst is granted, and what the rate gives. -/
def Limited (rate burst : UInt64) (calls : List Call) : Prop :=
  ∀ start span : ℕ,
    between start (start + span) (grants rate burst calls) ≤ burst.toNat + rate.toNat * span / 1000000

/-- The first call of a new bucket gets what it asks for within the burst. -/
def Fresh (rate burst : UInt64) (calls : List Call) : Prop :=
  ∀ call ∈ calls.head?, call.tokens ≤ burst → ((init rate burst).consume call.now call.tokens).2 = true

/-- The microseconds of a token. -/
def cost (rate : UInt64) : ℕ := 1000000 / rate.toNat

/-- A token takes a whole number of microseconds, or there is no burst and a token takes time. -/
def Whole (rate burst : UInt64) : Prop := rate.toNat ∣ 1000000 ∨ burst = 0 ∧ rate.toNat ≤ 1000000

instance Whole.decidable (rate burst : UInt64) : Decidable (Whole rate burst) := inferInstanceAs (Decidable (_ ∨ _))

/-- A call without wraps: the clock is past the time of the burst, and the time the call wants the mark at has 64
bits. -/
def Fits (rate burst : UInt64) (bucket : TokenBucket) (call : Call) : Prop :=
  burst.toNat * cost rate ≤ call.now.toNat ∧
    target (cost rate) (burst.toNat * cost rate) bucket.time.toNat call.now.toNat call.tokens.toNat < 2 ^ 64

instance Fits.decidable (rate burst : UInt64) (bucket : TokenBucket) (call : Call) :
    Decidable (Fits rate burst bucket call) := inferInstanceAs (Decidable (_ ∧ _))

/-! ### A call -/

section Consume

variable {rate burst : UInt64}

theorem toNat_cost (positive : 1 ≤ rate) : (1000000 / max rate 1).toNat = cost rate := by
  have larger : max rate 1 = rate := by
    rw [UInt64.le_iff_toNat_le] at positive
    show (if rate ≤ 1 then 1 else rate) = rate
    split
    · next less =>
        rw [UInt64.le_iff_toNat_le] at less
        exact UInt64.toNat_inj.mp (Nat.le_antisymm positive less)
    · rfl
  rw [larger, UInt64.toNat_div, cost]
  rfl

/-- The bucket has the times it was made with, and its mark. -/
def Marks (rate burst : UInt64) (bucket : TokenBucket) (mark : ℕ) : Prop :=
  bucket.timePerToken = (init rate burst).timePerToken ∧ bucket.timePerBurst = (init rate burst).timePerBurst ∧
    bucket.time.toNat = mark

theorem marks_init : Marks rate burst (init rate burst) 0 := ⟨rfl, rfl, rfl⟩

/-- The later of two times. -/
theorem toNat_later (first second : UInt64) :
    (if first > second then first else second).toNat = max second.toNat first.toNat := by
  split
  · next more =>
      have := UInt64.lt_iff_toNat_lt.mp more
      omega
  · next less =>
      have := UInt64.le_iff_toNat_le.mp (UInt64.not_lt.mp less)
      omega

/-- **`consume` without wraps**: the mark is moved to where it is wanted unless that is later than the clock. -/
theorem consume_cases (positive : 1 ≤ rate) {bucket : TokenBucket} {mark : ℕ} (marks : Marks rate burst bucket mark)
    {call : Call} (fits : Fits rate burst bucket call) :
    (∃ after, bucket.consume call.now call.tokens = (after, true) ∧
        target (cost rate) (burst.toNat * cost rate) mark call.now.toNat call.tokens.toNat ≤ call.now.toNat ∧
        Marks rate burst after
          (target (cost rate) (burst.toNat * cost rate) mark call.now.toNat call.tokens.toNat)) ∨
      bucket.consume call.now call.tokens = (bucket, false) ∧
        ¬target (cost rate) (burst.toNat * cost rate) mark call.now.toNat call.tokens.toNat ≤ call.now.toNat := by
  obtain ⟨perToken, perBurst, rfl⟩ := marks
  obtain ⟨late, small⟩ := fits
  have token : bucket.timePerToken.toNat = cost rate := by
    rw [perToken]
    exact toNat_cost positive
  have whole : bucket.timePerBurst.toNat = burst.toNat * cost rate := by
    rw [perBurst, init, UInt64.toNat_mul, toNat_cost positive]
    exact Nat.mod_eq_of_lt (late.trans_lt call.now.toNat_lt)
  have needed : (call.tokens * bucket.timePerToken).toNat = call.tokens.toNat * cost rate := by
    rw [UInt64.toNat_mul, token]
    exact Nat.mod_eq_of_lt ((Nat.le_add_left _ _).trans_lt small)
  have least : (call.now - bucket.timePerBurst).toNat = call.now.toNat - burst.toNat * cost rate := by
    rw [UInt64.toNat_sub_of_le _ _ (UInt64.le_iff_toNat_le.mpr (whole ▸ late)), whole]
  have wanted : ((if call.now - bucket.timePerBurst > bucket.time then call.now - bucket.timePerBurst else bucket.time) +
      call.tokens * bucket.timePerToken).toNat =
        target (cost rate) (burst.toNat * cost rate) bucket.time.toNat call.now.toNat call.tokens.toNat := by
    rw [UInt64.toNat_add, toNat_later, needed, least]
    exact Nat.mod_eq_of_lt small
  unfold consume
  dsimp only
  by_cases granted : target (cost rate) (burst.toNat * cost rate) bucket.time.toNat call.now.toNat call.tokens.toNat ≤
      call.now.toNat
  · have reached := UInt64.not_lt.mpr (UInt64.le_iff_toNat_le.mpr (wanted ▸ granted))
    rw [if_neg reached]
    exact Or.inl ⟨_, rfl, granted, perToken, perBurst, wanted⟩
  · have missed := UInt64.lt_iff_toNat_lt.mpr (wanted ▸ Nat.lt_of_not_le granted)
    rw [if_pos missed]
    exact Or.inr ⟨rfl, granted⟩

/-- A call is a request to the clock that runs behind. -/
theorem step_eq (positive : 1 ≤ rate) {bucket : TokenBucket} {mark : ℕ} {call : Call} (fits : Fits rate burst bucket call)
    (marks : Marks rate burst bucket mark) :
    Marks rate burst (step bucket call).1
        (request (cost rate) (burst.toNat * cost rate) mark (call.now.toNat, call.tokens.toNat)).1 ∧
      (step bucket call).2 =
        (request (cost rate) (burst.toNat * cost rate) mark (call.now.toNat, call.tokens.toNat)).2 := by
  unfold step request
  rcases consume_cases positive marks fits with ⟨after, granted, reached, moved⟩ | ⟨refused, missed⟩
  · rw [granted, if_pos reached]
    exact ⟨moved, rfl⟩
  · rw [refused, if_neg missed]
    exact ⟨marks, rfl⟩

/-- What a new bucket grants without wraps. -/
theorem grants_eq (positive : 1 ≤ rate) {calls : List Call}
    (fits : Machine.Guarded step (Fits rate burst) (init rate burst) calls) :
    grants rate burst calls =
      Machine.outputs (request (cost rate) (burst.toNat * cost rate)) 0
        (calls.map fun call => (call.now.toNat, call.tokens.toNat)) := by
  have same := @Machine.Guarded.outputs_eq _ _ _ step _ _ _ (request (cost rate) (burst.toNat * cost rate))
    (Fits rate burst) (fun call => (call.now.toNat, call.tokens.toNat)) id (Marks rate burst)
    (fun _ _ _ fits marks => step_eq positive fits marks) _ _ _ fits marks_init
  rwa [List.map_id] at same

end Consume

/-! ### The rate -/

section Rate

variable {rate burst : UInt64}

/-- **A bucket with a whole time for each token keeps its rate.** -/
theorem limited_of_fits (positive : 1 ≤ rate) (whole : Whole rate burst) {calls : List Call}
    (fits : Machine.Guarded step (Fits rate burst) (init rate burst) calls) : Limited rate burst calls := by
  intro start span
  rw [grants_eq positive fits]
  have one : 0 < rate.toNat := UInt64.le_iff_toNat_le.mp positive
  rcases whole with divides | ⟨rfl, slow⟩
  · have product : rate.toNat * cost rate = 1000000 := Nat.mul_div_cancel' divides
    have each : 0 < cost rate := Nat.pos_of_ne_zero fun free => by
      rw [free] at product
      omega
    have spans : rate.toNat * span / 1000000 = span / cost rate := by
      rw [← product, Nat.mul_div_mul_left _ _ one]
    rw [spans]
    exact between_le each start span 0 _
  · rw [UInt64.toNat_zero, Nat.zero_mul, @between_eq_zero (cost rate) (Nat.div_pos slow one)]
    exact Nat.zero_le _

/-- A new bucket grants a request within its burst once the clock is past the time of the burst. -/
theorem fresh_of_fits (positive : 1 ≤ rate) {calls : List Call}
    (fits : Machine.Guarded step (Fits rate burst) (init rate burst) calls) : Fresh rate burst calls := by
  intro call first few
  cases calls with
  | nil => exact absurd first (by simp)
  | cons head rest =>
      obtain rfl : head = call := by simpa using first
      have reached := @granted_of_le (cost rate) _ _ _ fits.1.1 (UInt64.le_iff_toNat_le.mp few)
      rcases consume_cases positive marks_init fits.1 with ⟨after, granted, -, -⟩ | ⟨-, missed⟩
      · rw [granted]
      · exact absurd reached missed

/-- **The bucket enforces its rate** along every run without wraps, where a token takes a whole number of
microseconds. -/
theorem enforces_of_fits (rate burst : UInt64) (positive : 1 ≤ rate) (whole : Whole rate burst) (calls : List Call)
    (fits : Machine.Guarded step (Fits rate burst) (init rate burst) calls) :
    Limited rate burst calls ∧ Fresh rate burst calls :=
  ⟨limited_of_fits positive whole fits, fresh_of_fits positive fits⟩

/-- A burst of thirty tokens, and two more at a token in a tenth of a second, the second one too early. -/
theorem enforces_of_fits_thirty :
    let calls : List Call := [⟨40000000, 30⟩, ⟨40100000, 1⟩, ⟨40150000, 1⟩]
    Limited 10 30 calls ∧ Fresh 10 30 calls :=
  enforces_of_fits 10 30 (by decide) (by decide) _ (by decide)

/-- **A rate with a rest is exceeded**: the token after a burst comes too early. -/
theorem not_limited_of_not_whole (positive : 1 ≤ rate) (broken : ¬Whole rate burst)
    (room : (burst.toNat + 1) * cost rate < 2 ^ 64) :
    ∃ calls, InOrder calls ∧ Machine.Guarded step (Fits rate burst) (init rate burst) calls ∧
      ¬Limited rate burst calls := by
  have cheap : rate.toNat * cost rate < 1000000 :=
    (Nat.mul_div_le 1000000 rate.toNat).lt_of_ne fun product => broken (Or.inl ⟨_, product.symm⟩)
  -- the first token after the burst is free where there is no burst
  have burst_or_free : 1 ≤ burst.toNat ∨ cost rate = 0 := by
    rcases Nat.eq_zero_or_pos burst.toNat with none | some
    · refine Or.inr (Nat.div_eq_of_lt (Nat.lt_of_not_le fun slow => broken (Or.inr ⟨?_, slow⟩)))
      exact UInt64.toNat_inj.mp none
    · exact Or.inl some
  have bursts : cost rate ≤ burst.toNat * cost rate := by
    rcases burst_or_free with some | free
    · exact Nat.le_mul_of_pos_left _ some
    · rw [free]
      exact Nat.zero_le _
  rw [Nat.add_mul, Nat.one_mul] at room
  have first : (UInt64.ofNat (burst.toNat * cost rate)).toNat = burst.toNat * cost rate :=
    UInt64.toNat_ofNat_of_lt' (by rw [UInt64.size]; omega)
  have second : (UInt64.ofNat (burst.toNat * cost rate + cost rate)).toNat = burst.toNat * cost rate + cost rate :=
    UInt64.toNat_ofNat_of_lt' room
  have begins : Fits rate burst (init rate burst) ⟨UInt64.ofNat (burst.toNat * cost rate), burst⟩ := by
    refine ⟨first.ge, ?_⟩
    show max 0 ((UInt64.ofNat (burst.toNat * cost rate)).toNat - _) + burst.toNat * cost rate < _
    omega
  obtain ⟨⟨-, -, moved⟩, -⟩ := step_eq positive begins marks_init
  dsimp only at moved
  rw [first, request_burst] at moved
  have fits : Machine.Guarded step (Fits rate burst) (init rate burst)
      [⟨UInt64.ofNat (burst.toNat * cost rate), burst⟩, ⟨UInt64.ofNat (burst.toNat * cost rate + cost rate), 1⟩] := by
    refine ⟨begins, ⟨second.ge.trans' (Nat.le_add_right _ _), ?_⟩, trivial⟩
    rw [moved]
    dsimp only
    rw [second, target, UInt64.toNat_one]
    omega
  refine ⟨_, List.pairwise_pair.mpr (UInt64.le_iff_toNat_le.mpr ?_), fits, fun limited => ?_⟩
  · rw [first, second]
    exact Nat.le_add_right _ _
  · have bound := limited (burst.toNat * cost rate) (cost rate)
    rw [Nat.div_eq_of_lt cheap, grants_eq positive fits] at bound
    simp only [List.map_cons, List.map_nil, Machine.outputs, first, second, UInt64.toNat_one, request_burst,
      request_next bursts] at bound
    have both : between (burst.toNat * cost rate) (burst.toNat * cost rate + cost rate)
        [(burst.toNat * cost rate, burst.toNat), (burst.toNat * cost rate + cost rate, 1)] = burst.toNat + 1 := by
      rw [between_cons_of_mem (by simp), between_cons_of_mem (by simp), between_nil]
    omega

end Rate

/-- At two million tokens a second a token takes no time: the burst is granted twice in the same microsecond. -/
theorem not_enforces_two_million :
    ¬∀ (rate burst : UInt64), 1 ≤ rate → ∀ calls, InOrder calls → Limited rate burst calls ∧ Fresh rate burst calls := by
  intro enforces
  have bound := (enforces 2000000 255 (by decide) [⟨50000000, 255⟩, ⟨50000000, 255⟩] (by decide)).1 50000000 0
  exact absurd bound (by decide)

end TokenBucket

end Erizo
