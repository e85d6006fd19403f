/-
**The bitrate of a REMB is a rounding down.**

On 32-bit rates the `while` of `setREMBBitRate` finds the least exponent for mantissas below
`2^18 - 1` (`brExponent_isExponent`), and mantissa and exponent come back from the three bytes they
are written to. What `getREMBBitRate` reads is therefore `ShortFloat.rounded`, and the codec has its
bounds.
-/

import Erizo.Library.ShortFloat
import Erizo.Model.RtpHeaders

namespace Erizo

namespace RtcpHeader

open Library Library.Bytes Library.ShortFloat

/-- The mantissas are below this: 18 bits, all set. -/
def mantissaLimit : ℕ := 2 ^ 18 - 1

/-- No 32-bit rate needs an exponent above 15. -/
theorem lt_limit_mul {bitRate : ℕ} (word : bitRate < 2 ^ 32) : bitRate < mantissaLimit * 2 ^ 15 :=
  lt_of_lt_of_le word (by decide)

/-- The bound of a further round. -/
theorem toNat_double {max : UInt64} {exp : ℕ} (bound : max.toNat = mantissaLimit * 2 ^ exp) (few : exp ≤ 15) :
    (max <<< 1).toNat = mantissaLimit * 2 ^ (exp + 1) := by
  have small : 2 ^ exp ≤ 2 ^ 15 := Nat.pow_le_pow_right (by decide) few
  rw [UInt64.toNat_shiftLeft, bound, Nat.shiftLeft_eq, pow_succ, Nat.mul_assoc]
  refine Nat.mod_eq_of_lt ?_
  calc mantissaLimit * (2 ^ exp * 2 ^ ((1 : UInt64).toNat % 64))
      ≤ mantissaLimit * (2 ^ 15 * 2 ^ 1) := Nat.mul_le_mul_left _ (Nat.mul_le_mul_right _ small)
    _ < 2 ^ 64 := by decide

/-- **The exponent that is found is the least.** -/
theorem brExponent_isExponent {bitRate : UInt64} (word : bitRate.toNat < 2 ^ 32) :
    ∀ (rounds : ℕ) (max : UInt64) (exp : ℕ), max.toNat = mantissaLimit * 2 ^ exp → exp ≤ 15 → 15 ≤ exp + rounds →
      (∀ smaller < exp, mantissaLimit * 2 ^ smaller ≤ bitRate.toNat) →
      IsExponent mantissaLimit bitRate.toNat (brExponent bitRate rounds max exp) := by
  intro rounds
  induction rounds with
  | zero =>
      intro max exp _ few enough least
      obtain rfl : exp = 15 := by omega
      exact ⟨lt_limit_mul word, least⟩
  | succ rounds ih =>
      intro max exp bound few enough least
      rw [brExponent]
      by_cases above : bitRate ≥ max
      · have reached : mantissaLimit * 2 ^ exp ≤ bitRate.toNat := bound ▸ UInt64.le_iff_toNat_le.mp above
        have more : exp ≠ 15 := by
          rintro rfl
          exact absurd (lt_limit_mul word) (Nat.not_lt.mpr reached)
        rw [if_pos above]
        refine ih _ _ (toNat_double bound few) (by omega) (by omega) fun smaller less => ?_
        rcases Nat.lt_succ_iff_lt_or_eq.mp less with less | rfl
        · exact least smaller less
        · exact reached
      · rw [if_neg above]
        refine ⟨?_, least⟩
        rw [← bound]
        exact UInt64.lt_iff_toNat_lt.mp (UInt64.not_le.mp above)

/-- The exponent of a 32-bit rate. -/
def exponentOf (bitRate : UInt32) : ℕ := brExponent bitRate.toUInt64 64 0x3FFFF 0

theorem exponentOf_isExponent (bitRate : UInt32) : IsExponent mantissaLimit bitRate.toNat (exponentOf bitRate) := by
  have word : bitRate.toUInt64.toNat < 2 ^ 32 := bitRate.toNat_lt
  exact brExponent_isExponent word 64 0x3FFFF 0 (by decide) (Nat.zero_le _) (by decide) fun _ less =>
    absurd less (Nat.not_lt_zero _)

theorem exponentOf_le (bitRate : UInt32) : exponentOf bitRate ≤ 15 := by
  by_contra above
  have least := (exponentOf_isExponent bitRate).least 15 (Nat.lt_of_not_le above)
  exact absurd (lt_limit_mul bitRate.toNat_lt) (Nat.not_lt.mpr least)

/-- What a 32-bit rate is read back as. -/
def readBack (bitRate : UInt32) : UInt32 := UInt32.ofNat (rounded bitRate.toNat (exponentOf bitRate))

theorem toNat_readBack (bitRate : UInt32) : (readBack bitRate).toNat = rounded bitRate.toNat (exponentOf bitRate) := by
  rw [readBack, UInt32.toNat_ofNat']
  exact Nat.mod_eq_of_lt (lt_of_le_of_lt (rounded_le _ _) bitRate.toNat_lt)

variable (data : Memory) (chead : ℕ)

theorem getBrExp_eq : getBrExp data chead = read24 data (chead + 17) / 2 ^ 18 := by
  have first := (data (chead + 17)).toNat_lt
  have second := (data (chead + 17 + 1)).toNat_lt
  have third := (data (chead + 17 + 2)).toNat_lt
  rw [getBrExp, read24]
  omega

theorem getBrMantis_eq : getBrMantis data chead = read24 data (chead + 17) % 2 ^ 18 := rfl

/-- **Written and read**: a 32-bit rate is written, three bytes of the block change, and what is read is
the rate without the bits below its exponent. -/
theorem setREMBBitRate_spec (bitRate : UInt32) :
    ∃ after, setREMBBitRate data chead bitRate.toUInt64 = some after ∧
      getREMBBitRate after chead = some (readBack bitRate).toUInt64 ∧
      ∀ address, address < chead + 17 ∨ chead + 20 ≤ address → after address = data address := by
  have few := exponentOf_le bitRate
  obtain ⟨mantissa, value⟩ : ∃ mantissa, mantissa = bitRate.toNat / 2 ^ exponentOf bitRate := ⟨_, rfl⟩
  have short : mantissa < 2 ^ 18 := by
    rw [value]
    exact lt_trans (exponentOf_isExponent bitRate).mantissa_lt (by decide)
  refine ⟨write24 data (chead + 17) (mantissa + exponentOf bitRate * 2 ^ 18), ?_, ?_,
    fun address apart => write24_of_disjoint data _ apart⟩
  · have room : brExponent bitRate.toUInt64 64 0x3FFFF 0 < 64 := lt_of_le_of_lt few (by decide)
    rw [setREMBBitRate, if_pos room]
    change some (write24 data (chead + 17)
      (bitRate.toNat / 2 ^ exponentOf bitRate % 2 ^ 18 + exponentOf bitRate * 2 ^ 18)) = _
    rw [← value, Nat.mod_eq_of_lt short]
  · have line : (mantissa + exponentOf bitRate * 2 ^ 18) % 2 ^ 24 = mantissa + exponentOf bitRate * 2 ^ 18 :=
      Nat.mod_eq_of_lt (by omega)
    have high : (mantissa + exponentOf bitRate * 2 ^ 18) / 2 ^ 18 = exponentOf bitRate := by
      rw [Nat.add_mul_div_right _ _ (Nat.two_pow_pos 18), Nat.div_eq_of_lt short, Nat.zero_add]
    have low : (mantissa + exponentOf bitRate * 2 ^ 18) % 2 ^ 18 = mantissa := by
      rw [Nat.add_mul_mod_self_right, Nat.mod_eq_of_lt short]
    rw [getREMBBitRate, getBrExp_eq, getBrMantis_eq, read24_write24, line, high, low,
      if_pos (lt_of_le_of_lt few (by decide)), value]
    refine congrArg some (UInt64.toNat_inj.mp ?_)
    have word : rounded bitRate.toNat (exponentOf bitRate) < 2 ^ 32 := lt_of_le_of_lt (rounded_le _ _) bitRate.toNat_lt
    rw [UInt32.toNat_toUInt64, toNat_readBack, UInt64.toNat_ofNat']
    change rounded bitRate.toNat (exponentOf bitRate) % 2 ^ 32 % 2 ^ 64 = _
    rw [Nat.mod_eq_of_lt word, Nat.mod_eq_of_lt (lt_trans word (by decide))]

/-- **A sound rounding of 32-bit rates.** What is read back is at most the rate and misses at most two
parts in `2^18 - 1` of it; written again it stays; a larger rate is not read back as a smaller one;
and the number of SSRCs and every other byte stay as they were. -/
theorem rembBitRate_rounds (bitRate : UInt32) :
    ∃ after decoded,
      setREMBBitRate data chead bitRate.toUInt64 = some after ∧ getREMBBitRate after chead = some decoded ∧
      decoded ≤ bitRate.toUInt64 ∧
      (bitRate.toNat - decoded.toNat) * (2 ^ 18 - 1) ≤ 2 * bitRate.toNat ∧
      (∀ memory, ∃ again, setREMBBitRate memory chead decoded = some again ∧ getREMBBitRate again chead = some decoded) ∧
      (∀ (memory larger : Memory) (greater : UInt32) (decodedGreater : UInt64), bitRate ≤ greater →
        setREMBBitRate memory chead greater.toUInt64 = some larger → getREMBBitRate larger chead = some decodedGreater →
        decoded ≤ decodedGreater) ∧
      getREMBNumSSRC after chead = getREMBNumSSRC data chead ∧
      ∀ address, address < chead + 17 ∨ chead + 20 ≤ address → after address = data address := by
  obtain ⟨after, written, read, rest⟩ := setREMBBitRate_spec data chead bitRate
  have first := exponentOf_isExponent bitRate
  refine ⟨after, _, written, read, ?_, ?_, fun memory => ?_, ?_, rest _ (.inl (Nat.lt_succ_self _)), rest⟩
  · rw [UInt64.le_iff_toNat_le, UInt32.toNat_toUInt64, UInt32.toNat_toUInt64, toNat_readBack]
    exact rounded_le _ _
  · rw [UInt32.toNat_toUInt64, toNat_readBack]
    exact error_le first
  · obtain ⟨again, rewritten, reread, _⟩ := setREMBBitRate_spec memory chead (readBack bitRate)
    refine ⟨again, rewritten, reread.trans (congrArg (fun rate : UInt32 => some rate.toUInt64) ?_)⟩
    have second := exponentOf_isExponent (readBack bitRate)
    rw [toNat_readBack] at second
    rw [← UInt32.toNat_inj, toNat_readBack, toNat_readBack]
    exact rounded_rounded first second
  · intro memory larger greater decodedGreater order writtenGreater readGreater
    obtain ⟨_, same, value, _⟩ := setREMBBitRate_spec memory chead greater
    obtain rfl := Option.some_injective _ (writtenGreater.symm.trans same)
    obtain rfl := Option.some_injective _ (readGreater.symm.trans value)
    rw [UInt64.le_iff_toNat_le, UInt32.toNat_toUInt64, UInt32.toNat_toUInt64, toNat_readBack, toNat_readBack]
    exact rounded_le_rounded first (exponentOf_isExponent greater) (UInt32.le_iff_toNat_le.mp order)

end RtcpHeader

end Erizo
