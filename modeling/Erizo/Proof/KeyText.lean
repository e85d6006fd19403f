/-
**Keys as text.**

What GLib reads from the text it wrote is what was written: four letters carry three bytes, and the word they are
gathered in keeps the letters before them above the 24 bits that count.
-/

import Erizo.Model.Base64

namespace Erizo

namespace Base64

/-- Every letter of the alphabet has its own rank. -/
theorem rank_letter : ∀ rank < 64, mimeBase64Rank (letter rank) = some rank := by decide

/-- The padding is no letter. -/
theorem letter_ne_padding : ∀ rank < 64, letter rank ≠ '=' := by decide

/-- Four characters with ranks, from a decoder that has put out all it gathered. -/
theorem foldl_step_four {decoder : Decoder} (gathered : decoder.i = 0) {first second third fourth : Char}
    {a b c d : ℕ} (rankFirst : mimeBase64Rank first = some a) (rankSecond : mimeBase64Rank second = some b)
    (rankThird : mimeBase64Rank third = some c) (rankFourth : mimeBase64Rank fourth = some d) :
    ∃ v, v % 2 ^ 24 = (((a * 64 + b) * 64 + c) * 64 + d) % 2 ^ 24 ∧
      [first, second, third, fourth].foldl Decoder.step decoder =
        ⟨fourth, third, v, 0, decoder.out ++ (⟨fourth, third, v, 4, []⟩ : Decoder).bytes⟩ := by
  refine ⟨((((decoder.v * 64 + a) % 2 ^ 32 * 64 + b) % 2 ^ 32 * 64 + c) % 2 ^ 32 * 64 + d) % 2 ^ 32, by omega, ?_⟩
  simp only [List.foldl_cons, List.foldl_nil, Decoder.step, rankFirst, rankSecond, rankThird, rankFourth, gathered]
  rfl

/-- The three bytes of a word come from its letters. -/
theorem bytes_of_letters {v : ℕ} {c1 c2 c3 : UInt8}
    (word : v % 2 ^ 24 = (c1.toNat * 256 + c2.toNat) * 256 + c3.toNat) :
    UInt8.ofNat (v / 65536) = c1 ∧ UInt8.ofNat (v / 256) = c2 ∧ UInt8.ofNat v = c3 := by
  have first := c1.toNat_lt
  have second := c2.toNat_lt
  have third := c3.toNat_lt
  refine ⟨?_, ?_, ?_⟩ <;> apply UInt8.toNat_inj.mp <;> rw [UInt8.toNat_ofNat'] <;> omega

/-- What the letters of three bytes say of them. -/
theorem letters_word (c1 c2 c3 : UInt8) :
    (((c1.toNat / 4 * 64 + (c1.toNat % 4 * 16 + c2.toNat / 16)) * 64 + (c2.toNat % 16 * 4 + c3.toNat / 64)) * 64 +
      c3.toNat % 64) % 2 ^ 24 = (c1.toNat * 256 + c2.toNat) * 256 + c3.toNat := by
  have first := c1.toNat_lt
  have second := c2.toNat_lt
  have third := c3.toNat_lt
  omega

/-- The ranks of the letters of three bytes are ranks. -/
theorem ranks_lt (c1 c2 c3 : UInt8) :
    c1.toNat / 4 < 64 ∧ c1.toNat % 4 * 16 + c2.toNat / 16 < 64 ∧ c2.toNat % 16 * 4 + c3.toNat / 64 < 64 ∧
      c3.toNat % 64 < 64 := by
  have first := c1.toNat_lt
  have second := c2.toNat_lt
  have third := c3.toNat_lt
  omega

/-- **What has been written is read**, behind whatever has been read before. -/
theorem foldl_step_encode (bytes : List UInt8) {decoder : Decoder} (gathered : decoder.i = 0) :
    ((encode bytes).foldl Decoder.step decoder).out = decoder.out ++ bytes := by
  induction bytes using encode.induct generalizing decoder with
  | case1 c1 c2 c3 rest first second third fourth written ih =>
      obtain ⟨below1, below2, below3, below4⟩ := ranks_lt c1 c2 c3
      obtain ⟨v, word, read⟩ := foldl_step_four gathered (rank_letter _ below1) (rank_letter _ below2)
        (rank_letter _ below3) (rank_letter _ below4)
      obtain ⟨is1, is2, is3⟩ := bytes_of_letters (word.trans (letters_word c1 c2 c3))
      have put : (⟨letter (c3.toNat % 64), letter (c2.toNat % 16 * 4 + c3.toNat / 64), v, 4, []⟩ : Decoder).bytes =
          [c1, c2, c3] := by
        rw [Decoder.bytes, if_pos (letter_ne_padding _ below3), if_pos (letter_ne_padding _ below4), is1, is2, is3]
        rfl
      rw [put] at read
      have split : encode (c1 :: c2 :: c3 :: rest) =
          [letter (c1.toNat / 4), letter (c1.toNat % 4 * 16 + c2.toNat / 16),
            letter (c2.toNat % 16 * 4 + c3.toNat / 64), letter (c3.toNat % 64)] ++ encode rest := rfl
      rw [split, List.foldl_append, read, ih rfl, List.append_assoc]
      rfl
  | case2 c1 c2 first second third unused written =>
      obtain ⟨below1, below2, below3, -⟩ := ranks_lt c1 c2 0
      obtain ⟨v, word, read⟩ := foldl_step_four gathered (rank_letter _ below1) (rank_letter _ below2)
        (rank_letter _ below3) (show mimeBase64Rank '=' = some 0 by decide)
      obtain ⟨is1, is2, -⟩ := bytes_of_letters (word.trans (letters_word c1 c2 0))
      refine (congrArg Decoder.out read).trans (congrArg (decoder.out ++ ·) ?_)
      rw [Decoder.bytes, if_pos (letter_ne_padding _ below3), if_neg (not_not_intro rfl), is1, is2]
      rfl
  | case3 c1 first second unused other written =>
      obtain ⟨below1, below2, -⟩ := ranks_lt c1 0 0
      obtain ⟨v, word, read⟩ := foldl_step_four gathered (rank_letter _ below1) (rank_letter _ below2)
        (show mimeBase64Rank '=' = some 0 by decide) (show mimeBase64Rank '=' = some 0 by decide)
      obtain ⟨is1, -⟩ := bytes_of_letters (word.trans (letters_word c1 0 0))
      refine (congrArg Decoder.out read).trans (congrArg (decoder.out ++ ·) ?_)
      rw [Decoder.bytes, if_neg (not_not_intro rfl), if_neg (not_not_intro rfl), is1]
      rfl
  | case4 => exact (List.append_nil _).symm

/-- **Keys survive the text they are passed in**: what `g_base64_decode` reads from the text of `g_base64_encode` are
the bytes that were given. -/
theorem decode_encode (bytes : List UInt8) : decode (encode bytes) = bytes := foldl_step_encode bytes rfl

end Base64

end Erizo
