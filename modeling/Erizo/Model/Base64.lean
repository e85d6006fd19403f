/-
**Base64** (`glib/gbase64.c`).

The keys of an SRTP session pass from the DTLS socket to the channel as text, which GLib writes and reads.
`g_base64_encode` goes through the bytes in groups of three, `g_base64_encode_close` ends the text with what is left.
`g_base64_decode_step` gathers four letters in a word of 32 bits and skips what is no letter.

The parts of a byte that are shifted and joined do not overlap: they are multiplied and added here.
-/

import Erizo.Model.StringUtil

namespace Erizo

namespace Base64

/-- `base64_alphabet`. -/
def alphabet : List Char :=
  ['A', 'B', 'C', 'D', 'E', 'F', 'G', 'H', 'I', 'J', 'K', 'L', 'M', 'N', 'O', 'P', 'Q', 'R', 'S', 'T', 'U', 'V', 'W', 'X',
    'Y', 'Z', 'a', 'b', 'c', 'd', 'e', 'f', 'g', 'h', 'i', 'j', 'k', 'l', 'm', 'n', 'o', 'p', 'q', 'r', 's', 't', 'u', 'v',
    'w', 'x', 'y', 'z', '0', '1', '2', '3', '4', '5', '6', '7', '8', '9', '+', '/']

/-- `base64_alphabet[rank]`. -/
def letter (rank : ℕ) : Char := alphabet.getD rank 'A'

/-- The letters of three bytes, of two or of one: the bytes that are not there are zero. -/
def letters (c1 c2 c3 : UInt8) : Char × Char × Char × Char :=
  (letter (c1.toNat / 4), letter (c1.toNat % 4 * 16 + c2.toNat / 16), letter (c2.toNat % 16 * 4 + c3.toNat / 64),
    letter (c3.toNat % 64))

/-- `g_base64_encode`. -/
def encode : List UInt8 → Text
  | c1 :: c2 :: c3 :: rest =>
      let (first, second, third, fourth) := letters c1 c2 c3
      first :: second :: third :: fourth :: encode rest
  | [c1, c2] =>
      let (first, second, third, _) := letters c1 c2 0
      [first, second, third, '=']
  | [c1] =>
      let (first, second, _, _) := letters c1 0 0
      [first, second, '=', '=']
  | [] => []

/-- `mime_base64_rank`; what has the rank 255 has none here. -/
def mimeBase64Rank (c : Char) : Option ℕ :=
  if c = '+' then some 62
  else if c = '/' then some 63
  else if c = '=' then some 0
  else if '0' ≤ c ∧ c ≤ '9' then some (c.toNat - 48 + 52)
  else if 'A' ≤ c ∧ c ≤ 'Z' then some (c.toNat - 65)
  else if 'a' ≤ c ∧ c ≤ 'z' then some (c.toNat - 97 + 26)
  else none

/-- The variables of `g_base64_decode_step`, with what has been put out. -/
structure Decoder where
  last0 : Char
  last1 : Char
  v : ℕ
  i : ℕ
  out : List UInt8

/-- What four letters give: the bytes that the padding stands for are left out. -/
def Decoder.bytes (decoder : Decoder) : List UInt8 :=
  [UInt8.ofNat (decoder.v / 65536)] ++ (if decoder.last1 ≠ '=' then [UInt8.ofNat (decoder.v / 256)] else []) ++
    (if decoder.last0 ≠ '=' then [UInt8.ofNat decoder.v] else [])

/-- A round of `g_base64_decode_step`. -/
def Decoder.step (decoder : Decoder) (c : Char) : Decoder :=
  match mimeBase64Rank c with
  | none => decoder
  | some rank =>
      let decoder :=
        { decoder with last0 := c, last1 := decoder.last0, v := (decoder.v * 64 + rank) % 2 ^ 32, i := decoder.i + 1 }
      if decoder.i = 4 then { decoder with out := decoder.out ++ decoder.bytes, i := 0 } else decoder

/-- `g_base64_decode`. -/
def decode (text : Text) : List UInt8 := (text.foldl Decoder.step ⟨'\x00', '\x00', 0, 0, []⟩).out

end Base64

end Erizo
