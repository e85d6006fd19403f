/-
**Rewriting VP8 payload descriptors in place.**

A descriptor that says so in its first byte goes on with an `Extension`: a byte of flags and the fields that they
announce. The parser, the two writers and the three functions that remove a field walk over it on their own; here each
of them is told what it does to the fields (`parseVP8_extended`, `setVP8PictureID_laid`, `removePictureID_laid`, …), and
the rest follows from that.

* `rewrites_exact`: the writers change the bytes of their field only, the parser finds what was written and everything
  else as it was, and the order of the two does not matter.
* `removed_keeps_frame`: without its optional fields, a payload has the same frame data and is shorter by these fields.
-/

import Erizo.Model.Depacketizer
import Erizo.Model.QualityFilterHandler

namespace Erizo

open Library Library.Bytes

namespace RtpVP8Parser

/-! ### The size of a descriptor -/

/-- The bytes of the picture id. -/
def pictureIDLength (payload : List UInt8) : ℕ :=
  if bit (payload.getD 0 0) 0x80 && bit (payload.getD 1 0) 0x80 then if bit (payload.getD 2 0) 0x80 then 2 else 1 else 0

/-- The bytes of `TL0PICIDX`. -/
def tl0PicIdxLength (payload : List UInt8) : ℕ :=
  if bit (payload.getD 0 0) 0x80 && bit (payload.getD 1 0) 0x40 then 1 else 0

/-- The bytes of `TID` and `KEYIDX`. -/
def tidAndKeyIdxLength (payload : List UInt8) : ℕ :=
  if bit (payload.getD 0 0) 0x80 && (bit (payload.getD 1 0) 0x20 || bit (payload.getD 1 0) 0x10) then 1 else 0

/-- The bytes of a descriptor, as its bits announce them. -/
def descriptorLength (payload : List UInt8) : ℕ :=
  1 + (if bit (payload.getD 0 0) 0x80 then 1 else 0) + pictureIDLength payload + tl0PicIdxLength payload +
    tidAndKeyIdxLength payload

/-! ### Bits -/

theorem bit_and (byte mask other : UInt8) : bit (byte &&& mask) other = bit byte (mask &&& other) := by
  rw [bit, UInt8.and_assoc]
  rfl

theorem or_and_distrib (first second mask : UInt8) : (first ||| second) &&& mask = first &&& mask ||| second &&& mask :=
  UInt8.toBitVec_inj.mp BitVec.and_or_distrib_right

theorem toNat_low (byte : UInt8) : (byte &&& 0x7F).toNat = byte.toNat % 128 :=
  (UInt8.toNat_and byte 0x7F).trans (Nat.and_two_pow_sub_one_eq_mod byte.toNat 7)

theorem bit_low (byte : UInt8) : bit (byte &&& 0x7F) 0x80 = false := by
  rw [bit_and, bit, show (0x7F &&& 0x80 : UInt8) = 0 from rfl, UInt8.and_zero]
  rfl

/-- A byte with its high bit set. -/
theorem bit_high (byte : UInt8) : bit (0x80 ||| (byte &&& 0x7F)) 0x80 = true := by
  rw [bit, or_and_distrib, UInt8.and_assoc, show (0x7F &&& 0x80 : UInt8) = 0 from rfl, UInt8.and_zero, UInt8.or_zero]
  rfl

theorem low_of_high (byte : UInt8) : (0x80 ||| (byte &&& 0x7F)) &&& 0x7F = byte &&& 0x7F := by
  rw [or_and_distrib, UInt8.and_assoc, show (0x80 &&& 0x7F : UInt8) = 0 from rfl, UInt8.zero_or]
  rfl

/-! ### Extensions -/

/-- The extension of a descriptor: its flags, and the bytes of each field. -/
structure Extension where
  flags : UInt8
  pictureID : List UInt8
  tl0PicIdx : List UInt8
  tidAndKeyIdx : List UInt8
  pictureID_length :
    pictureID.length = if bit flags 0x80 then if bit (pictureID.headD 0) 0x80 then 2 else 1 else 0
  tl0PicIdx_length : tl0PicIdx.length = if bit flags 0x40 then 1 else 0
  tidAndKeyIdx_length : tidAndKeyIdx.length = if bit flags 0x20 || bit flags 0x10 then 1 else 0

namespace Extension

variable (extension : Extension)

/-- The bytes of an extension. -/
def bytes : List UInt8 :=
  extension.flags :: (extension.pictureID ++ (extension.tl0PicIdx ++ extension.tidAndKeyIdx))

/-- What the bytes of a picture id say. -/
def pictureNumber : List UInt8 → ℤ
  | [] => -1
  | [first] => (first &&& 0x7F).toNat
  | first :: second :: _ => (first &&& 0x7F).toNat * 256 + (second.toNat : ℤ)

/-- What is parsed from an extension. -/
def report (vp8 : RTPPayloadVP8) : RTPPayloadVP8 :=
  let last := extension.tidAndKeyIdx.headD 0
  { vp8 with
    hasPictureID := bit extension.flags 0x80
    hasTl0PicIdx := bit extension.flags 0x40
    hasTID := bit extension.flags 0x20
    hasKeyIdx := bit extension.flags 0x10
    pictureID := pictureNumber extension.pictureID
    tl0PicIdx := if bit extension.flags 0x40 then (extension.tl0PicIdx.headD 0).toNat else -1
    tID := if bit extension.flags 0x20 then last.toNat / 64 % 4 else -1
    layerSync := bit extension.flags 0x20 && bit last 0x20
    keyIdx := if bit extension.flags 0x10 then (last &&& 0x1F).toNat else -1 }

/-- The picture id is missing, has one byte or has two. -/
theorem pictureID_cases :
    (bit extension.flags 0x80 = false ∧ extension.pictureID = []) ∨
      (bit extension.flags 0x80 = true ∧ ∃ first, bit first 0x80 = false ∧ extension.pictureID = [first]) ∨
      bit extension.flags 0x80 = true ∧ ∃ first second, bit first 0x80 = true ∧ extension.pictureID = [first, second] := by
  have length := extension.pictureID_length
  cases present : bit extension.flags 0x80 with
  | false =>
      rw [if_neg (by rw [present]; decide)] at length
      exact Or.inl ⟨rfl, List.length_eq_zero_iff.mp length⟩
  | true =>
      rw [if_pos present] at length
      cases long : bit (extension.pictureID.headD 0) 0x80 with
      | false =>
          rw [if_neg (by rw [long]; decide)] at length
          obtain ⟨first, same⟩ := List.length_eq_one_iff.mp length
          rw [same] at long
          exact Or.inr (Or.inl ⟨rfl, first, long, same⟩)
      | true =>
          rw [if_pos long] at length
          obtain ⟨first, second, same⟩ := List.length_eq_two.mp length
          rw [same] at long
          exact Or.inr (Or.inr ⟨rfl, first, second, long, same⟩)

theorem tl0PicIdx_cases :
    (bit extension.flags 0x40 = false ∧ extension.tl0PicIdx = []) ∨
      bit extension.flags 0x40 = true ∧ ∃ byte, extension.tl0PicIdx = [byte] := by
  have length := extension.tl0PicIdx_length
  cases present : bit extension.flags 0x40 with
  | false =>
      rw [if_neg (by rw [present]; decide)] at length
      exact Or.inl ⟨rfl, List.length_eq_zero_iff.mp length⟩
  | true =>
      rw [if_pos present] at length
      exact Or.inr ⟨rfl, List.length_eq_one_iff.mp length⟩

theorem tidAndKeyIdx_cases :
    ((bit extension.flags 0x20 || bit extension.flags 0x10) = false ∧ extension.tidAndKeyIdx = []) ∨
      (bit extension.flags 0x20 || bit extension.flags 0x10) = true ∧ ∃ byte, extension.tidAndKeyIdx = [byte] := by
  have length := extension.tidAndKeyIdx_length
  cases present : (bit extension.flags 0x20 || bit extension.flags 0x10) with
  | false =>
      rw [if_neg (by rw [present]; decide)] at length
      exact Or.inl ⟨rfl, List.length_eq_zero_iff.mp length⟩
  | true =>
      rw [if_pos present] at length
      exact Or.inr ⟨rfl, List.length_eq_one_iff.mp length⟩

end Extension

/-! ### Parsing an extension -/

/-- What is parsed from the first byte. -/
def mandatory (descriptor : UInt8) : RTPPayloadVP8 :=
  { nonReferenceFrame := bit descriptor 0x20
    beginningOfPartition := bit descriptor 0x10
    partitionID := (descriptor &&& 0x0F).toNat }

theorem parseVP8_cons (descriptor : UInt8) (data : List UInt8) :
    parseVP8 (descriptor :: data) =
      if 8 < (mandatory descriptor).partitionID then mandatory descriptor
      else if bit descriptor 0x80 then
        match parseVP8Extension (mandatory descriptor) data with
        | (vp8, none) => vp8
        | (vp8, some data) => parseVP8Payload vp8 data
      else parseVP8Payload (mandatory descriptor) data := rfl

section Parsing

variable (extension : Extension) {vp8 : RTPPayloadVP8}

theorem parse_pictureID (unset : vp8.pictureID = -1) (rest : List UInt8) :
    optionally (bit extension.flags 0x80) parseVP8PictureID (vp8, some (extension.pictureID ++ rest)) =
      ({ vp8 with pictureID := Extension.pictureNumber extension.pictureID }, some rest) := by
  rcases extension.pictureID_cases with ⟨none, id⟩ | ⟨present, first, short, id⟩ | ⟨present, first, second, long, id⟩
  · rw [none, id, Extension.pictureNumber, ← unset]
    rfl
  · simp only [present, id, optionally, List.cons_append, parseVP8PictureID, short, Extension.pictureNumber]
    rfl
  · simp only [present, id, optionally, List.cons_append, parseVP8PictureID, long, Extension.pictureNumber]
    rfl

theorem parse_tl0PicIdx (unset : vp8.tl0PicIdx = -1) (rest : List UInt8) :
    optionally (bit extension.flags 0x40) parseVP8Tl0PicIdx (vp8, some (extension.tl0PicIdx ++ rest)) =
      ({ vp8 with
        tl0PicIdx := if bit extension.flags 0x40 then (extension.tl0PicIdx.headD 0).toNat else -1 }, some rest) := by
  rcases extension.tl0PicIdx_cases with ⟨none, index⟩ | ⟨present, byte, index⟩
  · rw [none, index, ← unset]
    rfl
  · rw [present, index]
    rfl

theorem parse_tidAndKeyIdx (hasTID : vp8.hasTID = bit extension.flags 0x20)
    (hasKeyIdx : vp8.hasKeyIdx = bit extension.flags 0x10) (noTID : vp8.tID = -1) (noSync : vp8.layerSync = false)
    (noKeyIdx : vp8.keyIdx = -1) (rest : List UInt8) :
    optionally (bit extension.flags 0x20 || bit extension.flags 0x10) parseVP8TIDAndKeyIdx
        (vp8, some (extension.tidAndKeyIdx ++ rest)) =
      ({ vp8 with
        tID := if bit extension.flags 0x20 then (extension.tidAndKeyIdx.headD 0).toNat / 64 % 4 else -1
        layerSync := bit extension.flags 0x20 && bit (extension.tidAndKeyIdx.headD 0) 0x20
        keyIdx := if bit extension.flags 0x10 then (extension.tidAndKeyIdx.headD 0 &&& 0x1F).toNat else -1 },
        some rest) := by
  obtain ⟨⟩ := vp8
  simp only at hasTID hasKeyIdx noTID noSync noKeyIdx
  subst hasTID hasKeyIdx noTID noSync noKeyIdx
  rcases extension.tidAndKeyIdx_cases with ⟨none, last⟩ | ⟨present, byte, last⟩
  · obtain ⟨none_tid, none_key⟩ := Bool.or_eq_false_iff.mp none
    rw [none, last, none_tid, none_key]
    rfl
  · rw [present, last]
    cases tid : bit extension.flags 0x20 with
    | false =>
        have key : bit extension.flags 0x10 = true := by rwa [tid, Bool.false_or] at present
        rw [key]
        rfl
    | true =>
        cases bit extension.flags 0x10 with
        | false => rfl
        | true => rfl

end Parsing

/-- **An extension is parsed to what it says**, with the bytes behind it. -/
theorem parseVP8Extension_bytes (descriptor : UInt8) (extension : Extension) (rest : List UInt8) :
    parseVP8Extension (mandatory descriptor) (extension.bytes ++ rest) =
      (extension.report (mandatory descriptor), some rest) := by
  rw [Extension.bytes, List.cons_append, List.append_assoc, List.append_assoc]
  simp only [parseVP8Extension]
  rw [parse_pictureID extension rfl, parse_tl0PicIdx extension rfl, parse_tidAndKeyIdx extension rfl rfl rfl rfl rfl]
  rfl

theorem parseVP8FrameSize_report (extension : Extension) (vp8 : RTPPayloadVP8) (data : List UInt8) :
    parseVP8FrameSize (extension.report vp8) data = extension.report (parseVP8FrameSize vp8 data) := by
  show (if vp8.frameType ≠ .iFrame then extension.report vp8 else _) = _
  unfold parseVP8FrameSize
  split_ifs <;> rfl

/-- What is found behind a descriptor. The fields of the extension do not matter for it. -/
theorem parseVP8Payload_report (extension : Extension) (descriptor : UInt8) (frame : List UInt8) :
    parseVP8Payload (extension.report (mandatory descriptor)) frame =
      extension.report (parseVP8Payload (mandatory descriptor) frame) := by
  cases frame with
  | nil => rfl
  | cons first rest =>
      have typed := apply_ite extension.report
        ((mandatory descriptor).beginningOfPartition ∧ (mandatory descriptor).partitionID = 0)
        { mandatory descriptor with frameType := if bit first 0x01 then .pFrame else .iFrame }
        { mandatory descriptor with frameType := .pFrame }
      have sized := parseVP8FrameSize_report extension (if
        (mandatory descriptor).beginningOfPartition ∧ (mandatory descriptor).partitionID = 0 then
          { mandatory descriptor with frameType := if bit first 0x01 then .pFrame else .iFrame }
        else { mandatory descriptor with frameType := .pFrame }) (first :: rest)
      rw [typed] at sized
      exact congrArg (fun vp8 : RTPPayloadVP8 => { vp8 with data := some (first :: rest) }) sized

/-- **A payload with an extension is parsed to what its parts say.** -/
theorem parseVP8_extended {descriptor : UInt8} (small : ¬8 < (mandatory descriptor).partitionID)
    (extended : bit descriptor 0x80 = true) (extension : Extension) (frame : List UInt8) :
    parseVP8 (descriptor :: (extension.bytes ++ frame)) =
      extension.report (parseVP8Payload (mandatory descriptor) frame) := by
  rw [parseVP8_cons, if_neg small, if_pos extended, parseVP8Extension_bytes]
  exact parseVP8Payload_report extension descriptor frame

/-! ### Payloads with all bytes of their descriptors -/

section Split

variable {descriptor : UInt8} (extended : bit descriptor 0x80 = true) (extension : Extension) (frame : List UInt8)

include extended

theorem pictureIDLength_split :
    pictureIDLength (descriptor :: (extension.bytes ++ frame)) = extension.pictureID.length := by
  show (if bit descriptor 0x80 && bit extension.flags 0x80 then
    if bit ((extension.pictureID ++ (extension.tl0PicIdx ++ extension.tidAndKeyIdx) ++ frame).getD 0 0) 0x80 then 2
    else 1 else 0) = _
  rw [extended, Bool.true_and]
  rcases extension.pictureID_cases with ⟨none, id⟩ | ⟨present, first, short, id⟩ | ⟨present, first, second, long, id⟩
  · rw [none, id]
    rfl
  · rw [present, id]
    exact if_neg (show ¬bit first 0x80 = true by rw [short]; decide)
  · rw [present, id]
    exact if_pos long

theorem tl0PicIdxLength_split :
    tl0PicIdxLength (descriptor :: (extension.bytes ++ frame)) = extension.tl0PicIdx.length := by
  show (if bit descriptor 0x80 && bit extension.flags 0x40 then 1 else 0) = _
  rw [extended, Bool.true_and, extension.tl0PicIdx_length]

theorem tidAndKeyIdxLength_split :
    tidAndKeyIdxLength (descriptor :: (extension.bytes ++ frame)) = extension.tidAndKeyIdx.length := by
  show (if bit descriptor 0x80 && (bit extension.flags 0x20 || bit extension.flags 0x10) then 1 else 0) = _
  rw [extended, Bool.true_and, extension.tidAndKeyIdx_length]

omit frame in
/-- A descriptor whose bytes are all there is followed by its extension. -/
theorem exists_split {rest : List UInt8}
    (complete : descriptorLength (descriptor :: rest) ≤ (descriptor :: rest).length) :
    ∃ (extension : Extension) (frame : List UInt8), rest = extension.bytes ++ frame := by
  unfold descriptorLength at complete
  rw [List.getD_cons_zero, if_pos extended] at complete
  cases rest with
  | nil =>
      rw [List.length_singleton] at complete
      omega
  | cons flags data =>
      set id := pictureIDLength (descriptor :: flags :: data) with id_eq
      set index := tl0PicIdxLength (descriptor :: flags :: data) with index_eq
      set last := tidAndKeyIdxLength (descriptor :: flags :: data) with last_eq
      simp only [List.length_cons] at complete
      simp only [pictureIDLength, List.getD_cons_zero, List.getD_cons_succ, extended, Bool.true_and] at id_eq
      simp only [tl0PicIdxLength, List.getD_cons_zero, List.getD_cons_succ, extended, Bool.true_and] at index_eq
      simp only [tidAndKeyIdxLength, List.getD_cons_zero, List.getD_cons_succ, extended, Bool.true_and] at last_eq
      refine ⟨⟨flags, data.take id, (data.drop id).take index, (data.drop (id + index)).take last, ?_, ?_, ?_⟩,
        data.drop (id + index + last), ?_⟩
      · rw [List.length_take, Nat.min_eq_left (by omega)]
        cases present : bit flags 0x80 with
        | false =>
            rw [present] at id_eq
            exact id_eq
        | true =>
            rw [present, if_pos rfl] at id_eq
            have positive : 0 < id := by
              rw [id_eq]
              split_ifs <;> decide
            obtain ⟨first, data, rfl⟩ := List.exists_cons_of_length_pos (show 0 < data.length by omega)
            obtain ⟨count, count_eq⟩ := Nat.exists_eq_succ_of_ne_zero (Nat.ne_of_gt positive)
            rw [count_eq, List.take_succ_cons, ← count_eq]
            exact id_eq
      · rw [List.length_take, List.length_drop, Nat.min_eq_left (by omega), index_eq]
      · rw [List.length_take, List.length_drop, Nat.min_eq_left (by omega), last_eq]
      · have third := List.take_append_drop last (data.drop (id + index))
        have second := List.take_append_drop index (data.drop id)
        rw [List.drop_drop] at second third
        have whole : data = (data.take id ++ ((data.drop id).take index ++ (data.drop (id + index)).take last)) ++
            data.drop (id + index + last) := by
          rw [List.append_assoc, List.append_assoc, third, second, List.take_append_drop]
        exact congrArg (List.cons flags) whole

end Split

/-! ### What the writers write -/

/-- A picture id in two bytes or in one. -/
def encodePictureID (long : Bool) (pictureID : UInt16) : List UInt8 :=
  if long then [(0x80 : UInt8) ||| ((pictureID >>> 8).toUInt8 &&& 0x7F), pictureID.toUInt8]
  else [pictureID.toUInt8 &&& 0x7F]

/-- The bytes of the picture id, as its bits in the memory announce them. -/
def skipped (data : Memory) (start : ℕ) : ℕ :=
  if bit (data (start + 1)) 0x80 then if bit (data (start + 2)) 0x80 then 2 else 1 else 0

/-- What `setVP8PictureID` writes. -/
def writtenPictureID (data : Memory) (start : ℕ) (dataLength : ℤ) (pictureID : UInt16) : List UInt8 :=
  if bit (data start) 0x80 ∧ bit (data (start + 1)) 0x80 ∧ 2 + (skipped data start : ℤ) ≤ dataLength then
    encodePictureID (bit (data (start + 2)) 0x80) pictureID
  else []

/-- What `setVP8TL0PicIdx` writes. -/
def writtenTL0PicIdx (data : Memory) (start : ℕ) (dataLength : ℤ) (tl0PicIdx : UInt8) : List UInt8 :=
  if bit (data start) 0x80 ∧ bit (data (start + 1)) 0x40 ∧ 2 + (skipped data start : ℤ) < dataLength then [tl0PicIdx]
  else []

theorem setVP8PictureID_eq (data : Memory) (start : ℕ) (dataLength : ℤ) (pictureID : UInt16) :
    setVP8PictureID data start dataLength pictureID =
      copy data (start + 2) (writtenPictureID data start dataLength pictureID) := by
  unfold setVP8PictureID writtenPictureID skipped encodePictureID
  grind [copy_nil]

theorem setVP8TL0PicIdx_eq (data : Memory) (start : ℕ) (dataLength : ℤ) (tl0PicIdx : UInt8) :
    setVP8TL0PicIdx data start dataLength tl0PicIdx =
      copy data (start + 2 + skipped data start) (writtenTL0PicIdx data start dataLength tl0PicIdx) := by
  unfold setVP8TL0PicIdx writtenTL0PicIdx skipped
  grind [copy_nil]

/-- What is written depends on the length and on bits that no writer changes. -/
structure SameBits (first second : Memory) (start : ℕ) : Prop where
  descriptor : first start = second start
  flags : first (start + 1) = second (start + 1)
  long : bit (first (start + 1)) 0x80 = true → bit (first (start + 2)) 0x80 = bit (second (start + 2)) 0x80

section SameBits

variable {first second : Memory} {start : ℕ} (same : SameBits first second start)

include same

theorem SameBits.skipped_eq : skipped first start = skipped second start := by
  unfold skipped
  rw [← same.flags]
  exact ite_congr rfl (fun present => by rw [same.long present]) fun _ => rfl

theorem SameBits.writtenPictureID_eq (dataLength : ℤ) (pictureID : UInt16) :
    writtenPictureID first start dataLength pictureID = writtenPictureID second start dataLength pictureID := by
  unfold writtenPictureID
  rw [same.skipped_eq, ← same.descriptor, ← same.flags]
  exact ite_congr rfl (fun there => by rw [same.long there.2.1]) fun _ => rfl

theorem SameBits.writtenTL0PicIdx_eq (dataLength : ℤ) (tl0PicIdx : UInt8) :
    writtenTL0PicIdx first start dataLength tl0PicIdx = writtenTL0PicIdx second start dataLength tl0PicIdx := by
  rw [writtenTL0PicIdx, same.skipped_eq, same.descriptor, same.flags, writtenTL0PicIdx]

end SameBits

section Writers

variable (data : Memory) (start : ℕ) (dataLength : ℤ) (pictureID : UInt16) (tl0PicIdx : UInt8)

theorem bit_encodePictureID (long : Bool) : bit ((encodePictureID long pictureID).headD 0) 0x80 = long := by
  cases long with
  | false => exact bit_low _
  | true => exact bit_high _

theorem length_encodePictureID (long : Bool) : (encodePictureID long pictureID).length = if long then 2 else 1 := by
  cases long with
  | false => rfl
  | true => rfl

/-- A picture id of two bytes has 15 bits, and one of a byte has 7. -/
theorem pictureNumber_encodePictureID (long : Bool) :
    Extension.pictureNumber (encodePictureID long pictureID) = pictureID.toNat % if long then 2 ^ 15 else 2 ^ 7 := by
  cases long with
  | false =>
      show (((pictureID.toUInt8 &&& 0x7F) &&& 0x7F).toNat : ℤ) = _
      rw [UInt8.and_assoc, show (0x7F &&& 0x7F : UInt8) = 0x7F from rfl, toNat_low, UInt16.toNat_toUInt8]
      simp only [Bool.false_eq_true, if_false]
      omega
  | true =>
      show ((((0x80 : UInt8) ||| ((pictureID >>> 8).toUInt8 &&& 0x7F)) &&& 0x7F).toNat : ℤ) * 256 +
        (pictureID.toUInt8.toNat : ℤ) = _
      rw [low_of_high, toNat_low, UInt16.toNat_toUInt8, UInt16.toNat_toUInt8, UInt16.toNat_shiftRight]
      simp only [if_true]
      have shifted : pictureID.toNat >>> ((8 : UInt16).toNat % 16) = pictureID.toNat / 256 := Nat.shiftRight_eq_div_pow _ 8
      have below := pictureID.toNat_lt
      omega

theorem length_writtenPictureID (pictureID : UInt16) :
    (writtenPictureID data start dataLength pictureID).length ≤ skipped data start := by
  unfold writtenPictureID
  split_ifs with there
  · rw [length_encodePictureID, skipped, if_pos there.2.1]
  · exact Nat.zero_le _

/-- Writing the picture id keeps the bits that the writers look at. -/
theorem sameBits_setVP8PictureID : SameBits (setVP8PictureID data start dataLength pictureID) data start := by
  rw [setVP8PictureID_eq]
  refine ⟨copy_of_lt _ _ (by omega), copy_of_lt _ _ (by omega), fun _ => ?_⟩
  unfold writtenPictureID
  split_ifs with there
  · have kept := @copy_inside data (start + 2) (encodePictureID (bit (data (start + 2)) 0x80) pictureID) 0
      (by rw [length_encodePictureID]; split_ifs <;> decide)
    rw [Nat.add_zero, ← List.headD_eq_getD] at kept
    rw [kept]
    exact bit_encodePictureID pictureID _
  · rw [copy_nil]

/-- So does writing `TL0PICIDX`. -/
theorem sameBits_setVP8TL0PicIdx : SameBits (setVP8TL0PicIdx data start dataLength tl0PicIdx) data start := by
  rw [setVP8TL0PicIdx_eq]
  refine ⟨copy_of_lt _ _ (by omega), copy_of_lt _ _ (by omega), fun present => ?_⟩
  rw [copy_of_lt _ _ (by omega)] at present
  rw [copy_of_lt]
  rw [skipped, if_pos present]
  split_ifs <;> omega

/-- **The two writers commute.** -/
theorem setVP8_comm :
    setVP8TL0PicIdx (setVP8PictureID data start dataLength pictureID) start dataLength tl0PicIdx =
      setVP8PictureID (setVP8TL0PicIdx data start dataLength tl0PicIdx) start dataLength pictureID := by
  have identified := sameBits_setVP8PictureID data start dataLength pictureID
  have indexed := sameBits_setVP8TL0PicIdx data start dataLength tl0PicIdx
  rw [setVP8TL0PicIdx_eq (setVP8PictureID _ _ _ _), identified.skipped_eq, identified.writtenTL0PicIdx_eq,
    setVP8PictureID_eq (setVP8TL0PicIdx _ _ _ _), indexed.writtenPictureID_eq, setVP8PictureID_eq, setVP8TL0PicIdx_eq]
  exact copy_comm data (Nat.add_le_add_left (length_writtenPictureID data start dataLength pictureID) _)

/-! ### Where the writers write -/

variable (length : ℕ)

/-- What the bits announce, in the memory and in the bytes of the payload. -/
theorem pictureIDLength_slice (extended : bit (data start) 0x80 = true) (long : 3 ≤ length) :
    pictureIDLength (slice data start length) = skipped data start := by
  unfold pictureIDLength skipped
  rw [getD_slice _ _ (by omega), getD_slice _ _ (by omega), getD_slice _ _ (by omega), Nat.add_zero, extended,
    Bool.true_and]

/-- Writing the picture id changes bytes of the picture id only. -/
theorem setVP8PictureID_frame {address : ℕ}
    (changed : setVP8PictureID data start length pictureID address ≠ data address) :
    ∃ offset, address = start + offset ∧ offset < length ∧ 2 ≤ offset ∧
      offset < 2 + pictureIDLength (slice data start length) := by
  rw [setVP8PictureID_eq] at changed
  have size := length_writtenPictureID data start length pictureID
  have after : start + 2 ≤ address := not_lt.mp fun before => changed (copy_of_lt _ _ before)
  have inside : address < start + 2 + (writtenPictureID data start length pictureID).length :=
    not_le.mp fun behind => changed (copy_of_le _ _ behind)
  by_cases there : bit (data start) 0x80 = true ∧ bit (data (start + 1)) 0x80 = true ∧
    2 + (skipped data start : ℤ) ≤ length
  · have positive : 1 ≤ skipped data start := by
      rw [skipped, if_pos there.2.1]
      split_ifs <;> decide
    have fits := there.2.2
    refine ⟨address - start, by omega, by omega, by omega, ?_⟩
    rw [pictureIDLength_slice data start length there.1 (by omega)]
    omega
  · rw [writtenPictureID, if_neg there, List.length_nil] at inside
    omega

/-- Writing `TL0PICIDX` changes that byte only. -/
theorem setVP8TL0PicIdx_frame {address : ℕ}
    (changed : setVP8TL0PicIdx data start length tl0PicIdx address ≠ data address) :
    ∃ offset, address = start + offset ∧ offset < length ∧ 2 + pictureIDLength (slice data start length) ≤ offset ∧
      offset < 2 + pictureIDLength (slice data start length) + tl0PicIdxLength (slice data start length) := by
  rw [setVP8TL0PicIdx_eq] at changed
  have after : start + 2 + skipped data start ≤ address := not_lt.mp fun before => changed (copy_of_lt _ _ before)
  have inside : address < start + 2 + skipped data start + (writtenTL0PicIdx data start length tl0PicIdx).length :=
    not_le.mp fun behind => changed (copy_of_le _ _ behind)
  by_cases there : bit (data start) 0x80 = true ∧ bit (data (start + 1)) 0x40 = true ∧
    2 + (skipped data start : ℤ) < length
  · have fits := there.2.2
    rw [writtenTL0PicIdx, if_pos there, List.length_singleton] at inside
    have index : tl0PicIdxLength (slice data start length) = 1 := by
      unfold tl0PicIdxLength
      rw [getD_slice _ _ (by omega), getD_slice _ _ (by omega), Nat.add_zero, there.1, there.2.1]
      rfl
    have id := pictureIDLength_slice data start length there.1 (by omega)
    exact ⟨address - start, by omega, by omega, by omega, by omega⟩
  · rw [writtenTL0PicIdx, if_neg there, List.length_nil] at inside
    omega

end Writers

/-! ### Changing the fields of an extension -/

namespace Extension

variable (extension : Extension)

/-- The same extension with another picture id, if it has one. -/
def withPictureID (pictureID : UInt16) : Extension where
  flags := extension.flags
  pictureID :=
    if bit extension.flags 0x80 then encodePictureID (bit (extension.pictureID.headD 0) 0x80) pictureID else []
  tl0PicIdx := extension.tl0PicIdx
  tidAndKeyIdx := extension.tidAndKeyIdx
  pictureID_length := by
    split_ifs with present long
    · rw [length_encodePictureID, if_pos (by rwa [bit_encodePictureID] at long)]
    · rw [length_encodePictureID, if_neg (by rwa [bit_encodePictureID] at long)]
    · rfl
  tl0PicIdx_length := extension.tl0PicIdx_length
  tidAndKeyIdx_length := extension.tidAndKeyIdx_length

/-- The same extension with another `TL0PICIDX`, if it has one. -/
def withTl0PicIdx (tl0PicIdx : UInt8) : Extension where
  flags := extension.flags
  pictureID := extension.pictureID
  tl0PicIdx := extension.tl0PicIdx.map fun _ => tl0PicIdx
  tidAndKeyIdx := extension.tidAndKeyIdx
  pictureID_length := extension.pictureID_length
  tl0PicIdx_length := (List.length_map _).trans extension.tl0PicIdx_length
  tidAndKeyIdx_length := extension.tidAndKeyIdx_length

theorem length_withPictureID (pictureID : UInt16) :
    (extension.withPictureID pictureID).pictureID.length = extension.pictureID.length := by
  rw [extension.pictureID_length]
  show (if bit extension.flags 0x80 then _ else _ : List UInt8).length = _
  split_ifs with present long
  · rw [length_encodePictureID, if_pos long]
  · rw [length_encodePictureID, if_neg long]
  · rfl

theorem bytes_append (frame : List UInt8) :
    extension.bytes ++ frame =
      extension.flags :: (extension.pictureID ++ (extension.tl0PicIdx ++ (extension.tidAndKeyIdx ++ frame))) := by
  rw [bytes, List.cons_append, List.append_assoc, List.append_assoc]

end Extension

/-- A payload in the memory, and its length. -/
structure Holds (state : Memory × ℤ) (start : ℕ) (payload : List UInt8) : Prop where
  stored : Stored state.1 start payload
  length : state.2 = payload.length

section Holds

variable {data : Memory} {start : ℕ} {dataLength : ℤ} {descriptor : UInt8} {extension : Extension} {frame : List UInt8}

/-- What the functions find of the bits. -/
structure Reads (data : Memory) (start : ℕ) (descriptor : UInt8) (extension : Extension) : Prop where
  descriptor : data start = descriptor
  flags : data (start + 1) = extension.flags
  long : bit extension.flags 0x80 = true → bit (data (start + 2)) 0x80 = bit (extension.pictureID.headD 0) 0x80

theorem Holds.reads (holds : Holds (data, dataLength) start (descriptor :: (extension.bytes ++ frame))) :
    Reads data start descriptor extension := by
  have stored : Stored data start (descriptor :: (extension.bytes ++ frame)) := holds.stored
  rw [Extension.bytes_append, stored_cons, stored_cons, stored_append] at stored
  obtain ⟨first, flags, id, _⟩ := stored
  refine ⟨first, flags, fun present => ?_⟩
  rcases extension.pictureID_cases with ⟨none, _⟩ | ⟨_, byte, _, same⟩ | ⟨_, byte, next, _, same⟩
  · exact absurd (present.symm.trans none) (by decide)
  · rw [same] at id ⊢
    exact congrArg (bit · 0x80) (stored_cons.mp id).1
  · rw [same] at id ⊢
    exact congrArg (bit · 0x80) (stored_cons.mp id).1

theorem Reads.skipped_eq (reads : Reads data start descriptor extension) :
    skipped data start = extension.pictureID.length := by
  rw [skipped, reads.flags, extension.pictureID_length]
  exact ite_congr rfl (fun present => by rw [reads.long present]) fun _ => rfl

theorem length_split (descriptor : UInt8) (extension : Extension) (frame : List UInt8) :
    (descriptor :: (extension.bytes ++ frame)).length =
      2 + extension.pictureID.length + extension.tl0PicIdx.length + extension.tidAndKeyIdx.length + frame.length := by
  rw [Extension.bytes_append]
  simp only [List.length_cons, List.length_append]
  omega

/-- **The picture id is replaced.** -/
theorem Holds.setVP8PictureID (holds : Holds (data, dataLength) start (descriptor :: (extension.bytes ++ frame)))
    (extended : bit descriptor 0x80 = true) (pictureID : UInt16) :
    Holds (RtpVP8Parser.setVP8PictureID data start dataLength pictureID, dataLength) start
      (descriptor :: ((extension.withPictureID pictureID).bytes ++ frame)) := by
  have reads := holds.reads
  have length := holds.length
  have size := length_split descriptor extension frame
  have same := extension.length_withPictureID pictureID
  have written : writtenPictureID data start dataLength pictureID = (extension.withPictureID pictureID).pictureID := by
    unfold writtenPictureID
    rw [reads.descriptor, reads.flags, reads.skipped_eq]
    show _ = if bit extension.flags 0x80 then _ else _
    simp only at length
    by_cases present : bit extension.flags 0x80 = true
    · rw [if_pos ⟨extended, present, by omega⟩, if_pos present, reads.long present]
    · rw [if_neg fun there => present there.2.1, if_neg present]
  constructor
  · have stored := holds.stored
    rw [Extension.bytes_append] at stored ⊢
    rw [setVP8PictureID_eq, written]
    exact @Stored.replace data start [descriptor, extension.flags] _ _ stored _ same
  · rw [length_split, same]
    exact length.trans (congrArg Nat.cast size)

/-- **`TL0PICIDX` is replaced.** -/
theorem Holds.setVP8TL0PicIdx (holds : Holds (data, dataLength) start (descriptor :: (extension.bytes ++ frame)))
    (extended : bit descriptor 0x80 = true) (tl0PicIdx : UInt8) :
    Holds (RtpVP8Parser.setVP8TL0PicIdx data start dataLength tl0PicIdx, dataLength) start
      (descriptor :: ((extension.withTl0PicIdx tl0PicIdx).bytes ++ frame)) := by
  have reads := holds.reads
  have length := holds.length
  have size := length_split descriptor extension frame
  have same : (extension.withTl0PicIdx tl0PicIdx).tl0PicIdx.length = extension.tl0PicIdx.length := List.length_map _
  have written : writtenTL0PicIdx data start dataLength tl0PicIdx = (extension.withTl0PicIdx tl0PicIdx).tl0PicIdx := by
    unfold writtenTL0PicIdx
    rw [reads.descriptor, reads.flags, reads.skipped_eq]
    show _ = extension.tl0PicIdx.map _
    simp only at length
    rcases extension.tl0PicIdx_cases with ⟨none, index⟩ | ⟨present, byte, index⟩
    · rw [if_neg fun there => absurd (there.2.1.symm.trans none) (by decide), index]
      rfl
    · rw [index, List.length_singleton] at size
      rw [if_pos ⟨extended, present, by omega⟩, index]
      rfl
  constructor
  · have stored := holds.stored
    rw [Extension.bytes_append] at stored ⊢
    rw [setVP8TL0PicIdx_eq, written, reads.skipped_eq, Nat.add_assoc]
    have replaced := @Stored.replace data start (descriptor :: extension.flags :: extension.pictureID) _ _ stored _ same
    rwa [List.length_cons, List.length_cons, Nat.add_assoc, Nat.add_comm _ (1 + 1)] at replaced
  · rw [length_split, same]
    exact length.trans (congrArg Nat.cast size)

end Holds

theorem Holds.slice_eq {state : Memory × ℤ} {start : ℕ} {payload : List UInt8} (holds : Holds state start payload) :
    slice state.1 start state.2.toNat = payload := by
  rw [holds.length, Int.toNat_natCast]
  exact holds.stored

theorem holds_slice (data : Memory) (start length : ℕ) : Holds (data, length) start (slice data start length) :=
  ⟨stored_slice data start length, by rw [length_slice]⟩

/-- A `static_cast` to 16 bits. -/
theorem toNat_ofInt (value : ℤ) : ((UInt16.ofInt value).toNat : ℤ) = value % 2 ^ 16 := by
  rw [UInt16.ofInt, UInt16.toNat_ofNat']
  omega

/-- **The picture id that is parsed** after it was replaced. -/
theorem Extension.report_withPictureID (extension : Extension) (present : bit extension.flags 0x80 = true)
    (pictureID : ℤ) (vp8 : RTPPayloadVP8) :
    (extension.withPictureID (UInt16.ofInt pictureID)).report vp8 =
      { extension.report vp8 with
        pictureID := pictureID % (if extension.pictureID.length = 2 then 2 ^ 15 else 2 ^ 7) } := by
  have number : pictureNumber (extension.withPictureID (UInt16.ofInt pictureID)).pictureID =
      pictureID % (if extension.pictureID.length = 2 then 2 ^ 15 else 2 ^ 7) := by
    show pictureNumber (if bit extension.flags 0x80 then _ else _) = _
    have value := toNat_ofInt pictureID
    rw [if_pos present, pictureNumber_encodePictureID, extension.pictureID_length, if_pos present]
    cases long : bit (extension.pictureID.headD 0) 0x80 with
    | false =>
        show ((UInt16.ofInt pictureID).toNat : ℤ) % 2 ^ 7 = pictureID % 2 ^ 7
        omega
    | true =>
        show ((UInt16.ofInt pictureID).toNat : ℤ) % 2 ^ 15 = pictureID % 2 ^ 15
        omega
  exact congrArg (fun number => { extension.report vp8 with pictureID := number }) number

theorem Extension.report_withTl0PicIdx (extension : Extension) (present : bit extension.flags 0x40 = true)
    (tl0PicIdx : UInt8) (vp8 : RTPPayloadVP8) :
    (extension.withTl0PicIdx tl0PicIdx).report vp8 = { extension.report vp8 with tl0PicIdx := tl0PicIdx.toNat } := by
  have number : (if bit extension.flags 0x40 then (((extension.withTl0PicIdx tl0PicIdx).tl0PicIdx.headD 0).toNat : ℤ)
      else -1) = tl0PicIdx.toNat := by
    rcases extension.tl0PicIdx_cases with ⟨none, _⟩ | ⟨_, byte, index⟩
    · exact absurd (present.symm.trans none) (by decide)
    · show (if _ then (((extension.tl0PicIdx.map fun _ => tl0PicIdx).headD 0).toNat : ℤ) else -1) = _
      rw [if_pos present, index]
      rfl
  exact congrArg (fun number => { extension.report vp8 with tl0PicIdx := number }) number

theorem parseVP8Payload_fields (vp8 : RTPPayloadVP8) (frame : List UInt8) :
    parseVP8Payload vp8 frame = { vp8 with
      frameType := (parseVP8Payload vp8 frame).frameType
      frameWidth := (parseVP8Payload vp8 frame).frameWidth
      frameHeight := (parseVP8Payload vp8 frame).frameHeight
      data := (parseVP8Payload vp8 frame).data } := by
  cases frame with
  | nil => rfl
  | cons first rest =>
      simp only [parseVP8Payload, parseVP8FrameSize]
      split_ifs <;> rfl

/-- What a descriptor without an extension leaves unset. -/
structure Bare (vp8 : RTPPayloadVP8) : Prop where
  hasPictureID : vp8.hasPictureID = false
  hasTl0PicIdx : vp8.hasTl0PicIdx = false
  hasTID : vp8.hasTID = false
  hasKeyIdx : vp8.hasKeyIdx = false
  pictureID : vp8.pictureID = -1
  tl0PicIdx : vp8.tl0PicIdx = -1
  tID : vp8.tID = -1
  layerSync : vp8.layerSync = false
  keyIdx : vp8.keyIdx = -1

/-- A payload with all bytes of its descriptor has an extension, or nothing of it is parsed. -/
theorem bare_or_split {payload : List UInt8} (complete : descriptorLength payload ≤ payload.length) :
    Bare (parseVP8 payload) ∨ ∃ descriptor extension frame, bit descriptor 0x80 = true ∧
      ¬8 < (mandatory descriptor).partitionID ∧ payload = descriptor :: (Extension.bytes extension ++ frame) := by
  cases payload with
  | nil => exact Or.inl ⟨rfl, rfl, rfl, rfl, rfl, rfl, rfl, rfl, rfl⟩
  | cons descriptor rest =>
      rw [parseVP8_cons]
      by_cases large : 8 < (mandatory descriptor).partitionID
      · rw [if_pos large]
        exact Or.inl ⟨rfl, rfl, rfl, rfl, rfl, rfl, rfl, rfl, rfl⟩
      · rw [if_neg large]
        by_cases extended : bit descriptor 0x80 = true
        · obtain ⟨extension, frame, same⟩ := exists_split extended complete
          exact Or.inr ⟨descriptor, extension, frame, extended, large, congrArg _ same⟩
        · rw [if_neg extended, parseVP8Payload_fields]
          exact Or.inl ⟨rfl, rfl, rfl, rfl, rfl, rfl, rfl, rfl, rfl⟩

/-- **The rewriting is exact**: each writer changes bytes of its field only, and none behind the payload; the field is
parsed to what was written, and everything else as before; and the writers commute. -/
theorem rewrites_exact (data : Memory) (start length : ℕ) (pictureID : ℤ) (tl0PicIdx : UInt8) :
    let payload := slice data start length
    let identified := setVP8PictureID data start length (UInt16.ofInt pictureID)
    let indexed := setVP8TL0PicIdx data start length tl0PicIdx
    let both := setVP8TL0PicIdx identified start length tl0PicIdx
    let number := pictureID % (if pictureIDLength payload = 2 then 2 ^ 15 else 2 ^ 7)
    (∀ address, identified address ≠ data address →
      ∃ offset, address = start + offset ∧ offset < length ∧ 2 ≤ offset ∧ offset < 2 + pictureIDLength payload) ∧
    (∀ address, indexed address ≠ data address →
      ∃ offset, address = start + offset ∧ offset < length ∧ 2 + pictureIDLength payload ≤ offset ∧
        offset < 2 + pictureIDLength payload + tl0PicIdxLength payload) ∧
    (descriptorLength payload ≤ length →
      ((parseVP8 payload).hasPictureID →
        parseVP8 (slice identified start length) = { parseVP8 payload with pictureID := number }) ∧
      ((parseVP8 payload).hasTl0PicIdx →
        parseVP8 (slice indexed start length) = { parseVP8 payload with tl0PicIdx := tl0PicIdx.toNat }) ∧
      ((parseVP8 payload).hasPictureID → (parseVP8 payload).hasTl0PicIdx →
        parseVP8 (slice both start length) =
          { parseVP8 payload with pictureID := number, tl0PicIdx := tl0PicIdx.toNat })) ∧
    both = setVP8PictureID indexed start length (UInt16.ofInt pictureID) := by
  refine ⟨fun _ => setVP8PictureID_frame data start _ length, fun _ => setVP8TL0PicIdx_frame data start _ length,
    fun complete => ?_, setVP8_comm data start length _ tl0PicIdx⟩
  rcases bare_or_split (complete.trans_eq (length_slice data start length).symm) with
    bare | ⟨descriptor, extension, frame, extended, small, split⟩
  · rw [bare.hasPictureID, bare.hasTl0PicIdx]
    exact ⟨nofun, nofun, nofun⟩
  · have holds := holds_slice data start length
    rw [split] at holds ⊢
    have identified := holds.setVP8PictureID extended (UInt16.ofInt pictureID)
    have parsed := parseVP8_extended small extended
    rw [parsed extension frame, pictureIDLength_split extended]
    refine ⟨fun present => ?_, fun present => ?_, fun id index => ?_⟩
    · rw [← extension.report_withPictureID present, ← parsed]
      exact congrArg parseVP8 identified.slice_eq
    · rw [← extension.report_withTl0PicIdx present, ← parsed]
      exact congrArg parseVP8 (holds.setVP8TL0PicIdx extended tl0PicIdx).slice_eq
    · have both := (extension.withPictureID (UInt16.ofInt pictureID)).report_withTl0PicIdx index tl0PicIdx
        (parseVP8Payload (mandatory descriptor) frame)
      rw [extension.report_withPictureID id, ← parsed] at both
      rw [← both]
      exact congrArg parseVP8 (identified.setVP8TL0PicIdx extended tl0PicIdx).slice_eq

/-- A payload with all optional fields, behind its descriptor a byte of frame data. -/
def optionalPayload : Memory := fun address => [0x90, 0xF0, 0x85, 0x01, 7, 0x61, 0x11].getD address 0

/-- Both fields are rewritten: the picture id, where it wraps, and `TL0PICIDX`. -/
theorem rewrites_exact_optionalPayload :
    parseVP8 (slice (setVP8TL0PicIdx (setVP8PictureID optionalPayload 0 7 (.ofInt (-1))) 0 7 200) 0 7) =
      { parseVP8 (slice optionalPayload 0 7) with pictureID := 32767, tl0PicIdx := 200 } :=
  ((rewrites_exact optionalPayload 0 7 (-1) 200).2.2.1 (by decide)).2.2 (by decide) (by decide)

/-! ### Removing the fields of an extension -/

theorem bit_zero (byte : UInt8) : bit byte 0 = false := by
  rw [bit, UInt8.and_zero]
  rfl

namespace Extension

variable (extension : Extension)

theorem pictureID_positive (present : bit extension.flags 0x80 = true) : 0 < extension.pictureID.length := by
  rw [extension.pictureID_length, if_pos present]
  split_ifs <;> decide

/-- The same extension without a picture id. -/
def withoutPictureID : Extension where
  flags := extension.flags &&& 0x7F
  pictureID := []
  tl0PicIdx := extension.tl0PicIdx
  tidAndKeyIdx := extension.tidAndKeyIdx
  pictureID_length := (if_neg (by rw [bit_low]; decide)).symm
  tl0PicIdx_length := by
    rw [bit_and]
    exact extension.tl0PicIdx_length
  tidAndKeyIdx_length := by
    rw [bit_and, bit_and]
    exact extension.tidAndKeyIdx_length

/-- The same extension without `TL0PICIDX`. -/
def withoutTl0PicIdx : Extension where
  flags := extension.flags &&& 0xBF
  pictureID := extension.pictureID
  tl0PicIdx := []
  tidAndKeyIdx := extension.tidAndKeyIdx
  pictureID_length := by
    rw [bit_and]
    exact extension.pictureID_length
  tl0PicIdx_length := by
    rw [bit_and]
    exact (if_neg (by rw [show (0xBF &&& 0x40 : UInt8) = 0 from rfl, bit_zero]; decide)).symm
  tidAndKeyIdx_length := by
    rw [bit_and, bit_and]
    exact extension.tidAndKeyIdx_length

/-- The same extension without `TID` and `KEYIDX`. -/
def withoutTIDAndKeyIdx : Extension where
  flags := extension.flags &&& 0xDF &&& 0xEF
  pictureID := extension.pictureID
  tl0PicIdx := extension.tl0PicIdx
  tidAndKeyIdx := []
  pictureID_length := by
    rw [bit_and, bit_and]
    exact extension.pictureID_length
  tl0PicIdx_length := by
    rw [bit_and, bit_and]
    exact extension.tl0PicIdx_length
  tidAndKeyIdx_length := by
    rw [bit_and, bit_and, bit_and, bit_and, show (0xDF &&& (0xEF &&& 0x20) : UInt8) = 0 from rfl,
      show (0xDF &&& (0xEF &&& 0x10) : UInt8) = 0 from rfl, bit_zero]
    rfl

end Extension

section Removal

variable {data : Memory} {start : ℕ} {dataLength : ℤ} {descriptor flags : UInt8} {extension : Extension}
  {frame before gone after rest : List UInt8}

theorem Holds.reflag (holds : Holds (data, dataLength) start (descriptor :: flags :: rest)) (new : UInt8) :
    Holds (copy data (start + 1) [new], dataLength) start (descriptor :: new :: rest) :=
  ⟨@Stored.replace data start [descriptor] [flags] rest holds.stored [new] rfl, holds.length⟩

/-- What is behind some fields is moved over them. -/
theorem Holds.erase (holds : Holds (data, dataLength) start (descriptor :: flags :: (before ++ (gone ++ after))))
    {count : ℤ} (size : count = after.length) :
    Holds (move data (start + 2 + before.length) (start + 2 + before.length + gone.length) count.toNat,
      dataLength - gone.length) start (descriptor :: flags :: (before ++ after)) := by
  have length : dataLength = _ := holds.length
  have erased := @Stored.erase data start (descriptor :: flags :: before) _ _ holds.stored
  rw [List.length_cons, List.length_cons, Nat.add_assoc, Nat.add_comm _ (1 + 1), ← Nat.add_assoc] at erased
  rw [size, Int.toNat_natCast]
  refine ⟨erased, ?_⟩
  simp only [length, List.length_cons, List.length_append]
  omega

/-- **The picture id is removed.** -/
theorem Holds.removePictureID (holds : Holds (data, dataLength) start (descriptor :: (extension.bytes ++ frame)))
    (extended : bit descriptor 0x80 = true) :
    Holds (RtpVP8Parser.removePictureID data start dataLength) start
      (descriptor :: (extension.withoutPictureID.bytes ++ frame)) := by
  have reads := holds.reads
  have length : dataLength = _ := holds.length
  have id := reads.skipped_eq
  rw [length_split] at length
  rw [Extension.bytes_append] at holds ⊢
  have reflagged := holds.reflag (extension.flags &&& 0x7F)
  have kept : copy data (start + 1) [extension.flags &&& 0x7F] (start + 2) = data (start + 2) :=
    copy_of_le data _ le_rfl
  unfold RtpVP8Parser.removePictureID
  rw [skipped, reads.flags] at id
  simp only [reads.descriptor, reads.flags, kept, if_pos extended, if_neg (show ¬dataLength - 1 ≤ 0 by omega)]
  by_cases present : bit extension.flags 0x80 = true
  · rw [if_pos present] at id ⊢
    have positive := extension.pictureID_positive present
    rw [id, if_neg (by omega), if_neg (by omega)]
    exact @Holds.erase _ _ _ _ _ [] _ _ reflagged _ (by simp only [List.length_append]; omega)
  · have none : extension.pictureID = [] := List.length_eq_zero_iff.mp (id.symm.trans (if_neg present))
    rw [if_neg present]
    rwa [none] at reflagged

/-- **`TL0PICIDX` is removed.** -/
theorem Holds.removeTl0PicIdx (holds : Holds (data, dataLength) start (descriptor :: (extension.bytes ++ frame)))
    (extended : bit descriptor 0x80 = true) :
    Holds (RtpVP8Parser.removeTl0PicIdx data start dataLength) start
      (descriptor :: (extension.withoutTl0PicIdx.bytes ++ frame)) := by
  have reads := holds.reads
  have length : dataLength = _ := holds.length
  have id := reads.skipped_eq
  rw [length_split] at length
  rw [Extension.bytes_append] at holds ⊢
  have reflagged := holds.reflag (extension.flags &&& 0xBF)
  have kept : copy data (start + 1) [extension.flags &&& 0xBF] (start + 2) = data (start + 2) :=
    copy_of_le data _ le_rfl
  unfold RtpVP8Parser.removeTl0PicIdx
  rw [skipped, reads.flags] at id
  simp only [reads.descriptor, reads.flags, kept, if_pos extended, if_neg (show ¬dataLength - 1 ≤ 0 by omega), id]
  rw [if_neg fun short => absurd short.2 (by have := extension.pictureID_positive short.1; omega)]
  rcases extension.tl0PicIdx_cases with ⟨none, index⟩ | ⟨present, byte, index⟩
  · rw [none, if_neg (by decide)]
    rwa [index] at reflagged
  · rw [index, List.length_singleton] at length
    rw [index] at reflagged
    rw [present, if_pos rfl, if_neg (by omega)]
    exact reflagged.erase (by rw [List.length_append]; omega)

/-- **`TID` and `KEYIDX` are removed.** -/
theorem Holds.removeTIDAndKeyIdx (holds : Holds (data, dataLength) start (descriptor :: (extension.bytes ++ frame)))
    (extended : bit descriptor 0x80 = true) :
    Holds (RtpVP8Parser.removeTIDAndKeyIdx data start dataLength) start
      (descriptor :: (extension.withoutTIDAndKeyIdx.bytes ++ frame)) := by
  have reads := holds.reads
  have length : dataLength = _ := holds.length
  have id := reads.skipped_eq
  have index := extension.tl0PicIdx_length
  rw [length_split] at length
  rw [Extension.bytes_append] at holds ⊢
  have reflagged := holds.reflag (extension.flags &&& 0xDF &&& 0xEF)
  have kept : copy data (start + 1) [extension.flags &&& 0xDF &&& 0xEF] (start + 2) = data (start + 2) :=
    copy_of_le data _ le_rfl
  unfold RtpVP8Parser.removeTIDAndKeyIdx
  rw [skipped, reads.flags] at id
  simp only [reads.descriptor, reads.flags, kept, if_pos extended, if_neg (show ¬dataLength - 1 ≤ 0 by omega), id]
  rw [if_neg fun short => absurd short.2 (by have := extension.pictureID_positive short.1; omega),
    if_neg fun short => absurd short.2 (by rw [if_pos short.1] at index; omega)]
  have both : (if bit extension.flags 0x40 then extension.pictureID.length + 1 else extension.pictureID.length) =
      (extension.pictureID ++ extension.tl0PicIdx).length := by
    rw [List.length_append, index]
    split_ifs <;> rfl
  show Holds _ start (descriptor :: (extension.flags &&& 0xDF &&& 0xEF) ::
    (extension.pictureID ++ (extension.tl0PicIdx ++ frame)))
  rw [both, ← List.append_assoc]
  rw [← List.append_assoc] at reflagged
  have joined := @List.length_append _ extension.pictureID extension.tl0PicIdx
  rcases extension.tidAndKeyIdx_cases with ⟨none, last⟩ | ⟨present, byte, last⟩
  · rw [if_neg fun either => absurd ((Bool.or_eq_true _ _).mpr either) (by rw [none]; decide)]
    rwa [last] at reflagged
  · rw [last, List.length_singleton] at length
    rw [last] at reflagged
    rw [if_pos ((Bool.or_eq_true _ _).mp present), if_neg (by omega)]
    exact reflagged.erase (by omega)

end Removal

/-! ### All of them -/

/-- The removals, in the order of `removeVP8OptionalPayload`. -/
def removeOptional (data : Memory) (start : ℕ) (dataLength : ℤ) : Memory × ℤ :=
  let (data, dataLength) := removePictureID data start dataLength
  let (data, dataLength) := removeTl0PicIdx data start dataLength
  removeTIDAndKeyIdx data start dataLength

/-- What is parsed, without what the extension said. -/
def withoutOptional (vp8 : RTPPayloadVP8) : RTPPayloadVP8 :=
  { vp8 with
    hasPictureID := false
    hasTl0PicIdx := false
    hasTID := false
    hasKeyIdx := false
    pictureID := -1
    tl0PicIdx := -1
    tID := -1
    layerSync := false
    keyIdx := -1 }

/-- An extension without fields says nothing. -/
theorem Extension.report_bare {extension : Extension} (cleared : ∀ mask : UInt8, 0x0F &&& mask = 0 →
    bit extension.flags mask = false) (vp8 : RTPPayloadVP8) : extension.report vp8 = withoutOptional vp8 := by
  have noID : extension.pictureID = [] := by
    rcases extension.pictureID_cases with ⟨_, none⟩ | ⟨present, _⟩ | ⟨present, _⟩
    · exact none
    all_goals exact absurd (present.symm.trans (cleared 0x80 rfl)) (by decide)
  unfold report withoutOptional
  rw [noID, cleared 0x80 rfl, cleared 0x40 rfl, cleared 0x20 rfl, cleared 0x10 rfl]
  rfl

theorem Extension.report_without (extension : Extension) (vp8 : RTPPayloadVP8) :
    extension.withoutPictureID.withoutTl0PicIdx.withoutTIDAndKeyIdx.report vp8 =
      withoutOptional (extension.report vp8) := by
  refine report_bare (fun mask outside => ?_) vp8
  show bit ((extension.flags &&& 0x7F) &&& 0xBF &&& 0xDF &&& 0xEF) mask = false
  rw [UInt8.and_assoc, UInt8.and_assoc, UInt8.and_assoc, bit_and,
    show (0x7F &&& (0xBF &&& (0xDF &&& 0xEF)) &&& mask : UInt8) = 0x0F &&& mask from rfl, outside, bit_zero]

theorem Bare.withoutOptional_eq {vp8 : RTPPayloadVP8} (bare : Bare vp8) : withoutOptional vp8 = vp8 := by
  obtain ⟨⟩ := vp8
  obtain ⟨rfl, rfl, rfl, rfl, rfl, rfl, rfl, rfl, rfl⟩ := bare
  rfl

section Reading

variable (vp8 : RTPPayloadVP8) (data : List UInt8)

/-- A field is parsed if its bytes are there. Otherwise the parser gives up. -/
theorem pictureID_stage (present : Bool) :
    ∃ parsed : RTPPayloadVP8, parsed.data = vp8.data ∧
      (optionally present parseVP8PictureID (vp8, some data) = (parsed, none) ∨
        ∃ field rest, data = field ++ rest ∧
          field.length = (if present then if bit (field.headD 0) 0x80 then 2 else 1 else 0) ∧
          optionally present parseVP8PictureID (vp8, some data) = (parsed, some rest)) := by
  match present, data with
  | false, data => exact ⟨vp8, rfl, Or.inr ⟨[], data, rfl, rfl, rfl⟩⟩
  | true, [] => exact ⟨vp8, rfl, Or.inl rfl⟩
  | true, [first] =>
      cases long : bit first 0x80 with
      | false =>
          refine ⟨{ vp8 with pictureID := (first &&& 0x7F).toNat }, rfl, Or.inr ⟨[first], [], rfl, ?_, ?_⟩⟩
          · simp [long]
          · simp [optionally, parseVP8PictureID, long]
      | true =>
          refine ⟨{ vp8 with pictureID := (first &&& 0x7F).toNat }, rfl, Or.inl ?_⟩
          simp [optionally, parseVP8PictureID, long]
  | true, first :: second :: rest =>
      cases long : bit first 0x80 with
      | false =>
          refine ⟨{ vp8 with pictureID := (first &&& 0x7F).toNat }, rfl, Or.inr ⟨[first], second :: rest, rfl, ?_, ?_⟩⟩
          · simp [long]
          · simp [optionally, parseVP8PictureID, long]
      | true =>
          refine ⟨{ vp8 with pictureID := (first &&& 0x7F).toNat * 256 + (second.toNat : ℤ) }, rfl,
            Or.inr ⟨[first, second], rest, rfl, ?_, ?_⟩⟩
          · simp [long]
          · simp [optionally, parseVP8PictureID, long]

theorem tl0PicIdx_stage (present : Bool) :
    ∃ parsed : RTPPayloadVP8, parsed.data = vp8.data ∧
      (optionally present parseVP8Tl0PicIdx (vp8, some data) = (parsed, none) ∨
        ∃ field rest, data = field ++ rest ∧ field.length = (if present then 1 else 0) ∧
          optionally present parseVP8Tl0PicIdx (vp8, some data) = (parsed, some rest)) := by
  match present, data with
  | false, data => exact ⟨vp8, rfl, Or.inr ⟨[], data, rfl, rfl, rfl⟩⟩
  | true, [] => exact ⟨vp8, rfl, Or.inl rfl⟩
  | true, byte :: rest => exact ⟨{ vp8 with tl0PicIdx := byte.toNat }, rfl, Or.inr ⟨[byte], rest, rfl, rfl, rfl⟩⟩

theorem tidAndKeyIdx_stage (present : Bool) :
    ∃ parsed : RTPPayloadVP8, parsed.data = vp8.data ∧
      (optionally present parseVP8TIDAndKeyIdx (vp8, some data) = (parsed, none) ∨
        ∃ field rest, data = field ++ rest ∧ field.length = (if present then 1 else 0) ∧
          optionally present parseVP8TIDAndKeyIdx (vp8, some data) = (parsed, some rest)) := by
  match present, data with
  | false, data => exact ⟨vp8, rfl, Or.inr ⟨[], data, rfl, rfl, rfl⟩⟩
  | true, [] => exact ⟨vp8, rfl, Or.inl rfl⟩
  | true, byte :: rest =>
      refine ⟨(parseVP8TIDAndKeyIdx vp8 (byte :: rest)).1, ?_, Or.inr ⟨[byte], rest, rfl, rfl, rfl⟩⟩
      simp only [parseVP8TIDAndKeyIdx]
      split_ifs <;> rfl

/-- **The parser gets through an extension if its bytes are there**, and gives up otherwise. -/
theorem split_or_none :
    (∃ (extension : Extension) (frame : List UInt8), data = extension.bytes ++ frame) ∨
      ∃ parsed : RTPPayloadVP8, parsed.data = vp8.data ∧ parseVP8Extension vp8 data = (parsed, none) := by
  cases data with
  | nil => exact Or.inr ⟨vp8, rfl, rfl⟩
  | cons flags data =>
      simp only [parseVP8Extension]
      obtain ⟨first, kept, short | ⟨id, rest, rfl, idLength, parsed⟩⟩ := pictureID_stage
        { vp8 with
          hasPictureID := bit flags 0x80
          hasTl0PicIdx := bit flags 0x40
          hasTID := bit flags 0x20
          hasKeyIdx := bit flags 0x10 } data (bit flags 0x80)
      · exact Or.inr ⟨first, kept, by rw [short]; rfl⟩
      rw [parsed]
      obtain ⟨second, kept_second, short | ⟨index, rest, rfl, indexLength, parsed⟩⟩ :=
        tl0PicIdx_stage first rest (bit flags 0x40)
      · exact Or.inr ⟨second, kept_second.trans kept, by rw [short]; rfl⟩
      rw [parsed]
      obtain ⟨third, kept_third, short | ⟨last, frame, rfl, lastLength, parsed⟩⟩ :=
        tidAndKeyIdx_stage second rest (bit flags 0x20 || bit flags 0x10)
      · exact Or.inr ⟨third, kept_third.trans (kept_second.trans kept), short⟩
      · refine Or.inl ⟨⟨flags, id, index, last, idLength, indexLength, lastLength⟩, frame, ?_⟩
        rw [Extension.bytes_append]

end Reading

/-- A payload whose frame data are found has no extension, or all bytes of it. -/
theorem bare_or_split_of_read {payload : List UInt8} (read : (parseVP8 payload).data.isSome) :
    (Bare (parseVP8 payload) ∧ bit (payload.getD 0 0) 0x80 = false) ∨
      ∃ descriptor extension frame, bit descriptor 0x80 = true ∧
        ¬8 < (mandatory descriptor).partitionID ∧ payload = descriptor :: (Extension.bytes extension ++ frame) := by
  cases payload with
  | nil => exact absurd read Bool.false_ne_true
  | cons descriptor rest =>
      rw [parseVP8_cons] at read ⊢
      by_cases large : 8 < (mandatory descriptor).partitionID
      · rw [if_pos large] at read
        exact absurd read Bool.false_ne_true
      · rw [if_neg large] at read ⊢
        cases extended : bit descriptor 0x80 with
        | false =>
            rw [if_neg (by decide), parseVP8Payload_fields]
            exact Or.inl ⟨⟨rfl, rfl, rfl, rfl, rfl, rfl, rfl, rfl, rfl⟩, extended⟩
        | true =>
            rw [if_pos extended] at read
            rcases split_or_none (mandatory descriptor) rest with ⟨extension, frame, same⟩ | ⟨parsed, kept, none⟩
            · exact Or.inr ⟨descriptor, extension, frame, extended, large, congrArg _ same⟩
            · rw [none] at read
              simp only at read
              rw [kept] at read
              exact absurd read Bool.false_ne_true

theorem removeOptional_bare {data : Memory} {start : ℕ} (bare : bit (data start) 0x80 = false) (dataLength : ℤ) :
    removeOptional data start dataLength = (data, dataLength) := by
  have off : ¬bit (data start) 0x80 = true := by rw [bare]; decide
  simp only [removeOptional, removePictureID, removeTl0PicIdx, removeTIDAndKeyIdx, if_neg off]

/-- **Without its optional fields a payload has the same frame data**: nothing of them is parsed any more, everything
else is parsed as before, and the length is less by their bytes. -/
theorem removed_keeps_frame (data : Memory) (start length : ℕ)
    (read : (parseVP8 (slice data start length)).data.isSome) :
    let payload := slice data start length
    let removed := removeOptional data start length
    parseVP8 (slice removed.1 start removed.2.toNat) = withoutOptional (parseVP8 payload) ∧
      removed.2 =
        length - (pictureIDLength payload + tl0PicIdxLength payload + tidAndKeyIdxLength payload) := by
  rcases bare_or_split_of_read read with ⟨bare, off⟩ | ⟨descriptor, extension, frame, extended, small, split⟩
  · have positive : 0 < length := by
      refine Nat.pos_of_ne_zero ?_
      rintro rfl
      exact absurd read Bool.false_ne_true
    have off_memory := off
    rw [getD_slice _ _ positive, Nat.add_zero] at off_memory
    simp only [removeOptional_bare off_memory, Int.toNat_natCast, bare.withoutOptional_eq, true_and, pictureIDLength,
      tl0PicIdxLength, tidAndKeyIdxLength, off, Bool.false_and]
    exact (sub_zero _).symm
  · have holds := holds_slice data start length
    rw [split] at holds
    have removed := ((holds.removePictureID extended).removeTl0PicIdx extended).removeTIDAndKeyIdx extended
    have before : (length : ℤ) = _ := holds.length
    have after : (removeOptional data start length).2 = _ := removed.length
    rw [length_split] at before after
    simp only
    rw [split, pictureIDLength_split extended, tl0PicIdxLength_split extended, tidAndKeyIdxLength_split extended,
      parseVP8_extended small extended, ← Extension.report_without, ← parseVP8_extended small extended]
    refine ⟨congrArg parseVP8 removed.slice_eq, ?_⟩
    rw [after, before]
    show ((2 + 0 + 0 + 0 + frame.length : ℕ) : ℤ) = _
    omega

theorem removed_keeps_frame_optionalPayload :
    (parseVP8 (slice optionalPayload 0 7)).data = some [0x11] ∧ (removeOptional optionalPayload 0 7).2 = 3 := by
  have kept := removed_keeps_frame optionalPayload 0 7 (by decide)
  exact ⟨by decide, kept.2⟩

/-! ### Packets -/

section Frame

variable {data : Memory} {start address : ℕ} (before : address < start) (dataLength : ℤ)

/-- A byte that both branches keep. -/
theorem kept_of_ite {condition : Prop} [Decidable condition] {first second : Memory × ℤ} {byte : UInt8}
    (here : first.1 address = byte) (there : second.1 address = byte) :
    (if condition then first else second).1 address = byte := by
  split_ifs
  exacts [here, there]

include before

/-- The flags are in the payload. -/
theorem copy_flags_of_lt (flags : UInt8) : copy data (start + 1) [flags] address = data address :=
  copy_of_lt data [flags] (by omega)

theorem removePictureID_of_lt : (removePictureID data start dataLength).1 address = data address := by
  unfold removePictureID
  refine kept_of_ite (kept_of_ite rfl (kept_of_ite (kept_of_ite ?_ (kept_of_ite ?_ ?_)) ?_)) rfl
  any_goals exact copy_flags_of_lt before _
  exact (move_of_lt _ _ _ (by omega)).trans (copy_flags_of_lt before _)

theorem removeTl0PicIdx_of_lt : (removeTl0PicIdx data start dataLength).1 address = data address := by
  unfold removeTl0PicIdx
  refine kept_of_ite (kept_of_ite rfl (kept_of_ite ?_ (kept_of_ite (kept_of_ite ?_ ?_) ?_))) rfl
  any_goals exact copy_flags_of_lt before _
  exact (move_of_lt _ _ _ (by omega)).trans (copy_flags_of_lt before _)

theorem removeTIDAndKeyIdx_of_lt : (removeTIDAndKeyIdx data start dataLength).1 address = data address := by
  unfold removeTIDAndKeyIdx
  refine kept_of_ite (kept_of_ite rfl (kept_of_ite ?_ (kept_of_ite ?_ (kept_of_ite (kept_of_ite ?_ ?_) ?_)))) rfl
  any_goals exact copy_flags_of_lt before _
  exact (move_of_lt _ _ _ (by omega)).trans (copy_flags_of_lt before _)

/-- Nothing before the payload is changed. -/
theorem removeOptional_of_lt : (removeOptional data start dataLength).1 address = data address :=
  (removeTIDAndKeyIdx_of_lt before _).trans ((removeTl0PicIdx_of_lt before _).trans (removePictureID_of_lt before _))

end Frame

end RtpVP8Parser

/-- The length of a header depends on its bytes only. -/
theorem RtpHeader.getHeaderLength_congr {first second : Memory}
    (same : ∀ address < getHeaderLength first, second address = first address) :
    getHeaderLength second = getHeaderLength first := by
  have start := same 0 (by unfold getHeaderLength; omega)
  have cc : getCc second = getCc first := by rw [getCc, start, getCc]
  have extension : getExtension second = getExtension first := by rw [getExtension, start, getExtension]
  rcases Nat.mod_two_eq_zero_or_one ((first 0).toNat / 16) with none | present
  · have off : getExtension first = 0 := none
    rw [getHeaderLength, cc, extension, off, getHeaderLength, off, Nat.zero_mul, Nat.zero_mul]
  · have on : getExtension first = 1 := present
    have words : getExtLength second = getExtLength first := by
      refine read16_congr fun address _ below => same address ?_
      rw [getHeaderLength, on]
      omega
    rw [getHeaderLength, cc, extension, words, getHeaderLength]

namespace QualityFilterHandler

open RtpVP8Parser

variable {packet : LayeredPacket}

theorem getHeaderLength_removeOptional (data : Memory) (dataLength : ℤ) :
    RtpHeader.getHeaderLength (removeOptional data (RtpHeader.getHeaderLength data) dataLength).1 =
      RtpHeader.getHeaderLength data :=
  @RtpHeader.getHeaderLength_congr data _ fun _ before => removeOptional_of_lt before dataLength

theorem removeVP8OptionalPayload_eq (vp8 : packet.codec = "VP8") :
    let headerLength := RtpHeader.getHeaderLength packet.data
    let removed := removeOptional packet.data headerLength (packet.length - headerLength)
    removeVP8OptionalPayload packet = { packet with data := removed.1, length := removed.2 + headerLength } := by
  have header := getHeaderLength_removeOptional packet.data (packet.length - RtpHeader.getHeaderLength packet.data)
  have removed : removeVP8OptionalPayload packet = { packet with
      data := (removeOptional packet.data (RtpHeader.getHeaderLength packet.data)
        (packet.length - RtpHeader.getHeaderLength packet.data)).1
      length := (removeOptional packet.data (RtpHeader.getHeaderLength packet.data)
        (packet.length - RtpHeader.getHeaderLength packet.data)).2 +
          RtpHeader.getHeaderLength (removeOptional packet.data (RtpHeader.getHeaderLength packet.data)
            (packet.length - RtpHeader.getHeaderLength packet.data)).1 } := if_pos vp8
  rwa [header] at removed

/-- **A packet without its optional fields** has the same frame data. -/
theorem parsed_removeVP8OptionalPayload (vp8 : packet.codec = "VP8")
    (read : (parseVP8 packet.payload).data.isSome) :
    parseVP8 (removeVP8OptionalPayload packet).payload = withoutOptional (parseVP8 packet.payload) := by
  have removed := removeVP8OptionalPayload_eq vp8
  have header := getHeaderLength_removeOptional packet.data (packet.length - RtpHeader.getHeaderLength packet.data)
  have long : RtpHeader.getHeaderLength packet.data < packet.length := by
    by_contra short
    have empty : packet.payload = [] := by
      rw [DataPacket.payload, Int.toNat_of_nonpos (by omega)]
      rfl
    rw [empty] at read
    exact Bool.false_ne_true read
  obtain ⟨count, count_eq⟩ := Int.eq_ofNat_of_zero_le
    (show 0 ≤ packet.length - RtpHeader.getHeaderLength packet.data by omega)
  have payload : packet.payload = slice packet.data (RtpHeader.getHeaderLength packet.data) count := by
    rw [DataPacket.payload, count_eq]
    rfl
  rw [payload] at read ⊢
  rw [← (removed_keeps_frame _ _ _ read).1, removed]
  refine congrArg parseVP8 ?_
  simp only [DataPacket.payload]
  rw [header, count_eq, Int.add_sub_cancel]
  rfl

end QualityFilterHandler

end Erizo
