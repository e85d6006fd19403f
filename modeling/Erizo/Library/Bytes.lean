/-
**A byte memory with big-endian words.**

A `Memory` gives the byte at every address. `copy` overwrites a stretch of it with a list of bytes;
`read16` and `read32` are the words in network order at an address, `encode16` and `encode32` their
bytes.

* `read16_copy` and `read32_copy`: a word whose bytes were copied reads back.
* `read16_congr`: a read depends on the bytes it covers only, and `copy_of_lt`, `copy_of_le` say
  that a copy does not change any byte outside its stretch.
* `Stored`: a stretch of the memory has given bytes; `stored_append` takes them apart, and they are still there after a
  copy elsewhere (`Stored.copy`), or where they are moved to (`Stored.move`).
-/

import Mathlib.Data.List.GetD
import Mathlib.Data.UInt
import Mathlib.Tactic

namespace Library

namespace Bytes

/-- The bytes at every address. -/
abbrev Memory := ℕ → UInt8

/-- Overwrite the bytes from `position` on. -/
def copy (memory : Memory) (position : ℕ) (bytes : List UInt8) : Memory := fun address =>
  if position ≤ address ∧ address < position + bytes.length then bytes.getD (address - position) 0
  else memory address

theorem copy_of_lt (memory : Memory) {position address : ℕ} (bytes : List UInt8) (before : address < position) :
    copy memory position bytes address = memory address :=
  if_neg fun inside => absurd inside.1 (Nat.not_le.mpr before)

theorem copy_of_le (memory : Memory) {position address : ℕ} (bytes : List UInt8)
    (after : position + bytes.length ≤ address) : copy memory position bytes address = memory address :=
  if_neg fun inside => absurd inside.2 (Nat.not_lt.mpr after)

theorem copy_inside (memory : Memory) (position : ℕ) {bytes : List UInt8} {index : ℕ} (below : index < bytes.length) :
    copy memory position bytes (position + index) = bytes.getD index 0 := by
  rw [copy, if_pos ⟨Nat.le_add_right _ _, by omega⟩, Nat.add_sub_cancel_left]

@[simp] theorem copy_nil (memory : Memory) (position : ℕ) : copy memory position [] = memory := by
  funext address
  rcases Nat.lt_or_ge address position with before | after
  · exact copy_of_lt memory [] before
  · exact copy_of_le memory [] after

/-- What a copy leaves at an address depends on that address only. -/
theorem copy_congr {first second : Memory} {address : ℕ} (same : first address = second address) (position : ℕ)
    (bytes : List UInt8) : copy first position bytes address = copy second position bytes address := by
  rw [copy, copy, same]

/-- Copies to stretches that are apart may change places. -/
theorem copy_comm (memory : Memory) {position other : ℕ} {first second : List UInt8}
    (apart : position + first.length ≤ other) :
    copy (copy memory position first) other second = copy (copy memory other second) position first := by
  funext address
  rcases Nat.lt_or_ge address other with before | after
  · rw [copy_of_lt _ _ before]
    exact copy_congr (copy_of_lt _ _ before).symm _ _
  · rw [copy_of_le (copy memory other second) _ (by omega)]
    exact copy_congr (copy_of_le _ _ (by omega)) _ _

/-- What is copied over as many bytes leaves nothing of them. -/
theorem copy_copy (memory : Memory) (position : ℕ) {first second : List UInt8} (same : first.length = second.length) :
    copy (copy memory position first) position second = copy memory position second := by
  funext address
  by_cases inside : position ≤ address ∧ address < position + second.length
  · rw [copy, if_pos inside, copy, if_pos inside]
  · rw [copy, if_neg inside, copy, same, if_neg inside, copy, if_neg inside]

/-- Two copies, one after the other, are one. -/
theorem copy_append (memory : Memory) (position : ℕ) (first second : List UInt8) :
    copy (copy memory position first) (position + first.length) second = copy memory position (first ++ second) := by
  funext address
  by_cases before : address < position
  · rw [copy_of_lt _ _ (by omega), copy_of_lt _ _ before, copy_of_lt _ _ before]
  · obtain ⟨index, rfl⟩ : ∃ index, address = position + index := ⟨address - position, by omega⟩
    by_cases early : index < first.length
    · rw [copy_of_lt _ _ (by omega), copy_inside _ _ early,
        copy_inside _ _ (by rw [List.length_append]; omega), List.getD_append _ _ _ _ early]
    · by_cases late : index < first.length + second.length
      · obtain ⟨rest, rfl⟩ : ∃ rest, index = first.length + rest := ⟨index - first.length, by omega⟩
        rw [← Nat.add_assoc, copy_inside _ _ (by omega), Nat.add_assoc,
          copy_inside _ _ (by rw [List.length_append]; omega), List.getD_append_right _ _ _ _ (by omega),
          Nat.add_sub_cancel_left]
      · rw [copy_of_le _ _ (by omega), copy_of_le _ _ (by omega),
          copy_of_le _ _ (by rw [List.length_append]; omega)]

/-! ### Stretches -/

/-- The bytes from a position on. -/
def slice (memory : Memory) (position count : ℕ) : List UInt8 :=
  (List.range count).map fun index => memory (position + index)

/-- Move bytes from one stretch to another, which may overlap. -/
def move (memory : Memory) (target source count : ℕ) : Memory := copy memory target (slice memory source count)

theorem move_of_lt (memory : Memory) {target address : ℕ} (source count : ℕ) (before : address < target) :
    move memory target source count address = memory address := copy_of_lt memory _ before

@[simp] theorem length_slice (memory : Memory) (position count : ℕ) : (slice memory position count).length = count := by
  rw [slice, List.length_map, List.length_range]

theorem getD_slice (memory : Memory) (position : ℕ) {count index : ℕ} (below : index < count) :
    (slice memory position count).getD index 0 = memory (position + index) := by
  unfold slice
  rw [List.getD_eq_getElem _ _ (by simpa using below), List.getElem_map, List.getElem_range]

theorem slice_congr {first second : Memory} {position count : ℕ}
    (same : ∀ address, position ≤ address → address < position + count → first address = second address) :
    slice first position count = slice second position count :=
  List.map_congr_left fun index below => same _ (by omega) (by rw [List.mem_range] at below; omega)

theorem slice_add (memory : Memory) (position first second : ℕ) :
    slice memory position (first + second) = slice memory position first ++ slice memory (position + first) second := by
  rw [slice, List.range_add, List.map_append, List.map_map]
  exact congrArg _ (List.map_congr_left fun index _ => congrArg memory (Nat.add_assoc position first index).symm)

theorem slice_succ (memory : Memory) (position count : ℕ) :
    slice memory position (count + 1) = memory position :: slice memory (position + 1) count := by
  rw [Nat.add_comm, slice_add]
  rfl

theorem take_slice (memory : Memory) (position : ℕ) {first count : ℕ} (below : first ≤ count) :
    (slice memory position count).take first = slice memory position first := by
  rw [← Nat.add_sub_of_le below, slice_add, List.take_left' (length_slice _ _ _)]

theorem drop_slice (memory : Memory) (position : ℕ) {first count : ℕ} (below : first ≤ count) :
    (slice memory position count).drop first = slice memory (position + first) (count - first) := by
  rw [← Nat.add_sub_of_le below, slice_add, List.drop_left' (length_slice _ _ _), Nat.add_sub_cancel_left]

/-- The memory has these bytes from a position on. -/
def Stored (memory : Memory) (position : ℕ) (bytes : List UInt8) : Prop :=
  slice memory position bytes.length = bytes

theorem stored_slice (memory : Memory) (position count : ℕ) :
    Stored memory position (slice memory position count) := by
  rw [Stored, length_slice]

@[simp] theorem stored_nil (memory : Memory) (position : ℕ) : Stored memory position [] := rfl

/-- Bytes one after the other. -/
theorem stored_append {memory : Memory} {position : ℕ} {first second : List UInt8} :
    Stored memory position (first ++ second) ↔
      Stored memory position first ∧ Stored memory (position + first.length) second := by
  unfold Stored
  rw [List.length_append, slice_add]
  exact ⟨fun same => List.append_inj same (length_slice _ _ _), fun both => by rw [both.1, both.2]⟩

@[simp] theorem stored_singleton {memory : Memory} {position : ℕ} {byte : UInt8} :
    Stored memory position [byte] ↔ memory position = byte := by
  constructor
  · exact fun stored => (List.cons.inj stored).1
  · exact fun same => congrArg (fun first => [first]) same

theorem stored_cons {memory : Memory} {position : ℕ} {byte : UInt8} {rest : List UInt8} :
    Stored memory position (byte :: rest) ↔ memory position = byte ∧ Stored memory (position + 1) rest := by
  rw [← List.singleton_append, stored_append, stored_singleton]
  rfl

/-- What is stored behind a stretch is still there after a copy to it, and so is what is before. -/
theorem Stored.copy {memory : Memory} {position : ℕ} {bytes : List UInt8} (stored : Stored memory position bytes)
    {target : ℕ} {copied : List UInt8}
    (apart : position + bytes.length ≤ target ∨ target + copied.length ≤ position) :
    Stored (Bytes.copy memory target copied) position bytes := by
  refine (slice_congr fun address from_position below => ?_).trans stored
  rcases apart with before | after
  · exact copy_of_lt memory _ (by omega)
  · exact copy_of_le memory _ (by omega)

/-- What was copied is there. -/
theorem stored_copy (memory : Memory) (position : ℕ) (bytes : List UInt8) :
    Stored (copy memory position bytes) position bytes := by
  refine List.ext_getElem (length_slice _ _ _) fun index below inside => ?_
  rw [← List.getD_eq_getElem _ 0 below, ← List.getD_eq_getElem _ 0 inside, getD_slice _ _ inside,
    copy_inside memory position inside]

/-- The bytes in front of a place and those copied to it. -/
theorem slice_copy (memory : Memory) (position : ℕ) (bytes : List UInt8) :
    slice (copy memory position bytes) 0 (position + bytes.length) = slice memory 0 position ++ bytes := by
  have written : slice (copy memory position bytes) position bytes.length = bytes := stored_copy memory position bytes
  rw [slice_add, Nat.zero_add, written, slice_congr fun address _ below => copy_of_lt memory bytes (by omega)]

/-- Bytes that are moved are stored where they are moved to. -/
theorem Stored.move {memory : Memory} {source : ℕ} {bytes : List UInt8} (stored : Stored memory source bytes)
    {count : ℕ} (whole : bytes.length = count) (target : ℕ) :
    Stored (Bytes.move memory target source count) target bytes := by
  subst whole
  have read : slice memory source bytes.length = bytes := stored
  rw [Bytes.move, read]
  exact stored_copy memory target bytes

/-- Other bytes are copied over some. -/
theorem Stored.replace {memory : Memory} {position : ℕ} {before old after : List UInt8}
    (stored : Stored memory position (before ++ (old ++ after))) {new : List UInt8} (same : new.length = old.length) :
    Stored (Bytes.copy memory (position + before.length) new) position (before ++ (new ++ after)) := by
  obtain ⟨first, rest⟩ := stored_append.mp stored
  obtain ⟨_, last⟩ := stored_append.mp rest
  refine stored_append.mpr ⟨first.copy (Or.inl le_rfl), stored_append.mpr ⟨stored_copy _ _ _, ?_⟩⟩
  rw [same]
  exact last.copy (Or.inr (by rw [same]))

/-- What is behind some bytes is moved over them. -/
theorem Stored.erase {memory : Memory} {position : ℕ} {before gone after : List UInt8}
    (stored : Stored memory position (before ++ (gone ++ after))) :
    Stored (Bytes.move memory (position + before.length) (position + before.length + gone.length) after.length)
      position (before ++ after) := by
  obtain ⟨first, rest⟩ := stored_append.mp stored
  obtain ⟨_, last⟩ := stored_append.mp rest
  exact stored_append.mpr ⟨first.copy (Or.inl le_rfl), last.move rfl _⟩

/-! ### Words -/

/-- The two bytes of a word, the high one first. -/
def encode16 (value : UInt16) : List UInt8 :=
  [UInt8.ofNat (value.toNat / 256), UInt8.ofNat (value.toNat % 256)]

/-- The four bytes of a double word, the high one first. -/
def encode32 (value : UInt32) : List UInt8 :=
  [UInt8.ofNat (value.toNat / 2 ^ 24), UInt8.ofNat (value.toNat / 2 ^ 16 % 256),
    UInt8.ofNat (value.toNat / 2 ^ 8 % 256), UInt8.ofNat (value.toNat % 256)]

/-- The three low bytes of a number, the high one first. -/
def encode24 (value : ℕ) : List UInt8 :=
  [UInt8.ofNat (value / 2 ^ 16), UInt8.ofNat (value / 2 ^ 8), UInt8.ofNat value]

@[simp] theorem length_encode16 (value : UInt16) : (encode16 value).length = 2 := rfl

@[simp] theorem length_encode32 (value : UInt32) : (encode32 value).length = 4 := rfl

/-- The word at an address. -/
def read16 (memory : Memory) (position : ℕ) : UInt16 :=
  UInt16.ofNat ((memory position).toNat * 256 + (memory (position + 1)).toNat)

/-- The double word at an address. -/
def read32 (memory : Memory) (position : ℕ) : UInt32 :=
  UInt32.ofNat ((((memory position).toNat * 256 + (memory (position + 1)).toNat) * 256 +
    (memory (position + 2)).toNat) * 256 + (memory (position + 3)).toNat)

/-- The three bytes at an address. -/
def read24 (memory : Memory) (position : ℕ) : ℕ :=
  ((memory position).toNat * 256 + (memory (position + 1)).toNat) * 256 + (memory (position + 2)).toNat

theorem read16_congr {first second : Memory} {position : ℕ}
    (same : ∀ address, position ≤ address → address < position + 2 → first address = second address) :
    read16 first position = read16 second position := by
  rw [read16, read16, same position le_rfl (by omega), same (position + 1) (by omega) (by omega)]

theorem read32_congr {first second : Memory} {position : ℕ}
    (same : ∀ address, position ≤ address → address < position + 4 → first address = second address) :
    read32 first position = read32 second position := by
  rw [read32, read32, same position le_rfl (by omega), same (position + 1) (by omega) (by omega),
    same (position + 2) (by omega) (by omega), same (position + 3) (by omega) (by omega)]

theorem toNat_read16 (memory : Memory) (position : ℕ) :
    (read16 memory position).toNat = (memory position).toNat * 256 + (memory (position + 1)).toNat := by
  have high := (memory position).toNat_lt
  have low := (memory (position + 1)).toNat_lt
  rw [read16, UInt16.toNat_ofNat', Nat.mod_eq_of_lt (by omega)]

/-- A word is its two bytes. -/
theorem ofNat_bytes (value : UInt16) :
    UInt16.ofNat ((UInt8.ofNat (value.toNat / 256)).toNat * 256 + (UInt8.ofNat (value.toNat % 256)).toNat) =
      value := by
  have below := value.toNat_lt
  rw [UInt8.toNat_ofNat', UInt8.toNat_ofNat', Nat.mod_eq_of_lt (by omega), Nat.mod_eq_of_lt (by omega),
    Nat.div_add_mod' value.toNat 256, UInt16.ofNat_toNat]

/-- **A copied word reads back**, wherever in the copied bytes it stands. -/
theorem read16_copy (memory : Memory) (position : ℕ) (before : List UInt8) (value : UInt16) (after : List UInt8) :
    read16 (copy memory position (before ++ encode16 value ++ after)) (position + before.length) = value := by
  have long : (before ++ encode16 value ++ after).length = before.length + 2 + after.length := by
    simp [Nat.add_assoc]
  have first := copy_inside memory position (show before.length < (before ++ encode16 value ++ after).length by omega)
  have second := copy_inside memory position
    (show before.length + 1 < (before ++ encode16 value ++ after).length by omega)
  rw [List.append_assoc, List.getD_append_right before _ _ _ le_rfl, Nat.sub_self] at first
  rw [← Nat.add_assoc, List.append_assoc, List.getD_append_right before _ _ _ (by omega),
    Nat.add_sub_cancel_left] at second
  rw [List.append_assoc, read16, first, second]
  exact ofNat_bytes value

/-- Writing a word. -/
def write16 (memory : Memory) (position : ℕ) (value : UInt16) : Memory := copy memory position (encode16 value)

@[simp] theorem read16_write16 (memory : Memory) (position : ℕ) (value : UInt16) :
    read16 (write16 memory position value) position = value := by
  have back := read16_copy memory position [] value []
  rwa [List.nil_append, List.append_nil] at back

theorem read16_write16_of_disjoint (memory : Memory) {written read : ℕ} (value : UInt16)
    (apart : read + 2 ≤ written ∨ written + 2 ≤ read) :
    read16 (write16 memory written value) read = read16 memory read := by
  refine read16_congr fun address from_read below => ?_
  rcases apart with before | after
  · exact copy_of_lt memory _ (by omega)
  · exact copy_of_le memory _ (by rw [length_encode16]; omega)

theorem write16_of_disjoint (memory : Memory) {position address : ℕ} (value : UInt16)
    (apart : address < position ∨ position + 2 ≤ address) : write16 memory position value address = memory address := by
  rcases apart with before | after
  · exact copy_of_lt memory _ before
  · exact copy_of_le memory _ after

theorem write16_write16 (memory : Memory) (position : ℕ) (first second : UInt16) :
    write16 (write16 memory position first) position second = write16 memory position second :=
      copy_copy memory position rfl

/-- A word that is read and written back. -/
@[simp] theorem write16_read16 (memory : Memory) (position : ℕ) :
    write16 memory position (read16 memory position) = memory := by
  have low := (memory (position + 1)).toNat_lt
  have bytes : encode16 (read16 memory position) = [memory position, memory (position + 1)] := by
    have high : (read16 memory position).toNat / 256 = (memory position).toNat := by rw [toNat_read16]; omega
    have rest : (read16 memory position).toNat % 256 = (memory (position + 1)).toNat := by rw [toNat_read16]; omega
    rw [encode16, high, rest, UInt8.ofNat_toNat, UInt8.ofNat_toNat]
  funext address
  by_cases inside : position ≤ address ∧ address < position + 2
  · obtain rfl | rfl : address = position ∨ address = position + 1 := by omega
    · rw [write16, bytes]
      exact @copy_inside memory address [_, _] 0 Nat.two_pos
    · rw [write16, bytes]
      exact @copy_inside memory position [_, _] 1 Nat.one_lt_two
  · exact write16_of_disjoint memory _ (by omega)

/-- A double word is two words. -/
theorem toNat_read32 (memory : Memory) (position : ℕ) :
    (read32 memory position).toNat = (read16 memory position).toNat * 2 ^ 16 + (read16 memory (position + 2)).toNat := by
  have first := (memory position).toNat_lt
  have second := (memory (position + 1)).toNat_lt
  have third := (memory (position + 2)).toNat_lt
  have fourth := (memory (position + 3)).toNat_lt
  rw [read32, read16, read16, show position + 2 + 1 = position + 3 from rfl, UInt32.toNat_ofNat', UInt16.toNat_ofNat',
    UInt16.toNat_ofNat', Nat.mod_eq_of_lt (by omega), Nat.mod_eq_of_lt (by omega), Nat.mod_eq_of_lt (by omega)]
  omega

/-- A double word is its four bytes. -/
theorem ofNat_bytes32 (value : UInt32) :
    UInt32.ofNat ((((UInt8.ofNat (value.toNat / 2 ^ 24)).toNat * 256 + (UInt8.ofNat (value.toNat / 2 ^ 16 % 256)).toNat) *
      256 + (UInt8.ofNat (value.toNat / 2 ^ 8 % 256)).toNat) * 256 + (UInt8.ofNat (value.toNat % 256)).toNat) = value := by
  have below := value.toNat_lt
  rw [UInt8.toNat_ofNat', UInt8.toNat_ofNat', UInt8.toNat_ofNat', UInt8.toNat_ofNat']
  refine (congrArg UInt32.ofNat ?_).trans UInt32.ofNat_toNat
  omega

/-- Writing a double word. -/
def write32 (memory : Memory) (position : ℕ) (value : UInt32) : Memory := copy memory position (encode32 value)

@[simp] theorem read32_write32 (memory : Memory) (position : ℕ) (value : UInt32) :
    read32 (write32 memory position value) position = value := by
  have first : write32 memory position value position = UInt8.ofNat (value.toNat / 2 ^ 24) :=
    copy_inside memory position (show 0 < (encode32 value).length by rw [length_encode32]; omega)
  have second : write32 memory position value (position + 1) = UInt8.ofNat (value.toNat / 2 ^ 16 % 256) :=
    copy_inside memory position (show 1 < (encode32 value).length by rw [length_encode32]; omega)
  have third : write32 memory position value (position + 2) = UInt8.ofNat (value.toNat / 2 ^ 8 % 256) :=
    copy_inside memory position (show 2 < (encode32 value).length by rw [length_encode32]; omega)
  have fourth : write32 memory position value (position + 3) = UInt8.ofNat (value.toNat % 256) :=
    copy_inside memory position (show 3 < (encode32 value).length by rw [length_encode32]; omega)
  rw [read32, first, second, third, fourth]
  exact ofNat_bytes32 value

/-- Nothing else is written. -/
theorem write32_of_disjoint (memory : Memory) {position address : ℕ} (value : UInt32)
    (apart : address < position ∨ position + 4 ≤ address) : write32 memory position value address = memory address := by
  rcases apart with before | after
  · exact copy_of_lt memory _ before
  · exact copy_of_le memory _ after

theorem write32_write32 (memory : Memory) (position : ℕ) (first second : UInt32) :
    write32 (write32 memory position first) position second = write32 memory position second :=
      copy_copy memory position rfl

theorem read32_write32_of_disjoint (memory : Memory) {written read : ℕ} (value : UInt32)
    (apart : read + 4 ≤ written ∨ written + 4 ≤ read) :
    read32 (write32 memory written value) read = read32 memory read :=
  read32_congr fun _ _ _ => write32_of_disjoint memory value (by omega)

section Words

variable (word : UInt32 → UInt32) (memory : Memory) (position : ℕ)

/-- The first words from a position on, each put in the place of what was there. -/
def mapWords (count : ℕ) : Memory :=
  (List.range count).foldl
    (fun memory index => write32 memory (position + 4 * index) (word (read32 memory (position + 4 * index)))) memory

theorem mapWords_succ (count : ℕ) :
    mapWords word memory position (count + 1) =
      write32 (mapWords word memory position count) (position + 4 * count)
        (word (read32 (mapWords word memory position count) (position + 4 * count))) := by
  rw [mapWords, List.range_succ, List.foldl_append]
  rfl

/-- Each word depends on what was in its own place only. -/
theorem read32_mapWords (count index : ℕ) :
    read32 (mapWords word memory position count) (position + 4 * index) =
      if index < count then word (read32 memory (position + 4 * index)) else read32 memory (position + 4 * index) := by
  induction count with
  | zero => rfl
  | succ count ih =>
      rw [mapWords_succ]
      rcases Nat.lt_trichotomy index count with before | rfl | after
      · rw [read32_write32_of_disjoint _ _ (by omega), ih, if_pos before, if_pos (Nat.lt_succ_of_lt before)]
      · rw [read32_write32, ih, if_neg (Nat.lt_irrefl index), if_pos (Nat.lt_succ_self index)]
      · rw [read32_write32_of_disjoint _ _ (by omega), ih, if_neg (by omega), if_neg (by omega)]

/-- Nothing else is written. -/
theorem mapWords_of_disjoint {count address : ℕ} (apart : address < position ∨ position + 4 * count ≤ address) :
    mapWords word memory position count address = memory address := by
  induction count with
  | zero => rfl
  | succ count ih =>
      rw [mapWords_succ, write32_of_disjoint _ _ (by omega)]
      exact ih (by omega)

theorem mapWords_congr {first second : Memory} (same : ∀ address, position ≤ address → first address = second address)
    (count : ℕ) : ∀ address, position ≤ address →
      mapWords word first position count address = mapWords word second position count address := by
  induction count with
  | zero => exact same
  | succ count ih =>
      intro address above
      rw [mapWords_succ, mapWords_succ, read32_congr fun other low _ => ih other (by omega)]
      exact copy_congr (ih address above) _ _

end Words

/-- Writing three bytes. -/
def write24 (memory : Memory) (position value : ℕ) : Memory := copy memory position (encode24 value)

@[simp] theorem read24_write24 (memory : Memory) (position value : ℕ) :
    read24 (write24 memory position value) position = value % 2 ^ 24 := by
  have length : (encode24 value).length = 3 := rfl
  have high : write24 memory position value position = UInt8.ofNat (value / 2 ^ 16) :=
    copy_inside memory position (show 0 < (encode24 value).length by omega)
  have middle : write24 memory position value (position + 1) = UInt8.ofNat (value / 2 ^ 8) :=
    copy_inside memory position (show 1 < (encode24 value).length by omega)
  have low : write24 memory position value (position + 2) = UInt8.ofNat value :=
    copy_inside memory position (show 2 < (encode24 value).length by omega)
  rw [read24, high, middle, low, UInt8.toNat_ofNat', UInt8.toNat_ofNat', UInt8.toNat_ofNat']
  omega

/-- Nothing else is written. -/
theorem write24_of_disjoint (memory : Memory) {position address : ℕ} (value : ℕ)
    (apart : address < position ∨ position + 3 ≤ address) : write24 memory position value address = memory address := by
  rcases apart with before | after
  · exact copy_of_lt memory _ before
  · exact copy_of_le memory _ after

end Bytes

end Library
