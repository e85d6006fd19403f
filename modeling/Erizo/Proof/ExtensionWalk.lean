/-
**The loop over the extensions and the block of a packet.**

* `extensionLoop_eq_foldl`: where the callback keeps the bytes from the next header on, the loop calls it at the headers
  that are in the packet (`visited`).
* `good_of_extensionLoop`: if the loop comes to an end, then each of these headers was in the 1500 bytes, and good for the
  callback.
* `OneByteBlock`: a packet with a block of the one-byte form, which stands behind the contributing sources.
-/

import Erizo.Library.Elements
import Erizo.Model.RtpExtensionProcessor

namespace Erizo

open Library Library.Bytes Library.Elements RtpHeader

namespace RtpExtensionProcessor

/-- The bytes of an element with its header. -/
def elementSize (data : Memory) (position : ℕ) : ℕ := elementLength data position + 2

/-- The memory has the bytes of the data from a position on. -/
def Agrees (data : Memory) (position : ℕ) (memory : Memory) : Prop :=
  ∀ address, position ≤ address → memory address = data address

/-- The headers that the loop comes to. -/
def visited (data : Memory) : List ℕ :=
  headersFrom (elementSize data) (16 + (getExtLength data).toNat * 4) ((getExtLength data).toNat * 4) 16

theorem Agrees.refl (data : Memory) (position : ℕ) : Agrees data position data := fun _ _ => rfl

theorem Agrees.mono {data memory : Memory} {position later : ℕ} (agrees : Agrees data position memory)
    (after : position ≤ later) : Agrees data later memory := fun address here => agrees address (le_trans after here)

theorem Agrees.elementId {data memory : Memory} {position : ℕ} (agrees : Agrees data position memory) :
    elementId memory position = elementId data position := by
  rw [RtpExtensionProcessor.elementId, agrees position le_rfl, RtpExtensionProcessor.elementId]

theorem Agrees.elementSize {data memory : Memory} {position : ℕ} (agrees : Agrees data position memory) :
    elementSize memory position = elementSize data position := by
  rw [RtpExtensionProcessor.elementSize, elementLength, agrees position le_rfl, RtpExtensionProcessor.elementSize,
    elementLength]

theorem elementId_lt (data : Memory) (position : ℕ) : elementId data position < 16 := by
  have byte := (data position).toNat_lt
  unfold elementId
  omega

theorem elementSize_lt (data : Memory) (position : ℕ) : elementSize data position < 18 :=
  Nat.add_lt_add_right (Nat.mod_lt _ (by decide)) 2

theorem two_le_elementSize (data : Memory) (position : ℕ) : 2 ≤ elementSize data position := Nat.le_add_left _ _

theorem elementSize_of_eq_zero {data : Memory} {position : ℕ} (zero : data position = 0) :
    elementSize data position = 2 := by
  rw [elementSize, elementLength, zero]
  rfl

/-! ### Rounds of the loop -/

section Rounds

variable {σ : Type} {bytes : σ → Memory} {f : ℕ → σ → Option σ} {total : UInt16} {data : Memory}

/-- The loop, with its place where it belongs. -/
theorem toNat_place {position : ℕ} (after : 15 ≤ position) (before : position < 2 ^ 16) :
    (UInt16.ofNat (position - 15)).toNat + 15 = position := by
  rw [UInt16.toNat_ofNat_of_lt' (by show position - 15 < 2 ^ 16; omega)]
  omega

theorem place_add {position : ℕ} (after : 15 ≤ position) (length : ℕ) :
    UInt16.ofNat (position - 15) + UInt16.ofNat length + 2 = UInt16.ofNat (position + (length + 2) - 15) := by
  have sum : position + (length + 2) - 15 = position - 15 + length + 2 := by omega
  rw [sum, UInt16.ofNat_add, UInt16.ofNat_add]
  rfl

/-- A header in the packet. -/
theorem extensionLoop_inside {position rounds : ℕ} {state : σ} (after : 15 ≤ position)
    (within : position < DataPacket.capacity) (inside : position + 1 < 16 + total.toNat * 4) :
    extensionLoop bytes f total (rounds + 1) position (UInt16.ofNat (position - 15)) state =
      (f position state).bind fun next =>
        extensionLoop bytes f total rounds (position + elementSize (bytes state) position)
          (UInt16.ofNat (position + elementSize (bytes state) position - 15)) next := by
  have place := toNat_place after (lt_trans within (by decide))
  rw [extensionLoop, if_pos (by omega), if_pos within]
  simp only [place_add after]
  rfl

/-- A header behind the packet. -/
theorem extensionLoop_behind {position rounds : ℕ} {state : σ} (behind : DataPacket.capacity ≤ position)
    (short : position < 2 ^ 16) (inside : position + 1 < 16 + total.toNat * 4) :
    extensionLoop bytes f total (rounds + 1) position (UInt16.ofNat (position - 15)) state = none := by
  have place := toNat_place (le_trans (by decide) behind) short
  rw [extensionLoop, if_pos (by omega), if_neg (Nat.not_lt.mpr behind)]

/-- The end of the extension. -/
theorem extensionLoop_end {position rounds : ℕ} {state : σ} (after : 15 ≤ position) (short : position < 2 ^ 16)
    (outside : 16 + total.toNat * 4 ≤ position + 1) :
    extensionLoop bytes f total (rounds + 1) position (UInt16.ofNat (position - 15)) state = some state := by
  have place := toNat_place after short
  rw [extensionLoop, if_neg (by omega)]

/-! ### Runs of the loop -/

/-- What each call keeps, the loop keeps. -/
theorem extensionLoop_invariant {holds : σ → Prop}
    (keeps : ∀ header state next, holds state → f header state = some next → holds next) :
    ∀ (rounds position : ℕ) (place : UInt16) (state final : σ), holds state →
      extensionLoop bytes f total rounds position place state = some final → holds final
  | 0, _, _, _, _, _, here => (nomatch here)
  | rounds + 1, position, place, state, final, first, here => by
      unfold extensionLoop at here
      split at here
      · split at here
        · obtain ⟨next, called, rest⟩ := Option.bind_eq_some_iff.mp here
          exact extensionLoop_invariant keeps rounds _ _ next final (keeps _ _ _ first called) rest
        · exact (nomatch here)
      · exact Option.some.inj here ▸ first

/-- **The loop is a fold over the headers.** -/
theorem extensionLoop_eq_foldl {effect : ℕ → σ → σ} : ∀ {rounds position : ℕ} {state : σ}, 15 ≤ position →
    position < DataPacket.capacity + 18 → 16 + total.toNat * 4 ≤ position + rounds → Agrees data position (bytes state) →
    (∀ header ∈ headersFrom (elementSize data) (16 + total.toNat * 4) rounds position, header < DataPacket.capacity ∧
      ∀ state, Agrees data header (bytes state) → f header state = some (effect header state) ∧
        Agrees data (header + elementSize data header) (bytes (effect header state))) →
    extensionLoop bytes f total (rounds + 1) position (UInt16.ofNat (position - 15)) state =
      some ((headersFrom (elementSize data) (16 + total.toNat * 4) rounds position).foldl
        (fun state header => effect header state) state)
  | rounds, position, state, after, near, enough, agrees, works => by
      have short : position < 2 ^ 16 := lt_trans near (by decide)
      by_cases outside : 16 + total.toNat * 4 ≤ position + 1
      · rw [extensionLoop_end after short outside, headersFrom_of_le outside]
        rfl
      · obtain ⟨fewer, rfl⟩ : ∃ fewer, rounds = fewer + 1 := ⟨rounds - 1, by omega⟩
        have inside : position + 1 < 16 + total.toNat * 4 := by omega
        have long := two_le_elementSize data position
        have brief := elementSize_lt data position
        rw [headersFrom_of_lt inside] at works ⊢
        obtain ⟨⟨within, call⟩, others⟩ := List.forall_mem_cons.mp works
        obtain ⟨called, kept⟩ := call state agrees
        rw [extensionLoop_inside after within inside, called, agrees.elementSize]
        exact extensionLoop_eq_foldl (by omega) (by omega) (by omega) kept others

/-- **A loop that ends has only come to good headers**, where `holds` of the state in the end is a reason for a header to
be good. -/
theorem good_of_extensionLoop {good : ℕ → Prop} {holds : σ → Prop}
    (back : ∀ header state next, f header state = some next → holds next → holds state)
    (calls : ∀ header state next, Agrees data header (bytes state) → f header state = some next → holds next →
      good header ∧ Agrees data (header + elementSize data header) (bytes next)) {final : σ} (last : holds final) :
    ∀ {rounds position : ℕ} {state : σ}, 15 ≤ position → position < DataPacket.capacity + 18 →
      16 + total.toNat * 4 ≤ position + rounds → Agrees data position (bytes state) →
      extensionLoop bytes f total (rounds + 1) position (UInt16.ofNat (position - 15)) state = some final →
      ∀ header ∈ headersFrom (elementSize data) (16 + total.toNat * 4) rounds position,
        header < DataPacket.capacity ∧ good header
  | rounds, position, state, after, near, enough, agrees, here => by
      have short : position < 2 ^ 16 := lt_trans near (by decide)
      by_cases outside : 16 + total.toNat * 4 ≤ position + 1
      · rw [headersFrom_of_le outside]
        exact fun _ absent => absurd absent List.not_mem_nil
      · obtain ⟨fewer, rfl⟩ : ∃ fewer, rounds = fewer + 1 := ⟨rounds - 1, by omega⟩
        have inside : position + 1 < 16 + total.toNat * 4 := by omega
        have long := two_le_elementSize data position
        have brief := elementSize_lt data position
        have within : position < DataPacket.capacity := by
          by_contra behind
          rw [extensionLoop_behind (Nat.not_lt.mp behind) short inside] at here
          exact (nomatch here)
        rw [extensionLoop_inside after within inside] at here
        obtain ⟨next, called, rest⟩ := Option.bind_eq_some_iff.mp here
        have held : holds next := by
          by_contra lost
          exact @extensionLoop_invariant _ bytes f total (fun state => ¬holds state)
            (fun header state next absent called held => absent (back header state next called held)) _ _ _ _ _ lost rest
            last
        obtain ⟨here, kept⟩ := calls position state next agrees called held
        rw [headersFrom_of_lt inside]
        rw [agrees.elementSize] at rest
        exact List.forall_mem_cons.mpr ⟨⟨within, here⟩,
          good_of_extensionLoop back calls last (by omega) (by omega) (by omega) kept rest⟩

end Rounds

/-! ### The loop over a packet -/

section Packet

variable {σ : Type} {bytes : σ → Memory} {f : ℕ → σ → Option σ} {state : σ}

theorem visited_of_getExtLength {data : Memory} (empty : getExtLength data = 0) : visited data = [] := by
  rw [visited, empty]
  rfl

theorem mem_visited_of_getExtLength {data : Memory} (filled : getExtLength data ≠ 0) : 16 ∈ visited data := by
  have positive : 0 < (getExtLength data).toNat :=
    Nat.pos_of_ne_zero fun zero => filled (UInt16.toNat_inj.mp zero)
  obtain ⟨fewer, rounds⟩ : ∃ fewer, (getExtLength data).toNat * 4 = fewer + 1 := ⟨_, (Nat.succ_pred (by omega)).symm⟩
  rw [visited, rounds, headersFrom_of_lt (by omega)]
  exact List.mem_cons_self

theorem forEachExtension_of_ne (other : getExtId (bytes state) ≠ 0xBEDE) :
    forEachExtension bytes f state = some state := if_neg other

theorem forEachExtension_eq_foldl {data : Memory} (same : bytes state = data) (effect : ℕ → σ → σ)
    (profile : getExtId data = 0xBEDE)
    (works : ∀ header ∈ visited data, header < DataPacket.capacity ∧
      ∀ next, Agrees data header (bytes next) → f header next = some (effect header next) ∧
        Agrees data (header + elementSize data header) (bytes (effect header next))) :
    forEachExtension bytes f state = some ((visited data).foldl (fun state header => effect header state) state) := by
  subst same
  refine (if_pos profile).trans ?_
  exact extensionLoop_eq_foldl (by decide) (by decide) le_rfl (Agrees.refl _ _) works

theorem good_of_forEachExtension {data : Memory} (same : bytes state = data) {good : ℕ → Prop} (holds : σ → Prop)
    (profile : getExtId data = 0xBEDE)
    (back : ∀ header state next, f header state = some next → holds next → holds state)
    (calls : ∀ header before after, Agrees data header (bytes before) → f header before = some after →
      holds after → good header ∧ Agrees data (header + elementSize data header) (bytes after))
    {final : σ} (here : forEachExtension bytes f state = some final) (last : holds final) :
    ∀ header ∈ visited data, header < DataPacket.capacity ∧ good header := by
  subst same
  exact good_of_extensionLoop back calls last (by decide) (by decide) le_rfl (Agrees.refl _ _)
    ((if_pos profile).symm.trans here)

end Packet

/-! ### Blocks of the one-byte form -/

/-- The first byte behind the header of the block. -/
def blockStart (data : Memory) : ℕ := 16 + 4 * getCc data

/-- The first byte behind the block. -/
def blockStop (data : Memory) : ℕ := blockStart data + (read16 data (14 + 4 * getCc data)).toNat * 4

/-- **A packet with a block of the one-byte form** that is inside the packet, and the header bytes of its elements. -/
structure OneByteBlock (p : DataPacket) (elements : List ℕ) : Prop where
  extended : getExtension p.data = 1
  profile : read16 p.data (12 + 4 * getCc p.data) = 0xBEDE
  inside : blockStop p.data ≤ p.length
  fits : p.length ≤ DataPacket.capacity
  parses : Parses (elementSize p.data) (fun position => p.data position = 0) (blockStop p.data) (blockStart p.data) elements

section Block

variable {p : DataPacket} {elements : List ℕ}

theorem OneByteBlock.stop_le (block : OneByteBlock p elements) : blockStop p.data ≤ DataPacket.capacity :=
  Int.ofNat_le.mp (le_trans block.inside block.fits)

theorem blockStart_of_getCc {data : Memory} (alone : getCc data = 0) : blockStart data = 16 := by
  rw [blockStart, alone]

theorem blockStop_of_getCc {data : Memory} (alone : getCc data = 0) :
    blockStop data = 16 + (getExtLength data).toNat * 4 := by
  rw [blockStop, blockStart, alone]
  rfl

theorem OneByteBlock.getExtId (block : OneByteBlock p elements) (alone : getCc p.data = 0) :
    getExtId p.data = 0xBEDE := by
  have profile := block.profile
  rwa [alone] at profile

/-- Without contributing sources the loop stays in the block. -/
theorem OneByteBlock.mem_visited (block : OneByteBlock p elements) (alone : getCc p.data = 0) :
    ∀ header ∈ visited p.data, blockStart p.data ≤ header ∧ header < blockStop p.data ∧ header < DataPacket.capacity := by
  intro header member
  have fits := block.stop_le
  obtain ⟨after, before⟩ := mem_headersFrom header member
  rw [blockStop_of_getCc alone] at fits ⊢
  rw [blockStart_of_getCc alone]
  exact ⟨after, by omega, by omega⟩

/-- **Without contributing sources the loop comes to the elements** exactly if the padding before each is even. -/
theorem OneByteBlock.filter_visited_iff (block : OneByteBlock p elements) (alone : getCc p.data = 0) :
    ((visited p.data).filter fun header => p.data header ≠ 0) = elements ↔
      EvenGaps (elementSize p.data) (blockStart p.data) elements := by
  have parses := block.parses
  rw [blockStop_of_getCc alone, blockStart_of_getCc alone] at parses
  rw [blockStart_of_getCc alone]
  exact filter_headersFrom_iff (two_le_elementSize p.data) (fun _ => elementSize_of_eq_zero) le_rfl parses

end Block

/-- A packet with the bytes of an extension. -/
def extendedPacket (extensions : List UInt8) : DataPacket :=
  videoPacket ([0x90, 96, 0, 1] ++ encode32 0 ++ encode32 7 ++ [0xBE, 0xDE, 0, UInt8.ofNat (extensions.length / 4)] ++
    extensions)

/-- One element with three bytes. -/
theorem block_timed : OneByteBlock (extendedPacket [0x22, 0, 0, 0]) [16] where
  extended := by decide
  profile := by decide
  inside := by decide
  fits := by decide
  parses := .element (by decide) (by decide) .done

end RtpExtensionProcessor

end Erizo
