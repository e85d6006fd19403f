/-
**Aggregates are unpacked whole, and inside of their bounds.**

The passes of the parser go through an aggregate by pointers (`unpack`). They leave what the walk over lists gives
(`unpack_eq`), read inside of the packet only, and the second one writes every byte of the memory that the first one has
made room for once (`inside_reads`, `covers_writes`).

* `unpacks_exact`: an aggregate of units is unpacked to these units, and every packet of the type of an aggregate keeps
  to its bounds.
-/

import Erizo.Proof.NalUnits

namespace Erizo

open Library Library.Bytes

namespace RtpH264Parser

open RTPPayloadH264

/-! ### The walk over bytes and the walk over lists -/

section Passes

variable {σ : Type} {buf : Memory} {handle : ℕ → ℕ → Pass → Pass} {f : List UInt8 → ℕ → σ → σ} {view : Pass → σ}

/-- **Both walks go through the same units**, and come to their ends together. -/
theorem passLoop_forEachNal (reads : ∀ pass address count, view (pass.read address count) = view pass)
    (handles : ∀ src srcLen nalSize pass, nalSize ≤ srcLen → 0 < srcLen →
      view (handle src nalSize pass) = f (slice buf src srcLen) nalSize (view pass)) (rounds : ℕ) :
    ∀ (src srcLen : ℕ) (pass : Pass), forEachNal f rounds (slice buf src srcLen) (view pass) =
      if (passLoop buf handle rounds src srcLen pass).2 = true then
        some (view (passLoop buf handle rounds src srcLen pass).1)
      else none := by
  induction rounds with
  | zero =>
      intro src srcLen pass
      rw [passLoop, if_pos rfl]
      cases slice buf src srcLen <;> rfl
  | succ rounds ih =>
      intro src srcLen pass
      rw [passLoop]
      match srcLen with
      | 0 | 1 | 2 => rfl
      | rest + 3 =>
          have unit : slice buf src (rest + 3) = buf src :: buf (src + 1) :: slice buf (src + 2) (rest + 1) := by
            rw [slice_succ, slice_succ]
          rw [if_pos (by omega : rest + 3 > 2), unit, slice_succ, forEachNal, ← slice_succ, ← toNat_read16, length_slice]
          dsimp only
          rw [show rest + 3 - 2 = rest + 1 from rfl]
          by_cases fits : (read16 buf src).toNat ≤ rest + 1
          · rw [if_pos fits, if_pos fits, drop_slice _ _ fits, ← reads pass src 2,
              ← handles (src + 2) (rest + 1) _ _ fits (Nat.succ_pos rest), ih]
          · rw [if_neg fits, if_neg fits]
            rfl

/-- What a walk keeps: it reads the size of a unit inside of the packet, and the unit lies there. -/
theorem passLoop_invariant (invariant : Pass → Prop) {len : ℕ}
    (reads : ∀ pass address count, address + count ≤ len → invariant pass → invariant (pass.read address count))
    (handles : ∀ src nalSize pass, src + nalSize ≤ len → src < len → invariant pass →
      invariant (handle src nalSize pass)) (rounds : ℕ) :
    ∀ (src srcLen : ℕ) (pass : Pass), src + srcLen = len → invariant pass →
      invariant (passLoop buf handle rounds src srcLen pass).1 := by
  induction rounds with
  | zero => exact fun _ _ _ _ holds => holds
  | succ rounds ih =>
      intro src srcLen pass whole holds
      rw [passLoop]
      by_cases long : srcLen > 2
      · rw [if_pos long]
        dsimp only
        have header := reads pass src 2 (by omega) holds
        by_cases fits : (read16 buf src).toNat ≤ srcLen - 2
        · rw [if_pos fits]
          exact ih _ _ _ (by omega) (handles (src + 2) _ _ (by omega) (by omega) header)
        · rw [if_neg fits]
          exact header
      · rw [if_neg long]
        exact holds

end Passes

/-! ### What the passes leave -/

section Unpack

variable (buf : Memory) (len : ℕ)

/-- The first pass counts. -/
theorem firstPass_eq : forEachNal countNal len (slice buf 0 len) 0 =
    if (firstPass buf len).2 = true then some (firstPass buf len).1.totalLength else none := by
  refine @passLoop_forEachNal _ _ _ _ Pass.totalLength (fun _ _ _ => rfl) (fun src srcLen nalSize pass _ _ => ?_) len 0
    len ⟨0, 0, fun _ => 0, .pFrame, [], []⟩
  exact (Nat.add_assoc _ _ _).symm

/-- What has been written in front of `dst`. -/
def Pass.written (pass : Pass) : List UInt8 × H264FrameTypes := (slice pass.unpackedData 0 pass.dst, pass.frameType)

theorem written_write (pass : Pass) (bytes : List UInt8) :
    (pass.write bytes).written = (pass.written.1 ++ bytes, pass.written.2) :=
  Prod.ext (slice_copy pass.unpackedData pass.dst bytes) rfl

theorem head_slice {src srcLen : ℕ} (some : 0 < srcLen) : (slice buf src srcLen).headD 0 = buf src := by
  obtain ⟨rest, rfl⟩ := Nat.exists_eq_succ_of_ne_zero some.ne'
  rw [slice_succ]
  rfl

/-- The second pass copies. -/
theorem secondPass_eq (start : Pass) : forEachNal copyNal len (slice buf 0 len) start.written =
    if (passLoop buf (copyAt buf) len 0 len start).2 = true then
      some (passLoop buf (copyAt buf) len 0 len start).1.written
    else none := by
  refine passLoop_forEachNal (fun _ _ _ => rfl) (fun src srcLen nalSize pass fits some => ?_) len 0 len start
  have bytes := written_write ((pass.write startSequence).read src nalSize) (slice buf src nalSize)
  have start : ((pass.write startSequence).read src nalSize).written = (pass.written.1 ++ startSequence, pass.written.2) :=
    written_write pass startSequence
  rw [start] at bytes
  rw [copyNal, take_slice _ _ fits, head_slice _ some]
  exact Prod.ext (Prod.ext_iff.mp bytes).1 rfl

/-- Nothing has been written. -/
def Pass.Blank (pass : Pass) : Prop := pass.dst = 0 ∧ pass.writes = [] ∧ pass.frameType = .pFrame

/-- The first pass writes nothing. -/
theorem firstPass_blank : (firstPass buf len).1.Blank :=
  @passLoop_invariant buf countAt Pass.Blank len (fun _ _ _ _ blank => blank) (fun _ _ _ _ _ blank => blank) len 0 len
    ⟨0, 0, fun _ => 0, .pFrame, [], []⟩ (Nat.zero_add len) ⟨rfl, rfl, rfl⟩

/-- The second pass comes to its end if the first one does, and writes as many bytes as that has counted. -/
theorem secondPass_spec (counted : (firstPass buf len).2 = true) :
    (secondPass buf len).2 = true ∧ (secondPass buf len).1.dst = (firstPass buf len).1.totalLength ∧
      forEachNal copyNal len (slice buf 0 len) ([], .pFrame) = some (secondPass buf len).1.written := by
  obtain ⟨place, -, type⟩ := firstPass_blank buf len
  have start : (firstPass buf len).1.written = ([], .pFrame) := by
    rw [Pass.written, place, type]
    rfl
  have first := firstPass_eq buf len
  have second := secondPass_eq buf len (firstPass buf len).1
  have same := forEachNal_countNal len (slice buf 0 len) ([], .pFrame)
  rw [start] at second
  rw [show (([], .pFrame) : List UInt8 × H264FrameTypes).1.length = 0 from rfl, first, if_pos counted, second] at same
  by_cases copied : (secondPass buf len).2 = true
  · unfold secondPass at copied ⊢
    rw [if_pos copied] at same second
    refine ⟨copied, ?_, second⟩
    have length : (firstPass buf len).1.totalLength = (slice _ _ _).length := Option.some.inj same
    rw [length_slice] at length
    exact length.symm
  · unfold secondPass at copied
    rw [if_neg copied] at same
    exact absurd same (Option.some_ne_none _)

/-- **The passes leave what the parser of lists gives.** -/
theorem unpack_eq : unpack buf len = parseAggregatedPacket (slice buf 0 len) := by
  have first := firstPass_eq buf len
  unfold unpack parseAggregatedPacket
  rw [length_slice, first]
  by_cases counted : (firstPass buf len).2 = true
  · obtain ⟨-, place, second⟩ := secondPass_spec buf len counted
    rw [if_pos counted, if_pos counted, second, ← place]
    rfl
  · rw [if_neg counted, if_neg counted]

/-! ### What the passes access -/

/-- What has been read lies inside of the packet. -/
def Pass.Inside (len : ℕ) (pass : Pass) : Prop := ∀ read ∈ pass.reads, read.address + read.count ≤ len

/-- What has been written is every byte in front of `dst`, once and in order. -/
def Pass.Covers (pass : Pass) : Prop :=
  (pass.writes.flatMap fun write => List.range' write.address write.count) = List.range pass.dst

variable {len}

theorem inside_read {pass : Pass} (inside : pass.Inside len) {address count : ℕ} (below : address + count ≤ len) :
    (pass.read address count).Inside len := by
  intro read member
  rcases List.mem_append.mp member with earlier | here
  · exact inside read earlier
  · rw [List.mem_singleton.mp here]
    exact below

theorem covers_write {pass : Pass} (covers : pass.Covers) (bytes : List UInt8) : (pass.write bytes).Covers := by
  unfold Pass.Covers Pass.write at *
  rw [List.flatMap_append, covers, List.flatMap_singleton, List.range_eq_range', List.range_eq_range',
    ← List.range'_append_1, Nat.zero_add]

variable (len)

/-- **What the passes read lies inside of the packet.** -/
theorem inside_reads : (firstPass buf len).1.Inside len ∧ (secondPass buf len).1.Inside len := by
  have first : (firstPass buf len).1.Inside len :=
    @passLoop_invariant buf countAt (Pass.Inside len) len (fun _ _ _ below inside => inside_read inside below)
      (fun _ _ _ _ _ inside => inside) len 0 len ⟨0, 0, fun _ => 0, .pFrame, [], []⟩ (Nat.zero_add len)
      fun _ member => absurd member List.not_mem_nil
  refine ⟨first, passLoop_invariant (Pass.Inside len) (fun _ _ _ below inside => inside_read inside below) ?_ len 0 len _
    (Nat.zero_add len) first⟩
  intro src nalSize pass fits some inside
  have start : (pass.write startSequence).Inside len := inside
  have unit : (((pass.write startSequence).read src nalSize).write (slice buf src nalSize)).Inside len :=
    inside_read start fits
  exact inside_read unit some

/-- **The second pass writes what is in front of its pointer.** -/
theorem covers_writes : (secondPass buf len).1.Covers := by
  obtain ⟨place, nothing, -⟩ := firstPass_blank buf len
  refine passLoop_invariant Pass.Covers (fun _ _ _ _ covers => covers) (fun src nalSize pass _ _ covers => ?_) len 0 len _
    (Nat.zero_add len) ?_
  · have start : ((pass.write startSequence).read src nalSize).Covers := covers_write covers startSequence
    exact covers_write start _
  · rw [Pass.Covers, place, nothing]
    rfl

end Unpack

/-! ### Aggregates -/

section Aggregates

variable {σ : Type} (f : List UInt8 → ℕ → σ → σ)

@[simp] theorem length_sized (nal : List UInt8) : (sized nal).length = nal.length + 2 := rfl

/-- The walk comes to a unit with its size in front. -/
theorem forEachNal_sized (rounds : ℕ) {nal tail : List UInt8} (short : nal.length < 2 ^ 16) (some : nal ++ tail ≠ [])
    (state : σ) : forEachNal f (rounds + 1) (sized nal ++ tail) state =
      forEachNal f rounds tail (f (nal ++ tail) nal.length state) := by
  obtain ⟨byte, rest, here⟩ := List.exists_cons_of_ne_nil some
  have size : (UInt8.ofNat (nal.length / 256)).toNat * 256 + (UInt8.ofNat (nal.length % 256)).toNat = nal.length := by
    rw [UInt8.toNat_ofNat', UInt8.toNat_ofNat']
    omega
  have fits : nal.length ≤ (byte :: rest).length := by
    rw [← here, List.length_append]
    exact Nat.le_add_right _ _
  rw [sized, List.cons_append, List.cons_append, here, forEachNal, size, if_pos fits, ← here, List.drop_left]

/-- A unit of an aggregate exceeds what is left of it. There are bytes behind its size: two bytes at the end are no size,
as the walk ends before them. -/
def Oversized (buf : List UInt8) : Prop :=
  ∃ (nals : List (List UInt8)) (high low : UInt8) (rest : List UInt8),
    buf = nals.flatMap sized ++ high :: low :: rest ∧ (∀ nal ∈ nals, nal.length < 2 ^ 16) ∧ rest ≠ [] ∧
      rest.length < high.toNat * 256 + low.toNat

/-- **The walk stops at a unit that exceeds what is left.** -/
theorem forEachNal_oversized {buf : List UInt8} (oversized : Oversized buf) {rounds : ℕ} (enough : buf.length ≤ rounds)
    (state : σ) : forEachNal f rounds buf state = none := by
  obtain ⟨nals, high, low, rest, rfl, short, some, long⟩ := oversized
  induction nals generalizing rounds state with
  | nil =>
      obtain ⟨byte, rest, rfl⟩ := List.exists_cons_of_ne_nil some
      cases rounds with
      | zero => exact absurd enough (by simp)
      | succ rounds => rw [List.flatMap_nil, List.nil_append, forEachNal, if_neg (by omega)]
  | cons nal nals ih =>
      obtain ⟨first, others⟩ := List.forall_mem_cons.mp short
      cases rounds with
      | zero => exact absurd enough (by simp)
      | succ rounds =>
          rw [List.flatMap_cons, List.append_assoc, List.length_append, length_sized] at enough
          rw [List.flatMap_cons, List.append_assoc, forEachNal_sized f rounds first (by simp)]
          exact ih _ (by omega) others

/-- **Units in an aggregate are copied**, and the frame is a key frame if one of them is part of one. -/
theorem forEachNal_units {nals : List (List UInt8)} (some : ∀ nal ∈ nals, nal ≠ [])
    (short : ∀ nal ∈ nals, nal.length < 2 ^ 16)
    {rounds : ℕ} (enough : (nals.flatMap sized).length ≤ rounds) (state : List UInt8 × H264FrameTypes) :
    ∃ type, forEachNal copyNal rounds (nals.flatMap sized) state = Option.some (state.1 ++ annexB nals, type) ∧
      (type = .iFrame ↔ state.2 = .iFrame ∨ ∃ nal ∈ nals, nalTypeOf (nal.headD 0) = 5) := by
  induction nals generalizing rounds state with
  | nil =>
      refine ⟨state.2, ?_, by simp⟩
      rw [annexB, List.flatMap_nil, List.flatMap_nil, List.append_nil]
      cases rounds <;> rfl
  | cons nal nals ih =>
      obtain ⟨byte, rest, rfl⟩ := List.exists_cons_of_ne_nil (some nal List.mem_cons_self)
      cases rounds with
      | zero => exact absurd enough (by simp [sized])
      | succ rounds =>
          rw [List.flatMap_cons, List.length_append, length_sized] at enough
          obtain ⟨type, copied, key⟩ := ih (fun nal member => some nal (List.mem_cons_of_mem _ member))
            (fun nal member => short nal (List.mem_cons_of_mem _ member))
            (by omega : _ ≤ rounds)
            (copyNal (byte :: rest ++ nals.flatMap sized) (byte :: rest).length state)
          refine ⟨type, ?_, key.trans ?_⟩
          · rw [List.flatMap_cons, forEachNal_sized copyNal rounds (short _ List.mem_cons_self) (by simp), copied, copyNal,
              List.take_left, annexB, annexB, List.flatMap_cons, List.append_assoc, List.append_assoc, List.append_assoc]
          · rw [copyNal, List.cons_append, List.headD_cons, List.exists_mem_cons_iff, List.headD_cons, ← or_assoc]
            refine or_congr_left ?_
            by_cases five : nalTypeOf byte = 5
            · rw [if_pos five]
              exact iff_of_true rfl (Or.inr five)
            · rw [if_neg five]
              exact (or_iff_left five).symm

end Aggregates

theorem length_annexB_le (nals : List (List UInt8)) : (annexB nals).length ≤ 2 * (nals.flatMap sized).length := by
  induction nals with
  | nil => exact Nat.zero_le _
  | cons nal nals ih =>
      rw [annexB, List.flatMap_cons, List.flatMap_cons, List.length_append, List.length_append, List.length_append,
        length_sized, show startSequence.length = 4 from rfl]
      rw [annexB] at ih
      omega

/-- What is unpacked has at most twice the bytes of the packet, so that an `int` can count it. -/
theorem unpackedDataLen_le (buf : List UInt8) : (parseAggregatedPacket buf).unpackedDataLen ≤ 2 * buf.length := by
  rcases (parseAggregatedPacket_spec buf).2 with nothing | ⟨nals, ⟨⟨rest, -, rfl⟩, -⟩, -, length⟩
  · rw [nothing]
    exact Nat.zero_le _
  · rw [length, List.length_append]
    exact (length_annexB_le nals).trans (by omega)

/-- **An aggregate of units is unpacked to these units, and every packet with the type of an aggregate keeps to its
bounds**: it reads inside of the packet, writes each byte of the memory that it has made room for once, and gives no data
if a unit exceeds what is left. -/
theorem unpacks_exact :
    (∀ (nal : UInt8) (nals : List (List UInt8)), nalTypeOf nal = 24 → (∀ unit ∈ nals, unit ≠ [] ∧ unit.length < 2 ^ 16) →
      (parseH264 (nal :: nals.flatMap sized)).nalType = .aggregated ∧
        (parseH264 (nal :: nals.flatMap sized)).unpackedData = annexB nals ∧
        (parseH264 (nal :: nals.flatMap sized)).unpackedDataLen = (annexB nals).length ∧
        ((parseH264 (nal :: nals.flatMap sized)).frameType = .iFrame ↔ ∃ unit ∈ nals, nalTypeOf (unit.headD 0) = 5)) ∧
      ∀ (nal : UInt8) (buf : Memory) (len : ℕ), nalTypeOf nal = 24 →
        parseH264 (nal :: slice buf 0 len) = unpack buf len ∧
          ((firstPass buf len).2 = true → (secondPass buf len).2 = true) ∧
          ((firstPass buf len).1.Inside len ∧ (secondPass buf len).1.Inside len) ∧
          ((firstPass buf len).2 = true → (secondPass buf len).1.Covers ∧
            (secondPass buf len).1.dst = (unpack buf len).unpackedDataLen) ∧
          (Oversized (slice buf 0 len) → (firstPass buf len).2 = false ∧ (unpack buf len).unpackedData = [] ∧
            (unpack buf len).unpackedDataLen = 0) := by
  have parsed : ∀ nal rest, nalTypeOf nal = 24 → parseH264 (nal :: rest) = parseAggregatedPacket rest := by
    intro nal rest type
    unfold parseH264
    simp only [type]
    rfl
  constructor
  · intro nal nals type units
    obtain ⟨frame, copied, key⟩ := forEachNal_units (fun unit member => (units unit member).1)
      (fun unit member => (units unit member).2) le_rfl ([], .pFrame)
    have counted := forEachNal_countNal (nals.flatMap sized).length (nals.flatMap sized) ([], .pFrame)
    rw [copied, List.nil_append, show (([], .pFrame) : List UInt8 × H264FrameTypes).1.length = 0 from rfl] at counted
    rw [parsed nal _ type, parseAggregatedPacket, counted, copied]
    refine ⟨rfl, List.nil_append _, rfl, key.trans (or_iff_right ?_)⟩
    exact H264FrameTypes.noConfusion
  · intro nal buf len type
    refine ⟨(parsed nal _ type).trans (unpack_eq buf len).symm, fun counted => (secondPass_spec buf len counted).1,
      inside_reads buf len, fun counted => ⟨covers_writes buf len, ?_⟩, fun oversized => ?_⟩
    · rw [unpack, if_pos counted]
      exact (secondPass_spec buf len counted).2.1
    · have stops := forEachNal_oversized countNal oversized (length_slice buf 0 len).le 0
      rw [firstPass_eq] at stops
      by_cases counted : (firstPass buf len).2 = true
      · rw [if_pos counted] at stops
        exact absurd stops (Option.some_ne_none _)
      · rw [unpack, if_neg counted]
        exact ⟨Bool.not_eq_true _ ▸ counted, rfl, rfl⟩

end RtpH264Parser

end Erizo
