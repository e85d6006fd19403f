/-
**When a NACK is translated exactly.**

`write` replaces the items of a NACK one by one, in place. An item is rewritten from the translations
of all 17 numbers it could request, whatever its BLP says: the first of them becomes the PID and the
distances of the others to it the bits of the BLP. That is what was requested exactly when the item
is `Translatable`; `write_exact_iff` says so for the items of every packet, in every state the
handler reaches.
-/

import Erizo.Model.RtpPaddingRemovalHandler
import Erizo.Proof.RtcpWalk

namespace Erizo

namespace RtpPaddingRemovalHandler

open Library Library.Bytes RtcpHeader RtpUtils

variable {translator : SequenceNumberTranslator .standard}

/-! ### One item -/

/-- The item that replaces an item. -/
def translateItem (translator : SequenceNumberTranslator .standard) (pid blp : UInt16) :
    Option (UInt16 × UInt16) :=
  match translate translator (lookups pid) with
  | [] => some (pid, blp)
  | first :: rest => (packBlp first rest).map fun packed => (first, packed)

/-- **The items that are translated exactly.** Some number the item could request has a translation;
the first one that has was requested; and any other one was requested if and only if its translation
is at most 16 after the first one's. None is 33 or more after it. -/
def Translatable (translator : SequenceNumberTranslator .standard) (pid blp : UInt16) : Prop :=
  ∃ first rest, translate translator (lookups pid) = first :: rest ∧
    first ∈ translate translator (nackNumbers pid blp) ∧
    ∀ number ∈ rest, distance first number < 32 ∧
      (number ∈ translate translator (nackNumbers pid blp) ↔ distance first number < 16)

/-- The loop over the distances, from any BLP on. -/
theorem packBlp_foldlM (pid : UInt16) (numbers : List UInt16) (blp : UInt16)
    (near : ∀ number ∈ numbers, distance pid number < 32) :
    ∃ packed, numbers.foldlM (fun word number => (shiftOne (number - pid - 1)).map (word ||| ·)) blp = some packed ∧
      ∀ bit < 16, packed.toNat.testBit bit = true ↔
        blp.toNat.testBit bit = true ∨ ∃ number ∈ numbers, distance pid number = bit := by
  induction numbers generalizing blp with
  | nil => exact ⟨blp, rfl, fun bit _ => by simp⟩
  | cons number rest ih =>
      have here : distance pid number < 32 := near number List.mem_cons_self
      obtain ⟨packed, folded, bits⟩ := ih (blp ||| UInt16.ofNat (2 ^ distance pid number))
        fun other member => near other (List.mem_cons_of_mem _ member)
      refine ⟨packed, ?_, fun bit below => ?_⟩
      · have shifted : shiftOne (number - pid - 1) = some (UInt16.ofNat (2 ^ distance pid number)) := if_pos here
        rw [List.foldlM_cons, shifted]
        exact folded
      · rw [bits bit below, testBit_or_pow blp _ below, Bool.or_eq_true, decide_eq_true_eq, or_assoc]
        simp only [List.mem_cons, exists_eq_or_imp]

theorem packBlp_none (pid : UInt16) (numbers : List UInt16) (blp : UInt16)
    (far : ∃ number ∈ numbers, ¬ distance pid number < 32) :
    numbers.foldlM (fun word number => (shiftOne (number - pid - 1)).map (word ||| ·)) blp = none := by
  induction numbers generalizing blp with
  | nil =>
      obtain ⟨_, member, _⟩ := far
      exact absurd member List.not_mem_nil
  | cons number rest ih =>
      rw [List.foldlM_cons]
      by_cases here : distance pid number < 32
      · have shifted : shiftOne (number - pid - 1) = some (UInt16.ofNat (2 ^ distance pid number)) := if_pos here
        obtain ⟨other, member, away⟩ := far
        rw [shifted]
        rcases List.mem_cons.mp member with rfl | later
        · exact absurd here away
        · exact ih _ ⟨other, later, away⟩
      · have undefined : shiftOne (number - pid - 1) = none := if_neg here
        rw [undefined]
        rfl

/-- What an item requests is looked up. -/
theorem mem_lookups {pid blp number : UInt16} (member : number ∈ nackNumbers pid blp) : number ∈ lookups pid := by
  unfold lookups
  rw [List.mem_map]
  unfold nackNumbers at member
  rcases List.mem_cons.mp member with rfl | later
  · exact ⟨0, by simp, by simp⟩
  · obtain ⟨bit, isSet, rfl⟩ := List.mem_map.mp later
    have below := List.mem_range.mp (List.mem_filter.mp isSet).1
    refine ⟨bit + 1, by rw [List.mem_range]; omega, ?_⟩
    rw [UInt16.ofNat_add, add_comm (UInt16.ofNat bit), ← add_assoc]
    rfl

theorem translate_subset {pid blp number : UInt16} (member : number ∈ translate translator (nackNumbers pid blp)) :
    number ∈ translate translator (lookups pid) := by
  obtain ⟨output, requested, valid⟩ := List.mem_filterMap.mp member
  exact List.mem_filterMap.mpr ⟨output, mem_lookups requested, valid⟩

/-- **An item is translated exactly when it is translatable.** -/
theorem translateItem_exact_iff (pid blp : UInt16) :
    (∃ item, translateItem translator pid blp = some item ∧
        ∀ number, number ∈ nackNumbers item.1 item.2 ↔ number ∈ translate translator (nackNumbers pid blp)) ↔
      Translatable translator pid blp := by
  unfold translateItem Translatable
  cases looked : translate translator (lookups pid) with
  | nil =>
      constructor
      · rintro ⟨item, same, exactly⟩
        obtain rfl := Option.some_injective _ same
        have requested := (exactly pid).mp List.mem_cons_self
        have found := translate_subset requested
        rw [looked] at found
        exact absurd found List.not_mem_nil
      · rintro ⟨_, _, same, _⟩
        exact nomatch same
  | cons first rest =>
      have inside : ∀ number ∈ translate translator (nackNumbers pid blp), number = first ∨ number ∈ rest := by
        intro number member
        have found := translate_subset member
        rw [looked] at found
        exact List.mem_cons.mp found
      by_cases near : ∀ number ∈ rest, distance first number < 32
      · obtain ⟨packed, folded, bits⟩ := packBlp_foldlM first rest 0 near
        have numbers : ∀ number, number ∈ nackNumbers first packed ↔
            number = first ∨ (distance first number < 16 ∧ number ∈ rest) :=
          mem_packed fun bit below => (bits bit below).trans (by simp)
        have packs : packBlp first rest = some packed := folded
        simp only [packs, Option.map_some]
        constructor
        · rintro ⟨item, same, exactly⟩
          obtain rfl := Option.some_injective _ same
          refine ⟨first, rest, rfl, (exactly first).mp List.mem_cons_self, fun number member => ⟨near number member, ?_⟩⟩
          rw [← exactly number, numbers]
          constructor
          · rintro (rfl | ⟨below, _⟩)
            · have away := near number member
              rw [distance_self] at away
              omega
            · exact below
          · exact fun below => Or.inr ⟨below, member⟩
        · rintro ⟨_, _, same, requested, others⟩
          obtain ⟨rfl, rfl⟩ := List.cons.inj same
          refine ⟨(first, packed), rfl, fun number => ?_⟩
          rw [numbers]
          constructor
          · rintro (rfl | ⟨below, member⟩)
            · exact requested
            · exact (others number member).2.mpr below
          · intro member
            rcases inside number member with rfl | later
            · exact Or.inl rfl
            · exact Or.inr ⟨(others number later).2.mp member, later⟩
      · have undefined : packBlp first rest = none := packBlp_none first rest 0 (by simpa using near)
        simp only [undefined, Option.map_none]
        constructor
        · rintro ⟨_, same, _⟩
          exact nomatch same
        · rintro ⟨_, _, same, _, others⟩
          obtain ⟨rfl, rfl⟩ := List.cons.inj same
          exact absurd (fun number member => (others number member).1) near

/-! ### The items of a packet -/

/-- The item at a header. -/
def itemAt (data : Memory) (header : ℕ) : UInt16 × UInt16 := (getNackPid data header, getNackBlp data header)

/-- What `write` does at a header. -/
def rewriteAt (translator : SequenceNumberTranslator .standard) (data : Memory) (header : ℕ) : Option Memory :=
  visitItem id (rewriteNack translator) data header

/-- The translation of the item at a header. -/
def translateAt (translator : SequenceNumberTranslator .standard) (data : Memory) (header : ℕ) :
    Option (UInt16 × UInt16) :=
  translateItem translator (getNackPid data header) (getNackBlp data header)

theorem itemAt_congr {first second : Memory} {header : ℕ}
    (same : ∀ address, header + 12 ≤ address → address < header + 16 → first address = second address) :
    itemAt first header = itemAt second header := by
  refine Prod.ext (read16_congr fun address above below => ?_) (read16_congr fun address above below => ?_)
  · exact same address above (by omega)
  · exact same address (by omega) below

/-- Writing an item. -/
theorem itemAt_set (data : Memory) (header : ℕ) (pid blp : UInt16) :
    itemAt (setNackBlp (setNackPid data header pid) header blp) header = (pid, blp) := by
  refine Prod.ext ?_ (read16_write16 _ _ _)
  exact (read16_write16_of_disjoint _ _ (Or.inl le_rfl)).trans (read16_write16 _ _ _)

/-- **One item is rewritten to its translation**, and nothing else is written. -/
theorem rewriteAt_spec (translator : SequenceNumberTranslator .standard) (data : Memory) (header : ℕ) :
    (translateAt translator data header = none → rewriteAt translator data header = none) ∧
      ∀ item, translateAt translator data header = some item →
        ∃ written, rewriteAt translator data header = some written ∧ itemAt written header = item ∧
          ∀ address, address < header + 12 ∨ header + 16 ≤ address → written address = data address := by
  unfold translateAt translateItem rewriteAt visitItem rewriteNack
  cases looked : translate translator (lookups (getNackPid data header)) with
  | nil =>
      simp only [id_eq, looked]
      refine ⟨fun undefined => (nomatch undefined), fun item same => ⟨data, rfl, ?_, fun _ _ => rfl⟩⟩
      exact Option.some_injective _ same
  | cons first rest =>
      simp only [id_eq, looked]
      cases packs : packBlp first rest with
      | none => exact ⟨fun _ => rfl, fun item same => nomatch same⟩
      | some packed =>
          refine ⟨fun undefined => (nomatch undefined), fun item same => ?_⟩
          obtain rfl := Option.some_injective _ same
          refine ⟨_, rfl, itemAt_set data header first packed, fun address outside => ?_⟩
          show copy (copy data (header + 12) _) (header + 14) _ address = _
          rcases outside with before | after
          · rw [copy_of_lt _ _ (by omega), copy_of_lt _ _ before]
          · rw [copy_of_le _ _ (by rw [length_encode16]; omega), copy_of_le _ _ (by rw [length_encode16]; omega)]

/-- Items that do not overlap are rewritten independently. -/
theorem rewriteItems_spec (translator : SequenceNumberTranslator .standard) {headers : List ℕ}
    (sorted : headers.Pairwise fun first second => first + 4 ≤ second) (data : Memory) :
    ((∃ header ∈ headers, translateAt translator data header = none) →
        headers.foldlM (rewriteAt translator) data = none) ∧
      ((∀ header ∈ headers, translateAt translator data header ≠ none) →
        ∃ written, headers.foldlM (rewriteAt translator) data = some written ∧
          (∀ header ∈ headers, translateAt translator data header = some (itemAt written header)) ∧
          ∀ address, (∀ header ∈ headers, address < header + 12 ∨ header + 16 ≤ address) →
            written address = data address) := by
  induction headers generalizing data with
  | nil =>
      refine ⟨fun ⟨_, member, _⟩ => absurd member List.not_mem_nil, fun _ => ⟨data, rfl, ?_, fun _ _ => rfl⟩⟩
      exact fun _ member => absurd member List.not_mem_nil
  | cons header rest ih =>
      obtain ⟨later, restSorted⟩ := List.pairwise_cons.mp sorted
      obtain ⟨undefined, defined⟩ := rewriteAt_spec translator data header
      rw [List.foldlM_cons]
      cases here : translateAt translator data header with
      | none =>
          rw [undefined here]
          exact ⟨fun _ => rfl, fun each => absurd here (each header List.mem_cons_self)⟩
      | some item =>
          obtain ⟨next, rewritten, placed, frame⟩ := defined item here
          have same : ∀ other ∈ rest, translateAt translator next other = translateAt translator data other := by
            intro other member
            have apart := later other member
            have items : itemAt next other = itemAt data other :=
              itemAt_congr fun address above _ => frame address (Or.inr (by omega))
            rw [translateAt, translateAt, show getNackPid next other = getNackPid data other from congrArg Prod.fst items,
              show getNackBlp next other = getNackBlp data other from congrArg Prod.snd items]
          obtain ⟨failing, passing⟩ := ih restSorted next
          rw [rewritten]
          refine ⟨fun ⟨other, member, away⟩ => ?_, fun each => ?_⟩
          · rcases List.mem_cons.mp member with rfl | member
            · exact absurd (here.symm.trans away) (Option.some_ne_none _)
            · exact failing ⟨other, member, by rw [same other member]; exact away⟩
          · obtain ⟨written, folded, items, outside⟩ := passing fun other member => by
              rw [same other member]
              exact each other (List.mem_cons_of_mem _ member)
            refine ⟨written, folded, fun other member => ?_, fun address away => ?_⟩
            · rcases List.mem_cons.mp member with rfl | member
              · have kept : itemAt written other = itemAt next other :=
                  itemAt_congr fun address _ below => outside address fun following inside =>
                    Or.inl (by have := later following inside; omega)
                rw [here, kept, placed]
              · rw [← same other member]
                exact items other member
            · rw [outside address fun other member => away other (List.mem_cons_of_mem _ member),
                frame address (away header List.mem_cons_self)]

/-! ### The blocks of a packet -/

theorem rewriteBlock_eq (translator : SequenceNumberTranslator .standard) (chead : ℕ) (data : Memory) :
    rewriteBlock translator chead data = (nackItems data chead).foldlM (rewriteAt translator) data := by
  have items := forEachNack_eq id (rewriteNack translator) chead data
  unfold rewriteBlock
  by_cases feedback : getPacketType data chead = rtpFeedbackPt
  · rw [if_pos feedback, items]
    rfl
  · rw [if_neg feedback, nackItems, if_neg feedback]
    rfl

/-- A block's items are the only bytes its rewriting writes. -/
theorem rewriteBlock_frame {chead : ℕ} {data written : Memory}
    (rewritten : rewriteBlock translator chead data = some written)
    {address : ℕ} (outside : address < chead + 12 ∨ chead + blockLength data chead ≤ address) :
    written address = data address := by
  obtain ⟨failing, passing⟩ := rewriteItems_spec translator (nackItems_sorted data chead) data
  rw [rewriteBlock_eq] at rewritten
  by_cases each : ∀ header ∈ nackItems data chead, translateAt translator data header ≠ none
  · obtain ⟨result, folded, _, frame⟩ := passing each
    obtain rfl := Option.some_injective _ (rewritten.symm.trans folded)
    refine frame address fun header member => ?_
    have inside := nackItems_inside member
    omega
  · have undefined : ∃ header ∈ nackItems data chead, translateAt translator data header = none := by
      simpa using each
    exact absurd (rewritten.symm.trans (failing undefined)) (Option.some_ne_none _)

theorem rewriteBlock_local (translator : SequenceNumberTranslator .standard) : Local id (rewriteBlock translator) :=
  fun _ _ _ rewritten _ behind => rewriteBlock_frame rewritten (Or.inr behind)

/-- The items of the blocks from an address on. -/
def itemsFrom (data : Memory) (len : ℤ) (rounds position : ℕ) : List ℕ :=
  (rtcpBlocksFrom data len rounds position).flatMap (nackItems data)

theorem itemsFrom_congr {first second : Memory} (len : ℤ) (rounds : ℕ) {position : ℕ}
    (same : ∀ address, position ≤ address → first address = second address) :
    itemsFrom first len rounds position = itemsFrom second len rounds position := by
  unfold itemsFrom
  rw [rtcpBlocksFrom_congr len rounds position same]
  refine List.flatMap_congr fun block member => nackItems_congr fun address above => ?_
  exact same address (le_trans (rtcpBlocksFrom_le second len rounds position block member) above)

/-- Rewriting block by block is rewriting item by item. -/
theorem rewriteBlocks_eq (translator : SequenceNumberTranslator .standard) (len : ℤ) :
    ∀ (rounds position : ℕ) (data : Memory),
      (rtcpBlocksFrom data len rounds position).foldlM (fun current block => rewriteBlock translator block current) data =
        (itemsFrom data len rounds position).foldlM (rewriteAt translator) data
  | 0, _, _ => rfl
  | rounds + 1, position, data => by
      unfold itemsFrom
      rw [rtcpBlocksFrom, List.foldlM_cons, List.flatMap_cons, List.foldlM_append, ← rewriteBlock_eq]
      cases rewritten : rewriteBlock translator position data with
      | none => rfl
      | some next =>
          have same : ∀ address, position + blockLength data position ≤ address → next address = data address :=
            fun address behind => rewriteBlock_frame rewritten (Or.inr behind)
          by_cases more : ((position + blockLength data position : ℕ) : ℤ) < len
          · rw [if_pos more]
            have rest := rewriteBlocks_eq translator len rounds (position + blockLength data position) next
            rw [rtcpBlocksFrom_congr len rounds _ same, itemsFrom_congr len rounds same] at rest
            exact rest
          · rw [if_neg more]
            rfl

theorem itemsFrom_sorted (data : Memory) (len : ℤ) :
    ∀ rounds position : ℕ, (itemsFrom data len rounds position).Pairwise fun first second => first + 4 ≤ second
  | 0, _ => List.Pairwise.nil
  | rounds + 1, position => by
      unfold itemsFrom
      rw [rtcpBlocksFrom, List.flatMap_cons]
      refine List.pairwise_append.mpr ⟨nackItems_sorted data position, ?_, ?_⟩
      · by_cases more : ((position + blockLength data position : ℕ) : ℤ) < len
        · rw [if_pos more]
          exact itemsFrom_sorted data len rounds _
        · rw [if_neg more]
          exact List.Pairwise.nil
      · intro header member other later
        have inside := nackItems_inside member
        by_cases more : ((position + blockLength data position : ℕ) : ℤ) < len
        · rw [if_pos more] at later
          obtain ⟨block, visited, item⟩ := List.mem_flatMap.mp later
          have behind := rtcpBlocksFrom_le data len rounds _ block visited
          have within := nackItems_inside item
          omega
        · rw [if_neg more] at later
          exact absurd later List.not_mem_nil

/-! ### Whole packets -/

/-- The NACK items of a packet, by their headers. -/
def nackHeaders (packet : DataPacket) : List ℕ :=
  (rtcpBlocks packet.data packet.length).flatMap (nackItems packet.data)

theorem isRtcp_of_isFeedback {data : Memory} (feedback : isFeedback data 0 = true) : isRtcp data 0 = true := by
  unfold isFeedback at feedback
  unfold isRtcp
  simp only [Bool.or_eq_true, decide_eq_true_eq] at feedback
  rcases feedback with (same | same) | same <;> rw [same] <;> decide

/-- `write`, as a rewriting of the items of the packet. -/
theorem write_eq {handler : RtpPaddingRemovalHandler} (enabled : handler.enabled = true) {packet : DataPacket}
    (video : packet.type = .video) (feedback : isFeedback packet.data 0 = true)
    (known : handler.translatorMap (getSourceSSRC packet.data 0) = some translator) :
    handler.write packet =
      ((nackHeaders packet).foldlM (rewriteAt translator) packet.data).map fun data => { packet with data := data } := by
  have rtcp := isRtcp_of_isFeedback feedback
  have items : nackHeaders packet = itemsFrom packet.data packet.length (packet.length.toNat + 1) 0 := by
    rw [nackHeaders, rtcpBlocks, if_pos rtcp]
    rfl
  have walk : forEachRtcpBlock id packet.length (rewriteBlock translator) packet.data =
      (nackHeaders packet).foldlM (rewriteAt translator) packet.data := by
    rw [forEachRtcpBlock_eq (rewriteBlock_local translator), items, ← rewriteBlocks_eq]
    show (rtcpBlocks packet.data packet.length).foldlM _ _ = _
    rw [rtcpBlocks, if_pos rtcp]
  unfold write
  rw [enabled, video, feedback, known]
  show (forEachRtcpBlock id packet.length (rewriteBlock translator) packet.data >>= fun data => _) = _
  rw [walk]
  cases (nackHeaders packet).foldlM (rewriteAt translator) packet.data <;> rfl

theorem nackHeaders_sorted (packet : DataPacket) :
    (nackHeaders packet).Pairwise fun first second => first + 4 ≤ second := by
  unfold nackHeaders rtcpBlocks
  split
  · exact itemsFrom_sorted packet.data packet.length _ 0
  · exact List.Pairwise.nil

theorem enabled_after (packets : List DataPacket) : (after packets).enabled = true := by
  have keeps : ∀ (handler : RtpPaddingRemovalHandler) (packet : DataPacket), True → handler.enabled = true →
      (handler.read packet).1.enabled = true := by
    intro handler packet _ enabled
    unfold read
    split
    · simp only
      split
      · exact enabled
      · split <;> exact enabled
    · exact enabled
  exact Machine.run_invariant read keeps rfl fun _ _ => trivial

/-- **When the NACKs of a packet are translated exactly.** For every sequence of packets read, and
every video feedback packet written afterwards for an SSRC that has been read: all its NACK items
request the translations of what they requested before, if and only if all of them are
translatable. -/
theorem write_exact_iff (packets : List DataPacket) (packet : DataPacket)
    (translator : SequenceNumberTranslator .standard) (video : packet.type = .video)
    (feedback : isFeedback packet.data 0 = true)
    (known : (after packets).translatorMap (getSourceSSRC packet.data 0) = some translator) :
    (∃ written, (after packets).write packet = some written ∧ ∀ header ∈ nackHeaders packet, ∀ number,
        number ∈ nackNumbers (getNackPid written.data header) (getNackBlp written.data header) ↔
          number ∈ translate translator (nackNumbers (getNackPid packet.data header) (getNackBlp packet.data header))) ↔
      ∀ header ∈ nackHeaders packet,
        Translatable translator (getNackPid packet.data header) (getNackBlp packet.data header) := by
  obtain ⟨failing, passing⟩ := rewriteItems_spec translator (nackHeaders_sorted packet) packet.data
  rw [write_eq (enabled_after packets) video feedback known]
  constructor
  · rintro ⟨written, result, exactly⟩ header member
    by_cases each : ∀ header ∈ nackHeaders packet, translateAt translator packet.data header ≠ none
    · obtain ⟨data, folded, items, _⟩ := passing each
      rw [folded] at result
      obtain rfl := Option.some_injective _ result
      exact (translateItem_exact_iff _ _).mp ⟨itemAt data header, items header member, exactly header member⟩
    · have undefined : ∃ header ∈ nackHeaders packet, translateAt translator packet.data header = none := by
        simpa using each
      rw [failing undefined] at result
      exact nomatch result
  · intro each
    have defined : ∀ header ∈ nackHeaders packet, translateAt translator packet.data header ≠ none := by
      intro header member undefined
      obtain ⟨item, same, _⟩ := (translateItem_exact_iff _ _).mpr (each header member)
      exact absurd (undefined.symm.trans same) (Option.some_ne_none _).symm
    obtain ⟨data, folded, items, _⟩ := passing defined
    refine ⟨{ packet with data := data }, by rw [folded]; rfl, fun header member => ?_⟩
    obtain ⟨item, same, exactly⟩ := (translateItem_exact_iff _ _).mpr (each header member)
    obtain rfl := Option.some_injective _ (same.symm.trans (items header member))
    exact exactly

/-! ### Two packets read, one NACK written -/

/-- The translator that two packets leave behind. -/
def secondTranslator : SequenceNumberTranslator .standard :=
  ((after [mediaPacket 10, mediaPacket 11]).translatorMap 7).getD (SequenceNumberTranslator.init .standard)

theorem secondTranslator_known {packet : DataPacket} (ssrc : getSourceSSRC packet.data 0 = 7) :
    (after [mediaPacket 10, mediaPacket 11]).translatorMap (getSourceSSRC packet.data 0) =
      some secondTranslator := by
  have found : ((after [mediaPacket 10, mediaPacket 11]).translatorMap 7).isSome = true := by decide +kernel
  obtain ⟨translator, same⟩ := Option.isSome_iff_exists.mp found
  rw [ssrc, secondTranslator, same]
  rfl

/-- A NACK for both packets is translated exactly. -/
theorem write_exact_both :
    ∃ written, (after [mediaPacket 10, mediaPacket 11]).write (nackPacket 10 1) = some written ∧
      ∀ header ∈ nackHeaders (nackPacket 10 1), ∀ number,
        number ∈ nackNumbers (getNackPid written.data header) (getNackBlp written.data header) ↔
          number ∈ translate secondTranslator (nackNumbers (getNackPid (nackPacket 10 1).data header)
            (getNackBlp (nackPacket 10 1).data header)) := by
  refine (write_exact_iff _ _ _ rfl (by decide +kernel) (secondTranslator_known (by decide +kernel))).mpr ?_
  have headers : nackHeaders (nackPacket 10 1) = [0] := by decide +kernel
  intro header member
  rw [headers] at member
  obtain rfl := List.mem_singleton.mp member
  have pid : getNackPid (nackPacket 10 1).data 0 = 10 := by decide +kernel
  have blp : getNackBlp (nackPacket 10 1).data 0 = 1 := by decide +kernel
  have looked : translate secondTranslator (lookups 10) = [10, 11] := by decide +kernel
  have requested : translate secondTranslator (nackNumbers 10 1) = [10, 11] := by decide +kernel
  rw [pid, blp]
  refine ⟨10, [11], looked, ?_, ?_⟩
  · rw [requested]
    decide
  · intro number other
    rw [requested, List.mem_singleton.mp other]
    decide

/-- A NACK for packet 10 alone comes out as one for packets 10 and 11. -/
theorem write_requests_more :
    ¬ ∀ (packets : List DataPacket) (packet : DataPacket) (translator : SequenceNumberTranslator .standard),
      packet.type = .video → isFeedback packet.data 0 = true →
      (after packets).translatorMap (getSourceSSRC packet.data 0) = some translator →
      ∃ written, (after packets).write packet = some written ∧ ∀ header ∈ nackHeaders packet, ∀ number,
        number ∈ nackNumbers (getNackPid written.data header) (getNackBlp written.data header) ↔
          number ∈ translate translator
            (nackNumbers (getNackPid packet.data header) (getNackBlp packet.data header)) := by
  intro always
  obtain ⟨written, result, exactly⟩ := always [mediaPacket 10, mediaPacket 11] (nackPacket 10 0) secondTranslator rfl
    (by decide +kernel) (secondTranslator_known (by decide +kernel))
  have requested : ((after [mediaPacket 10, mediaPacket 11]).write (nackPacket 10 0)).map
      (fun packet => decide ((11 : UInt16) ∈ nackNumbers (getNackPid packet.data 0) (getNackBlp packet.data 0))) =
        some true := by decide +kernel
  rw [result] at requested
  have member := of_decide_eq_true (Option.some_injective _ requested)
  have asked := (exactly 0 (by decide +kernel) 11).mp member
  have pid : getNackPid (nackPacket 10 0).data 0 = 10 := by decide +kernel
  have blp : getNackBlp (nackPacket 10 0).data 0 = 0 := by decide +kernel
  have translated : translate secondTranslator (nackNumbers 10 0) = [10] := by decide +kernel
  rw [pid, blp, translated] at asked
  exact absurd asked (by decide)

end RtpPaddingRemovalHandler

end Erizo
