/-
**What `processRtpExtensions` does to the elements of a block.**

The loop starts behind the fixed header, takes a byte of padding for an element without data, and looks up the map before
it compares the identifier on the wire with the number of an extension.

* `foldl_effect`: what a loop over good headers leaves.
* `follows_iff`: the loop treats exactly the elements that it should if and only if there are no contributing sources in
  front of a block with elements, the padding before each element is even, and the map gives the two numbers to the two
  extensions.
-/

import Erizo.Proof.ExtensionMaps
import Erizo.Proof.ExtensionWalk

namespace Erizo

open Library Library.Bytes Library.Elements RtpHeader

namespace RtpExtensionProcessor

/-! ### What should become of a packet -/

/-- The elements that the map associates with an extension. -/
def associated (associates : ℕ → RTPExtensions) (data : Memory) (elements : List ℕ) (extension : RTPExtensions) : List ℕ :=
  elements.filter fun element => associates (elementId data element) = extension

/-- The elements are looked at, and padding inside the block, those with a time are rewritten, which they have room for,
those with a rotation are recorded, and no other byte changes. -/
structure Processed (associates : ℕ → RTPExtensions) (orientation : VideoRotation) (absecs : ℕ → UInt32) (data : Memory)
    (elements : List ℕ) (processing : Processing) : Prop where
  examines : (processing.examined.filter fun header => data header ≠ 0) = elements
  inside : ∀ header ∈ processing.examined, blockStart data ≤ header ∧ header < blockStop data
  rewrites : processing.rewritten = associated associates data elements .absSendTime
  room : ∀ element ∈ processing.rewritten, 2 ≤ elementLength data element
  times : ∀ element ∈ associated associates data elements .absSendTime,
    read24 processing.data (element + 1) = (absecs element).toNat % 2 ^ 24
  frame : ∀ address, (∀ element ∈ associated associates data elements .absSendTime,
    address ≤ element ∨ element + 4 ≤ address) → processing.data address = data address
  records : processing.recorded = associated associates data elements .videoOrientation
  rotation : processing.videoOrientation =
    ((associated associates data elements .videoOrientation).getLast?.map
      fun element => .ofCVOByte (data (element + 1))).getD orientation

/-- The maps are built from the descriptions, and the packet is processed as it should. -/
def Follows (extMappings : List ExtMap) (descriptions : List (List ExtMap)) (orientation : VideoRotation)
    (absecs : ℕ → UInt32) (p : DataPacket) (elements : List ℕ) : Prop :=
  ∃ processor processing length, buildMaps extMappings descriptions = some processor ∧
    processRtpExtensions { processor with videoOrientation := orientation } absecs p = some (processing, length) ∧
    Processed (negotiated extMappings descriptions.flatten (mediaOf p.type)) orientation absecs p.data elements processing

/-- An element whose identifier the code and the map take for the same. -/
structure Regular (associates : ℕ → RTPExtensions) (data : Memory) (element : ℕ) : Prop where
  inside : elementId data element ≠ 15
  time : elementId data element = 2 ∧ associates 2 ≠ .unknown ↔ associates (elementId data element) = .absSendTime
  room : associates (elementId data element) = .absSendTime → 2 ≤ elementLength data element
  rotation : elementId data element = 4 ∧ associates 4 ≠ .unknown ↔
    associates (elementId data element) = .videoOrientation

/-- The loop comes to the elements: there are none and it looks at nothing, or it starts with the block and the padding
before each of them is even. -/
def Reaches (p : DataPacket) (elements : List ℕ) : Prop :=
  (elements = [] ∧ (p.type = .other ∨ getExtId p.data ≠ 0xBEDE ∨ getExtLength p.data = 0)) ∨
    p.type ≠ .other ∧ getCc p.data = 0 ∧ EvenGaps (elementSize p.data) (blockStart p.data) elements

/-! ### One header -/

section Header

variable (associates : ℕ → RTPExtensions) (absecs : ℕ → UInt32) (data : Memory)

/-- The code treats the element as the extension. -/
def treated (extension : RTPExtensions) (header : ℕ) : Bool :=
  elementId data header = extension.value && associates extension.value ≠ .unknown

/-- What the code does at a header. -/
def effect (header : ℕ) (processing : Processing) : Processing where
  data := if treated associates data .absSendTime header then write24 processing.data (header + 1) (absecs header).toNat
    else processing.data
  videoOrientation := if treated associates data .videoOrientation header then .ofCVOByte (data (header + 1))
    else processing.videoOrientation
  examined := processing.examined ++ [header]
  rewritten := if treated associates data .absSendTime header then processing.rewritten ++ [header]
    else processing.rewritten
  recorded := if treated associates data .videoOrientation header then processing.recorded ++ [header]
    else processing.recorded

variable {associates absecs data} {extMap : ExtensionMap} {header : ℕ} {processing next : Processing}

theorem treated_iff {extension : RTPExtensions} :
    treated associates data extension header = true ↔
      elementId data header = extension.value ∧ associates extension.value ≠ .unknown := by
  unfold treated
  rw [Bool.and_eq_true, decide_eq_true_iff, decide_eq_true_iff]

theorem treated_of_ne {extension : RTPExtensions} (other : elementId data header ≠ extension.value) :
    treated associates data extension header = false :=
  eq_false_of_ne_true fun here => other (treated_iff.mp here).1

theorem treated_of_unknown {extension : RTPExtensions} (unknown : associates (elementId data header) = .unknown) :
    treated associates data extension header = false := by
  refine eq_false_of_ne_true fun here => ?_
  obtain ⟨same, mapped⟩ := treated_iff.mp here
  exact mapped (same ▸ unknown)

theorem treated_of_eq {extension : RTPExtensions} (known : associates (elementId data header) ≠ .unknown)
    (same : elementId data header = extension.value) : treated associates data extension header = true :=
  treated_iff.mpr ⟨same, same ▸ known⟩

theorem processExtension_eq (holds : ∀ id, id < 15 → extMap[id]? = some (associates id))
    (agrees : Agrees data header processing.data) (small : elementId data header ≠ 15) :
    processExtension extMap absecs header processing = some (effect associates absecs data header processing) := by
  have below := elementId_lt data header
  have byte : processing.data (header + 1) = data (header + 1) := agrees (header + 1) (Nat.le_succ _)
  unfold processExtension effect
  simp only [agrees.elementId]
  by_cases zero : elementId data header = 0
  · rw [if_pos zero, treated_of_ne (by rw [zero]; decide), treated_of_ne (by rw [zero]; decide)]
    rfl
  · rw [if_neg zero, holds _ (by omega)]
    by_cases unknown : associates (elementId data header) = .unknown
    · simp only [unknown, treated_of_unknown unknown]
      rfl
    · simp only [if_neg unknown]
      by_cases time : elementId data header = RTPExtensions.absSendTime.value
      · rw [if_pos time, treated_of_eq unknown time, treated_of_ne (by rw [time]; decide)]
        rfl
      · rw [if_neg time, treated_of_ne time]
        by_cases rotation : elementId data header = RTPExtensions.videoOrientation.value
        · rw [if_pos rotation, treated_of_eq unknown rotation, processVideoOrientation, byte]
          rfl
        · rw [if_neg rotation, treated_of_ne rotation]
          rfl

theorem processExtension_outside (agrees : Agrees data header processing.data) (outside : elementId data header = 15) :
    processExtension extMap absecs header processing = none := by
  unfold processExtension
  simp only [agrees.elementId, outside]
  rfl

/-- An element with room for the time is left behind. -/
theorem agrees_effect (agrees : Agrees data header processing.data)
    (room : treated associates data .absSendTime header = true → 2 ≤ elementLength data header) :
    Agrees data (header + elementSize data header) (effect associates absecs data header processing).data := by
  intro address after
  have long := two_le_elementSize data header
  unfold effect
  split
  · next here =>
      have size : elementSize data header = elementLength data header + 2 := rfl
      have space := room here
      exact (write24_of_disjoint _ _ (Or.inr (by omega))).trans (agrees address (by omega))
  · exact agrees address (by omega)

/-- A header byte that the code gets over. -/
def Safe (associates : ℕ → RTPExtensions) (data : Memory) (header : ℕ) : Prop :=
  elementId data header ≠ 15 ∧ (treated associates data .absSendTime header = true → 2 ≤ elementLength data header)

/-- What has been rewritten stays so. -/
theorem rewritten_processExtension (called : processExtension extMap absecs header processing = some next) :
    processing.rewritten ⊆ next.rewritten := by
  unfold processExtension at called
  dsimp only at called
  split at called
  · exact Option.some.inj called ▸ List.Subset.refl _
  · split at called
    · exact (nomatch called)
    · split at called
      · exact Option.some.inj called ▸ List.Subset.refl _
      · split at called
        · exact Option.some.inj called ▸ List.subset_append_left _ _
        · split at called <;> exact Option.some.inj called ▸ List.Subset.refl _

/-- A header that the code got over. -/
theorem safe_of_processExtension (holds : ∀ id, id < 15 → extMap[id]? = some (associates id))
    (agrees : Agrees data header processing.data)
    (called : processExtension extMap absecs header processing = some next)
    (room : ∀ element ∈ next.rewritten, 2 ≤ elementLength data element) :
    Safe associates data header ∧ Agrees data (header + elementSize data header) next.data := by
  have small : elementId data header ≠ 15 := fun outside => by
    rw [processExtension_outside agrees outside] at called
    exact (nomatch called)
  rw [processExtension_eq holds agrees small] at called
  obtain rfl := Option.some.inj called
  have space : treated associates data .absSendTime header = true → 2 ≤ elementLength data header := fun here =>
    room header (by simp [effect, here])
  exact ⟨⟨small, space⟩, agrees_effect agrees space⟩

end Header

/-! ### All headers -/

section Headers

variable {associates : ℕ → RTPExtensions} {absecs : ℕ → UInt32} {data : Memory}

/-- The times that are written at some elements. -/
def written (absecs : ℕ → UInt32) (elements : List ℕ) (memory : Memory) : Memory :=
  elements.foldl (fun memory element => write24 memory (element + 1) (absecs element).toNat) memory

/-- **What a loop leaves** that comes to these headers. -/
theorem foldl_effect (headers : List ℕ) (start : Processing) :
    headers.foldl (fun processing header => effect associates absecs data header processing) start =
      { data := written absecs (headers.filter (treated associates data .absSendTime)) start.data
        videoOrientation := ((headers.filter (treated associates data .videoOrientation)).getLast?.map
          fun element => .ofCVOByte (data (element + 1))).getD start.videoOrientation
        examined := start.examined ++ headers
        rewritten := start.rewritten ++ headers.filter (treated associates data .absSendTime)
        recorded := start.recorded ++ headers.filter (treated associates data .videoOrientation) } := by
  induction headers using List.reverseRecOn with
  | nil => simp [written]
  | append_singleton headers header ih =>
      rw [List.foldl_concat, ih, effect]
      cases time : treated associates data .absSendTime header <;>
        cases rotation : treated associates data .videoOrientation header <;>
          simp [written, List.filter_append, time, rotation]

/-- Times that are written at elements with room for them are there, and nothing else is written. -/
theorem written_spec (absecs : ℕ → UInt32) : ∀ {elements : List ℕ} (memory : Memory),
    elements.Pairwise (fun first second => first + 4 ≤ second) →
    (∀ address, (∀ element ∈ elements, address ≤ element ∨ element + 4 ≤ address) →
      written absecs elements memory address = memory address) ∧
    ∀ element ∈ elements, read24 (written absecs elements memory) (element + 1) = (absecs element).toNat % 2 ^ 24
  | [], _, _ => ⟨fun _ _ => rfl, fun _ absent => absurd absent List.not_mem_nil⟩
  | element :: elements, memory, spaced => by
      obtain ⟨first, rest⟩ := List.pairwise_cons.mp spaced
      obtain ⟨frame, times⟩ := written_spec absecs (write24 memory (element + 1) (absecs element).toNat) rest
      refine ⟨fun address apart => ?_, List.forall_mem_cons.mpr ⟨?_, times⟩⟩
      · obtain ⟨here, others⟩ := List.forall_mem_cons.mp apart
        exact (frame address others).trans (write24_of_disjoint _ _ (by omega))
      · have kept : ∀ index, index < 3 → written absecs (element :: elements) memory (element + 1 + index) =
            write24 memory (element + 1) (absecs element).toNat (element + 1 + index) := fun index small =>
          frame _ fun other member => Or.inl (by have after := first other member; omega)
        rw [← read24_write24 memory (element + 1) (absecs element).toNat]
        unfold read24
        rw [← kept 0 (by decide), ← kept 1 (by decide), ← kept 2 (by decide)]

/-- A treated header byte is not padding. -/
theorem filter_treated (headers : List ℕ) {extension : RTPExtensions} (positive : extension.value ≠ 0) :
    headers.filter (treated associates data extension) =
      (headers.filter fun header => data header ≠ 0).filter (treated associates data extension) := by
  rw [List.filter_filter]
  refine List.filter_congr fun header _ => ?_
  cases here : treated associates data extension header with
  | false => rfl
  | true =>
      have nonzero : data header ≠ 0 := fun zero => by
        have same := (treated_iff.mp here).1
        rw [elementId, zero] at same
        exact positive same.symm
      simpa using nonzero

/-- A code that treats the elements with an extension finds those that the map associates with it. -/
theorem filter_treated_eq_iff {elements : List ℕ} {extension : RTPExtensions} :
    elements.filter (treated associates data extension) = associated associates data elements extension ↔
      ∀ element ∈ elements, treated associates data extension element = true ↔
        associates (elementId data element) = extension := by
  unfold associated
  constructor
  · intro same element member
    have both := congrArg (element ∈ ·) same
    simpa [List.mem_filter, member] using both
  · exact fun agree => List.filter_congr fun element member =>
      Bool.eq_iff_iff.mpr ((agree element member).trans decide_eq_true_iff.symm)

theorem regular_iff {element : ℕ} : Regular associates data element ↔
    Safe associates data element ∧
      (treated associates data .absSendTime element = true ↔ associates (elementId data element) = .absSendTime) ∧
      (treated associates data .videoOrientation element = true ↔
        associates (elementId data element) = .videoOrientation) := by
  unfold Safe
  rw [treated_iff, treated_iff]
  constructor
  · exact fun regular => ⟨⟨regular.inside, fun here => regular.room (regular.time.mp here)⟩, regular.time, regular.rotation⟩
  · rintro ⟨⟨inside, room⟩, time, rotation⟩
    exact ⟨inside, time, fun here => room (time.mpr here), rotation⟩

end Headers

/-! ### The block of a packet -/

section Block

variable {associates : ℕ → RTPExtensions} {absecs : ℕ → UInt32} {orientation : VideoRotation} {p : DataPacket}
  {elements : List ℕ} {extMap : ExtensionMap} {processing : Processing}

/-- What the loop leaves of a packet. -/
def outcome (associates : ℕ → RTPExtensions) (absecs : ℕ → UInt32) (orientation : VideoRotation) (data : Memory) :
    Processing where
  data := written absecs ((visited data).filter (treated associates data .absSendTime)) data
  videoOrientation := (((visited data).filter (treated associates data .videoOrientation)).getLast?.map
    fun element => .ofCVOByte (data (element + 1))).getD orientation
  examined := visited data
  rewritten := (visited data).filter (treated associates data .absSendTime)
  recorded := (visited data).filter (treated associates data .videoOrientation)

/-- A packet before its extensions are processed. -/
def unprocessed (data : Memory) (orientation : VideoRotation) : Processing := { data, videoOrientation := orientation }

/-- Over safe headers the loop comes to an end. -/
theorem loop_of_safe (holds : ∀ id, id < 15 → extMap[id]? = some (associates id))
    (profile : getExtId p.data = 0xBEDE)
    (safe : ∀ header ∈ visited p.data, header < DataPacket.capacity ∧ Safe associates p.data header) :
    forEachExtension Processing.data (processExtension extMap absecs) (unprocessed p.data orientation) =
      some (outcome associates absecs orientation p.data) := by
  have loop := @forEachExtension_eq_foldl Processing Processing.data (processExtension extMap absecs)
    (unprocessed p.data orientation) _ rfl (effect associates absecs p.data) profile
  rw [foldl_effect] at loop
  refine loop fun header member => ?_
  obtain ⟨within, small, room⟩ := safe header member
  exact ⟨within, fun next agrees => ⟨processExtension_eq holds agrees small, agrees_effect agrees room⟩⟩

/-- A loop that comes to an end, with room for what it wrote, was over safe headers. -/
theorem safe_of_loop (holds : ∀ id, id < 15 → extMap[id]? = some (associates id)) (profile : getExtId p.data = 0xBEDE)
    (here : forEachExtension Processing.data (processExtension extMap absecs) (unprocessed p.data orientation) =
      some processing)
    (room : ∀ element ∈ processing.rewritten, 2 ≤ elementLength p.data element) :
    ∀ header ∈ visited p.data, header < DataPacket.capacity ∧ Safe associates p.data header := by
  have same : Processing.data (unprocessed p.data orientation) = p.data := rfl
  exact good_of_forEachExtension same (fun processing => ∀ element ∈ processing.rewritten, 2 ≤ elementLength p.data element)
    profile (fun _ _ _ called held element member => held element (rewritten_processExtension called member))
    (fun _ _ _ agrees called held => safe_of_processExtension holds agrees called held) here room

/-- A header byte of padding is safe. -/
theorem safe_of_eq_zero {header : ℕ} (zero : p.data header = 0) : Safe associates p.data header := by
  have none : elementId p.data header = 0 := by rw [elementId, zero]; rfl
  refine ⟨by rw [none]; decide, fun here => ?_⟩
  have same := (treated_iff.mp here).1
  rw [none] at same
  exact absurd same (by decide)

/-- **In a block whose elements are found**, and are regular, the loop does what it should. -/
theorem processed_outcome (block : OneByteBlock p elements) (alone : getCc p.data = 0)
    (found : ((visited p.data).filter fun header => p.data header ≠ 0) = elements)
    (regular : ∀ element ∈ elements, Regular associates p.data element) :
    Processed associates orientation absecs p.data elements (outcome associates absecs orientation p.data) := by
  have times : (visited p.data).filter (treated associates p.data .absSendTime) =
      associated associates p.data elements .absSendTime := by
    rw [filter_treated _ (by decide), found]
    exact filter_treated_eq_iff.mpr fun element member => (regular_iff.mp (regular element member)).2.1
  have rotations : (visited p.data).filter (treated associates p.data .videoOrientation) =
      associated associates p.data elements .videoOrientation := by
    rw [filter_treated _ (by decide), found]
    exact filter_treated_eq_iff.mpr fun element member => (regular_iff.mp (regular element member)).2.2
  have room : ∀ element ∈ associated associates p.data elements .absSendTime, 2 ≤ elementLength p.data element := by
    intro element member
    obtain ⟨inside, here⟩ := List.mem_filter.mp member
    exact (regular element inside).room (of_decide_eq_true here)
  have spaced : (associated associates p.data elements .absSendTime).Pairwise fun first second => first + 4 ≤ second := by
    have apart : (visited p.data).Pairwise fun first second => first + elementSize p.data first ≤ second :=
      pairwise_headersFrom _ _
    replace apart := apart.filter fun header => p.data header ≠ 0
    rw [found] at apart
    refine (apart.filter _).imp_of_mem fun first _ after => ?_
    have space := room _ first
    unfold elementSize at after
    omega
  obtain ⟨frame, stamps⟩ := written_spec absecs p.data spaced
  exact {
    examines := found
    inside := fun header member => ⟨(block.mem_visited alone header member).1, (block.mem_visited alone header member).2.1⟩
    rewrites := times
    room := fun element member => room element (times ▸ member)
    times := fun element member => by rw [outcome, times]; exact stamps element member
    frame := fun address apart => by rw [outcome, times]; exact frame address apart
    records := rotations
    rotation := by rw [outcome, rotations] }

/-- A packet that is left alone is as it should be if it has no elements. -/
theorem processed_unprocessed (data : Memory) :
    Processed associates orientation absecs data [] (unprocessed data orientation) where
  examines := rfl
  inside := fun _ absent => absurd absent List.not_mem_nil
  rewrites := rfl
  room := fun _ absent => absurd absent List.not_mem_nil
  times := fun _ absent => absurd absent List.not_mem_nil
  frame := fun _ _ => rfl
  records := rfl
  rotation := rfl

/-- An empty extension is left alone. -/
theorem outcome_of_getExtLength (empty : getExtLength p.data = 0) :
    outcome associates absecs orientation p.data = unprocessed p.data orientation := by
  unfold outcome
  rw [visited_of_getExtLength empty]
  rfl

/-- The elements of a block that was processed as it should are regular. -/
theorem regular_of_processed
    (processed : Processed associates orientation absecs p.data elements (outcome associates absecs orientation p.data))
    (safe : ∀ header ∈ visited p.data, header < DataPacket.capacity ∧ Safe associates p.data header) :
    ∀ element ∈ elements, Regular associates p.data element := by
  intro element member
  have found : ((visited p.data).filter fun header => p.data header ≠ 0) = elements := processed.examines
  have times : (visited p.data).filter (treated associates p.data .absSendTime) = _ := processed.rewrites
  have rotations : (visited p.data).filter (treated associates p.data .videoOrientation) = _ := processed.records
  rw [filter_treated _ (by decide), found] at times rotations
  have reached : element ∈ visited p.data := List.mem_of_mem_filter (found ▸ member)
  exact regular_iff.mpr ⟨(safe element reached).2, filter_treated_eq_iff.mp times element member,
    filter_treated_eq_iff.mp rotations element member⟩

variable (absecs orientation) in
/-- **The loop over a block** does what it should if and only if it comes to the elements and they are regular. -/
theorem loop_iff (block : OneByteBlock p elements) (media : p.type ≠ .other)
    (holds : ∀ id, id < 15 → extMap[id]? = some (associates id)) :
    (∃ processing, forEachExtension Processing.data (processExtension extMap absecs) (unprocessed p.data orientation) =
      some processing ∧ Processed associates orientation absecs p.data elements processing) ↔
      Reaches p elements ∧ ∀ element ∈ elements, Regular associates p.data element := by
  by_cases profile : getExtId p.data = 0xBEDE
  · constructor
    · rintro ⟨processing, loop, processed⟩
      have safe := safe_of_loop holds profile loop processed.room
      obtain rfl := Option.some.inj ((loop_of_safe holds profile safe).symm.trans loop)
      refine ⟨?_, regular_of_processed processed safe⟩
      by_cases alone : getCc p.data = 0
      · exact Or.inr ⟨media, alone, (block.filter_visited_iff alone).mp processed.examines⟩
      · have empty : getExtLength p.data = 0 := by
          by_contra filled
          have first := (processed.inside 16 (mem_visited_of_getExtLength filled)).1
          unfold blockStart at first
          omega
        rw [outcome_of_getExtLength empty] at processed
        exact Or.inl ⟨processed.examines.symm, Or.inr (Or.inr empty)⟩
    · rintro ⟨⟨rfl, idle⟩ | ⟨_, alone, even⟩, regular⟩
      · have empty : getExtLength p.data = 0 := (idle.resolve_left media).resolve_left (not_not.mpr profile)
        have safe : ∀ header ∈ visited p.data, header < DataPacket.capacity ∧ Safe associates p.data header := by
          rw [visited_of_getExtLength empty]
          exact fun _ absent => absurd absent List.not_mem_nil
        have loop : forEachExtension Processing.data (processExtension extMap absecs) (unprocessed p.data orientation) =
            some (outcome associates absecs orientation p.data) := loop_of_safe holds profile safe
        rw [outcome_of_getExtLength empty] at loop
        exact ⟨_, loop, processed_unprocessed p.data⟩
      · have found := (block.filter_visited_iff alone).mpr even
        refine ⟨_, loop_of_safe holds profile fun header member => ⟨(block.mem_visited alone header member).2.2, ?_⟩,
          processed_outcome block alone found regular⟩
        by_cases zero : p.data header = 0
        · exact safe_of_eq_zero zero
        · have here : header ∈ elements := found ▸ List.mem_filter.mpr ⟨member, by simpa using zero⟩
          exact (regular_iff.mp (regular header here)).1
  · have loop : forEachExtension Processing.data (processExtension extMap absecs) (unprocessed p.data orientation) = _ :=
      forEachExtension_of_ne profile
    rw [loop]
    constructor
    · rintro ⟨processing, same, processed⟩
      obtain rfl := Option.some.inj same
      have empty : [] = elements := processed.examines
      subst empty
      exact ⟨Or.inl ⟨rfl, Or.inr (Or.inl profile)⟩, fun _ absent => absurd absent List.not_mem_nil⟩
    · rintro ⟨⟨rfl, _⟩ | ⟨_, alone, _⟩, _⟩
      · exact ⟨_, rfl, processed_unprocessed p.data⟩
      · exact absurd (block.getExtId alone) profile

end Block

/-! ### All packets -/

section Packets

variable {processor : RtpExtensionProcessor} {absecs : ℕ → UInt32} {p : DataPacket} {extMap : ExtensionMap}

theorem processRtpExtensions_eq (orientation : VideoRotation) (extended : getExtension p.data = 1)
    (map : processor.extensionMap p.type = some extMap) :
    processRtpExtensions { processor with videoOrientation := orientation } absecs p =
      (forEachExtension Processing.data (processExtension extMap absecs) (unprocessed p.data orientation)).map
        fun processing => (processing, UInt32.ofInt p.length) := by
  have same : extensionMap { processor with videoOrientation := orientation } p.type = some extMap := by
    rw [← map]
    cases p.type <;> rfl
  unfold processRtpExtensions
  rw [if_pos extended, same, Option.map_eq_bind]
  rfl

theorem processRtpExtensions_other (extended : getExtension p.data = 1) (other : p.type = .other) :
    processor.processRtpExtensions absecs p = some (unprocessed p.data processor.videoOrientation, 0) := by
  unfold processRtpExtensions
  rw [if_pos extended, other]
  rfl

end Packets

/-- **The elements of a block are processed as they should** if and only if the identifiers that were negotiated fit in the
maps, the loop comes to the elements, and each of them is regular. -/
theorem follows_iff (extMappings : List ExtMap) (descriptions : List (List ExtMap)) (orientation : VideoRotation)
    (absecs : ℕ → UInt32) (p : DataPacket) (elements : List ℕ) (block : OneByteBlock p elements) :
    Follows extMappings descriptions orientation absecs p elements ↔
      Fits extMappings descriptions.flatten ∧ Reaches p elements ∧
        ∀ element ∈ elements, Regular (negotiated extMappings descriptions.flatten (mediaOf p.type)) p.data element := by
  rw [← isSome_buildMaps, Option.isSome_iff_exists, ← exists_and_right]
  refine exists_congr fun processor => ?_
  by_cases media : p.type = .other
  · rw [processRtpExtensions_other block.extended media]
    constructor
    · rintro ⟨_, _, built, run, processed⟩
      obtain ⟨rfl, -⟩ := Prod.mk.inj (Option.some.inj run)
      have empty : [] = elements := processed.examines
      subst empty
      exact ⟨built, Or.inl ⟨rfl, Or.inl media⟩, fun _ absent => absurd absent List.not_mem_nil⟩
    · rintro ⟨built, ⟨rfl, _⟩ | ⟨other, _⟩, _⟩
      · exact ⟨_, _, built, rfl, processed_unprocessed p.data⟩
      · exact absurd media other
  · constructor
    · rintro ⟨processing, length, built, run, processed⟩
      obtain ⟨extMap, map, holds⟩ := extensionMap_of_buildMaps built media
      rw [processRtpExtensions_eq orientation block.extended map] at run
      obtain ⟨_, loop, same⟩ := Option.map_eq_some_iff.mp run
      obtain ⟨rfl, -⟩ := Prod.mk.inj same
      exact ⟨built, (loop_iff absecs orientation block media holds).mp ⟨_, loop, processed⟩⟩
    · rintro ⟨built, regular⟩
      obtain ⟨extMap, map, holds⟩ := extensionMap_of_buildMaps built media
      obtain ⟨processing, loop, processed⟩ := (loop_iff absecs orientation block media holds).mpr regular
      rw [processRtpExtensions_eq orientation block.extended map, loop]
      exact ⟨processing, _, built, rfl, processed⟩

/-! ### One time -/

/-- A line for the time, under its number. -/
def timeLine : ExtMap := ⟨2, "http://www.webrtc.org/experiments/rtp-hdrext/abs-send-time".toList, .video⟩

theorem block_padded : OneByteBlock (extendedPacket [0, 0x22, 0, 0, 0, 0, 0, 0]) [17] where
  extended := by decide
  profile := by decide
  inside := by decide
  fits := by decide
  parses := .padding (by decide) (by decide) <| .element (by decide) (by decide) <| .padding (by decide) (by decide) <|
    .padding (by decide) (by decide) <| .padding (by decide) (by decide) .done

/-- A line for the rotation, under its number. -/
def rotationLine : ExtMap := ⟨4, "urn:3gpp:video-orientation".toList, .video⟩

/-- Two bytes of padding, the time and the rotation. -/
def timedAndRotated : DataPacket := extendedPacket [0, 0, 0x22, 0, 0, 0, 0x40, 1]

theorem block_timedAndRotated : OneByteBlock timedAndRotated [18, 22] where
  extended := by decide
  profile := by decide
  inside := by decide
  fits := by decide
  parses := .padding (by decide) (by decide) <| .padding (by decide) (by decide) <| .element (by decide) (by decide) <|
    .element (by decide) (by decide) .done

/-- Behind an even padding the time is written and the rotation read. -/
theorem follows_iff_timedAndRotated :
    Follows [timeLine, rotationLine] [[timeLine], [rotationLine]] .rotation0 (fun _ => 5) timedAndRotated [18, 22] := by
  refine (follows_iff _ _ _ _ _ _ block_timedAndRotated).mpr
    ⟨?_, Or.inr ⟨by decide, by decide, by decide, by decide, trivial⟩, ?_⟩
  · simp only [List.flatten_cons, List.flatten_nil, List.cons_append, List.nil_append, List.append_nil, Fits,
      List.forall_mem_cons, List.not_mem_nil, false_imp_iff, implies_true, and_true]
    exact ⟨fun _ _ => by decide, fun _ _ => by decide⟩
  · have time : negotiated [timeLine, rotationLine] [[timeLine], [rotationLine]].flatten .video 2 = .absSendTime := by
      decide +kernel
    have rotation : negotiated [timeLine, rotationLine] [[timeLine], [rotationLine]].flatten .video 4 =
      .videoOrientation := by
      decide +kernel
    have first : elementId timedAndRotated.data 18 = 2 := by decide
    have second : elementId timedAndRotated.data 22 = 4 := by decide
    refine List.forall_mem_cons.mpr ⟨⟨by decide, ?_, fun _ => by decide, ?_⟩,
      List.forall_mem_singleton.mpr ⟨by decide, ?_, fun known => ?_, ?_⟩⟩
    · rw [first]
      exact iff_of_true ⟨rfl, fun unknown => absurd (time.symm.trans unknown) (by decide)⟩ time
    · rw [first]
      exact iff_of_false (fun other => absurd other.1 (by decide)) fun other =>
        absurd (time.symm.trans other) (by decide)
    · rw [second]
      exact iff_of_false (fun other => absurd other.1 (by decide)) fun other =>
        absurd (rotation.symm.trans other) (by decide)
    · rw [second] at known
      exact absurd (rotation.symm.trans known) (by decide)
    · rw [second]
      exact iff_of_true ⟨rfl, fun unknown => absurd (rotation.symm.trans unknown) (by decide)⟩ rotation

/-- A byte of padding in front of the time: the loop takes it and the time's header byte for one element. -/
theorem not_follows_padded : OneByteBlock (extendedPacket [0, 0x22, 0, 0, 0, 0, 0, 0]) [17] ∧
    ¬Follows [timeLine] [[timeLine]] .rotation0 (fun _ => 5) (extendedPacket [0, 0x22, 0, 0, 0, 0, 0, 0]) [17] := by
  refine ⟨block_padded, ?_⟩
  rintro ⟨processor, processing, length, built, run, processed⟩
  obtain ⟨extMap, map, holds⟩ := extensionMap_of_buildMaps built (by decide : PacketType.video ≠ .other)
  rw [processRtpExtensions_eq _ block_padded.extended map] at run
  obtain ⟨_, loop, same⟩ := Option.map_eq_some_iff.mp run
  obtain ⟨rfl, -⟩ := Prod.mk.inj same
  rcases ((loop_iff _ _ block_padded (by decide) holds).mp ⟨_, loop, processed⟩).1 with ⟨empty, _⟩ | ⟨_, _, even, _⟩
  · exact (nomatch empty)
  · exact absurd even (by decide)

end RtpExtensionProcessor

end Erizo
