/-
**The identifiers of extensions, there and back.**

Both loops write at the headers that they come to, and keep the sizes there, so that one after the other they relabel each
identifier twice (`changeExtensionIds_eq`). An identifier without an extension is left as it is on the way in and is taken
for the number of an extension on the way out.

* `restores_iff`: a packet is restored, and only its elements change, exactly if none of its identifiers is 15 or the number
  of another extension in use, and the loops come to elements.
-/

import Erizo.Proof.ExtensionWalk

namespace Erizo

open Library Library.Bytes Library.Elements RtpHeader

namespace RtpExtensionProcessor

/-! ### What should become of a packet -/

/-- Only the identifiers of elements change. -/
def ChangesIds (elements : List ℕ) (before after : Memory) : Prop :=
  ∀ address, after address = before address ∨
    address ∈ elements ∧ elementLength after address = elementLength before address

/-- What is changed on the way in is changed back on the way out, and both ways change only identifiers of elements. -/
def Restores (processor : RtpExtensionProcessor) (type : PacketType) (data : Memory) (elements : List ℕ) : Prop :=
  ∃ parsed delivered, processor.parseIncomingExtensionId type data = some parsed ∧
    processor.changeDeliverExtensionId type data = some delivered ∧
    processor.changeDeliverExtensionId type parsed = some data ∧ ChangesIds elements data parsed ∧
    ChangesIds elements data delivered ∧ ChangesIds elements parsed data

/-- No extension has two identifiers. -/
def InjectiveMap (extMap : ExtensionMap) : Prop :=
  ∀ first second : ℕ, ∀ extension ≠ .unknown, extMap[first]? = some extension → extMap[second]? = some extension →
    first = second

/-- An identifier comes back from its way in and out: it is an index of the map, and if it has no extension there, then it
is not the number of one that has an identifier. -/
def Reversible (extMap : ExtensionMap) (id : ℕ) : Prop :=
  id ≠ 0 → id < 15 ∧ (extMap[id]? = some .unknown →
    ∀ other extension, 1 ≤ other → extMap[other]? = some extension → extension.value ≠ id)

/-- An identifier is not changed: the extension that has it has it as its number. -/
def Fixed (extMap : ExtensionMap) (id : ℕ) : Prop :=
  id ≠ 0 → ∀ extension ≠ .unknown, extMap[id]? = some extension → extension.value = id

/-- The loops come to nothing that they spoil: without contributing sources they come to the elements, else to what
happens to be where a block without sources would be. -/
def Survives (processor : RtpExtensionProcessor) (type : PacketType) (data : Memory) (elements : List ℕ) : Prop :=
  RtcpHeader.isRtcp data 0 = true ∨ ∀ extMap, processor.extensionMap type = some extMap →
    (getCc data = 0 → ∀ element ∈ elements, Reversible extMap (elementId data element)) ∧
    (getCc data ≠ 0 → getExtId data = 0xBEDE → ∀ header ∈ visited data, header < DataPacket.capacity ∧
      Reversible extMap (elementId data header) ∧ (header ∈ elements ∨ Fixed extMap (elementId data header)))

/-! ### Labels -/

/-- A header byte with another identifier. -/
def relabel (label : ℕ → ℕ) (byte : UInt8) : UInt8 := UInt8.ofNat (label (byte.toNat / 16) * 16 + byte.toNat % 16)

/-- The identifiers at some headers are changed. -/
def relabelAll (label : ℕ → ℕ) (headers : List ℕ) (data : Memory) : Memory := fun address =>
  if address ∈ headers then relabel label (data address) else data address

/-- The identifier on the way in. -/
def parseLabel (extMap : ExtensionMap) (id : ℕ) : ℕ :=
  if id = 0 then id
  else
    match extMap[id]? with
    | none => id
    | some extension => if extension = .unknown then id else extension.value

/-- The identifier on the way out. -/
def deliverLabel (extMap : ExtensionMap) (id : ℕ) : ℕ :=
  if id = 0 then id
  else (((List.range' 1 14).filter fun i => extMap[i]?.map RTPExtensions.value = some id).getLast?).getD id

section Labels

variable {label : ℕ → ℕ} {byte : UInt8}

theorem toNat_relabel (small : label (byte.toNat / 16) < 16) :
    (relabel label byte).toNat = label (byte.toNat / 16) * 16 + byte.toNat % 16 :=
  UInt8.toNat_ofNat_of_lt' (by show _ < 256; omega)

theorem relabel_eq_self_iff (small : label (byte.toNat / 16) < 16) :
    relabel label byte = byte ↔ label (byte.toNat / 16) = byte.toNat / 16 := by
  rw [← UInt8.toNat_inj, toNat_relabel small]
  omega

/-- Two labels, one after the other. -/
theorem relabel_relabel {after : ℕ → ℕ} (small : label (byte.toNat / 16) < 16) :
    relabel after (relabel label byte) = relabel (fun id => after (label id)) byte := by
  have here := toNat_relabel small
  have id : (relabel label byte).toNat / 16 = label (byte.toNat / 16) := by omega
  have length : (relabel label byte).toNat % 16 = byte.toNat % 16 := by omega
  rw [relabel, id, length, relabel]

theorem elementLength_relabelAll (small : ∀ id, id < 16 → label id < 16) (headers : List ℕ) (data : Memory)
    (address : ℕ) : elementLength (relabelAll label headers data) address = elementLength data address := by
  unfold elementLength relabelAll
  split
  · have byte := (data address).toNat_lt
    rw [toNat_relabel (small _ (by omega))]
    omega
  · rfl

theorem value_lt (extension : RTPExtensions) : extension.value < 8 := by cases extension <;> decide

theorem value_injective : Function.Injective RTPExtensions.value := by
  intro first second same
  cases first <;> cases second <;> first | rfl | exact absurd same (by decide)

theorem parseLabel_lt (extMap : ExtensionMap) (id : ℕ) (small : id < 16) : parseLabel extMap id < 16 := by
  unfold parseLabel
  split
  · exact small
  · split
    · exact small
    · next extension _ =>
        have brief := value_lt extension
        split <;> omega

theorem getLast?_filter_lt {indices : List ℕ} (below : ∀ i ∈ indices, i < 16) (matched : ℕ → Bool) {id : ℕ}
    (small : id < 16) : ((indices.filter matched).getLast?).getD id < 16 := by
  cases last : (indices.filter matched).getLast? with
  | none => exact small
  | some i => exact below i (List.mem_of_mem_filter (List.mem_of_getLast? last))

theorem range'_lt : ∀ i ∈ List.range' 1 14, i < 16 := by decide

theorem deliverLabel_lt (extMap : ExtensionMap) (id : ℕ) (small : id < 16) : deliverLabel extMap id < 16 := by
  unfold deliverLabel
  split
  · exact small
  · exact getLast?_filter_lt range'_lt _ small

variable {extMap : ExtensionMap} {id : ℕ}

theorem lt_of_getElem? {extension : RTPExtensions} (here : extMap[id]? = some extension) : id < 15 := by
  by_contra outside
  rw [Vector.getElem?_eq_none (Nat.not_lt.mp outside)] at here
  exact (nomatch here)

/-- **An extension that a map has is found again** under the number that stands for it on the way out, whichever of its
identifiers that is. -/
theorem getElem?_deliverLabel {index : ℕ} {extension : RTPExtensions} (positive : 1 ≤ index)
    (here : extMap[index]? = some extension) (known : extension ≠ .unknown) :
    extMap[deliverLabel extMap extension.value]? = some extension := by
  have nonzero : extension.value ≠ 0 := fun zero => known (value_injective zero)
  have found : index ∈ (List.range' 1 14).filter fun i => extMap[i]?.map RTPExtensions.value = some extension.value := by
    have below := lt_of_getElem? here
    rw [List.mem_filter, List.mem_range'_1]
    exact ⟨by omega, decide_eq_true (by rw [here]; rfl)⟩
  unfold deliverLabel
  rw [if_neg nonzero]
  cases last : ((List.range' 1 14).filter fun i =>
      extMap[i]?.map RTPExtensions.value = some extension.value).getLast? with
  | none => exact absurd found (List.getLast?_eq_none_iff.mp last ▸ List.not_mem_nil)
  | some other =>
      have same := of_decide_eq_true (List.mem_filter.mp (List.mem_of_getLast? last)).2
      obtain ⟨mapped, there, value⟩ := Option.map_eq_some_iff.mp same
      obtain rfl := value_injective value
      exact there

theorem deliverLabel_of_mem (injective : InjectiveMap extMap) {index : ℕ} {extension : RTPExtensions}
    (positive : 1 ≤ index) (here : extMap[index]? = some extension) (known : extension ≠ .unknown) :
    deliverLabel extMap extension.value = index :=
  injective _ index extension known (getElem?_deliverLabel positive here known) here

theorem deliverLabel_of_forall
    (none : ∀ other extension, 1 ≤ other → extMap[other]? = some extension → extension.value ≠ id) :
    deliverLabel extMap id = id := by
  have empty : (List.range' 1 14).filter (fun i => extMap[i]?.map RTPExtensions.value = some id) = [] := by
    refine List.filter_eq_nil_iff.mpr fun i member found => ?_
    obtain ⟨extension, here, value⟩ := Option.map_eq_some_iff.mp (of_decide_eq_true found)
    exact none i extension (List.mem_range'_1.mp member).1 here value
  unfold deliverLabel
  rw [empty]
  exact ite_self id

theorem parseLabel_of_known {extension : RTPExtensions} (positive : id ≠ 0) (here : extMap[id]? = some extension)
    (known : extension ≠ .unknown) : parseLabel extMap id = extension.value := by
  rw [parseLabel, if_neg positive, here]
  exact if_neg known

theorem parseLabel_of_unknown (here : extMap[id]? = some .unknown) : parseLabel extMap id = id := by
  rw [parseLabel, here]
  exact ite_self id

/-- **There and back**, an identifier is the same if no other extension in use has it as its number. -/
theorem deliverLabel_parseLabel_iff (injective : InjectiveMap extMap) (small : id < 15) :
    deliverLabel extMap (parseLabel extMap id) = id ↔ Reversible extMap id := by
  obtain ⟨extension, here⟩ : ∃ extension, extMap[id]? = some extension := ⟨_, Vector.getElem?_eq_getElem small⟩
  by_cases zero : id = 0
  · subst zero
    exact iff_of_true rfl fun positive => absurd rfl positive
  · by_cases known : extension = .unknown
    · subst known
      rw [parseLabel_of_unknown here]
      constructor
      · refine fun same _ => ⟨small, fun _ other mapped after there value => ?_⟩
        have used : mapped ≠ .unknown := fun unknown => zero (by rw [← value, unknown]; rfl)
        have label := deliverLabel_of_mem injective after there used
        rw [value, same] at label
        rw [← label, here] at there
        exact used (Option.some.inj there).symm
      · exact fun reversible => deliverLabel_of_forall ((reversible zero).2 here)
    · rw [parseLabel_of_known zero here known, deliverLabel_of_mem injective (Nat.pos_of_ne_zero zero) here known]
      exact iff_of_true rfl fun _ =>
        ⟨small, fun unknown => absurd (Option.some.inj (here.symm.trans unknown)) known⟩

theorem parseLabel_eq_self_iff (small : id < 15) : parseLabel extMap id = id ↔ Fixed extMap id := by
  obtain ⟨extension, here⟩ : ∃ extension, extMap[id]? = some extension := ⟨_, Vector.getElem?_eq_getElem small⟩
  by_cases zero : id = 0
  · subst zero
    exact iff_of_true rfl fun positive => absurd rfl positive
  · by_cases known : extension = .unknown
    · subst known
      refine iff_of_true (parseLabel_of_unknown here) fun _ extension used there => ?_
      exact absurd (Option.some.inj (there.symm.trans here)) used
    · rw [parseLabel_of_known zero here known]
      constructor
      · exact fun same _ other _ there => Option.some.inj (here.symm.trans there) ▸ same
      · exact fun fixed => fixed zero extension known here

end Labels

/-! ### Calls -/

section Calls

variable {extMap : ExtensionMap} {data : Memory} {header : ℕ}

/-- The masks of the source. -/
theorem setElementId_eq {id : ℕ} (small : id < 16) :
    setElementId data header id =
      Function.update data header (UInt8.ofNat (id * 16 + (data header).toNat % 16)) := by
  have masks : ∀ byte : Fin 256, ∀ id : Fin 16, (UInt8.ofNat byte ||| 0xF0) &&&
    ((UInt8.ofNat id <<< (4 : UInt8)) ||| 0x0F) =
      UInt8.ofNat (id * 16 + byte % 16) := by decide +kernel
  have here := masks ⟨(data header).toNat, (data header).toNat_lt⟩ ⟨id, small⟩
  rw [UInt8.ofNat_toNat] at here
  unfold setElementId
  rw [here]
  funext address
  by_cases same : address = header
  · subst same
    rw [Function.update_self]
    simp [copy]
  · rw [Function.update_of_ne same]
    rcases Nat.lt_or_gt_of_ne same with before | after
    · exact copy_of_lt data _ before
    · exact copy_of_le data _ after

/-- What one call does. -/
def relabelAt (label : ℕ → ℕ) (header : ℕ) (data : Memory) : Memory :=
  Function.update data header (relabel label (data header))

theorem relabelAt_of_eq {label : ℕ → ℕ} (same : label (elementId data header) = elementId data header)
    (small : elementId data header < 16) : relabelAt label header data = data := by
  rw [relabelAt, (relabel_eq_self_iff (by rw [elementId] at same small; omega)).mpr same, Function.update_eq_self]

theorem parseExtension_eq (small : elementId data header ≠ 15) :
    parseExtension extMap header data = some (relabelAt (parseLabel extMap) header data) := by
  have below := elementId_lt data header
  unfold parseExtension
  dsimp only
  by_cases zero : elementId data header = 0
  · rw [if_pos zero, relabelAt_of_eq (by rw [zero]; rfl) below]
  · obtain ⟨extension, here⟩ : ∃ extension, extMap[elementId data header]? = some extension :=
      ⟨_, Vector.getElem?_eq_getElem (by omega)⟩
    rw [if_neg zero, here]
    dsimp only
    by_cases known : extension = .unknown
    · rw [if_pos known, relabelAt_of_eq (parseLabel_of_unknown (known ▸ here)) below]
    · rw [if_neg known, setElementId_eq (lt_trans (value_lt extension) (by decide)), ← parseLabel_of_known zero here known]
      rfl

theorem parseExtension_outside (outside : elementId data header = 15) : parseExtension extMap header data = none := by
  unfold parseExtension
  simp only [outside]
  rfl

theorem relabelAt_congr {first second : ℕ → ℕ} (same : first (elementId data header) = second (elementId data header)) :
    relabelAt first header data = relabelAt second header data := by
  rw [elementId] at same
  rw [relabelAt, relabelAt, relabel, relabel, same]

/-- A label that is written over another one. -/
theorem setElementId_relabelAt {label : ℕ → ℕ} (brief : label (elementId data header) < 16) {id : ℕ} (small : id < 16) :
    setElementId (relabelAt label header data) header id = relabelAt (fun _ => id) header data := by
  rw [elementId] at brief
  rw [setElementId_eq small, relabelAt, Function.update_self, Function.update_idem, toNat_relabel brief]
  have length : (label ((data header).toNat / 16) * 16 + (data header).toNat % 16) % 16 = (data header).toNat % 16 := by
    omega
  rw [length]
  rfl

/-- The identifier is written at each index that matches, and the last one stays. -/
theorem foldl_setElementId (matched : ℕ → Prop) [DecidablePred matched] (indices : List ℕ)
    (below : ∀ i ∈ indices, i < 16) :
    indices.foldl (fun data i => if matched i then setElementId data header i else data) data =
      relabelAt (fun id => ((indices.filter fun i => matched i).getLast?).getD id) header data := by
  induction indices using List.reverseRecOn with
  | nil => exact (relabelAt_of_eq rfl (elementId_lt data header)).symm
  | append_singleton indices i ih =>
      obtain ⟨before, here⟩ := List.forall_mem_append.mp below
      rw [List.foldl_concat, ih before, List.filter_append]
      by_cases found : matched i
      · have kept : [i].filter (fun i => matched i) = [i] := by simp [found]
        rw [if_pos found, setElementId_relabelAt (getLast?_filter_lt before _ (elementId_lt data header))
          (here i List.mem_cons_self), kept]
        simp only [List.getLast?_concat, Option.getD_some]
      · have dropped : [i].filter (fun i => matched i) = [] := by simp [found]
        rw [if_neg found, dropped, List.append_nil]

theorem deliverExtension_eq (extMap : ExtensionMap) (data : Memory) (header : ℕ) :
    deliverExtension extMap header data = some (relabelAt (deliverLabel extMap) header data) := by
  unfold deliverExtension
  dsimp only
  by_cases zero : elementId data header = 0
  · rw [if_neg (not_not.mpr zero), relabelAt_of_eq (by rw [zero]; rfl) (elementId_lt data header)]
  · rw [if_pos zero, foldl_setElementId _ _ range'_lt]
    exact congrArg some (relabelAt_congr (if_neg zero).symm)

/-- A call keeps what is behind the header. -/
theorem agrees_relabelAt {memory : Memory} {label : ℕ → ℕ} (agrees : Agrees data header memory) :
    Agrees data (header + elementSize data header) (relabelAt label header memory) := by
  intro address after
  have long := two_le_elementSize data header
  rw [relabelAt, Function.update_of_ne (by omega)]
  exact agrees address (by omega)

end Calls

/-! ### Loops -/

section Loops

variable {data : Memory} {label : ℕ → ℕ}

theorem le_of_mem_visited : ∀ header ∈ visited data, 16 ≤ header := fun header member =>
  (mem_headersFrom header member).1

theorem nodup_visited (data : Memory) : (visited data).Nodup := by
  refine (pairwise_headersFrom _ _).imp fun {first second} after => ?_
  have long := two_le_elementSize data first
  omega

/-- Calls at different headers do not see one another. -/
theorem foldl_relabelAt : ∀ {headers : List ℕ} (data : Memory), headers.Nodup →
    headers.foldl (fun memory header => relabelAt label header memory) data = relabelAll label headers data
  | [], _, _ => rfl
  | header :: headers, data, distinct => by
      obtain ⟨new, rest⟩ := List.nodup_cons.mp distinct
      rw [List.foldl_cons, foldl_relabelAt _ rest]
      funext address
      unfold relabelAll relabelAt
      by_cases same : address = header
      · subst same
        rw [if_neg new, if_pos List.mem_cons_self, Function.update_self]
      · simp only [Function.update_of_ne same, List.mem_cons, same, false_or]

theorem relabelAll_of_lt {address : ℕ} (before : address < 16) :
    relabelAll label (visited data) data address = data address :=
  if_neg fun member => absurd (le_of_mem_visited address member) (Nat.not_le.mpr before)

/-- Both loops come to the same headers. -/
theorem visited_relabelAll (small : ∀ id, id < 16 → label id < 16) :
    visited (relabelAll label (visited data) data) = visited data := by
  have total : getExtLength (relabelAll label (visited data) data) = getExtLength data :=
    read16_congr fun address _ before => relabelAll_of_lt (by omega)
  unfold visited at total ⊢
  rw [total]
  refine headersFrom_congr fun header _ => ?_
  rw [elementSize, elementLength_relabelAll small, elementSize]

/-- **A loop** relabels the headers. -/
theorem forEachExtension_eq_relabelAll {change : ℕ → Memory → Option Memory} (profile : getExtId data = 0xBEDE)
    (calls : ∀ header ∈ visited data, header < DataPacket.capacity ∧ ∀ memory, Agrees data header memory →
      change header memory = some (relabelAt label header memory)) :
    forEachExtension id change data = some (relabelAll label (visited data) data) := by
  have same : id data = data := rfl
  rw [forEachExtension_eq_foldl same (relabelAt label) profile, foldl_relabelAt data (nodup_visited data)]
  intro header member
  obtain ⟨within, call⟩ := calls header member
  exact ⟨within, fun memory agrees => ⟨call memory agrees, agrees_relabelAt agrees⟩⟩

/-- A loop changes identifiers of elements only, if it comes to elements, and to headers that it does not change. -/
theorem changesIds_relabelAll_iff (small : ∀ id, id < 16 → label id < 16) (headers elements : List ℕ) :
    ChangesIds elements data (relabelAll label headers data) ↔
      ∀ header ∈ headers, header ∈ elements ∨ label (elementId data header) = elementId data header := by
  have self := fun header => relabel_eq_self_iff (small (elementId data header) (elementId_lt data header))
  constructor
  · intro changes header member
    rcases changes header with same | ⟨inside, _⟩
    · exact Or.inr ((self header).mp ((if_pos member).symm.trans same))
    · exact Or.inl inside
  · intro kept address
    by_cases member : address ∈ headers
    · rcases kept address member with inside | same
      · exact Or.inr ⟨inside, elementLength_relabelAll small headers data address⟩
      · exact Or.inl ((if_pos member).trans ((self address).mpr same))
    · exact Or.inl (if_neg member)

theorem ChangesIds.refl (elements : List ℕ) (data : Memory) : ChangesIds elements data data := fun _ => Or.inl rfl

theorem ChangesIds.symm {elements : List ℕ} {before after : Memory} (changes : ChangesIds elements before after) :
    ChangesIds elements after before := fun address =>
  (changes address).imp Eq.symm fun both => ⟨both.1, both.2.symm⟩

end Loops

/-! ### Packets -/

section Packets

variable {processor : RtpExtensionProcessor} {type : PacketType} {data : Memory} {elements : List ℕ}
  {extMap : ExtensionMap} {change : ExtensionMap → ℕ → Memory → Option Memory}

theorem changeExtensionIds_of_isRtcp (rtcp : RtcpHeader.isRtcp data 0 = true) :
    processor.changeExtensionIds change type data = some data := if_pos rtcp

theorem changeExtensionIds_of_none (extended : getExtension data = 1) (none : processor.extensionMap type = none) :
    processor.changeExtensionIds change type data = some data := by
  unfold changeExtensionIds
  rw [none, if_pos extended]
  exact ite_self (some data)

theorem changeExtensionIds_eq (plain : ¬RtcpHeader.isRtcp data 0 = true) (extended : getExtension data = 1)
    (map : processor.extensionMap type = some extMap) :
    processor.changeExtensionIds change type data = forEachExtension id (change extMap) data := by
  unfold changeExtensionIds
  rw [if_neg plain, if_pos extended, map]

/-- A packet that both ways leave alone is restored. -/
theorem restores_of_unchanged (same : ∀ change, processor.changeExtensionIds change type data = some data) :
    Restores processor type data elements :=
  ⟨data, data, same _, same _, same _, ChangesIds.refl _ _, ChangesIds.refl _ _, ChangesIds.refl _ _⟩

/-- A label that is there and back the same. -/
theorem reversible_iff (injective : InjectiveMap extMap) {id : ℕ} (small : id < 16) :
    Reversible extMap id ↔ id ≠ 15 ∧ deliverLabel extMap (parseLabel extMap id) = id := by
  by_cases outside : id = 15
  · exact iff_of_false (fun reversible => absurd (reversible (by omega)).1 (by omega)) fun both => both.1 outside
  · rw [deliverLabel_parseLabel_iff injective (by omega), and_iff_right outside]

/-- A way in that comes to an end has not come to the identifier 15. -/
theorem good_of_parse {parsed : Memory} (profile : getExtId data = 0xBEDE)
    (here : forEachExtension id (parseExtension extMap) data = some parsed) :
    ∀ header ∈ visited data, header < DataPacket.capacity ∧ elementId data header ≠ 15 := by
  have same : id data = data := rfl
  refine good_of_forEachExtension same (fun _ => True) profile (fun _ _ _ _ _ => trivial)
    (fun header before after agrees called _ => ?_) here trivial
  replace agrees : Agrees data header before := agrees
  have inside : elementId data header ≠ 15 := fun outside => by
    rw [parseExtension_outside (agrees.elementId.trans outside)] at called
    exact (nomatch called)
  rw [parseExtension_eq (by rw [agrees.elementId]; exact inside)] at called
  exact ⟨inside, Option.some.inj called ▸ agrees_relabelAt agrees⟩

/-- The way in. -/
theorem parse_eq (profile : getExtId data = 0xBEDE)
    (good : ∀ header ∈ visited data, header < DataPacket.capacity ∧ elementId data header ≠ 15) :
    forEachExtension id (parseExtension extMap) data =
      some (relabelAll (parseLabel extMap) (visited data) data) :=
  forEachExtension_eq_relabelAll profile fun header member => ⟨(good header member).1, fun memory agrees =>
    parseExtension_eq (by rw [agrees.elementId]; exact (good header member).2)⟩

/-- The way out. -/
theorem deliver_eq (profile : getExtId data = 0xBEDE) (within : ∀ header ∈ visited data, header < DataPacket.capacity) :
    forEachExtension id (deliverExtension extMap) data =
      some (relabelAll (deliverLabel extMap) (visited data) data) :=
  forEachExtension_eq_relabelAll profile fun header member => ⟨within header member, fun memory _ =>
    deliverExtension_eq extMap memory header⟩

/-- **There and back**, in a packet. -/
theorem relabelAll_relabelAll_iff :
    relabelAll (deliverLabel extMap) (visited data) (relabelAll (parseLabel extMap) (visited data) data) = data ↔
      ∀ header ∈ visited data, deliverLabel extMap (parseLabel extMap (elementId data header)) = elementId data header := by
  have brief := fun header => parseLabel_lt extMap _ (elementId_lt data header)
  have twice : ∀ header ∈ visited data,
      relabelAll (deliverLabel extMap) (visited data) (relabelAll (parseLabel extMap) (visited data) data) header =
        relabel (fun id => deliverLabel extMap (parseLabel extMap id)) (data header) := by
    intro header member
    unfold relabelAll
    rw [if_pos member, if_pos member, relabel_relabel (brief header)]
  have self : ∀ header, relabel (fun id => deliverLabel extMap (parseLabel extMap id)) (data header) = data header ↔ _ :=
    fun header => relabel_eq_self_iff (deliverLabel_lt extMap _ (brief header))
  constructor
  · intro same header member
    exact (self header).mp ((twice header member).symm.trans (congrFun same header))
  · intro kept
    funext header
    by_cases member : header ∈ visited data
    · rw [twice header member]
      exact (self header).mpr (kept header member)
    · exact (if_neg member).trans (if_neg member)

/-- **A packet that both loops go over** is restored if and only if each header that they come to has an identifier that
comes back, and is an element's or is not changed. -/
theorem restores_iff_visited (plain : ¬RtcpHeader.isRtcp data 0 = true) (extended : getExtension data = 1)
    (map : processor.extensionMap type = some extMap) (profile : getExtId data = 0xBEDE)
    (injective : InjectiveMap extMap) :
    Restores processor type data elements ↔ ∀ header ∈ visited data, header < DataPacket.capacity ∧
      Reversible extMap (elementId data header) ∧ (header ∈ elements ∨ Fixed extMap (elementId data header)) := by
  have parseSmall := parseLabel_lt extMap
  have deliverSmall := deliverLabel_lt extMap
  have head : ∀ address, address < 16 → relabelAll (parseLabel extMap) (visited data) data address = data address :=
    fun address before => relabelAll_of_lt before
  have plainAfter : ¬RtcpHeader.isRtcp (relabelAll (parseLabel extMap) (visited data) data) 0 = true := by
    rwa [RtcpHeader.isRtcp, RtcpHeader.getPacketType, head _ (by decide)]
  have extendedAfter : getExtension (relabelAll (parseLabel extMap) (visited data) data) = 1 := by
    rwa [getExtension, head _ (by decide)]
  have profileAfter : getExtId (relabelAll (parseLabel extMap) (visited data) data) = 0xBEDE :=
    (read16_congr fun address _ before => head address (by omega)).trans profile
  have seenAfter : visited (relabelAll (parseLabel extMap) (visited data) data) = visited data :=
    visited_relabelAll parseSmall
  unfold Restores parseIncomingExtensionId changeDeliverExtensionId
  rw [changeExtensionIds_eq plain extended map, changeExtensionIds_eq plain extended map]
  have after := @deliver_eq (relabelAll (parseLabel extMap) (visited data) data) extMap profileAfter
  rw [seenAfter] at after
  constructor
  · rintro ⟨parsed, delivered, parse, _, back, changes, _, _⟩
    have good := good_of_parse profile parse
    obtain rfl := Option.some.inj ((parse_eq profile good).symm.trans parse)
    rw [changeExtensionIds_eq plainAfter extendedAfter map, after fun header member => (good header member).1] at back
    have same := relabelAll_relabelAll_iff.mp (Option.some.inj back)
    have kept := (changesIds_relabelAll_iff parseSmall _ _).mp changes
    intro header member
    obtain ⟨within, inside⟩ := good header member
    have small := elementId_lt data header
    exact ⟨within, (reversible_iff injective small).mpr ⟨inside, same header member⟩,
      (kept header member).imp_right (parseLabel_eq_self_iff (by omega)).mp⟩
  · intro comes
    have back := fun header member => (reversible_iff injective (elementId_lt data header)).mp (comes header member).2.1
    have good : ∀ header ∈ visited data, header < DataPacket.capacity ∧ elementId data header ≠ 15 :=
      fun header member => ⟨(comes header member).1, (back header member).1⟩
    have within := fun header member => (good header member).1
    have fixed : ∀ header ∈ visited data,
        header ∈ elements ∨ parseLabel extMap (elementId data header) = elementId data header := fun header member => by
      have small := elementId_lt data header
      have inside := (good header member).2
      exact (comes header member).2.2.imp_right (parseLabel_eq_self_iff (by omega)).mpr
    have changes := (changesIds_relabelAll_iff parseSmall (visited data) elements).mpr fixed
    refine ⟨_, _, parse_eq profile good, deliver_eq profile within, ?_, changes,
      (changesIds_relabelAll_iff deliverSmall (visited data) elements).mpr fun header member => ?_, changes.symm⟩
    · rw [changeExtensionIds_eq plainAfter extendedAfter map, after within]
      exact congrArg some (relabelAll_relabelAll_iff.mpr fun header member => (back header member).2)
    · refine (fixed header member).imp_right fun same => ?_
      have both := (back header member).2
      rwa [same] at both

/-- Without padding and without contributing sources, the loops come to the elements. -/
theorem visited_eq_elements {p : DataPacket} (block : OneByteBlock p elements) (alone : getCc p.data = 0)
    (full : blockStart p.data + (elements.map (elementSize p.data)).sum = blockStop p.data) :
    visited p.data = elements := by
  have parses := block.parses
  rw [blockStop_of_getCc alone, blockStart_of_getCc alone] at parses full
  exact headersFrom_of_full (two_le_elementSize p.data) parses full le_rfl

end Packets

/-- **There and back**: the identifiers of a block without padding are restored, and nothing but identifiers of elements
changes, if and only if the loops come to nothing that they spoil. -/
theorem restores_iff (processor : RtpExtensionProcessor) (type : PacketType) (p : DataPacket) (elements : List ℕ)
    (block : OneByteBlock p elements)
    (full : blockStart p.data + (elements.map (elementSize p.data)).sum = blockStop p.data)
    (injective : ∀ extMap, processor.extensionMap type = some extMap → InjectiveMap extMap) :
    Restores processor type p.data elements ↔ Survives processor type p.data elements := by
  unfold Survives
  by_cases plain : RtcpHeader.isRtcp p.data 0 = true
  · exact iff_of_true (restores_of_unchanged fun change => changeExtensionIds_of_isRtcp plain) (Or.inl plain)
  · rw [or_iff_right plain]
    cases map : processor.extensionMap type with
    | none =>
        refine iff_of_true (restores_of_unchanged fun change => changeExtensionIds_of_none block.extended map) ?_
        exact fun _ absent => (nomatch absent)
    | some extMap =>
        have known : ∀ {holds : ExtensionMap → Prop}, (∀ other, some extMap = some other → holds other) ↔ holds extMap :=
          ⟨fun all => all extMap rfl, fun here other same => Option.some.inj same ▸ here⟩
        rw [known]
        by_cases profile : getExtId p.data = 0xBEDE
        · rw [restores_iff_visited plain block.extended map profile (injective extMap map)]
          by_cases alone : getCc p.data = 0
          · rw [visited_eq_elements block alone full]
            constructor
            · exact fun comes => ⟨fun _ element member => (comes element member).2.1, fun sources => absurd alone sources⟩
            · intro comes element member
              have within := block.mem_visited alone element (by rwa [visited_eq_elements block alone full])
              exact ⟨within.2.2, comes.1 alone element member, Or.inl member⟩
          · exact ⟨fun comes => ⟨fun sources => absurd sources alone, fun _ _ => comes⟩, fun comes => comes.2 alone profile⟩
        · refine iff_of_true (restores_of_unchanged fun change => ?_)
            ⟨fun alone => absurd (block.getExtId alone) profile, fun _ here => absurd here profile⟩
          rw [changeExtensionIds_eq plain block.extended map]
          exact forEachExtension_of_ne profile

/-! ### One identifier -/

/-- A processor whose only video extension is the time, under the identifier 3. -/
def timeProcessor : RtpExtensionProcessor :=
  { create [] with extMapVideo := (Vector.replicate 15 .unknown).setIfInBounds 3 .absSendTime }

theorem getElem?_timeProcessor {id : ℕ} {extension : RTPExtensions} (known : extension ≠ .unknown)
    (here : timeProcessor.extMapVideo[id]? = some extension) : id = 3 := by
  by_contra other
  have small := lt_of_getElem? here
  rw [timeProcessor, Vector.getElem?_setIfInBounds, if_neg (Ne.symm other),
    Vector.getElem?_eq_getElem small, Vector.getElem_replicate] at here
  exact known (Option.some.inj here).symm

theorem injectiveMap_timeProcessor : ∀ extMap, timeProcessor.extensionMap .video = some extMap → InjectiveMap extMap := by
  rintro extMap ⟨rfl⟩ first second extension known here there
  rw [getElem?_timeProcessor known here, getElem?_timeProcessor known there]

/-- The time and an element with an identifier that has no mapping. -/
def timedAndUnmapped : DataPacket := extendedPacket [0x32, 0, 0, 0, 0x72, 0, 0, 0]

/-- The identifiers of both come back. -/
theorem restores_iff_timedAndUnmapped : Restores timeProcessor .video timedAndUnmapped.data [16, 20] := by
  have block : OneByteBlock timedAndUnmapped [16, 20] :=
    ⟨by decide, by decide, by decide, by decide,
      .element (by decide) (by decide) <| .element (by decide) (by decide) .done⟩
  refine (restores_iff timeProcessor .video _ _ block (by decide) injectiveMap_timeProcessor).mpr (Or.inr ?_)
  rintro extMap ⟨rfl⟩
  refine ⟨fun _ => List.forall_mem_cons.mpr ⟨fun _ => ⟨by decide, fun unknown => ?_⟩,
    List.forall_mem_singleton.mpr fun _ => ⟨by decide, fun _ other extension _ found => ?_⟩⟩,
    fun sources => absurd rfl sources⟩
  · exact absurd unknown (by decide)
  · by_cases known : extension = .unknown
    · rw [known]
      decide
    · obtain rfl := getElem?_timeProcessor known found
      obtain rfl : RTPExtensions.absSendTime = extension :=
        Option.some.inj ((by decide : timeProcessor.extMapVideo[3]? = some .absSendTime).symm.trans found)
      decide

/-- An element with the identifier 2, which has no extension: on the way out it is taken for the time, whose number is 2,
and comes back as 3. -/
theorem not_restores_unmapped : OneByteBlock (extendedPacket [0x22, 0, 0, 0]) [16] ∧
    blockStart (extendedPacket [0x22, 0, 0, 0]).data +
      ([16].map (elementSize (extendedPacket [0x22, 0, 0, 0]).data)).sum =
        blockStop (extendedPacket [0x22, 0, 0, 0]).data ∧
    (∀ extMap, timeProcessor.extensionMap .video = some extMap → InjectiveMap extMap) ∧
    ¬Restores timeProcessor .video (extendedPacket [0x22, 0, 0, 0]).data [16] := by
  refine ⟨block_timed, by decide, injectiveMap_timeProcessor, fun restores => ?_⟩
  have comes := (restores_iff_visited (by decide) block_timed.extended rfl block_timed.profile
    (injectiveMap_timeProcessor _ rfl)).mp restores
  rw [visited_eq_elements block_timed rfl (by decide)] at comes
  have reversible := (comes 16 List.mem_cons_self).2.1 (by decide)
  exact reversible.2 (by decide) 3 .absSendTime (by decide) (by decide) (by decide)

end RtpExtensionProcessor

end Erizo
