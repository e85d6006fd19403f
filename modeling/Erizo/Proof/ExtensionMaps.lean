/-
**The extension maps that descriptions build.**

An entry of a map is the extension of the last line with its identifier (`negotiated`, `extensionMap_of_buildMaps`). The
maps are built, without a write behind an array, exactly if all identifiers that are used are less than 15
(`isSome_buildMaps`).
-/

import Erizo.Model.RtpExtensionProcessor

namespace Erizo

namespace RtpExtensionProcessor

/-- The processor after some descriptions. -/
def buildMaps (extMappings : List ExtMap) (descriptions : List (List ExtMap)) : Option RtpExtensionProcessor :=
  descriptions.foldlM setSdpInfo (create extMappings)

/-- A line that is put into the map of a medium. -/
def isUsed (extMappings : List ExtMap) (mediaType : MediaType) (line : ExtMap) : Bool :=
  (create extMappings).isValidExtension line.uri && line.mediaType = mediaType

/-- The extension that an identifier of a medium has by the last line for it. -/
def negotiated (extMappings lines : List ExtMap) (mediaType : MediaType) (id : ℕ) : RTPExtensions :=
  ((lines.filter fun line => isUsed extMappings mediaType line && line.value.toNat = id).getLast?.bind
    fun line => translate line.uri).getD .unknown

/-- The medium of the packets of a type. -/
def mediaOf : PacketType → MediaType
  | .video => .video
  | .audio => .audio
  | .other => .other

/-- All identifiers that are used fit in the maps. -/
def Fits (extMappings lines : List ExtMap) : Prop :=
  ∀ line ∈ lines, line.mediaType ≠ .other → isUsed extMappings line.mediaType line = true → line.value.toNat < 15

/-- A map has the entries that were negotiated. -/
def Holds (extMappings lines : List ExtMap) (mediaType : MediaType) (extMap : ExtensionMap) : Prop :=
  ∀ id, id < 15 → extMap[id]? = some (negotiated extMappings lines mediaType id)

/-- The maps of a processor have the entries that were negotiated. -/
structure Knows (extMappings lines : List ExtMap) (processor : RtpExtensionProcessor) : Prop where
  mappings : processor.extMappings = extMappings
  video : Holds extMappings lines .video processor.extMapVideo
  audio : Holds extMappings lines .audio processor.extMapAudio

variable {extMappings lines : List ExtMap} {line : ExtMap} {processor next : RtpExtensionProcessor}

theorem isUsed_eq (known : processor.extMappings = extMappings) (mediaType : MediaType) (line : ExtMap) :
    isUsed extMappings mediaType line = (processor.isValidExtension line.uri && line.mediaType = mediaType) := by
  rw [isUsed, isValidExtension, isValidExtension, known, create]

/-! ### One line more -/

theorem negotiated_concat (mediaType : MediaType) (id : ℕ) :
    negotiated extMappings (lines ++ [line]) mediaType id =
      if isUsed extMappings mediaType line = true ∧ line.value.toNat = id then (translate line.uri).getD .unknown
      else negotiated extMappings lines mediaType id := by
  unfold negotiated
  rw [List.filter_append]
  split
  · next here =>
      have kept : (isUsed extMappings mediaType line && line.value.toNat = id) = true := by simpa using here
      rw [List.filter_cons, if_pos kept, List.filter_nil, List.getLast?_concat, Option.bind_some]
  · next other =>
      have dropped : ¬(isUsed extMappings mediaType line && line.value.toNat = id) = true := by simpa using other
      rw [List.filter_cons, if_neg dropped, List.filter_nil, List.append_nil]

theorem holds_concat_of_other {mediaType : MediaType} {extMap : ExtensionMap}
    (holds : Holds extMappings lines mediaType extMap) (other : isUsed extMappings mediaType line = false) :
    Holds extMappings (lines ++ [line]) mediaType extMap := by
  intro id small
  rw [negotiated_concat, if_neg fun used => by rw [other] at used; exact Bool.false_ne_true used.1]
  exact holds id small

theorem holds_concat_of_assign {mediaType : MediaType} {extMap after : ExtensionMap}
    (holds : Holds extMappings lines mediaType extMap) (used : isUsed extMappings mediaType line = true)
    (written : assign extMap line.value.toNat ((translate line.uri).getD .unknown) = some after) :
    Holds extMappings (lines ++ [line]) mediaType after := by
  intro id small
  unfold assign at written
  split at written
  · next inside =>
      rw [negotiated_concat, ← Option.some.inj written, Vector.getElem?_setIfInBounds]
      by_cases same : line.value.toNat = id
      · rw [if_pos same, if_pos (by omega), if_pos ⟨used, same⟩]
      · rw [if_neg same, if_neg fun here => same here.2]
        exact holds id small
  · exact (nomatch written)

/-- **A line** is used, in the map of its medium, or it is not used. -/
theorem knows_addExtension (known : Knows extMappings lines processor)
    (added : processor.addExtension line = some next) : Knows extMappings (lines ++ [line]) next := by
  have used := fun mediaType => isUsed_eq known.mappings mediaType line
  unfold addExtension at added
  cases valid : processor.isValidExtension line.uri with
  | false =>
      rw [if_neg (by rw [valid]; exact Bool.false_ne_true)] at added
      have unused : ∀ mediaType, isUsed extMappings mediaType line = false := fun mediaType => by
        rw [used, valid, Bool.false_and]
      rw [← Option.some.inj added]
      exact ⟨known.mappings, holds_concat_of_other known.video (unused _), holds_concat_of_other known.audio (unused _)⟩
  | true =>
      rw [if_pos valid] at added
      simp only [valid, Bool.true_and] at used
      cases media : line.mediaType with
      | video =>
          simp only [media] at added
          obtain ⟨after, written, rfl⟩ := Option.bind_eq_some_iff.mp added |>.imp fun _ => And.imp_right Option.some.inj
          exact ⟨known.mappings, holds_concat_of_assign known.video (by rw [used, media]; rfl) written,
            holds_concat_of_other known.audio (by rw [used, media]; rfl)⟩
      | audio =>
          simp only [media] at added
          obtain ⟨after, written, rfl⟩ := Option.bind_eq_some_iff.mp added |>.imp fun _ => And.imp_right Option.some.inj
          exact ⟨known.mappings, holds_concat_of_other known.video (by rw [used, media]; rfl),
            holds_concat_of_assign known.audio (by rw [used, media]; rfl) written⟩
      | other =>
          simp only [media] at added
          rw [← Option.some.inj added]
          exact ⟨known.mappings, holds_concat_of_other known.video (by rw [used, media]; rfl),
            holds_concat_of_other known.audio (by rw [used, media]; rfl)⟩

theorem isSome_assign {extMap : ExtensionMap} {index : ℕ} {extension : RTPExtensions} :
    (assign extMap index extension).isSome ↔ index < 15 := by
  unfold assign
  split
  · next inside => exact iff_of_true rfl inside
  · next outside => exact iff_of_false Bool.false_ne_true outside

theorem isSome_addExtension (known : processor.extMappings = extMappings) :
    (processor.addExtension line).isSome ↔
      (line.mediaType ≠ .other → isUsed extMappings line.mediaType line = true → line.value.toNat < 15) := by
  have used := isUsed_eq known line.mediaType line
  unfold addExtension
  cases valid : processor.isValidExtension line.uri with
  | false =>
      rw [used, valid, Bool.false_and]
      exact iff_of_true rfl fun _ absent => absurd absent Bool.false_ne_true
  | true =>
      rw [used, valid]
      cases media : line.mediaType with
      | video =>
          simpa [Option.isSome_bind] using isSome_assign
      | audio =>
          simpa [Option.isSome_bind] using isSome_assign
      | other => simp

/-! ### All lines -/

theorem knows_create (extMappings : List ExtMap) : Knows extMappings [] (create extMappings) :=
  ⟨rfl, fun id small => by simp [create, negotiated, small], fun id small => by simp [create, negotiated, small]⟩

/-- The lines are added one after the other. -/
theorem foldlM_addExtension_spec : ∀ (more : List ExtMap) {lines : List ExtMap} {processor : RtpExtensionProcessor},
    Knows extMappings lines processor →
    (∀ next, more.foldlM addExtension processor = some next → Knows extMappings (lines ++ more) next) ∧
    ((more.foldlM addExtension processor).isSome ↔ Fits extMappings more)
  | [], lines, processor, known => by
      rw [List.append_nil]
      exact ⟨fun next here => Option.some.inj here ▸ known, iff_of_true rfl fun _ absent => absurd absent List.not_mem_nil⟩
  | line :: more, lines, processor, known => by
      have possible : (processor.addExtension line).isSome ↔ _ := isSome_addExtension known.mappings
      rw [List.foldlM_cons, Fits, List.forall_mem_cons, ← possible]
      cases added : processor.addExtension line with
      | none => exact ⟨fun _ absent => (nomatch absent), iff_of_false Bool.false_ne_true fun both => (nomatch both.1)⟩
      | some after =>
          obtain ⟨knows, rest⟩ := foldlM_addExtension_spec more (knows_addExtension known added)
          rw [List.append_assoc] at knows
          exact ⟨knows, rest.trans (and_iff_right rfl).symm⟩

/-- The lines of all descriptions are added. -/
theorem foldlM_setSdpInfo : ∀ (descriptions : List (List ExtMap)) (processor : RtpExtensionProcessor),
    descriptions.foldlM setSdpInfo processor = descriptions.flatten.foldlM addExtension processor
  | [], _ => rfl
  | description :: descriptions, processor => by
      rw [List.foldlM_cons, List.flatten_cons, List.foldlM_append]
      exact congrArg _ (funext fun next => foldlM_setSdpInfo descriptions next)

theorem buildMaps_eq (extMappings : List ExtMap) (descriptions : List (List ExtMap)) :
    buildMaps extMappings descriptions = descriptions.flatten.foldlM addExtension (create extMappings) :=
  foldlM_setSdpInfo descriptions (create extMappings)

/-- **The maps are built** exactly if the identifiers fit. -/
theorem isSome_buildMaps (extMappings : List ExtMap) (descriptions : List (List ExtMap)) :
    (buildMaps extMappings descriptions).isSome ↔ Fits extMappings descriptions.flatten := by
  rw [buildMaps_eq]
  exact (foldlM_addExtension_spec _ (knows_create extMappings)).2

/-- **The map for a packet.** -/
theorem extensionMap_of_buildMaps {descriptions : List (List ExtMap)}
    (built : buildMaps extMappings descriptions = some processor) {type : PacketType} (media : type ≠ .other) :
    ∃ extMap, processor.extensionMap type = some extMap ∧
      Holds extMappings descriptions.flatten (mediaOf type) extMap := by
  rw [buildMaps_eq] at built
  have known := (foldlM_addExtension_spec _ (knows_create extMappings)).1 processor built
  cases type with
  | video => exact ⟨_, rfl, known.video⟩
  | audio => exact ⟨_, rfl, known.audio⟩
  | other => exact absurd rfl media

end RtpExtensionProcessor

end Erizo
