/-
**The tables of layers, and the indices into them.**

The layer detector has lists of four entries (`Sized`), and takes indices from the list of SSRCs, from the resolutions of
a VP9 packet and from temporal layers, which are always below four. The quality manager has the lists it was given last.

* `valid_iff_fits`: the indices of a run are in range exactly when every VP8 packet that has a width comes from one of
  the first four SSRCs, and no VP9 packet has more than four resolutions.
* `tables_iff`: so are those of the manager, exactly when no layer but the lowest one is asked for that is equal to the
  size of a list where the other lists are long enough. The test in front of the indices lets that one through.
-/

import Erizo.Model.QualityManager

namespace Erizo

open Library

/-! ### The resolutions of a VP9 payload -/

namespace RtpVP9Parser

/-- There are as many resolutions as the structure says, if it has any. -/
def Declared (vp9 : RTPPayloadVP9) : Prop :=
  (vp9.resolutions.length : ℤ) = if vp9.hasResolution then vp9.spatialLayers + 1 else 0

/-- The structure has not been read. -/
def Undeclared (vp9 : RTPPayloadVP9) : Prop := vp9.resolutions = [] ∧ vp9.hasResolution = false

theorem undeclared_pictureID {vp9 : RTPPayloadVP9} {cursor : Cursor} (before : Undeclared vp9) :
    ∀ parsed ∈ parsePictureID vp9 cursor, Undeclared parsed.1 := by
  unfold parsePictureID
  split
  · intro parsed found
    obtain ⟨byte, -, found⟩ := Option.bind_eq_some_iff.mp found
    dsimp only at found
    split at found
    · obtain ⟨byte, -, found⟩ := Option.bind_eq_some_iff.mp found
      exact Option.some.inj found ▸ before
    · exact Option.some.inj found ▸ before
  · exact fun parsed found => Option.some.inj found ▸ before

theorem undeclared_references (rest : List UInt8) (position : ℕ) :
    ∀ {vp9 : RTPPayloadVP9}, ∀ parsed ∈ parseReferences vp9 rest position, Undeclared vp9 → Undeclared parsed.1 := by
  induction rest generalizing position with
  | nil => exact fun parsed found => absurd found (by simp [parseReferences])
  | cons byte rest ih =>
      intro vp9 parsed found before
      unfold parseReferences at found
      dsimp only at found
      split at found
      · exact ih (position + 1) parsed found before
      · exact Option.some.inj found ▸ before

theorem undeclared_layerIndices {vp9 : RTPPayloadVP9} {cursor : Cursor} (before : Undeclared vp9) :
    ∀ parsed ∈ parseLayerIndices vp9 cursor, Undeclared parsed.1 := by
  unfold parseLayerIndices
  dsimp only
  split
  · intro parsed found
    obtain ⟨byte, -, found⟩ := Option.bind_eq_some_iff.mp found
    split at found
    · obtain ⟨references, read, found⟩ := Option.bind_eq_some_iff.mp found
      exact Option.some.inj found ▸ undeclared_references _ _ references read before
    · obtain ⟨byte, -, found⟩ := Option.bind_eq_some_iff.mp found
      exact Option.some.inj found ▸ before
  · exact fun parsed found => Option.some.inj found ▸ before

theorem resolutions_length (count : ℕ) : ∀ (vp9 : RTPPayloadVP9) (cursor : Cursor),
    ∀ parsed ∈ parseResolutions count vp9 cursor,
      parsed.1.resolutions.length = vp9.resolutions.length + count ∧ parsed.1.hasResolution = vp9.hasResolution ∧
        parsed.1.spatialLayers = vp9.spatialLayers := by
  induction count with
  | zero => exact fun vp9 cursor parsed found => Option.some.inj found ▸ ⟨rfl, rfl, rfl⟩
  | succ count ih =>
      intro vp9 cursor parsed found
      unfold parseResolutions at found
      obtain ⟨_, -, found⟩ := Option.bind_eq_some_iff.mp found
      obtain ⟨_, -, found⟩ := Option.bind_eq_some_iff.mp found
      obtain ⟨_, -, found⟩ := Option.bind_eq_some_iff.mp found
      obtain ⟨_, -, found⟩ := Option.bind_eq_some_iff.mp found
      obtain ⟨length, resolved, layers⟩ := ih _ _ parsed found
      refine ⟨?_, resolved, layers⟩
      rw [length, List.length_append, List.length_singleton, Nat.add_assoc, Nat.add_comm 1]

theorem declared_group {vp9 : RTPPayloadVP9} {cursor : Cursor} (before : Declared vp9) :
    ∀ parsed ∈ parseGroup vp9 cursor, Declared parsed.1 := by
  unfold parseGroup
  split
  · intro parsed found
    obtain ⟨_, -, found⟩ := Option.bind_eq_some_iff.mp found
    obtain ⟨_, -, found⟩ := Option.bind_eq_some_iff.mp found
    exact Option.some.inj found ▸ before
  · exact fun parsed found => Option.some.inj found ▸ before

theorem declared_structure {vp9 : RTPPayloadVP9} {cursor : Cursor} (before : Undeclared vp9) :
    ∀ parsed ∈ parseScalabilityStructure vp9 cursor, Declared parsed.1 := by
  obtain ⟨none, without⟩ := before
  unfold parseScalabilityStructure
  split
  · intro parsed found
    obtain ⟨byte, -, found⟩ := Option.bind_eq_some_iff.mp found
    obtain ⟨read, resolved, found⟩ := Option.bind_eq_some_iff.mp found
    refine declared_group ?_ parsed found
    obtain ⟨length, resolution, layers⟩ := resolutions_length _ _ _ read resolved
    rw [Declared, length, resolution, layers]
    dsimp only
    rw [none]
    split <;> simp
  · intro parsed found
    rw [← Option.some.inj found, Declared, none, without]
    rfl

/-- **A payload that is parsed has as many resolutions as its scalability structure says.** -/
theorem declared_parseVP9 {bytes : List UInt8} {dataLength : ℤ} {vp9 : RTPPayloadVP9}
    (parsed : parseVP9 bytes dataLength = some vp9) : Declared vp9 := by
  obtain ⟨byte, -, found⟩ := Option.bind_eq_some_iff.mp parsed
  obtain ⟨id, read, found⟩ := Option.bind_eq_some_iff.mp found
  obtain ⟨layers, indexed, found⟩ := Option.bind_eq_some_iff.mp found
  obtain ⟨structured, declared, found⟩ := Option.bind_eq_some_iff.mp found
  have first : Undeclared id.1 := undeclared_pictureID ⟨rfl, rfl⟩ id read
  have second := undeclared_layerIndices first layers indexed
  exact Option.some.inj found ▸ declared_structure second structured declared

end RtpVP9Parser

/-! ### The tables of the detector -/

namespace LayerDetectorHandler

/-- The tables have four entries. -/
structure Sized (handler : LayerDetectorHandler) : Prop where
  widths : handler.videoFrameWidthList.length = 4
  heights : handler.videoFrameHeightList.length = 4
  rates : handler.videoFrameRateList.objects.length = 4

theorem sized_create (now : ℤ) : Sized (create now) := ⟨rfl, rfl, rfl⟩

/-- The indices used are in range. -/
def Safe (detection : Detection) : Prop := ∀ access ∈ detection.accesses, access.Valid

/-- The tables keep their sizes, and the indices used in between are in range under a condition. -/
def SafeIf (before after : Detection) (fits : Prop) : Prop :=
  Sized before.handler → Sized after.handler ∧ (Safe after ↔ Safe before ∧ fits)

section Detection

variable {before between after : Detection} {first second : Prop}

theorem SafeIf.trans (earlier : SafeIf before between first) (later : SafeIf between after second) :
    SafeIf before after (first ∧ second) := by
  intro sized
  obtain ⟨kept, safe⟩ := earlier sized
  obtain ⟨last, afterwards⟩ := later kept
  exact ⟨last, afterwards.trans ((and_congr_left' safe).trans and_assoc)⟩

theorem SafeIf.congr (safe : SafeIf before after first) (same : first ↔ second) : SafeIf before after second :=
  fun sized => (safe sized).imp_right fun iff => iff.trans (and_congr_right' same)

theorem SafeIf.still (earlier : SafeIf before between first) (later : SafeIf between after True) :
    SafeIf before after first := (earlier.trans later).congr (iff_of_eq (and_true first))

/-- Nothing is used, and the tables stay as they are. -/
theorem safeIf_of_eq (accesses : after.accesses = before.accesses) (sized : Sized before.handler → Sized after.handler) :
    SafeIf before after True := by
  intro before
  refine ⟨sized before, ?_⟩
  rw [Safe, Safe, accesses, and_true]

/-- Some indices are used. -/
theorem safeIf_of_append {accesses : List Access} (used : after.accesses = before.accesses ++ accesses)
    (sized : Sized before.handler → Sized after.handler)
    (fits : Sized before.handler → ((∀ access ∈ accesses, access.Valid) ↔ first)) : SafeIf before after first := by
  intro before
  refine ⟨sized before, ?_⟩
  rw [Safe, Safe, used, ← fits before]
  exact List.forall_mem_append

theorem safeIf_notify (times : NotifyReadings) : SafeIf before (before.notifyLayerInfoChangedEvent times) True := by
  refine safeIf_of_append rfl (fun sized => ⟨sized.widths, sized.heights, sized.rates⟩) fun sized => ?_
  refine iff_of_true (fun access used => ?_) trivial
  obtain ⟨layer, inside, rfl⟩ := List.mem_map.mp used
  exact List.mem_range.mp inside

theorem safeIf_notifyMaybe (readings : Readings) :
    SafeIf before (before.notifyLayerInfoChangedEventMaybe readings) True := by
  unfold Detection.notifyLayerInfoChangedEventMaybe
  split
  · exact safeIf_notify _
  · exact safeIf_of_eq rfl id

theorem sized_increment {handler : LayerDetectorHandler} (sized : Sized handler) (frame : Frame) :
    Sized (handler.increment frame) := by
  refine ⟨sized.widths, sized.heights, ?_⟩
  have places := congrArg List.length (@SharedCells.places_change _ _ _ MovingIntervalRateStat.split
    handler.videoFrameRateList frame.layer (countFrame frame.time)).1
  rw [List.length_map, List.length_map] at places
  exact places.trans sized.rates

theorem safeIf_addTemporalLayer (readings : Readings) (newFrame : Bool) {layer : ℕ} (below : layer < 4) :
    SafeIf before (before.addTemporalLayerAndCalculateRate readings newFrame layer) True := by
  cases newFrame with
  | false => exact safeIf_of_eq rfl id
  | true =>
      refine safeIf_of_append rfl (fun sized => sized_increment sized _) fun sized =>
        iff_of_true (fun access used => ?_) trivial
      rw [List.mem_singleton.mp used]
      exact below.trans_eq sized.rates.symm

theorem safeIf_addTemporalLayers (readings : Readings) (newFrame : Bool) {layers : List ℕ} :
    ∀ {before : Detection}, (∀ layer ∈ layers, layer < 4) →
      SafeIf before (before.addTemporalLayers readings newFrame layers) True := by
  induction layers with
  | nil => exact fun _ => safeIf_of_eq rfl id
  | cons layer layers ih =>
      intro before below
      obtain ⟨here, others⟩ := List.forall_mem_cons.mp below
      exact (safeIf_addTemporalLayer readings newFrame here).still (ih others)

/-- The temporal layers that the packets stand for are below four. -/
theorem temporalLayersVP8_lt (payload : RTPPayloadVP8) : ∀ layer ∈ temporalLayersVP8 payload, layer < 4 := by
  unfold temporalLayersVP8
  split_ifs <;> decide

theorem temporalLayersVP9_lt (payload : RTPPayloadVP9) : ∀ layer ∈ temporalLayersVP9 payload, layer < 4 := by
  unfold temporalLayersVP9
  split_ifs <;> decide

theorem safeIf_setResolution (position : ℤ) (width height : UInt32) :
    SafeIf before (before.setResolution position width height) (Access.toIndex position < 4) := by
  refine safeIf_of_append rfl (fun sized => ?_) fun sized => ?_
  · exact ⟨List.length_set.trans sized.widths, List.length_set.trans sized.heights, sized.rates⟩
  · simp only [List.forall_mem_cons, List.not_mem_nil, false_imp_iff, implies_true, and_true, Access.Valid, Access.of,
      sized.widths, sized.heights, and_self]

theorem safeIf_followResolutionVP8 (readings : Readings) (payload : RTPPayloadVP8) (position : ℤ) :
    SafeIf before (followResolutionVP8 readings before payload position)
      (payload.frameWidth ≠ -1 → Access.toIndex position < 4) := by
  unfold followResolutionVP8
  dsimp only
  by_cases wide : payload.frameWidth ≠ -1
  · rw [if_pos wide]
    have read : SafeIf before
        { before with accesses := before.accesses ++ [Access.of before.handler.videoFrameWidthList position] }
        (Access.toIndex position < 4) := by
      refine safeIf_of_append rfl id fun sized => ?_
      simp only [List.forall_mem_cons, List.not_mem_nil, false_imp_iff, implies_true, and_true, Access.Valid, Access.of,
        sized.widths]
    split
    · refine SafeIf.congr ((read.trans (safeIf_setResolution position _ _)).still (safeIf_notify readings.changed)) ?_
      rw [and_self]
      exact ⟨fun small _ => small, fun small => small wide⟩
    · exact read.congr ⟨fun small _ => small, fun small => small wide⟩
  · rw [if_neg wide]
    exact (safeIf_of_eq rfl id).congr (iff_of_true trivial fun wider => absurd wider wide)

theorem safeIf_setResolutions (resolutions : List VP9ResolutionLayer) : ∀ (before : Detection) (start : ℕ),
    SafeIf before ((resolutions.zipIdx start).foldl (fun detection (resolution, position) =>
      detection.setResolution position (.ofInt resolution.width) (.ofInt resolution.height)) before)
      (∀ index < resolutions.length, start + index < 4) := by
  induction resolutions with
  | nil =>
      intro before start
      exact (safeIf_of_eq rfl id).congr (iff_of_true trivial fun index less => absurd less (Nat.not_lt_zero _))
  | cons resolution rest ih =>
      intro before start
      refine SafeIf.congr ((safeIf_setResolution start _ _).trans (ih _ (start + 1))) ?_
      rw [List.length_cons, Nat.forall_lt_succ_left']
      exact and_congr Iff.rfl (forall₂_congr fun index _ => by rw [Nat.add_assoc, Nat.add_comm 1])

theorem safeIf_followResolutionsVP9 (readings : Readings) (payload : RTPPayloadVP9) :
    SafeIf before (followResolutionsVP9 readings before payload) (payload.resolutions.length ≤ 4) := by
  have all := (safeIf_setResolutions payload.resolutions before 0).congr
    (show (∀ index < payload.resolutions.length, 0 + index < 4) ↔ payload.resolutions.length ≤ 4 from
      ⟨fun below => by by_contra more; exact absurd (below 4 (by omega)) (by omega), fun few index less => by omega⟩)
  unfold followResolutionsVP9
  dsimp only
  split
  · exact all.still (safeIf_notify _)
  · exact all

/-- What becomes of the packet makes no difference. -/
theorem SafeIf.withPacket (safe : SafeIf before after first) (packet : LayeredPacket) :
    SafeIf before { after with packet := packet } first := safe

theorem safeIf_parseVP8 (readings : Readings) :
    SafeIf before (parseLayerInfoFromVP8 readings before)
      ((payloadVP8 before.packet).frameWidth ≠ -1 →
        Access.toIndex (before.handler.getSsrcPosition (RtpHeader.getSSRC before.packet.data)) < 4) := by
  unfold parseLayerInfoFromVP8
  refine SafeIf.still (SafeIf.congr (SafeIf.trans ?_ (safeIf_followResolutionVP8 readings _ _)) (iff_of_eq (true_and _)))
    (safeIf_notifyMaybe readings)
  exact fun sized => safeIf_addTemporalLayers readings _ (temporalLayersVP8_lt _) sized

theorem safeIf_parseVP9 (readings : Readings) {payload : RTPPayloadVP9}
    (parsed : payloadVP9 before.packet = some payload) :
    SafeIf before (parseLayerInfoFromVP9 readings before) (payload.resolutions.length ≤ 4) := by
  unfold parseLayerInfoFromVP9
  dsimp only
  rw [parsed]
  refine SafeIf.withPacket (SafeIf.still (SafeIf.congr (SafeIf.trans ?_ (safeIf_followResolutionsVP9 readings payload))
    (iff_of_eq (true_and _))) (safeIf_notifyMaybe readings)) _
  exact fun sized => safeIf_addTemporalLayers readings _ (temporalLayersVP9_lt _) sized

/-- A descriptor that is read behind `DataPacket::data` is not safe. -/
theorem safeIf_parseVP9_behind (readings : Readings) (behind : payloadVP9 before.packet = none) :
    SafeIf before (parseLayerInfoFromVP9 readings before) False := by
  unfold parseLayerInfoFromVP9
  dsimp only
  rw [behind]
  refine safeIf_of_append rfl id fun _ => iff_of_false (fun valid => ?_) not_false
  exact absurd (valid _ (List.mem_singleton_self _)) (lt_irrefl _)

theorem safeIf_parseH264 (readings : Readings) : SafeIf before (parseLayerInfoFromH264 readings before) True := by
  unfold parseLayerInfoFromH264
  refine SafeIf.still ?_ (safeIf_notifyMaybe readings)
  exact fun sized => safeIf_addTemporalLayers readings _ (by decide) sized

end Detection

/-- A packet gives no index out of range: a VP8 packet that has a width comes from one of the first four SSRCs, and the
descriptor of a VP9 packet ends inside `DataPacket::data` and has four resolutions at most. -/
def Fits (handler : LayerDetectorHandler) : Input → Prop
  | .read packet _ =>
      Examined handler packet →
        (packet.codec = "VP8" → (payloadVP8 packet).frameWidth ≠ -1 →
            RtpHeader.getSSRC packet.data ∈ handler.videoSsrcList.take 4) ∧
          (packet.codec = "VP9" →
            ∃ payload, payloadVP9 packet = some payload ∧ (payload.hasResolution → payload.spatialLayers < 4))
  | _ => True

/-- An SSRC has an index below four exactly when it is one of the first four. -/
theorem toIndex_getSsrcPosition (handler : LayerDetectorHandler) (ssrc : UInt32) :
    Access.toIndex (handler.getSsrcPosition ssrc) < 4 ↔ ssrc ∈ handler.videoSsrcList.take 4 := by
  unfold getSsrcPosition
  by_cases listed : ssrc ∈ handler.videoSsrcList
  · rw [if_pos (List.idxOf_lt_length_of_mem listed).ne, List.mem_take_iff_idxOf_lt listed]
    exact Iff.rfl
  · rw [if_neg (not_not.mpr (List.idxOf_eq_length listed))]
    exact iff_of_false (by decide) fun taken => listed (List.mem_of_mem_take taken)

theorem resolutions_le_iff {packet : LayeredPacket} {payload : RTPPayloadVP9} (parsed : payloadVP9 packet = some payload) :
    payload.resolutions.length ≤ 4 ↔ (payload.hasResolution → payload.spatialLayers < 4) := by
  have declared := RtpVP9Parser.declared_parseVP9 parsed
  rw [RtpVP9Parser.Declared] at declared
  split at declared
  · next has => simp only [has, forall_const]; omega
  · next without => exact iff_of_true (by omega) fun has => absurd has without

/-- **A packet that is read uses indices in range exactly when it fits.** -/
theorem safe_read_iff {handler : LayerDetectorHandler} (sized : Sized handler) (packet : LayeredPacket)
    (readings : Readings) :
    Sized (handler.read packet readings).handler ∧
      ((∀ access ∈ (handler.read packet readings).accesses, access.Valid) ↔ Fits handler (.read packet readings)) := by
  suffices safe : SafeIf ⟨handler, packet, [], [], []⟩ (handler.read packet readings)
    (Fits handler (.read packet readings)) by
    obtain ⟨kept, iff⟩ := safe sized
    refine ⟨kept, iff.trans ⟨And.right, fun fits => ⟨fun _ member => absurd member List.not_mem_nil, fits⟩⟩⟩
  unfold read
  dsimp only
  by_cases examined : Examined handler packet
  · rw [if_pos examined]
    by_cases vp8 : packet.codec = "VP8"
    · rw [if_pos vp8]
      refine (safeIf_parseVP8 readings).congr ((imp_congr_right fun _ => toIndex_getSsrcPosition _ _).trans ?_)
      exact ⟨fun first _ => ⟨fun _ => first, fun vp9 => absurd (vp8.symm.trans vp9) (by decide)⟩,
        fun fits => (fits examined).1 vp8⟩
    · rw [if_neg vp8]
      by_cases vp9 : packet.codec = "VP9"
      · rw [if_pos vp9]
        cases parsed : payloadVP9 packet with
        | none =>
            have safe := @safeIf_parseVP9_behind ⟨handler, packet, [], [], []⟩ readings parsed
            refine safe.congr (iff_of_false not_false fun fits => ?_)
            obtain ⟨payload, found, -⟩ := (fits examined).2 vp9
            exact absurd (parsed.symm.trans found) (Option.some_ne_none _).symm
        | some payload =>
            have safe := @safeIf_parseVP9 ⟨handler, packet, [], [], []⟩ readings payload parsed
            refine safe.congr ((resolutions_le_iff parsed).trans ?_)
            refine ⟨fun few _ => ⟨fun codec => absurd codec vp8, fun _ => ⟨payload, parsed, few⟩⟩, fun fits => ?_⟩
            obtain ⟨read, found, few⟩ := (fits examined).2 vp9
            exact Option.some.inj (found.symm.trans parsed) ▸ few
      · rw [if_neg vp9]
        have fits : Fits handler (.read packet readings) :=
          fun _ => ⟨fun codec => absurd codec vp8, fun codec => absurd codec vp9⟩
        split
        · exact (safeIf_parseH264 readings).congr (iff_of_true trivial fits)
        · exact (safeIf_of_eq rfl id).congr (iff_of_true trivial fits)
  · rw [if_neg examined]
    exact (safeIf_of_eq rfl id).congr (iff_of_true trivial fun look => absurd look examined)

theorem safe_step_iff (handler : LayerDetectorHandler) (input : Input) (sized : Sized handler) :
    Sized (step handler input).1 ∧
      (Fits handler input ↔ ∀ access ∈ (step handler input).2.accesses, access.Valid) := by
  cases input with
  | read packet readings =>
      obtain ⟨kept, iff⟩ := safe_read_iff sized packet readings
      exact ⟨kept, iff.symm⟩
  | notifyUpdate list =>
      refine ⟨?_, iff_of_true trivial fun _ member => absurd member List.not_mem_nil⟩
      cases list with
      | none => exact sized
      | some list => exact ⟨sized.widths, sized.heights, sized.rates⟩
  | enable =>
      exact ⟨⟨sized.widths, sized.heights, sized.rates⟩, iff_of_true trivial fun _ member => absurd member List.not_mem_nil⟩
  | disable =>
      exact ⟨⟨sized.widths, sized.heights, sized.rates⟩, iff_of_true trivial fun _ member => absurd member List.not_mem_nil⟩

/-- **The indices that a run uses are in range exactly when every packet fits.** -/
theorem valid_iff_fits (start : ℤ) (inputs : List Input) :
    (∀ output ∈ Machine.outputs step (create start) inputs, ∀ access ∈ output.accesses, access.Valid) ↔
      Machine.Guarded step Fits (create start) inputs :=
  (@Machine.guarded_iff_outputs_of_invariant _ _ _ step Fits
    (fun output => ∀ access ∈ output.accesses, access.Valid) Sized
    (fun handler input sized => (safe_step_iff handler input sized).1)
    (fun handler input sized => (safe_step_iff handler input sized).2) _ (sized_create start) inputs).symm

end LayerDetectorHandler

/-! ### The lists of the manager -/

namespace QualityManager

/-- The layers of a node are counted from zero, and an `int` counts them. -/
def Countable (layer : ℕ) : Prop := layer < 2 ^ 31

instance (layer : ℕ) : Decidable (Countable layer) := inferInstanceAs (Decidable (_ < _))

/-- The lowest layer is asked for, or one that is behind a list, or one that is not the size of any. -/
def Listed (manager : QualityManager) (spatialLayer temporalLayer : ℕ) : Prop :=
  spatialLayer = 0 ∧ temporalLayer = 0 ∨
    (manager.videoFrameWidthList.length < spatialLayer ∨ manager.videoFrameHeightList.length < spatialLayer ∨
      manager.videoFrameRateList.length < temporalLayer) ∨
    spatialLayer ≠ manager.videoFrameWidthList.length ∧ spatialLayer ≠ manager.videoFrameHeightList.length ∧
      temporalLayer ≠ manager.videoFrameRateList.length

theorem toUint_of_countable {layer : ℕ} (countable : Countable layer) : toUint layer = layer := by
  unfold Countable at countable
  unfold toUint
  omega

theorem valid_uses_iff (manager : QualityManager) (spatialLayer temporalLayer : ℕ) :
    (∀ access ∈ manager.uses spatialLayer temporalLayer, access.Valid) ↔
      spatialLayer < manager.videoFrameWidthList.length ∧ spatialLayer < manager.videoFrameHeightList.length ∧
        temporalLayer < manager.videoFrameRateList.length := by
  simp only [uses, List.forall_mem_cons, List.not_mem_nil, false_imp_iff, implies_true, and_true, Access.Valid, Access.of]
  exact Iff.rfl

/-- **The indices that `doesLayerMeetConstraints` uses are in range exactly when the layer is listed.** -/
theorem valid_iff_listed (manager : QualityManager) {spatialLayer temporalLayer : ℕ} (spatial : Countable spatialLayer)
    (temporal : Countable temporalLayer) :
    (∀ access ∈ (manager.doesLayerMeetConstraints spatialLayer temporalLayer).2, access.Valid) ↔
      manager.Listed spatialLayer temporalLayer := by
  unfold doesLayerMeetConstraints Listed
  rw [toUint_of_countable spatial, toUint_of_countable temporal]
  have here := valid_uses_iff manager spatialLayer temporalLayer
  have first := valid_uses_iff manager 0 0
  generalize manager.videoFrameWidthList.length = widths at here first ⊢
  generalize manager.videoFrameHeightList.length = heights at here first ⊢
  generalize manager.videoFrameRateList.length = rates at here first ⊢
  split
  · next behind => exact iff_of_true (fun _ member => absurd member List.not_mem_nil) (by omega)
  · next inside =>
      split
      · next lowest => exact iff_of_true (fun _ member => absurd member List.not_mem_nil) (by omega)
      · next higher =>
          dsimp only
          split
          · refine here.trans ?_
            omega
          · refine List.forall_mem_append.trans ((and_congr here first).trans ?_)
            omega

end QualityManager

/-- **The tables of layers are indexed in range**, by the detector along a run and by a manager after some events,
exactly when every packet fits and the layer asked for is listed. -/
theorem tables_iff (start : ℤ) (inputs : List LayerDetectorHandler.Input) (manager : QualityManager)
    (events : List LayerInfoChangedEvent) {spatialLayer temporalLayer : ℕ}
    (spatial : QualityManager.Countable spatialLayer) (temporal : QualityManager.Countable temporalLayer) :
    ((∀ output ∈ Machine.outputs LayerDetectorHandler.step (.create start) inputs,
          ∀ access ∈ output.accesses, access.Valid) ∧
        ∀ access ∈ ((events.foldl QualityManager.notifyEvent manager).doesLayerMeetConstraints
          spatialLayer temporalLayer).2, access.Valid) ↔
      Machine.Guarded LayerDetectorHandler.step LayerDetectorHandler.Fits (.create start) inputs ∧
        (events.foldl QualityManager.notifyEvent manager).Listed spatialLayer temporalLayer :=
  and_congr (LayerDetectorHandler.valid_iff_fits start inputs) (QualityManager.valid_iff_listed _ spatial temporal)

/-- A key frame of the second SSRC of a stream, and the tables of two layers. -/
theorem tables_iff_twoLayers :
    (∀ output ∈ Machine.outputs LayerDetectorHandler.step (.create 0)
          [.notifyUpdate (some [6, 7]), .read (codedPacket "VP8" 7
            [0x10, 0, 0, 0, 0x9D, 0x01, 0x2A, 0x80, 0x02, 0xE0, 0x01]) (.still 0)],
        ∀ access ∈ output.accesses, access.Valid) ∧
      ∀ access ∈ (([⟨[320, 640], [240, 480], [5, 15]⟩] : List LayerInfoChangedEvent).foldl QualityManager.notifyEvent
        (.create 0) |>.doesLayerMeetConstraints (1 : ℕ) (1 : ℕ)).2, access.Valid := by
  refine (tables_iff 0 _ _ _ (by decide) (by decide)).mpr ⟨⟨trivial, fun _ => ⟨fun _ _ => ?_, fun vp9 => ?_⟩, trivial⟩, ?_⟩
  · decide +kernel
  · exact absurd vp9 (by decide)
  · exact Or.inr (Or.inr (by decide))

/-- A key frame of an SSRC that is not listed, and a fifth layer for tables of four. -/
theorem tables_outOfRange :
    (¬∀ output ∈ Machine.outputs LayerDetectorHandler.step (.create 0)
        [.read (codedPacket "VP8" 7 [0x10, 0, 0, 0, 0x9D, 0x01, 0x2A, 0x80, 0x02, 0xE0, 0x01]) (.still 0)],
      ∀ access ∈ output.accesses, access.Valid) ∧
    ¬∀ access ∈ (([⟨[1, 2, 3, 4], [1, 2, 3, 4], [1, 2, 3, 4]⟩] : List LayerInfoChangedEvent).foldl
      QualityManager.notifyEvent (.create 0) |>.doesLayerMeetConstraints (4 : ℕ) (0 : ℕ)).2, access.Valid := by
  decide +kernel

end Erizo
