/-
**The frame rates of temporal layers.**

The statistics of `video_frame_rate_list_` are copies of one and have one vector of samples
(`load_increment_of_ne`). After every run they are what the frames counted have made of them (`rates_run`).

* `independent_of_only`: in a run in which frames of one temporal layer only are counted, no layer's frames are seen in
  the rate of another, and every rate is that of the layer's own frames. With the frames of a second layer it is not.
-/

import Erizo.Model.LayerDetectorHandler

namespace Erizo

open Library

namespace LayerDetectorHandler

/-! ### What is counted -/

/-- What frames do to the list of statistics. -/
def changes (frames : List Frame) : List (ℕ × (MovingIntervalRateStat → MovingIntervalRateStat)) :=
  frames.map fun frame => (frame.layer, countFrame frame.time)

theorem changes_append (first second : List Frame) : changes (first ++ second) = changes first ++ changes second :=
  List.map_append

/-- More frames have been counted, and the statistics are what they have made of them. -/
def Counted (before after : Detection) (more : List Frame) : Prop :=
  after.frames = before.frames ++ more ∧
    after.handler.videoFrameRateList =
      before.handler.videoFrameRateList.changeAll MovingIntervalRateStat.split (changes more)

section Detection

variable {before between after : Detection} {first second : List Frame}

theorem counted_of_eq (frames : after.frames = before.frames)
    (rates : after.handler.videoFrameRateList = before.handler.videoFrameRateList) : Counted before after [] :=
  ⟨frames.trans (List.append_nil _).symm, rates⟩

theorem Counted.trans (earlier : Counted before between first) (later : Counted between after second) :
    Counted before after (first ++ second) := by
  refine ⟨?_, ?_⟩
  · rw [later.1, earlier.1, List.append_assoc]
  · rw [later.2, earlier.2, changes_append]
    exact List.foldl_append.symm

theorem Counted.still (earlier : Counted before between first) (later : Counted between after []) :
    Counted before after first := by
  have whole := earlier.trans later
  rwa [List.append_nil] at whole

/-- What becomes of the packet makes no difference. -/
theorem Counted.withPacket (counted : Counted before after first) (packet : LayeredPacket) :
    Counted before { after with packet := packet } first := counted

theorem counted_notify (times : NotifyReadings) : Counted before (before.notifyLayerInfoChangedEvent times) [] :=
  counted_of_eq rfl rfl

theorem counted_notifyMaybe (readings : Readings) :
    Counted before (before.notifyLayerInfoChangedEventMaybe readings) [] := by
  unfold Detection.notifyLayerInfoChangedEventMaybe
  split
  · exact counted_notify _
  · exact counted_of_eq rfl rfl

theorem counted_addTemporalLayer (readings : Readings) (newFrame : Bool) (layer : ℕ) :
    Counted before (before.addTemporalLayerAndCalculateRate readings newFrame layer)
      (if newFrame then [⟨layer, readings.counted layer⟩] else []) := by
  cases newFrame with
  | true => exact ⟨rfl, rfl⟩
  | false => exact counted_of_eq rfl rfl

/-- The frames that begin with a packet of some temporal layers. -/
def framesAt (readings : Readings) (newFrame : Bool) (layers : List ℕ) : List Frame :=
  if newFrame then layers.map fun layer => ⟨layer, readings.counted layer⟩ else []

theorem counted_addTemporalLayers (readings : Readings) (newFrame : Bool) (layers : List ℕ) :
    ∀ before : Detection,
      Counted before (before.addTemporalLayers readings newFrame layers) (framesAt readings newFrame layers) := by
  induction layers with
  | nil =>
      intro before
      rw [framesAt, List.map_nil, ite_self]
      exact counted_of_eq rfl rfl
  | cons layer layers ih =>
      intro before
      have both := (counted_addTemporalLayer readings newFrame layer).trans
        (ih (before.addTemporalLayerAndCalculateRate readings newFrame layer))
      cases newFrame with
      | true => exact both
      | false => exact both

theorem counted_setResolution (position : ℤ) (width height : UInt32) :
    Counted before (before.setResolution position width height) [] := counted_of_eq rfl rfl

theorem counted_followResolutionVP8 (readings : Readings) (payload : RTPPayloadVP8) (position : ℤ) :
    Counted before (followResolutionVP8 readings before payload position) [] := by
  unfold followResolutionVP8
  dsimp only
  split_ifs <;> exact counted_of_eq rfl rfl

theorem counted_followResolutionsVP9 (readings : Readings) (payload : RTPPayloadVP9) :
    Counted before (followResolutionsVP9 readings before payload) [] := by
  have each : ∀ (step : Detection → VP9ResolutionLayer × ℕ → Detection),
      (∀ before resolution, Counted before (step before resolution) []) →
      ∀ (resolutions : List (VP9ResolutionLayer × ℕ)) (before : Detection),
        Counted before (resolutions.foldl step before) [] := by
    intro step silent resolutions
    induction resolutions with
    | nil => exact fun before => counted_of_eq rfl rfl
    | cons resolution rest ih => exact fun before => (silent before resolution).trans (ih _)
  unfold followResolutionsVP9
  dsimp only
  split
  · exact (each _ (fun _ _ => counted_setResolution _ _ _) _ before).trans (counted_notify _)
  · exact each _ (fun _ _ => counted_setResolution _ _ _) _ before

theorem counted_parseVP8 (readings : Readings) :
    Counted before (parseLayerInfoFromVP8 readings before)
      (framesAt readings (payloadVP8 before.packet).beginningOfPartition
        (temporalLayersVP8 (payloadVP8 before.packet))) := by
  unfold parseLayerInfoFromVP8
  refine (Counted.still ?_ (counted_followResolutionVP8 readings _ _)).still (counted_notifyMaybe readings)
  exact ⟨(counted_addTemporalLayers readings _ _ _).1, (counted_addTemporalLayers readings _ _ _).2⟩

theorem counted_parseVP9 (readings : Readings) {payload : RTPPayloadVP9}
    (parsed : payloadVP9 before.packet = some payload) :
    Counted before (parseLayerInfoFromVP9 readings before)
      (framesAt readings payload.beginningOfLayerFrame (temporalLayersVP9 payload)) := by
  unfold parseLayerInfoFromVP9
  dsimp only
  rw [parsed]
  refine Counted.withPacket (Counted.still (Counted.still ?_ (counted_followResolutionsVP9 readings payload))
    (counted_notifyMaybe readings)) _
  exact ⟨(counted_addTemporalLayers readings _ _ _).1, (counted_addTemporalLayers readings _ _ _).2⟩

theorem counted_parseH264 (readings : Readings) :
    Counted before (parseLayerInfoFromH264 readings before)
      (framesAt readings (payloadH264 before.packet).startBit [0]) := by
  unfold parseLayerInfoFromH264
  refine Counted.still ?_ (counted_notifyMaybe readings)
  exact ⟨(counted_addTemporalLayers readings _ _ _).1, (counted_addTemporalLayers readings _ _ _).2⟩

end Detection

/-- The temporal layers for which a packet begins a frame. -/
def newFrames (handler : LayerDetectorHandler) (packet : LayeredPacket) : List ℕ :=
  if Examined handler packet then
    if packet.codec = "VP8" then
      if (payloadVP8 packet).beginningOfPartition then temporalLayersVP8 (payloadVP8 packet) else []
    else if packet.codec = "VP9" then
      match payloadVP9 packet with
      | none => []
      | some payload => if payload.beginningOfLayerFrame then temporalLayersVP9 payload else []
    else if packet.codec = "H264" then if (payloadH264 packet).startBit then [0] else []
    else []
  else []

/-- **A packet counts a frame for every layer for which it begins one.** -/
theorem counted_read (handler : LayerDetectorHandler) (packet : LayeredPacket) (readings : Readings) :
    Counted ⟨handler, packet, [], [], []⟩ (handler.read packet readings)
      ((newFrames handler packet).map fun layer => ⟨layer, readings.counted layer⟩) := by
  have begins : ∀ (newFrame : Bool) (layers : List ℕ),
      ((if newFrame then layers else []).map fun layer => (⟨layer, readings.counted layer⟩ : Frame)) =
        framesAt readings newFrame layers := by
    intro newFrame layers
    cases newFrame <;> rfl
  unfold read newFrames
  dsimp only
  by_cases examined : Examined handler packet
  · rw [if_pos examined, if_pos examined]
    by_cases vp8 : packet.codec = "VP8"
    · rw [if_pos vp8, if_pos vp8, begins]
      exact counted_parseVP8 readings
    · rw [if_neg vp8, if_neg vp8]
      by_cases vp9 : packet.codec = "VP9"
      · rw [if_pos vp9, if_pos vp9]
        cases parsed : payloadVP9 packet with
        | none =>
            unfold parseLayerInfoFromVP9
            dsimp only
            rw [parsed]
            exact counted_of_eq rfl rfl
        | some payload =>
            dsimp only
            rw [begins]
            exact counted_parseVP9 readings parsed
      · rw [if_neg vp9, if_neg vp9]
        by_cases h264 : packet.codec = "H264"
        · rw [if_pos h264, if_pos h264, begins]
          exact counted_parseH264 readings
        · rw [if_neg h264, if_neg h264]
          exact counted_of_eq rfl rfl
  · rw [if_neg examined, if_neg examined]
    exact counted_of_eq rfl rfl

/-- The frames that calls have counted. -/
def framesOf (outputs : List Output) : List Frame := outputs.flatMap Output.frames

theorem step_rates (handler : LayerDetectorHandler) (input : Input) :
    (step handler input).1.videoFrameRateList =
      handler.videoFrameRateList.changeAll MovingIntervalRateStat.split (changes (step handler input).2.frames) := by
  cases input with
  | read packet readings =>
      obtain ⟨frames, rates⟩ := counted_read handler packet readings
      rw [List.nil_append] at frames
      rw [← frames] at rates
      exact rates
  | notifyUpdate list => cases list <;> rfl
  | enable => rfl
  | disable => rfl

/-- **After a run the statistics are what the frames counted have made of them.** -/
theorem rates_run (handler : LayerDetectorHandler) (inputs : List Input) :
    (Machine.run step handler inputs).videoFrameRateList =
      handler.videoFrameRateList.changeAll MovingIntervalRateStat.split
        (changes (framesOf (Machine.outputs step handler inputs))) := by
  induction inputs generalizing handler with
  | nil => rfl
  | cons input rest ih =>
      have frames : framesOf (Machine.outputs step handler (input :: rest)) =
          (step handler input).2.frames ++ framesOf (Machine.outputs step (step handler input).1 rest) :=
        List.flatMap_cons
      rw [Machine.run_cons, ih, step_rates, frames, changes_append]
      exact List.foldl_append.symm

/-! ### One vector for all -/

/-- The handler when it has counted frames. -/
def counting (start : ℤ) (frames : List Frame) : LayerDetectorHandler := frames.foldl increment (create start)

theorem increment_rates (handler : LayerDetectorHandler) (frame : Frame) :
    (handler.increment frame).videoFrameRateList =
      handler.videoFrameRateList.change MovingIntervalRateStat.split frame.layer (countFrame frame.time) := rfl

theorem foldl_increment (handler : LayerDetectorHandler) (frames : List Frame) :
    (frames.foldl increment handler).videoFrameRateList =
      handler.videoFrameRateList.changeAll MovingIntervalRateStat.split (changes frames) := by
  induction frames generalizing handler with
  | nil => rfl
  | cons frame rest ih => exact ih (handler.increment frame)

theorem counting_rates (start : ℤ) (frames : List Frame) :
    (counting start frames).videoFrameRateList =
      (SharedCells.copies MovingIntervalRateStat.split rateStat maxTemporalLayers).changeAll
        MovingIntervalRateStat.split (changes frames) := foldl_increment (create start) frames

theorem counting_concat (start : ℤ) (frames : List Frame) (frame : Frame) :
    counting start (frames ++ [frame]) = (counting start frames).increment frame := by
  rw [counting, List.foldl_append, List.foldl_cons, List.foldl_nil, counting]

/-- A run leaves the statistics as they are when its frames have been counted. -/
theorem run_rates (start : ℤ) (inputs : List Input) :
    (Machine.run step (create start) inputs).videoFrameRateList =
      (counting start (framesOf (Machine.outputs step (create start) inputs))).videoFrameRateList := by
  rw [rates_run, counting, foldl_increment]

theorem split_symm (own shared : MovingIntervalRateStat) :
    MovingIntervalRateStat.split.symm
        ((MovingIntervalRateStat.split own).1, (MovingIntervalRateStat.split shared).2) =
      { own with sampleVector := shared.sampleVector } := rfl

/-- **A frame of one layer changes the vector of all others.** They keep their own fields, and have the samples of the
layer that has been counted. -/
theorem load_increment_of_ne (start : ℤ) (frames : List Frame) (frame : Frame) {other : ℕ}
    (inside : frame.layer < maxTemporalLayers) (within : other < maxTemporalLayers) (different : other ≠ frame.layer) :
    ∃ counted before,
      ((counting start frames).increment frame).videoFrameRateList.load MovingIntervalRateStat.split frame.layer =
          some counted ∧
        (counting start frames).videoFrameRateList.load MovingIntervalRateStat.split other = some before ∧
        ((counting start frames).increment frame).videoFrameRateList.load MovingIntervalRateStat.split other =
          some { before with sampleVector := counted.sampleVector } := by
  obtain ⟨value, loaded, here⟩ := @SharedCells.load_changeAll_copies _ _ _ MovingIntervalRateStat.split rateStat
    maxTemporalLayers (changes frames) frame.layer inside
  obtain ⟨before, found, there⟩ := @SharedCells.load_changeAll_copies _ _ _ MovingIntervalRateStat.split rateStat
    maxTemporalLayers (changes frames) other within
  rw [← counting_rates start] at loaded here found there
  generalize counting start frames = handler at loaded here found there ⊢
  rw [increment_rates]
  refine ⟨countFrame frame.time value, before, ?_, found, ?_⟩
  · exact SharedCells.load_change_self (countFrame frame.time) loaded
  · rw [SharedCells.load_change_of_shared (countFrame frame.time) loaded here there different, split_symm]

/-! ### Rates of their own -/

/-- The samples of a layer. -/
def samplesOf (frames : List Frame) (layer : ℕ) : List MovingIntervalRateStat.Sample :=
  (frames.filter fun frame => frame.layer = layer).map fun frame => ⟨timePointToMs frame.time, 1⟩

/-- The rate of a statistic that counts the frames of one layer and shares nothing. -/
def ownRate (frames : List Frame) (layer : ℕ) (now : ℤ) : UInt64 :=
  (MovingIntervalRateStat.after 500 10 (samplesOf frames layer)).value rateScale (timePointToMs now)

theorem after_concat (size : UInt64) (intervals : UInt32) (samples : List MovingIntervalRateStat.Sample)
    (sample : MovingIntervalRateStat.Sample) :
    MovingIntervalRateStat.after size intervals (samples ++ [sample]) =
      (MovingIntervalRateStat.after size intervals samples).add sample.time sample.value := by
  rw [MovingIntervalRateStat.after, Machine.run_append, Machine.run_cons, Machine.run_nil, MovingIntervalRateStat.step,
    MovingIntervalRateStat.after]

theorem samplesOf_concat (frames : List Frame) (frame : Frame) (layer : ℕ) :
    samplesOf (frames ++ [frame]) layer =
      if frame.layer = layer then samplesOf frames layer ++ [⟨timePointToMs frame.time, 1⟩]
      else samplesOf frames layer := by
  rw [samplesOf, List.filter_append, List.map_append]
  by_cases same : frame.layer = layer
  · rw [if_pos same, @List.filter_cons_of_pos _ _ frame [] (decide_eq_true same)]
    rfl
  · rw [if_neg same, @List.filter_cons_of_neg _ _ frame [] (by simpa using same)]
    exact List.append_nil _

theorem alone_changes (frames : List Frame) (layer : ℕ) :
    SharedCells.alone rateStat (changes frames) layer = MovingIntervalRateStat.after 500 10 (samplesOf frames layer) := by
  induction frames using List.reverseRecOn with
  | nil => rfl
  | append_singleton frames frame ih =>
      have one : changes [frame] = [(frame.layer, countFrame frame.time)] := rfl
      rw [changes_append, one, SharedCells.alone_concat, ih, samplesOf_concat]
      by_cases same : frame.layer = layer
      · rw [if_pos same, if_pos same, after_concat]
        dsimp only
        rw [countFrame]
      · rw [if_neg same, if_neg same]

/-- Frames of one layer are seen in no other rate, and every rate is that of the layer's own frames. -/
structure Independent (start : ℤ) (inputs : List Input) : Prop where
  undisturbed : ∀ earlier frame later,
    framesOf (Machine.outputs step (create start) inputs) = earlier ++ frame :: later →
      ∀ other < maxTemporalLayers, other ≠ frame.layer → ∀ now,
        ((counting start earlier).increment frame).rateValue other now = (counting start earlier).rateValue other now
  own : ∀ layer < maxTemporalLayers, ∀ now,
    (Machine.run step (create start) inputs).rateValue layer now =
      ownRate (framesOf (Machine.outputs step (create start) inputs)) layer now

/-- The layers of a packet can be read: the descriptor of a VP9 packet ends inside `DataPacket::data`. -/
def Readable (handler : LayerDetectorHandler) (packet : LayeredPacket) : Prop :=
  Examined handler packet → packet.codec = "VP9" → (payloadVP9 packet).isSome

instance (handler : LayerDetectorHandler) (packet : LayeredPacket) : Decidable (Readable handler packet) :=
  inferInstanceAs (Decidable (_ → _ → _))

/-- A packet can be read, and begins frames for no temporal layer but one. -/
def Only (layer : ℕ) (handler : LayerDetectorHandler) : Input → Prop
  | .read packet _ => Readable handler packet ∧ ∀ other ∈ newFrames handler packet, other = layer
  | _ => True

instance (layer : ℕ) (handler : LayerDetectorHandler) : ∀ input, Decidable (Only layer handler input)
  | .read packet _ =>
      inferInstanceAs (Decidable (Readable handler packet ∧ ∀ other ∈ newFrames handler packet, other = layer))
  | .notifyUpdate _ => isTrue trivial
  | .enable => isTrue trivial
  | .disable => isTrue trivial

theorem frames_of_only {layer : ℕ} {handler : LayerDetectorHandler} {inputs : List Input}
    (only : Machine.Guarded step (Only layer) handler inputs) :
    ∀ frame ∈ framesOf (Machine.outputs step handler inputs), frame.layer = layer := by
  induction inputs generalizing handler with
  | nil => exact fun _ member => absurd member List.not_mem_nil
  | cons input rest ih =>
      intro frame member
      rw [Machine.outputs, framesOf, List.flatMap_cons, List.mem_append] at member
      rcases member with here | later
      · cases input with
        | read packet readings =>
            obtain ⟨frames, -⟩ := counted_read handler packet readings
            have counted : frame ∈ (handler.read packet readings).frames := here
            rw [frames, List.nil_append, List.mem_map] at counted
            obtain ⟨other, begins, rfl⟩ := counted
            exact only.1.2 other begins
        | notifyUpdate list => exact absurd here List.not_mem_nil
        | enable => exact absurd here List.not_mem_nil
        | disable => exact absurd here List.not_mem_nil
      · exact ih only.2 frame later

/-- The rates when frames of one layer have been counted. -/
theorem rateValue_counting {layer : ℕ} {frames : List Frame} (single : ∀ frame ∈ frames, frame.layer = layer)
    (start : ℤ) {asked : ℕ} (inside : asked < maxTemporalLayers) (now : ℤ) :
    (counting start frames).rateValue asked now = ownRate frames asked now := by
  have same : ∀ first ∈ changes frames, ∀ second ∈ changes frames, first.1 = second.1 := by
    simp only [changes, List.forall_mem_map]
    exact fun first here second there => (single first here).trans (single second there).symm
  have read := @SharedCells.read_changeAll _ _ _ MovingIntervalRateStat.split rateStat maxTemporalLayers _
    (fun stat => stat.value rateScale (timePointToMs now)) (fun _ => rfl) _ same asked inside
  rw [← counting_rates start, alone_changes] at read
  obtain ⟨stat, loaded, value⟩ := Option.map_eq_some_iff.mp read
  rw [rateValue, loaded]
  exact value

/-- **The rates of a run in which frames of one temporal layer are counted are independent.** -/
theorem independent_of_only (start : ℤ) (inputs : List Input)
    (only : ∃ layer, Machine.Guarded step (Only layer) (create start) inputs) : Independent start inputs := by
  obtain ⟨layer, only⟩ := only
  have single := frames_of_only only
  refine ⟨fun earlier frame later all other inside different now => ?_, fun asked inside now => ?_⟩
  · rw [all] at single
    have before : ∀ frame ∈ earlier, frame.layer = layer := fun frame member =>
      single frame (List.mem_append_left _ member)
    have after : ∀ counted ∈ earlier ++ [frame], counted.layer = layer := fun counted member =>
      single counted (by simp only [List.mem_append, List.mem_cons, List.not_mem_nil] at member ⊢; tauto)
    have unseen : samplesOf (earlier ++ [frame]) other = samplesOf earlier other := by
      rw [samplesOf_concat, if_neg different.symm]
    rw [← counting_concat, rateValue_counting after start inside, rateValue_counting before start inside, ownRate, unseen,
      ownRate]
  · rw [← rateValue_counting single start inside, rateValue, run_rates, rateValue]

/-- Two frames of H264 packets, which have one temporal layer. -/
theorem independent_of_only_h264 :
    Independent 0 [.read (codedPacket "H264" 7 [28, 0x81, 0]) (.still 10000000000),
      .read (codedPacket "H264" 7 [28, 0x81, 0]) (.still 10040000000)] :=
  independent_of_only 0 _ ⟨0, by decide +kernel⟩

/-- A VP8 frame of the lowest layer is counted three times in one vector. -/
theorem not_independent_vp8 :
    ¬Independent 0 [.read (codedPacket "VP8" 7 [0x90, 0x20, 0, 1]) (.still 10000000000)] := fun independent =>
  absurd (independent.own 1 (by decide) 10500000000) (by decide +kernel)

end LayerDetectorHandler

end Erizo
