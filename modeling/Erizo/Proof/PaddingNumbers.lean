/-
**What the padding generator writes has a number of its own.**

The handler never skips a number, so that every entry of its translator is valid (`Plain`), and the translator rejects
a packet exactly when its number is before the window. The handler writes the answer's number into the packet in any
case.

* `assigned_iff`: the numbers of what is written are assigned, exactly in the runs without a video packet before the
  window.
-/

import Erizo.Model.RtpPaddingGeneratorHandler
import Erizo.Proof.Faithful

namespace Erizo

open Library Library.Serial RtpUtils

namespace SequenceNumberTranslator

variable {config : Config} {translator : SequenceNumberTranslator config}

/-! ### Translators that skip nothing -/

/-- The entry of a cell is valid, as that of an unused cell is. -/
def IsValid (cell : Option SequenceNumber) : Prop := (cell.getD default).type = .valid

/-- **No entry of a translator was skipped or discarded.** -/
def Plain (translator : SequenceNumberTranslator config) : Prop :=
  ∀ address, IsValid (translator.inOutBuffer.get address)

theorem plain_init (config : Config) : (init config).Plain := fun _ => rfl

theorem isValid_newEntry (translator : SequenceNumberTranslator config) (input : UInt16) (index : ℕ) :
    IsValid (some (translator.newEntry input false index)) := by
  show (translator.newEntry input false index).type = .valid
  unfold newEntry
  split
  · rfl
  · rfl

theorem plain_afterNew (plain : translator.Plain) (input : UInt16) : (translator.afterNew input false).Plain :=
  RingBuffer.forall_get_writeRun plain _ (isValid_newEntry translator input) _

theorem plain_afterFirst (plain : translator.Plain) (input : UInt16) : (translator.afterFirst input).Plain :=
  RingBuffer.forall_get_set plain _ rfl

theorem Plain.lateEntry_type (plain : translator.Plain) (input : UInt16) :
    (translator.lateEntry input false).type = .valid := by
  have valid : (translator.internalGet input).type = .valid := plain _
  unfold lateEntry
  simp only [if_pos valid]
  rfl

theorem plain_afterLate (plain : translator.Plain) (input : UInt16) : (translator.afterLate input false).Plain := by
  have valid : (translator.internalGet input).type = .valid := plain _
  show ∀ address, IsValid ((translator.afterLate input false).inOutBuffer.get address)
  unfold afterLate
  simp only [if_pos valid]
  exact RingBuffer.forall_get_set plain _ (plain.lateEntry_type input)

/-- A number lies before the window of a translator. -/
def BeforeWindow (translator : SequenceNumberTranslator config) (input : UInt16) : Prop :=
  translator.initialized = true ∧ numberLessThan input translator.firstInput config.bits = true

instance (translator : SequenceNumberTranslator config) : DecidablePred translator.BeforeWindow := fun _ =>
  inferInstanceAs (Decidable (_ ∧ _))

/-- A number of the window, or after it and near, is not far from the start. -/
theorem window_lt (serial : config.Serial) (spanned : translator.span ≤ config.maxDistance.toNat) {input : UInt16}
    (near : ahead config.bits input translator.lastInput ≤ translator.span ∨
      translator.span + ahead config.bits translator.lastInput input < 2 ^ (config.bits - 4)) :
    ahead config.bits translator.firstInput input < 2 ^ (config.bits - 4) := by
  have short := span_lt serial spanned
  have twice := two_mul_threshold_le serial
  have split := ahead_triangle serial.narrow translator.firstInput translator.lastInput input
  rcases near with inside | onward
  · exact lt_of_le_of_lt ((window_iff serial translator input).mpr inside) short
  · unfold span at *
    omega

/-- **A translator that skips nothing rejects what is before its window**, and nothing else. -/
theorem Plain.get (serial : config.Serial) (plain : translator.Plain) (spanned : translator.Spanned) (input : UInt16) :
    (translator.get input false).1.Plain ∧
      ((translator.get input false).2.type = .valid ↔ ¬translator.BeforeWindow input) ∧
      (translator.get input false).2.type ≠ .generated := by
  by_cases started : translator.initialized = true
  · have old := numberLessThan_iff input translator.firstInput serial.wide serial.narrow
    rcases get_cases serial translator started (spanned started) input false with
      ⟨far, same⟩ | ⟨new, near, same⟩ | ⟨inside, same⟩
    · rw [same]
      exact ⟨plain, iff_of_false SequenceNumberType.noConfusion (not_not_intro ⟨started, old.mpr far⟩),
        SequenceNumberType.noConfusion⟩
    · rw [same]
      have inside := window_lt serial (spanned started) (Or.inr near)
      exact ⟨plain_afterNew plain input, iff_of_true rfl fun before => absurd (old.mp before.2) (not_le.mpr inside),
        SequenceNumberType.noConfusion⟩
    · rw [same, getLate_eq translator started]
      have inside := window_lt serial (spanned started) (Or.inl inside)
      have valid := plain.lateEntry_type input
      exact ⟨plain_afterLate plain input, iff_of_true valid fun before => absurd (old.mp before.2) (not_le.mpr inside),
        fun generated => SequenceNumberType.noConfusion (valid.symm.trans generated)⟩
  · have waiting : translator.initialized = false := by simpa using started
    rw [get_waiting translator waiting, getFirst_forward translator waiting]
    exact ⟨plain_afterFirst plain input, iff_of_true rfl fun before => started before.1, SequenceNumberType.noConfusion⟩

end SequenceNumberTranslator

namespace RtpPaddingGeneratorHandler

variable {handler : RtpPaddingGeneratorHandler}

/-! ### What is written -/

/-- **A video packet has the number that the translator returned for it**, and the translator did not reject it. -/
def Assigned (sent : Sent) : Prop :=
  isVideoRtp sent.packet = true → ∃ answer, sent.answer = some answer ∧
    (answer.type = .valid ∨ answer.type = .generated) ∧ RtpHeader.getSeqNumber sent.packet.data = answer.output

/-- No video packet before the window is written. -/
def InTime (handler : RtpPaddingGeneratorHandler) : Event → Prop
  | .write packet _ =>
      isVideoRtp packet = true → ¬handler.translator.BeforeWindow (RtpHeader.getSeqNumber packet.data)
  | .expire _ => True
  | .notifyUpdate _ => True

/-- **The handler's translator skips nothing.** -/
structure Keeps (handler : RtpPaddingGeneratorHandler) : Prop where
  plain : handler.translator.Plain
  spanned : handler.translator.Spanned

theorem keeps_create : create.Keeps :=
  ⟨SequenceNumberTranslator.plain_init _, fun running => absurd running Bool.false_ne_true⟩

theorem getSeqNumber_setSeqNumber (data : Bytes.Memory) (number : UInt16) :
    RtpHeader.getSeqNumber (RtpHeader.setSeqNumber data number) = number := Bytes.read16_write16 data 2 number

/-- Padding packets have generated numbers. -/
theorem sendPaddingPacket_keeps (keeps : handler.Keeps) (packet : DataPacket) (paddingSize : UInt8) (consume : Bool) :
    (handler.sendPaddingPacket packet paddingSize consume).1.Keeps ∧
      ∀ sent ∈ (handler.sendPaddingPacket packet paddingSize consume).2, Assigned sent := by
  unfold sendPaddingPacket
  split
  · exact ⟨keeps, fun _ member => absurd member List.not_mem_nil⟩
  · split
    · exact ⟨keeps, fun _ member => absurd member List.not_mem_nil⟩
    · refine ⟨⟨keeps.plain, keeps.spanned⟩, fun sent member => ?_⟩
      obtain rfl := List.mem_singleton.mp member
      exact fun _ => ⟨_, rfl, Or.inr rfl, getSeqNumber_setSeqNumber _ _⟩

theorem sendFullPaddingPackets_keeps (packet : DataPacket) (consume : ℕ → Bool) (count : ℕ) (keeps : handler.Keeps) :
    (sendFullPaddingPackets packet consume count handler).1.Keeps ∧
      ∀ sent ∈ (sendFullPaddingPackets packet consume count handler).2, Assigned sent := by
  induction count with
  | zero => exact ⟨keeps, fun _ member => absurd member List.not_mem_nil⟩
  | succ count ih =>
      obtain ⟨next, last⟩ := sendPaddingPacket_keeps ih.1 packet maxPaddingSize (consume count)
      exact ⟨next, List.forall_mem_append.mpr ⟨ih.2, last⟩⟩

theorem onPacketWithMarkerSet_keeps (keeps : handler.Keeps) (packet : DataPacket) (consume : ℕ → Bool) :
    (handler.onPacketWithMarkerSet packet consume).1.Keeps ∧
      ∀ sent ∈ (handler.onPacketWithMarkerSet packet consume).2, Assigned sent := by
  obtain ⟨full, each⟩ := sendFullPaddingPackets_keeps packet consume handler.numberOfFullPaddingPackets keeps
  obtain ⟨last, rest⟩ := sendPaddingPacket_keeps full packet
    (sendFullPaddingPackets packet consume handler.numberOfFullPaddingPackets handler).1.lastPaddingPacketSize
    (consume handler.numberOfFullPaddingPackets)
  exact ⟨⟨last.plain, last.spanned⟩, List.forall_mem_append.mpr ⟨each, rest⟩⟩

theorem onVideoPacket_keeps (keeps : handler.Keeps) (packet : DataPacket) (surroundings : Surroundings) :
    (handler.onVideoPacket packet surroundings).1.Keeps ∧
      ∀ sent ∈ (handler.onVideoPacket packet surroundings).2, Assigned sent := by
  have rate : (handler.recalculatePaddingRate surroundings.paddingRate).Keeps := by
    cases surroundings.paddingRate with
    | none => exact keeps
    | some numbers => exact ⟨keeps.plain, keeps.spanned⟩
  unfold onVideoPacket
  split
  · exact ⟨keeps, fun _ member => absurd member List.not_mem_nil⟩
  · simp only
    split
    · exact onPacketWithMarkerSet_keeps rate packet surroundings.consume
    · exact ⟨rate, fun _ member => absurd member List.not_mem_nil⟩

/-- What `isHigherSequenceNumber` writes is assigned unless it comes from before the window. -/
theorem isHigherSequenceNumber_keeps (keeps : handler.Keeps) {packet : DataPacket} (media : isVideoRtp packet = true) :
    (handler.isHigherSequenceNumber packet).1.Keeps ∧
      (Assigned (handler.isHigherSequenceNumber packet).2.1 ↔
        ¬handler.translator.BeforeWindow (RtpHeader.getSeqNumber packet.data)) := by
  obtain ⟨plain, valid, asked⟩ :=
    keeps.plain.get Config.standard_serial keeps.spanned (RtpHeader.getSeqNumber packet.data)
  have spanned := SequenceNumberTranslator.spanned_step Config.standard_serial handler.translator
    (.get (RtpHeader.getSeqNumber packet.data) false) keeps.spanned
  have sent : (handler.isHigherSequenceNumber packet).2.1 =
      ⟨{ packet with
          data := RtpHeader.setSeqNumber packet.data
            (handler.translator.get (RtpHeader.getSeqNumber packet.data) false).2.output },
        some (handler.translator.get (RtpHeader.getSeqNumber packet.data) false).2⟩ := by
    unfold isHigherSequenceNumber
    simp only
    split
    · rfl
    · rfl
  have next : (handler.isHigherSequenceNumber packet).1.translator =
      (handler.translator.get (RtpHeader.getSeqNumber packet.data) false).1 := by
    unfold isHigherSequenceNumber
    simp only
    split
    · rfl
    · rfl
  refine ⟨⟨next ▸ plain, next ▸ spanned⟩, ?_⟩
  rw [sent, ← valid]
  refine ⟨fun assigned => ?_, fun valid _ => ⟨_, rfl, Or.inl valid, getSeqNumber_setSeqNumber _ _⟩⟩
  obtain ⟨answer, same, type, _⟩ := assigned media
  obtain rfl := Option.some.inj same
  exact type.resolve_right asked

/-- **What an event writes is assigned**, exactly if the event writes no video packet from before the window. -/
theorem step_keeps (keeps : handler.Keeps) (event : Event) :
    (handler.step event).1.Keeps ∧ ((∀ sent ∈ (handler.step event).2, Assigned sent) ↔ handler.InTime event) := by
  cases event with
  | write packet surroundings =>
      show (handler.write packet surroundings).1.Keeps ∧
        ((∀ sent ∈ (handler.write packet surroundings).2, Assigned sent) ↔
          (isVideoRtp packet = true → ¬handler.translator.BeforeWindow (RtpHeader.getSeqNumber packet.data)))
      unfold write
      by_cases media : isVideoRtp packet = true
      · have unscheduled : ({ handler with scheduledTask := none } : RtpPaddingGeneratorHandler).Keeps :=
          ⟨keeps.plain, keeps.spanned⟩
        obtain ⟨next, assigned⟩ := isHigherSequenceNumber_keeps unscheduled media
        have inTime := assigned.trans (Iff.intro (fun fits _ => fits) fun fits => fits media :
          ¬handler.translator.BeforeWindow (RtpHeader.getSeqNumber packet.data) ↔
            (isVideoRtp packet = true → ¬handler.translator.BeforeWindow (RtpHeader.getSeqNumber packet.data)))
        rw [if_pos media]
        simp only
        split
        · obtain ⟨rest, padding⟩ := @onVideoPacket_keeps { (isHigherSequenceNumber { handler with
            scheduledTask := none } packet).1 with firstPacketReceived := true } ⟨next.plain, next.spanned⟩ _ surroundings
          exact ⟨rest, List.forall_mem_cons.trans ((and_iff_left padding).trans inTime)⟩
        · exact ⟨⟨next.plain, next.spanned⟩, List.forall_mem_singleton.trans inTime⟩
      · rw [if_neg media]
        refine ⟨keeps, iff_of_true (fun sent member => ?_) fun video => absurd video media⟩
        obtain rfl := List.mem_singleton.mp member
        exact fun video => absurd video media
  | expire surroundings =>
      have expired : (handler.step (.expire surroundings)).1.Keeps ∧
          ∀ sent ∈ (handler.step (.expire surroundings)).2, Assigned sent := by
        rw [step]
        cases handler.scheduledTask with
        | none => exact ⟨keeps, fun _ member => absurd member List.not_mem_nil⟩
        | some packet => exact onPacketWithMarkerSet_keeps keeps packet surroundings.consume
      exact ⟨expired.1, iff_of_true expired.2 trivial⟩
  | notifyUpdate isPaddingEnabled =>
      have same : (handler.notifyUpdate isPaddingEnabled).translator = handler.translator := by
        unfold notifyUpdate
        split
        · rfl
        · split
          · rfl
          · rfl
      exact ⟨⟨same ▸ keeps.plain, same ▸ keeps.spanned⟩,
        iff_of_true (fun _ member => absurd member List.not_mem_nil) trivial⟩

/-! ### Runs -/

/-- **Every number that is written is assigned**, exactly in the runs in which no video packet comes from before the
translator's window. -/
theorem assigned_iff (events : List Event) :
    (∀ written ∈ Machine.outputs step create events, ∀ sent ∈ written, Assigned sent) ↔
      Machine.Guarded step InTime create events :=
  (@Machine.guarded_iff_outputs_of_invariant _ _ _ step InTime (fun written => ∀ sent ∈ written, Assigned sent) Keeps
    (fun _ event keeps => (step_keeps keeps event).1) (fun _ event keeps => (step_keeps keeps event).2.symm) _
    keeps_create events).symm

/-- A packet is written before one that was sent earlier. -/
def lateOnce : List Event :=
  [.write (mediaPacket 1000) ⟨none, fun _ => true, id⟩, .write (mediaPacket 999) ⟨none, fun _ => true, id⟩]

/-- The late packet is rejected and sent with the number 0. -/
theorem not_assigned_lateOnce :
    ¬∀ events, ∀ written ∈ Machine.outputs step create events, ∀ sent ∈ written, Assigned sent := by
  intro all
  obtain ⟨answer, same, type, _⟩ :=
    all lateOnce _ (List.mem_cons_of_mem _ List.mem_cons_self) _ List.mem_cons_self (by decide +kernel)
  obtain rfl := Option.some.inj same
  exact absurd type (by decide)

end RtpPaddingGeneratorHandler

end Erizo
