/-
**A recording across the wraparound of numbers and times.**

A gap is looked for with the successor of an `int`, and a time below the first is corrected by one less than `2 ^ 32`.

* `timestampToWrite_eq_iff`: the time that is written is the right one, unless it has wrapped around and its distance from
  the first is a multiple of the divisor.
* `survives_iff`: in a run over consecutive numbers, nothing is reset and all times are right if and only if no packet with
  the number 0 comes when there is a depacketizer, and no time that is written is of that kind.
-/

import Erizo.Library.Machine
import Erizo.Model.ExternalOutput

namespace Erizo

open Library RtpHeader

namespace ExternalOutput

/-! ### The time that is written -/

/-- How far a time is from the first. -/
def distance (first timestamp : UInt32) : ℕ := (timestamp - first).toNat

theorem distance_of_le {first timestamp : UInt32} (later : first ≤ timestamp) :
    distance first timestamp = timestamp.toNat - first.toNat := UInt32.toNat_sub_of_le _ _ later

theorem distance_of_lt {first timestamp : UInt32} (wrapped : timestamp < first) :
    distance first timestamp + first.toNat = timestamp.toNat + 2 ^ 32 := by
  have below := UInt32.lt_iff_toNat_lt.mp wrapped
  have brief := first.toNat_lt
  rw [distance, UInt32.toNat_sub]
  omega

/-- The time before the offset is added. -/
theorem timestampToWrite_eq (first timestamp : UInt32) (divisor : ℕ) :
    timestampToWrite first.toNat timestamp divisor =
      (((distance first timestamp - if timestamp < first then 1 else 0) / divisor : ℕ) : ℤ) := by
  unfold timestampToWrite
  dsimp only
  split
  · next wrapped =>
      have before : timestamp < first := UInt32.lt_iff_toNat_lt.mpr (by omega)
      have apart := distance_of_lt before
      have brief := first.toNat_lt
      have dividend : (timestamp.toNat : ℤ) + 0xFFFFFFFF - first.toNat = (distance first timestamp - 1 : ℕ) := by omega
      rw [if_pos before, dividend]
      rfl
  · next forward =>
      have after : first ≤ timestamp := UInt32.le_iff_toNat_le.mpr (by omega)
      have apart := distance_of_le after
      have dividend : (timestamp.toNat : ℤ) - first.toNat = (distance first timestamp : ℕ) := by omega
      rw [if_neg (UInt32.not_lt.mpr after), dividend]
      rfl

/-- A dividend that is one too small. -/
theorem pred_div_eq_iff {dividend divisor : ℕ} (positive : 0 < dividend) :
    (dividend - 1) / divisor = dividend / divisor ↔ ¬divisor ∣ dividend := by
  obtain ⟨less, rfl⟩ : ∃ less, dividend = less + 1 := ⟨dividend - 1, by omega⟩
  rw [Nat.add_sub_cancel, Nat.succ_div]
  split
  · next divides => exact iff_of_false (by omega) (not_not.mpr divides)
  · next apart => exact iff_of_true (Nat.add_zero _).symm apart

/-- **The time that is written is right** unless it has wrapped around to a multiple of the divisor. -/
theorem timestampToWrite_eq_iff (first timestamp : UInt32) (divisor : ℕ) :
    timestampToWrite first.toNat timestamp divisor = ((distance first timestamp / divisor : ℕ) : ℤ) ↔
      (timestamp < first → ¬divisor ∣ distance first timestamp) := by
  rw [timestampToWrite_eq, Int.natCast_inj]
  by_cases wrapped : timestamp < first
  · have apart := distance_of_lt wrapped
    have brief := first.toNat_lt
    rw [if_pos wrapped, pred_div_eq_iff (by omega), forall_prop_of_true wrapped]
  · rw [if_neg wrapped, Nat.sub_zero]
    exact iff_of_true rfl fun here => absurd here wrapped

/-- Times further on are not written as less. -/
theorem timestampToWrite_mono {first earlier later : UInt32} (ordered : distance first earlier ≤ distance first later)
    (divisor : ℕ) : timestampToWrite first.toNat earlier divisor ≤ timestampToWrite first.toNat later divisor := by
  rw [timestampToWrite_eq, timestampToWrite_eq]
  refine Int.ofNat_le.mpr (Nat.div_le_div_right ?_)
  by_cases after : later < first
  · by_cases before : earlier < first
    · rw [if_pos before, if_pos after]
      omega
    · have near := distance_of_le (UInt32.not_lt.mp before)
      have far := distance_of_lt after
      have brief := earlier.toNat_lt
      rw [if_neg before, if_pos after]
      omega
  · rw [if_neg after]
    omega

/-! ### The two streams -/

/-- The first time of a stream. -/
def firstTimestamp (output : ExternalOutput) : StreamIndex → ℤ
  | .video => output.firstVideoTimestamp
  | .audio => output.firstAudioTimestamp

/-- The divisor and the offset of a stream. -/
def rate (output : ExternalOutput) : StreamIndex → Option (ℕ × ℤ)
  | .video => output.videoStream.map fun den =>
      (output.videoMap.clockRate.toNat / den, output.videoOffsetMs.tdiv (1000 / den : ℕ))
  | .audio => output.audioStream.map fun stream =>
      (stream.1 / stream.2, output.audioOffsetMs.tdiv (1000 / stream.2 : ℕ))

/-- A video stream has a codec. -/
def Settled (output : ExternalOutput) : Prop := output.videoStream.isSome → output.videoCodec ≠ .none

/-- A stream keeps its divisor and its offset. -/
structure Continues (before after : ExternalOutput) : Prop where
  settled : after.Settled
  rates : ∀ index rate, before.rate index = some rate → after.rate index = some rate

/-- What times and numbers are compared with stays as well. -/
structure Keeps (before after : ExternalOutput) : Prop extends Continues before after where
  first : after.firstTimestamp = before.firstTimestamp
  number : after.lastVideoSequenceNumber = before.lastVideoSequenceNumber

theorem Continues.trans {first second third : ExternalOutput} (before : Continues first second)
    (after : Continues second third) : Continues first third :=
  ⟨after.settled, fun index rate here => after.rates index rate (before.rates index rate here)⟩

theorem Keeps.trans {first second third : ExternalOutput} (before : Keeps first second) (after : Keeps second third) :
    Keeps first third :=
  ⟨before.toContinues.trans after.toContinues, after.first.trans before.first, after.number.trans before.number⟩

section Parts

variable (libav : Libav) {output : ExternalOutput}

theorem Keeps.refl (settled : output.Settled) : Keeps output output := ⟨⟨settled, fun _ _ here => here⟩, rfl, rfl⟩

/-- `initContext` makes streams where there are none, or does nothing. -/
theorem initContext_cases (output : ExternalOutput) : output.initContext libav = output ∨
    output.videoCodec ≠ .none ∧ output.videoStream = none ∧ output.audioStream = none ∧
      ∃ videoStream audioStream, output.initContext libav = { output with videoStream, audioStream } := by
  unfold initContext
  by_cases fresh : output.videoCodec ≠ .none ∧ output.audioCodec ≠ .none ∧ output.videoStream = none ∧
      output.audioStream = none
  · rw [if_pos fresh]
    obtain ⟨codec, _, noVideo, noAudio⟩ := fresh
    dsimp only
    split
    · refine Or.inr ⟨codec, noVideo, noAudio, ?_⟩
      split
      · split <;> exact ⟨_, _, rfl⟩
      · exact ⟨_, _, rfl⟩
    · exact Or.inl rfl
  · exact Or.inl (if_neg fresh)

theorem keeps_initContext (settled : output.Settled) : Keeps output (output.initContext libav) := by
  rcases initContext_cases libav output with same | ⟨codec, noVideo, noAudio, _, _, same⟩
  · rw [same]
    exact Keeps.refl settled
  · rw [same]
    refine ⟨⟨fun _ => codec, fun index rate here => ?_⟩, rfl, rfl⟩
    cases index with
    | video => simp [ExternalOutput.rate, noVideo] at here
    | audio => simp [ExternalOutput.rate, noAudio] at here

theorem depacketizer_initContext (output : ExternalOutput) :
    (output.initContext libav).depacketizer = output.depacketizer := by
  rcases initContext_cases libav output with same | ⟨_, _, _, _, _, same⟩ <;> rw [same]

/-- The codec of audio, once it is known, or the map before it is. -/
theorem updateAudioCodec_cases (output : ExternalOutput) (map : RtpMap) :
    ∃ audioMap audioCodec, output.updateAudioCodec map = { output with audioMap, audioCodec } := by
  unfold updateAudioCodec
  split
  · exact ⟨_, _, rfl⟩
  · dsimp only
    split
    · exact ⟨_, _, rfl⟩
    · split <;> exact ⟨_, _, rfl⟩

theorem keeps_updateAudioCodec (map : RtpMap) (settled : output.Settled) :
    Keeps output (output.updateAudioCodec map) := by
  obtain ⟨_, _, same⟩ := updateAudioCodec_cases output map
  rw [same]
  exact ⟨⟨settled, fun index _ here => by cases index <;> exact here⟩, rfl, rfl⟩

/-- The codec of video is looked for before there is a video stream. -/
theorem updateVideoCodec_cases (output : ExternalOutput) (map : RtpMap) : output.updateVideoCodec map = output ∨
    output.videoCodec = .none ∧ ∃ videoMap videoCodec depacketizer,
      output.updateVideoCodec map = { output with videoMap, videoCodec, depacketizer } := by
  unfold updateVideoCodec
  split
  · exact Or.inl rfl
  · next unknown =>
      refine Or.inr ⟨not_not.mp unknown, ?_⟩
      dsimp only
      split
      · exact ⟨_, _, _, rfl⟩
      · split <;> exact ⟨_, _, _, rfl⟩

theorem keeps_updateVideoCodec (map : RtpMap) (settled : output.Settled) :
    Keeps output (output.updateVideoCodec map) := by
  rcases updateVideoCodec_cases output map with same | ⟨unknown, _, _, _, same⟩
  · rw [same]
    exact Keeps.refl settled
  · have none : output.videoStream = none := by
      cases stream : output.videoStream with
      | none => rfl
      | some den => exact absurd unknown (settled (by rw [stream]; rfl))
    rw [same]
    refine ⟨⟨fun some => ?_, fun index rate here => ?_⟩, rfl, rfl⟩
    · simp [none] at some
    · cases index with
      | video => simp [ExternalOutput.rate, none] at here
      | audio => exact here

/-- What is written is what it was computed from. -/
theorem writeFrame_spec {streamIndex : StreamIndex} {first offsetMs : ℤ} {timestamp : UInt32} {divisor den : ℕ}
    {data : List UInt8} {written : AVPacket}
    (here : writeFrame streamIndex first timestamp divisor offsetMs den data = some written) :
    written.streamIndex = streamIndex ∧ written.timestamp = timestamp ∧ written.divisor = divisor ∧
      written.offset = offsetMs.tdiv (1000 / den : ℕ) ∧
      written.pts = timestampToWrite first timestamp divisor + offsetMs.tdiv (1000 / den : ℕ) := by
  unfold writeFrame at here
  split at here
  · exact (nomatch here)
  · rw [← Option.some.inj here]
    exact ⟨rfl, rfl, rfl, rfl, rfl⟩

end Parts

/-! ### Steps -/

/-- The packets that are written. -/
def writes (effects : List RecordingEffect) : List AVPacket :=
  effects.filterMap fun effect =>
    match effect with
    | .write packet => some packet
    | .reset => none

/-- What a packet of a stream does: the streams go on, its time is the first if there was none, and at most one packet is
written, with the time from the stream's first time, divisor and offset. -/
structure Steps (before : ExternalOutput) (index : StreamIndex) (timestamp : UInt32)
    (result : Option ExternalOutput × List RecordingEffect) : Prop where
  continues : ∀ after ∈ result.1, Continues before after
  first : ∀ after ∈ result.1, ∀ other, after.firstTimestamp other =
    if other = index ∧ before.firstTimestamp other = -1 then (timestamp.toNat : ℤ) else before.firstTimestamp other
  written : writes result.2 = [] ∨ ∃ written after, writes result.2 = [written] ∧ result.1 = some after ∧
    written.streamIndex = index ∧ written.timestamp = timestamp ∧
    after.rate index = some (written.divisor, written.offset) ∧
    written.pts = timestampToWrite (after.firstTimestamp index) timestamp written.divisor + written.offset

section Steps

variable (libav : Libav) {output : ExternalOutput} (packet : DataPacket)

theorem prepareAudio_spec (settled : output.Settled) :
    Continues output (output.prepareAudio libav packet) ∧
      (∀ other, (output.prepareAudio libav packet).firstTimestamp other =
        if other = .audio ∧ output.firstTimestamp other = -1 then ((getTimestamp packet.data).toNat : ℤ)
        else output.firstTimestamp other) ∧
      (output.prepareAudio libav packet).lastVideoSequenceNumber = output.lastVideoSequenceNumber ∧
      (output.prepareAudio libav packet).depacketizer = output.depacketizer := by
  unfold prepareAudio
  extract_lets numbered timed coded
  have atTimed : Continues output timed ∧ (∀ other, timed.firstTimestamp other =
      if other = .audio ∧ output.firstTimestamp other = -1 then ((getTimestamp packet.data).toNat : ℤ)
      else output.firstTimestamp other) ∧ timed.lastVideoSequenceNumber = output.lastVideoSequenceNumber ∧
      timed.depacketizer = output.depacketizer := by
    by_cases fresh : output.firstAudioTimestamp = -1
    · have same : timed = { numbered with firstAudioTimestamp := (getTimestamp packet.data).toNat } := if_pos fresh
      rw [same]
      refine ⟨⟨settled, fun index _ here => by cases index <;> exact here⟩, fun other => ?_, rfl, rfl⟩
      cases other with
      | video => exact (if_neg fun both => absurd both.1 (by decide)).symm
      | audio => exact (if_pos ⟨rfl, fresh⟩).symm
    · have same : timed = numbered := if_neg fresh
      rw [same]
      refine ⟨⟨settled, fun index _ here => by cases index <;> exact here⟩, fun other => ?_, rfl, rfl⟩
      cases other with
      | video => exact (if_neg fun both => absurd both.1 (by decide)).symm
      | audio => exact (if_neg fun both => fresh both.2).symm
  have atCoded : Keeps timed coded ∧ coded.depacketizer = timed.depacketizer := by
    unfold coded
    cases timed.audioMaps (getPayloadType packet.data) with
    | some map =>
        obtain ⟨_, _, same⟩ := updateAudioCodec_cases timed map
        have kept : (timed.updateAudioCodec map).depacketizer = timed.depacketizer := by rw [same]
        exact ⟨keeps_updateAudioCodec map atTimed.1.settled, kept⟩
    | none => exact ⟨Keeps.refl atTimed.1.settled, rfl⟩
  have onward := atCoded.1.trans (keeps_initContext libav atCoded.1.settled)
  refine ⟨atTimed.1.trans onward.toContinues, fun other => ?_, onward.number.trans atTimed.2.2.1,
    (depacketizer_initContext libav coded).trans (atCoded.2.trans atTimed.2.2.2)⟩
  rw [onward.first]
  exact atTimed.2.1 other

theorem prepareVideo_cases (output : ExternalOutput) : ∃ depacketizer, output.prepareVideo packet = { output with
    depacketizer
    lastVideoSequenceNumber := getSeqNumber packet.data
    firstVideoTimestamp := if output.firstVideoTimestamp = -1 then ((getTimestamp packet.data).toNat : ℤ)
      else output.firstVideoTimestamp } := by
  unfold prepareVideo
  by_cases gap : output.isUnexpected packet = true
  · rw [if_pos gap]
    dsimp only
    by_cases fresh : output.firstVideoTimestamp = -1
    · exact ⟨_, by rw [if_pos fresh, if_pos fresh]⟩
    · exact ⟨_, by rw [if_neg fresh, if_neg fresh]⟩
  · rw [if_neg gap]
    dsimp only
    by_cases fresh : output.firstVideoTimestamp = -1
    · exact ⟨_, by rw [if_pos fresh, if_pos fresh]⟩
    · exact ⟨_, by rw [if_neg fresh, if_neg fresh]⟩

theorem prepareVideo_spec (settled : output.Settled) :
    Continues output (output.prepareVideo packet) ∧
      (∀ other, (output.prepareVideo packet).firstTimestamp other =
        if other = .video ∧ output.firstTimestamp other = -1 then ((getTimestamp packet.data).toNat : ℤ)
        else output.firstTimestamp other) ∧
      (output.prepareVideo packet).lastVideoSequenceNumber = getSeqNumber packet.data := by
  obtain ⟨depacketizer, same⟩ := prepareVideo_cases packet output
  rw [same]
  refine ⟨⟨settled, fun index _ here => by cases index <;> exact here⟩, fun other => ?_, rfl⟩
  cases other with
  | video => simp [firstTimestamp]
  | audio => simp [firstTimestamp]

/-- A frame is written, with the times of the writer, or nothing is. -/
theorem maybeWriteVideoPacket_spec (settled : output.Settled) :
    (∀ after ∈ (output.maybeWriteVideoPacket libav packet).1, Keeps output after) ∧
      RecordingEffect.reset ∉ (output.maybeWriteVideoPacket libav packet).2 ∧
      (writes (output.maybeWriteVideoPacket libav packet).2 = [] ∨ ∃ written after,
        writes (output.maybeWriteVideoPacket libav packet).2 = [written] ∧
        (output.maybeWriteVideoPacket libav packet).1 = some after ∧
        written.streamIndex = .video ∧ written.timestamp = getTimestamp packet.data ∧
        after.rate .video = some (written.divisor, written.offset) ∧
        written.pts = timestampToWrite (after.firstTimestamp .video) (getTimestamp packet.data) written.divisor +
          written.offset) := by
  unfold maybeWriteVideoPacket
  split
  · exact ⟨fun _ absent => (nomatch absent), List.not_mem_nil, Or.inl rfl⟩
  · next depacketizer deliver _ =>
      have before : Keeps output { output with depacketizer := some depacketizer } :=
        ⟨⟨settled, fun index _ here => by cases index <;> exact here⟩, rfl, rfl⟩
      have onward := before.trans (keeps_initContext libav before.settled)
      generalize initContext libav { output with depacketizer := some depacketizer } = ready at onward ⊢
      dsimp only
      split
      · exact ⟨fun after here => Option.some.inj here ▸ onward, List.not_mem_nil, Or.inl rfl⟩
      · next den stream =>
          split
          · split
            · exact ⟨fun _ absent => (nomatch absent), List.not_mem_nil, Or.inl rfl⟩
            · next written made =>
                obtain ⟨index, timestamp, divisor, offset, pts⟩ := writeFrame_spec made
                refine ⟨fun after here => ?_, by simp, Or.inr ⟨written, _, rfl, rfl, index, timestamp, ?_, ?_⟩⟩
                · rw [← Option.some.inj here]
                  exact onward.trans ⟨⟨onward.settled, fun index _ here => by cases index <;> exact here⟩, rfl, rfl⟩
                · rw [divisor, offset, ExternalOutput.rate, stream]
                  rfl
                · rw [pts, divisor, offset]
                  rfl
          · exact ⟨fun after here => Option.some.inj here ▸ onward, List.not_mem_nil, Or.inl rfl⟩

theorem steps_audio (settled : output.Settled) :
    Steps output .audio (getTimestamp packet.data) (output.writeAudioData libav packet) ∧
      RecordingEffect.reset ∉ (output.writeAudioData libav packet).2 ∧
      ∀ after ∈ (output.writeAudioData libav packet).1,
        after.lastVideoSequenceNumber = output.lastVideoSequenceNumber ∧ after.depacketizer = output.depacketizer := by
  obtain ⟨continues, first, number, depacketizer⟩ := prepareAudio_spec libav packet settled
  unfold writeAudioData
  generalize output.prepareAudio libav packet = ready at continues first number depacketizer ⊢
  dsimp only
  split
  · refine ⟨⟨fun after here => ?_, fun after here => ?_, Or.inl rfl⟩, List.not_mem_nil, fun after here => ?_⟩
    · exact Option.some.inj here ▸ continues
    · exact Option.some.inj here ▸ first
    · exact Option.some.inj here ▸ ⟨number, depacketizer⟩
  · next sampleRate den stream =>
      split
      · exact ⟨⟨fun _ absent => (nomatch absent), fun _ absent => (nomatch absent), Or.inl rfl⟩, List.not_mem_nil,
          fun _ absent => (nomatch absent)⟩
      · next written made =>
          obtain ⟨index, timestamp, divisor, offset, pts⟩ := writeFrame_spec made
          refine ⟨⟨fun after here => ?_, fun after here => ?_, Or.inr ⟨written, _, rfl, rfl, index, timestamp, ?_, ?_⟩⟩,
            by simp, fun after here => ?_⟩
          · exact Option.some.inj here ▸ continues
          · exact Option.some.inj here ▸ first
          · rw [divisor, offset, ExternalOutput.rate, stream]
            rfl
          · rw [pts, divisor, offset]
            rfl
          · exact Option.some.inj here ▸ ⟨number, depacketizer⟩

theorem steps_video (settled : output.Settled) :
    Steps output .video (getTimestamp packet.data) (output.writeVideoData libav packet) ∧
      (RecordingEffect.reset ∈ (output.writeVideoData libav packet).2 ↔
        output.isUnexpected packet = true ∧ output.depacketizer.isSome = true) ∧
      ∀ after ∈ (output.writeVideoData libav packet).1, after.lastVideoSequenceNumber = getSeqNumber packet.data := by
  obtain ⟨continues, first, number⟩ := prepareVideo_spec packet settled
  have resets : ∀ effects, RecordingEffect.reset ∉ effects →
      (RecordingEffect.reset ∈ (if output.isUnexpected packet && output.depacketizer.isSome then
        [RecordingEffect.reset] else []) ++ effects ↔
        output.isUnexpected packet = true ∧ output.depacketizer.isSome = true) := by
    intro effects none
    cases output.isUnexpected packet <;> cases output.depacketizer.isSome <;> simp [none]
  have silent : ∀ effects, writes ((if output.isUnexpected packet && output.depacketizer.isSome then
      [RecordingEffect.reset] else []) ++ effects) = writes effects := by
    intro effects
    cases output.isUnexpected packet <;> cases output.depacketizer.isSome <;> rfl
  have resetsAlone := resets [] List.not_mem_nil
  have silentAlone := silent []
  rw [List.append_nil] at resetsAlone silentAlone
  unfold writeVideoData
  generalize output.prepareVideo packet = ready at continues first number ⊢
  dsimp only
  split
  · refine ⟨⟨fun after here => ?_, fun after here => ?_, Or.inl silentAlone⟩, resetsAlone, fun after here => ?_⟩
    · exact Option.some.inj here ▸ continues
    · exact Option.some.inj here ▸ first
    · exact Option.some.inj here ▸ number
  · next map _ =>
      have coded := keeps_updateVideoCodec map continues.settled
      split
      · obtain ⟨keeps, quiet, written⟩ := maybeWriteVideoPacket_spec libav packet coded.settled
        refine ⟨⟨fun after here => ?_, fun after here => ?_, ?_⟩, resets _ quiet, fun after here => ?_⟩
        · exact continues.trans (coded.trans (keeps after here)).toContinues
        · rw [(coded.trans (keeps after here)).first]
          exact first
        · rw [silent]
          exact written
        · exact (coded.trans (keeps after here)).number.trans number
      · refine ⟨⟨fun after here => ?_, fun after here => ?_, Or.inl silentAlone⟩, resetsAlone, fun after here => ?_⟩
        · exact Option.some.inj here ▸ continues.trans coded.toContinues
        · rw [← Option.some.inj here, coded.first]
          exact first
        · exact Option.some.inj here ▸ coded.number.trans number

end Steps

/-! ### Runs -/

namespace Event

/-- The stream of a packet. -/
def stream : Event → StreamIndex
  | .audio _ => .audio
  | .video _ => .video

/-- The packet. -/
def packet : Event → DataPacket
  | .audio packet => packet
  | .video packet => packet

/-- The time of the packet. -/
def timestamp (event : Event) : UInt32 := getTimestamp event.packet.data

end Event

/-- The times of a stream. -/
def timestamps (index : StreamIndex) (events : List Event) : List UInt32 :=
  (events.filter fun event => event.stream = index).map Event.timestamp

/-- The sequence numbers of video. -/
def videoNumbers (events : List Event) : List UInt16 :=
  (events.filter fun event => event.stream = .video).map fun event => getSeqNumber event.packet.data

/-- The first time of each stream. -/
def firstOf (events : List Event) (index : StreamIndex) : UInt32 := (timestamps index events).head?.getD 0

/-- Numbers that follow one another. -/
def Consecutive (numbers : List UInt16) : Prop := numbers.IsChain fun first second => second = first + 1

/-- Times that do not go back, counted on across a wraparound, and stay within one round of the first. -/
def WrapsOnce (times : List UInt32) : Prop :=
  ∃ counted : List ℕ, times = counted.map UInt32.ofNat ∧ counted.Pairwise (· ≤ ·) ∧
    ∀ first ∈ counted.head?, ∀ time ∈ counted, time < first + 2 ^ 32

/-- The packets of a stream that are written in a run. -/
def writesOf (index : StreamIndex) (outputs : List (List RecordingEffect)) : List AVPacket :=
  outputs.flatMap fun effects => (writes effects).filter fun written => written.streamIndex = index

/-- What one step may do: it does not reset, and what it writes has the time it should have. -/
def Right (first : StreamIndex → UInt32) (effects : List RecordingEffect) : Prop :=
  RecordingEffect.reset ∉ effects ∧ ∀ written ∈ writes effects,
    written.pts = ((distance (first written.streamIndex) written.timestamp / written.divisor : ℕ) : ℤ) + written.offset

/-- **A recording survives the wraparound**: the depacketizer is never reset for a gap, every packet and every frame is
written with its distance from the first time, in units of the file, and these times do not go back if those of the stream
do not. -/
structure Survives (libav : Libav) (start : ExternalOutput) (events : List Event) : Prop where
  right : ∀ effects ∈ Machine.outputs (step libav) (some start) events, Right (firstOf events) effects
  ordered : ∀ index, WrapsOnce (timestamps index events) →
    (writesOf index (Machine.outputs (step libav) (some start) events)).Pairwise fun earlier later =>
      earlier.pts ≤ later.pts

/-- A packet that does no harm: it has another number than 0 when there is a depacketizer, and what is written for it has
not wrapped around to a multiple of the divisor. -/
def Harmless (libav : Libav) (first : StreamIndex → UInt32) (state : Option ExternalOutput) (event : Event) : Prop :=
  (∀ output ∈ state, event.stream = .video → output.depacketizer.isSome = true →
    getSeqNumber event.packet.data ≠ 0) ∧
  ∀ written ∈ writes (step libav state event).2, written.timestamp < first written.streamIndex →
    ¬written.divisor ∣ distance (first written.streamIndex) written.timestamp

/-- A writer before its first packet. -/
structure Starting (output : ExternalOutput) : Prop where
  video : output.firstVideoTimestamp = -1
  audio : output.firstAudioTimestamp = -1
  videoStream : output.videoStream = none
  audioStream : output.audioStream = none
  videoCodec : output.videoCodec = .none
  depacketizer : output.depacketizer = none

section Runs

variable {libav : Libav} {output : ExternalOutput} {event : Event} {rest : List Event}

theorem steps_step (libav : Libav) (settled : output.Settled) (event : Event) :
    Steps output event.stream event.timestamp (step libav (some output) event) := by
  cases event with
  | audio packet => exact (steps_audio libav packet settled).1
  | video packet => exact (steps_video libav packet settled).1

/-- The writer is in step with what is still to come: the first times are known or come next, and the numbers go on. -/
def InStep (first : StreamIndex → UInt32) : Option ExternalOutput → List Event → Prop
  | none, _ => True
  | some output, rest => output.Settled ∧
      (∀ index, output.firstTimestamp index = (first index).toNat ∨
        output.firstTimestamp index = -1 ∧ ∀ time ∈ (timestamps index rest).head?, time = first index) ∧
      Consecutive (videoNumbers rest) ∧
      (output.depacketizer.isSome = true → Consecutive (output.lastVideoSequenceNumber :: videoNumbers rest))

/-- The first time after a packet of the stream is the first of the run. -/
theorem firstTimestamp_step {first : StreamIndex → UInt32} (inStep : InStep first (some output) (event :: rest))
    (after : ExternalOutput) (reached : (step libav (some output) event).1 = some after) :
    after.firstTimestamp event.stream = (first event.stream).toNat := by
  obtain ⟨settled, firsts, _⟩ := inStep
  rw [(steps_step libav settled event).first after reached event.stream]
  rcases firsts event.stream with known | ⟨unknown, next⟩
  · rw [known, if_neg (by omega)]
  · rw [if_pos ⟨rfl, unknown⟩, next event.timestamp (by simp [timestamps])]

theorem inStep_step {first : StreamIndex → UInt32} (inStep : InStep first (some output) (event :: rest)) :
    InStep first (step libav (some output) event).1 rest := by
  have known := @firstTimestamp_step libav _ _ _ _ inStep
  obtain ⟨settled, firsts, numbers, following⟩ := inStep
  cases reached : (step libav (some output) event).1 with
  | none => trivial
  | some after =>
      have steps := steps_step libav settled event
      refine ⟨(steps.continues after reached).settled, fun index => ?_, ?_⟩
      · by_cases here : index = event.stream
        · exact Or.inl (here ▸ known after reached)
        · rw [steps.first after reached index, if_neg fun both => here both.1]
          refine (firsts index).imp_right fun both => ⟨both.1, ?_⟩
          have other : ¬event.stream = index := fun same => here same.symm
          simpa [timestamps, other] using both.2
      · cases event with
        | audio packet =>
            obtain ⟨_, _, same⟩ := steps_audio libav packet settled
            obtain ⟨number, depacketizer⟩ := same after reached
            refine ⟨numbers, ?_⟩
            rw [number, depacketizer]
            exact following
        | video packet =>
            obtain ⟨_, _, number⟩ := steps_video libav packet settled
            rw [number after reached]
            exact ⟨List.IsChain.tail numbers, fun _ => numbers⟩

/-- What a step writes, it writes with the first time of the run. -/
theorem pts_step {first : StreamIndex → UInt32} (inStep : InStep first (some output) (event :: rest)) :
    ∀ written ∈ writes (step libav (some output) event).2, written.pts =
      timestampToWrite (first written.streamIndex).toNat written.timestamp written.divisor + written.offset := by
  have known := @firstTimestamp_step libav _ _ _ _ inStep
  intro written member
  rcases (steps_step libav inStep.1 event).written with none | ⟨other, after, only, reached, index, time, _, pts⟩
  · rw [none] at member
    exact absurd member List.not_mem_nil
  · rw [only, List.mem_singleton] at member
    subst member
    rw [pts, index, time, known after reached]

/-- A reset is one for the number 0. -/
theorem reset_mem_step_iff {first : StreamIndex → UInt32} (inStep : InStep first (some output) (event :: rest)) :
    RecordingEffect.reset ∉ (step libav (some output) event).2 ↔
      (event.stream = .video → output.depacketizer.isSome = true → getSeqNumber event.packet.data ≠ 0) := by
  obtain ⟨settled, _, _, following⟩ := inStep
  cases event with
  | audio packet => exact iff_of_true (steps_audio libav packet settled).2.1 fun other => (nomatch other)
  | video packet =>
      refine (not_congr (steps_video libav packet settled).2.1).trans (Iff.trans ?_ (forall_prop_of_true rfl).symm)
      by_cases collecting : output.depacketizer.isSome = true
      · have next : getSeqNumber packet.data = output.lastVideoSequenceNumber + 1 :=
          (List.isChain_cons_cons.mp (following collecting)).1
        rw [and_iff_left collecting, forall_prop_of_true collecting]
        refine not_congr ?_
        have brief := output.lastVideoSequenceNumber.toNat_lt
        show decide _ = true ↔ getSeqNumber packet.data = 0
        have one : (1 : UInt16).toNat = 1 := rfl
        rw [decide_eq_true_iff, next, ← UInt16.toNat_inj, UInt16.toNat_add, one]
        show ((_ : ℕ) : ℤ) ≠ _ ↔ _ = 0
        omega
      · exact iff_of_true (fun both => collecting both.2) fun here => absurd here collecting

/-- **A step is right** exactly if its packet does no harm. -/
theorem harmless_iff {first : StreamIndex → UInt32} (inStep : InStep first (some output) (event :: rest)) :
    Harmless libav first (some output) event ↔ Right first (step libav (some output) event).2 := by
  refine and_congr ?_ (forall₂_congr fun written member => ?_)
  · refine Iff.trans ?_ (reset_mem_step_iff inStep).symm
    exact ⟨fun all => all output rfl, fun here other same => Option.some.inj same ▸ here⟩
  · rw [pts_step inStep written member, Int.add_left_inj, timestampToWrite_eq_iff]

theorem guarded_iff (libav : Libav) {first : StreamIndex → UInt32} {state : Option ExternalOutput} {events : List Event}
    (inStep : InStep first state events) :
    Machine.Guarded (step libav) (Harmless libav first) state events ↔
      ∀ effects ∈ Machine.outputs (step libav) state events, Right first effects := by
  refine @Machine.guarded_iff_outputs_of_remaining _ _ _ _ _ _ (InStep first) (fun state event rest inStep => ?_)
    (fun state event rest inStep => ?_) _ _ inStep
  · cases state with
    | none => trivial
    | some output => exact inStep_step inStep
  · cases state with
    | none =>
        exact iff_of_true ⟨fun _ absent => (nomatch absent), fun _ absent => (nomatch absent)⟩
          ⟨List.not_mem_nil, fun _ absent => (nomatch absent)⟩
    | some output => exact harmless_iff inStep

/-- What a run writes, it writes with the first times. -/
theorem pts_outputs (libav : Libav) {first : StreamIndex → UInt32} {state : Option ExternalOutput} {events : List Event}
    (inStep : InStep first state events) :
    ∀ effects ∈ Machine.outputs (step libav) state events, ∀ written ∈ writes effects, written.pts =
      timestampToWrite (first written.streamIndex).toNat written.timestamp written.divisor + written.offset := by
  induction events generalizing state with
  | nil => exact fun _ absent => absurd absent List.not_mem_nil
  | cons event rest ih =>
      cases state with
      | none => exact List.forall_mem_cons.mpr ⟨fun _ absent => (nomatch absent), ih trivial⟩
      | some output => exact List.forall_mem_cons.mpr ⟨pts_step inStep, ih (inStep_step inStep)⟩

theorem timestamps_cons (index : StreamIndex) (event : Event) (rest : List Event) :
    timestamps index (event :: rest) =
      if event.stream = index then event.timestamp :: timestamps index rest else timestamps index rest := by
  by_cases here : event.stream = index <;> simp [timestamps, here]

/-- Nothing is written once the writer has failed. -/
theorem writesOf_none (index : StreamIndex) : ∀ events : List Event,
    writesOf index (Machine.outputs (step libav) none events) = []
  | [] => rfl
  | _ :: rest => writesOf_none index rest

theorem writesOf_cons (index : StreamIndex) (effects : List RecordingEffect) (outputs : List (List RecordingEffect)) :
    writesOf index (effects :: outputs) =
      (writes effects).filter (fun written => written.streamIndex = index) ++ writesOf index outputs := rfl

/-- What a step writes to a stream. -/
theorem writesOf_step (libav : Libav) (settled : output.Settled) (event : Event) (index : StreamIndex) :
    (writes (step libav (some output) event).2).filter (fun written => written.streamIndex = index) = [] ∨
      ∃ written after, (writes (step libav (some output) event).2).filter (fun written => written.streamIndex = index) =
          [written] ∧ (step libav (some output) event).1 = some after ∧ event.stream = index ∧
        written.timestamp = event.timestamp ∧ after.rate index = some (written.divisor, written.offset) := by
  rcases (steps_step libav settled event).written with none | ⟨written, after, only, reached, stream, time, rate, _⟩
  · exact Or.inl (by rw [none]; rfl)
  · rw [only]
    by_cases here : event.stream = index
    · subst here
      exact Or.inr ⟨written, after, by simp [stream], reached, rfl, time, rate⟩
    · have other : ¬written.streamIndex = index := fun same => here (stream.symm.trans same)
      exact Or.inl (by simp [other])

/-- The packets that are written have the times of packets of their stream, in their order. -/
theorem timestamps_writesOf (libav : Libav) (index : StreamIndex) : ∀ {output : ExternalOutput} (events : List Event),
    output.Settled → List.Sublist
      ((writesOf index (Machine.outputs (step libav) (some output) events)).map AVPacket.timestamp)
        (timestamps index events)
  | _, [], _ => List.Sublist.slnil
  | output, event :: rest, settled => by
      have onward :
          List.Sublist ((writesOf index (Machine.outputs (step libav) (step libav (some output) event).1 rest)).map
          AVPacket.timestamp) (timestamps index rest) := by
        cases reached : (step libav (some output) event).1 with
        | none => simp [writesOf_none]
        | some after =>
            exact timestamps_writesOf libav index rest ((steps_step libav settled event).continues after reached).settled
      rw [Machine.outputs, writesOf_cons, timestamps_cons]
      rcases writesOf_step libav settled event index with none | ⟨written, after, only, _, here, time, _⟩
      · rw [none, List.nil_append]
        split
        · exact onward.cons _
        · exact onward
      · rw [only, if_pos here, List.singleton_append, List.map_cons, time]
        exact onward.cons_cons _

/-- A stream that is there keeps its divisor and its offset. -/
theorem rate_writesOf (libav : Libav) {index : StreamIndex} {rate : ℕ × ℤ} :
    ∀ {output : ExternalOutput} (events : List Event),
    output.Settled → output.rate index = some rate →
    ∀ written ∈ writesOf index (Machine.outputs (step libav) (some output) events), (written.divisor, written.offset) = rate
  | _, [], _, _ => fun _ absent => absurd absent List.not_mem_nil
  | output, event :: rest, settled, known => by
      have onward : ∀ written ∈ writesOf index (Machine.outputs (step libav) (step libav (some output) event).1 rest),
          (written.divisor, written.offset) = rate := by
        cases reached : (step libav (some output) event).1 with
        | none => simp [writesOf_none]
        | some after =>
            have continues := (steps_step libav settled event).continues after reached
            exact rate_writesOf libav rest continues.settled (continues.rates index rate known)
      rw [Machine.outputs, writesOf_cons]
      refine List.forall_mem_append.mpr ⟨?_, onward⟩
      rcases writesOf_step libav settled event index with none | ⟨written, after, only, reached, _, _, here⟩
      · rw [none]
        exact fun _ absent => absurd absent List.not_mem_nil
      · rw [only]
        have kept := ((steps_step libav settled event).continues after reached).rates index rate known
        exact List.forall_mem_singleton.mpr (Option.some.inj (here.symm.trans kept))

/-- All packets of a stream are written with one divisor and one offset. -/
theorem sameRate_writesOf (libav : Libav) (index : StreamIndex) : ∀ {output : ExternalOutput} (events : List Event),
    output.Settled → (writesOf index (Machine.outputs (step libav) (some output) events)).Pairwise fun earlier later =>
      (later.divisor, later.offset) = (earlier.divisor, earlier.offset)
  | _, [], _ => List.Pairwise.nil
  | output, event :: rest, settled => by
      have continues := (steps_step libav settled event).continues
      have onward : (writesOf index (Machine.outputs (step libav) (step libav (some output) event).1 rest)).Pairwise
          fun earlier later => (later.divisor, later.offset) = (earlier.divisor, earlier.offset) := by
        cases reached : (step libav (some output) event).1 with
        | none => simp [writesOf_none]
        | some after => exact sameRate_writesOf libav index rest (continues after reached).settled
      rw [Machine.outputs, writesOf_cons]
      rcases writesOf_step libav settled event index with none | ⟨written, after, only, reached, _, _, here⟩
      · rw [none]
        exact onward
      · rw [only, List.singleton_append]
        refine List.pairwise_cons.mpr ⟨?_, onward⟩
        rw [reached]
        exact rate_writesOf libav rest (continues after reached).settled here

/-! ### Times that are counted on -/

/-- The distances of times that wrap around once do not decrease. -/
theorem pairwise_distance {times : List UInt32} (once : WrapsOnce times) :
    times.Pairwise fun earlier later => distance (times.head?.getD 0) earlier ≤ distance (times.head?.getD 0) later := by
  obtain ⟨counted, rfl, ordered, near⟩ := once
  cases counted with
  | nil => exact List.Pairwise.nil
  | cons first rest =>
      have counts : ∀ time ∈ first :: rest, distance (UInt32.ofNat first) (UInt32.ofNat time) = time - first := by
        intro time member
        have close := near first rfl time member
        have after : first ≤ time := by
          rcases List.mem_cons.mp member with rfl | later
          · exact le_rfl
          · exact (List.pairwise_cons.mp ordered).1 time later
        rw [distance, UInt32.toNat_sub, UInt32.toNat_ofNat', UInt32.toNat_ofNat']
        omega
      rw [List.pairwise_map]
      refine ordered.imp_of_mem fun {earlier later} here there after => ?_
      show distance (UInt32.ofNat first) _ ≤ distance (UInt32.ofNat first) _
      rw [counts earlier here, counts later there]
      exact Nat.sub_le_sub_right after first

/-- **Times that are written do not go back** if those of the stream do not. -/
theorem ordered_writesOf (libav : Libav) {events : List Event} (settled : output.Settled)
    (inStep : InStep (firstOf events) (some output) events) (index : StreamIndex)
    (once : WrapsOnce (timestamps index events)) :
    (writesOf index (Machine.outputs (step libav) (some output) events)).Pairwise fun earlier later =>
      earlier.pts ≤ later.pts := by
  have times := (pairwise_distance once).sublist (timestamps_writesOf libav index events settled)
  rw [List.pairwise_map] at times
  refine (times.and (sameRate_writesOf libav index events settled)).imp_of_mem
    fun {earlier later} here there both => ?_
  have made : ∀ written ∈ writesOf index (Machine.outputs (step libav) (some output) events), written.pts =
      timestampToWrite (firstOf events index).toNat written.timestamp written.divisor + written.offset := by
    intro written member
    obtain ⟨effects, emitted, inside⟩ := List.mem_flatMap.mp member
    obtain ⟨wrote, stream⟩ := List.mem_filter.mp inside
    rw [← of_decide_eq_true stream]
    exact pts_outputs libav inStep effects emitted written wrote
  obtain ⟨closer, same⟩ := both
  obtain ⟨divisor, offset⟩ := Prod.mk.inj same
  rw [made earlier here, made later there, divisor, offset]
  exact Int.add_le_add_right (timestampToWrite_mono closer _) _

theorem inStep_start {start : ExternalOutput} (starting : Starting start) {events : List Event}
    (numbers : Consecutive (videoNumbers events)) : InStep (firstOf events) (some start) events := by
  refine ⟨fun stream => ?_, fun index => Or.inr ⟨?_, fun time here => ?_⟩, numbers, fun collecting => ?_⟩
  · rw [starting.videoStream] at stream
    exact absurd stream Bool.false_ne_true
  · cases index with
    | video => exact starting.video
    | audio => exact starting.audio
  · rw [firstOf, here]
    rfl
  · rw [starting.depacketizer] at collecting
    exact absurd collecting Bool.false_ne_true

end Runs

/-- **A recording survives the wraparound** if and only if each of its packets does no harm. -/
theorem survives_iff (libav : Libav) (start : ExternalOutput) (starting : Starting start) (events : List Event)
    (numbers : Consecutive (videoNumbers events)) :
    Survives libav start events ↔
      Machine.Guarded (step libav) (Harmless libav (firstOf events)) (some start) events := by
  have inStep := inStep_start starting numbers
  rw [guarded_iff libav inStep]
  exact ⟨fun survives => survives.right, fun right => ⟨right, ordered_writesOf libav inStep.1 inStep⟩⟩

/-! ### Two frames -/

/-- VP8 under the payload type 96. -/
def vp8Map : RtpMap := ⟨96, "VP8".toList, 90000, .video, 1, [], ∅⟩

/-- A frame in one packet. -/
def framePacket (number : UInt16) (timestamp : UInt32) : DataPacket :=
  videoPacket ([0x80, 0xE0] ++ Bytes.encode16 number ++ Bytes.encode32 timestamp ++ Bytes.encode32 7 ++ [0x10, 1])

/-- A recording of VP8, whose audio is taken for PCMU since there is none. -/
def recorder : ExternalOutput where
  videoMaps := fun payloadType => if payloadType = 96 then some vp8Map else none
  audioMaps := fun _ => none
  videoMap := vp8Map
  audioMap := ⟨0, "PCMU".toList, 8000, .audio, 1, [], ∅⟩
  videoCodec := .none
  audioCodec := .pcmMulaw
  videoStream := none
  audioStream := none
  firstVideoTimestamp := -1
  firstAudioTimestamp := -1
  videoOffsetMs := 0
  audioOffsetMs := -1
  lastVideoSequenceNumber := 0
  lastAudioSequenceNumber := 0
  depacketizer := none

/-- Libraries with all encoders and a file in milliseconds. -/
def milliseconds : Libav where
  findEncoder := fun _ => true
  avioOpen := true
  writeHeader := fun _ _ => (1000, 1000)

theorem starting_recorder : Starting recorder := ⟨rfl, rfl, rfl, rfl, rfl, rfl⟩

instance (numbers : List UInt16) : Decidable (Consecutive numbers) := inferInstanceAs (Decidable (List.IsChain _ numbers))

instance (libav : Libav) (first : StreamIndex → UInt32) (state : Option ExternalOutput) (event : Event) :
    Decidable (Harmless libav first state event) := inferInstanceAs (Decidable (_ ∧ _))

/-- Two frames around the wraparound of the times, 91 ticks apart. -/
theorem survives_iff_wrapped :
    Survives milliseconds recorder [.video (framePacket 7 0xFFFFFFFF), .video (framePacket 8 90)] :=
  (survives_iff milliseconds recorder starting_recorder _ (by decide)).mpr (by decide +kernel)

/-- Two frames around the wraparound of the numbers. -/
theorem not_survives_renumbered :
    Starting recorder ∧
      Consecutive (videoNumbers [.video (framePacket 0xFFFF 0), .video (framePacket 0 3000)]) ∧
      ¬Survives milliseconds recorder [.video (framePacket 0xFFFF 0), .video (framePacket 0 3000)] := by
  refine ⟨starting_recorder, by decide, fun survives => ?_⟩
  have harmless := (guarded_iff milliseconds (inStep_start starting_recorder (by decide))).mpr survives.right
  exact absurd harmless (by decide +kernel)

end ExternalOutput

end Erizo
