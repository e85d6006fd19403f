/-
**Padding that is put in is taken out.**

A line has the padding generator at its beginning and the padding removal at its end. Each of them renumbers: the
generator makes room for its packets, the removal closes the gaps they leave. What they add and take away cancels out,
whenever padding is enabled or disabled, however much of it the rates ask for and the bucket lets through, and however
often it is repeated while nothing is written.

* `Joined`: the last number the generator gave out is the last that the removal took in, and the last that the removal
  gave out is the last that was written.
* `padding_transparent`: what comes out of the line is what was written, with its numbers, and nothing else.
-/

import Erizo.Model.RtpPaddingRemovalHandler
import Erizo.Proof.InOrder
import Erizo.Proof.LayerFilter
import Erizo.Proof.PaddingNumbers
import Erizo.Proof.PaddingRemoval
import Erizo.Proof.Vp8Descriptor

namespace Erizo

open Library Library.Bytes RtpUtils RtpHeader
open RtpPaddingGeneratorHandler (Event Sent Surroundings isVideoRtp)

/-- A padding generator and the padding removal that its packets reach. The rest is for the conditions on a run: the
number that was written last, and how many packets of padding were sent since. -/
structure PaddedLine where
  generator : RtpPaddingGeneratorHandler
  remover : RtpPaddingRemovalHandler
  previous : Option UInt16
  pending : ℕ

namespace PaddedLine

/-- A new line. -/
def create : PaddedLine := ⟨.create, .init, none, 0⟩

/-- The state of the removal after it read what was sent. -/
def taken (remover : RtpPaddingRemovalHandler) (sent : List Sent) : RtpPaddingRemovalHandler :=
  Machine.run RtpPaddingRemovalHandler.read remover (sent.map Sent.packet)

/-- What the removal passes on of what was sent. -/
def heard (remover : RtpPaddingRemovalHandler) (sent : List Sent) : List DataPacket :=
  (Machine.outputs RtpPaddingRemovalHandler.read remover (sent.map Sent.packet)).reduceOption

/-- An event at the beginning of the line, and what comes out at its end. -/
def step (line : PaddedLine) (event : Event) : PaddedLine × List DataPacket :=
  let (generator, sent) := line.generator.step event
  let (previous, pending) :=
    match event with
    | .write packet _ =>
        if isVideoRtp packet then (some (getSeqNumber packet.data), sent.length - 1) else (line.previous, line.pending)
    | _ => (line.previous, line.pending + sent.length)
  (⟨generator, taken line.remover sent, previous, pending⟩, heard line.remover sent)

/-- What is written at the beginning. -/
def written : Event → List DataPacket
  | .write packet _ => [packet]
  | _ => []

/-- A packet of a stream that has payload and no padding, with a header that leaves room for padding. What the handlers
behind the generator do to it leaves the SSRC and the length of the header as they are. -/
structure Media (ssrc : UInt32) (packet : DataPacket) (passed : Memory → Memory) : Prop where
  stream : getSSRC packet.data = ssrc
  plain : hasPadding packet.data = false
  payload : (getHeaderLength packet.data : ℤ) < packet.length
  room : getHeaderLength packet.data + RtpPaddingGeneratorHandler.maxPaddingSize.toNat ≤ DataPacket.capacity
  passedStream : ∀ data, getSSRC (passed data) = getSSRC data
  passedHeader : ∀ data, getHeaderLength (passed data) = getHeaderLength data

/-- The packets of the stream are written in order, and fewer than half of all numbers go to padding in between. -/
def InTurn (ssrc : UInt32) (line : PaddedLine) : Event → Prop
  | .write packet surroundings =>
      isVideoRtp packet = true →
        Media ssrc packet surroundings.passed ∧ (∀ before ∈ line.previous, getSeqNumber packet.data = before + 1) ∧
          line.pending < 2 ^ 15
  | _ => True

/-! ### What the removal makes of a packet -/

section Read

variable {ssrc : UInt32} {remover : RtpPaddingRemovalHandler} {packet : DataPacket}

theorem isVideoRtp_iff : isVideoRtp packet = true ↔ packet.type = .video ∧ RtcpHeader.isRtcp packet.data 0 = false := by
  unfold isVideoRtp
  rw [Bool.and_eq_true, decide_eq_true_eq, Bool.not_eq_true']

theorem read_of_video (enabled : remover.enabled = true) (video : isVideoRtp packet = true) :
    (!RtcpHeader.isRtcp packet.data 0 && remover.enabled && packet.type = .video) = true := by
  obtain ⟨type, rtp⟩ := isVideoRtp_iff.mp video
  rw [rtp, enabled, type]
  rfl

/-- What is not video, or is RTCP, is passed on. -/
theorem read_other (other : ¬isVideoRtp packet = true) : remover.read packet = (remover, some packet) := by
  unfold RtpPaddingRemovalHandler.read
  rw [if_neg]
  intro handled
  obtain ⟨⟨rtp, _⟩, type⟩ := by simpa using handled
  exact other (isVideoRtp_iff.mpr ⟨type, rtp⟩)

/-- What is nothing but padding is dropped. -/
theorem read_padding (enabled : remover.enabled = true) (video : isVideoRtp packet = true)
    (stream : getSSRC packet.data = ssrc)
    (full : ((getPaddingLength packet + getHeaderLength packet.data : ℕ) : ℤ) = packet.length) :
    remover.read packet =
      (remover.store ssrc ((remover.getTranslatorForSsrc ssrc).get (getSeqNumber packet.data) true).1, none) := by
  have removed : RtpPaddingRemovalHandler.removePaddingBytes packet (remover.getTranslatorForSsrc ssrc) =
      (none, ((remover.getTranslatorForSsrc ssrc).get (getSeqNumber packet.data) true).1) := if_pos full
  unfold RtpPaddingRemovalHandler.read
  rw [if_pos (read_of_video enabled video)]
  simp only [stream, removed]

theorem clearPadding_of_plain {data : Memory} (plain : hasPadding data = false) : clearPadding data = data := by
  rw [clearPadding, ← RtpPaddingRemovalHandler.flags_of_not_hasPadding plain]
  funext address
  by_cases start : address = 0
  · subst start
    exact copy_inside data 0 (show 0 < [data 0].length from Nat.one_pos)
  · exact copy_of_le data _ (show 0 + 1 ≤ address by omega)

/-- A packet without padding that gets a valid number is passed on with that number. -/
theorem read_media (enabled : remover.enabled = true) (video : isVideoRtp packet = true)
    (stream : getSSRC packet.data = ssrc) (plain : hasPadding packet.data = false)
    (payload : (getHeaderLength packet.data : ℤ) < packet.length) {number : UInt16}
    (valid : ((remover.getTranslatorForSsrc ssrc).get (getSeqNumber packet.data) false).2 =
      ⟨getSeqNumber packet.data, number, .valid⟩) :
    remover.read packet =
      (remover.store ssrc ((remover.getTranslatorForSsrc ssrc).get (getSeqNumber packet.data) false).1,
        some { packet with data := setSeqNumber packet.data number }) := by
  have none : getPaddingLength packet = 0 := by rw [getPaddingLength, plain]; rfl
  have removed : RtpPaddingRemovalHandler.removePaddingBytes packet (remover.getTranslatorForSsrc ssrc) =
      (some packet, remover.getTranslatorForSsrc ssrc) := by
    unfold RtpPaddingRemovalHandler.removePaddingBytes
    rw [none, if_neg (by push_cast; omega), clearPadding_of_plain plain, Nat.cast_zero, sub_zero]
  unfold RtpPaddingRemovalHandler.read
  rw [if_pos (read_of_video enabled video)]
  simp only [stream, removed, valid]
  rfl

theorem getTranslatorForSsrc_store (remover : RtpPaddingRemovalHandler) (ssrc : UInt32)
    (translator : SequenceNumberTranslator .standard) :
    (remover.store ssrc translator).getTranslatorForSsrc ssrc = translator := by
  simp [RtpPaddingRemovalHandler.store, RtpPaddingRemovalHandler.getTranslatorForSsrc]

end Read

/-! ### Packets of padding -/

section Padding

variable {ssrc : UInt32} {packet : DataPacket} {paddingSize : UInt8}

/-- A packet that padding is made after. -/
structure Template (ssrc : UInt32) (packet : DataPacket) : Prop where
  video : packet.type = .video
  stream : getSSRC packet.data = ssrc
  room : getHeaderLength packet.data + RtpPaddingGeneratorHandler.maxPaddingSize.toNat ≤ DataPacket.capacity

/-- The packet that `sendPaddingPacket` writes. -/
def paddingPacket (packet : DataPacket) (paddingSize : UInt8) (number : UInt16) : DataPacket :=
  { makePaddingPacket packet paddingSize with
    data := setSeqNumber (makePaddingPacket packet paddingSize).data number }

theorem header_le (data : Memory) : 12 ≤ getHeaderLength data := by
  unfold getHeaderLength
  omega

/-- What counts for the length of a header. -/
theorem getHeaderLength_of_bytes {first second : Memory} (sources : getCc second = getCc first)
    (extension : getExtension second = getExtension first)
    (words : ∀ address < getHeaderLength first, 4 ≤ address → second address = first address) :
    getHeaderLength second = getHeaderLength first := by
  rw [getHeaderLength, sources, extension]
  rcases Nat.mod_two_eq_zero_or_one ((first 0).toNat / 16) with none | present
  · have off : getExtension first = 0 := none
    rw [getHeaderLength, off, Nat.zero_mul, Nat.zero_mul]
  · have on : getExtension first = 1 := present
    have length : getExtLength second = getExtLength first := by
      refine read16_congr fun address above below => words address ?_ (by omega)
      rw [getHeaderLength, on]
      omega
    rw [getHeaderLength, length]

/-- The flag of padding is set in the first byte, and the rest of it stays. -/
theorem flags_of_padding (byte : UInt8) :
    (byte ||| 0x20).toNat % 16 = byte.toNat % 16 ∧ (byte ||| 0x20).toNat / 16 % 2 = byte.toNat / 16 % 2 ∧
      (byte ||| 0x20).toNat / 32 % 2 = 1 := by
  have each : ∀ byte : Fin 256, (UInt8.ofNat byte ||| 0x20).toNat % 16 = (UInt8.ofNat byte).toNat % 16 ∧
      (UInt8.ofNat byte ||| 0x20).toNat / 16 % 2 = (UInt8.ofNat byte).toNat / 16 % 2 ∧
      (UInt8.ofNat byte ||| 0x20).toNat / 32 % 2 = 1 := by decide +kernel
  have here := each ⟨byte.toNat, byte.toNat_lt⟩
  rwa [UInt8.ofNat_toNat] at here

/-- Without the marker a packet is not taken for RTCP. -/
theorem unmarked_lt (byte : UInt8) : ¬RtcpHeader.minPt ≤ byte &&& 0x7F := by
  have each : ∀ byte : Fin 256, ¬RtcpHeader.minPt ≤ UInt8.ofNat byte &&& 0x7F := by decide +kernel
  have here := each ⟨byte.toNat, byte.toNat_lt⟩
  rwa [UInt8.ofNat_toNat] at here

/-- A packet of padding: the header of its template with the flag of padding and without the marker, and then nothing
but padding. -/
theorem makePaddingPacket_eq (template : Template ssrc packet) (paddingSize : UInt8) :
    makePaddingPacket packet paddingSize =
      ⟨copy (clearMarker (setPadding fun address => if address < getHeaderLength packet.data then packet.data address
          else 0)) (getHeaderLength packet.data + paddingSize.toNat - 1) [paddingSize],
        ((getHeaderLength packet.data + paddingSize.toNat : ℕ) : ℤ), packet.type⟩ := by
  have room : getHeaderLength packet.data + 255 ≤ 1500 := template.room
  have size := paddingSize.toNat_lt
  have short : (getHeaderLength packet.data + paddingSize.toNat) % 65536 =
      getHeaderLength packet.data + paddingSize.toNat := Nat.mod_eq_of_lt (by omega)
  unfold makePaddingPacket
  simp only [short]

/-- What the bytes of a packet of padding are. -/
structure PaddingOf (packet : DataPacket) (paddingSize : UInt8) (number : UInt16) (padding : DataPacket) : Prop where
  type : padding.type = packet.type
  length : padding.length = ((getHeaderLength packet.data + paddingSize.toNat : ℕ) : ℤ)
  flags : padding.data 0 = packet.data 0 ||| 0x20
  unmarked : padding.data 1 = packet.data 1 &&& 0x7F
  number : getSeqNumber padding.data = number
  header : ∀ address < getHeaderLength packet.data, 4 ≤ address → padding.data address = packet.data address
  last : padding.data (getHeaderLength packet.data + paddingSize.toNat - 1) = paddingSize

theorem paddingPacket_of (template : Template ssrc packet) (positive : paddingSize ≠ 0) (number : UInt16) :
    PaddingOf packet paddingSize number (paddingPacket packet paddingSize number) := by
  have start := header_le packet.data
  have size : 0 < paddingSize.toNat := Nat.pos_of_ne_zero fun zero => positive (UInt8.toNat_inj.mp zero)
  have made := makePaddingPacket_eq template paddingSize
  have renumbered : ∀ address, address < 2 ∨ 4 ≤ address → (paddingPacket packet paddingSize number).data address =
      (makePaddingPacket packet paddingSize).data address := fun address apart =>
    write16_of_disjoint _ number (by omega)
  have bytes : ∀ address < getHeaderLength packet.data, address < 2 ∨ 4 ≤ address →
      (paddingPacket packet paddingSize number).data address =
        clearMarker (setPadding fun address => if address < getHeaderLength packet.data then packet.data address
          else 0) address := by
    intro address inside apart
    rw [renumbered address apart, made]
    exact copy_of_lt _ _ (by omega)
  refine ⟨by rw [paddingPacket, made], by rw [paddingPacket, made], ?_, ?_, ?_, fun address inside after => ?_, ?_⟩
  · rw [bytes 0 (by omega) (by omega), clearMarker, copy_of_lt _ _ (by decide), setPadding, if_pos (by omega)]
    exact copy_inside _ 0 (show 0 < [packet.data 0 ||| 0x20].length from Nat.one_pos)
  · rw [bytes 1 (by omega) (by omega), clearMarker]
    refine (@copy_inside _ 1 [_] 0 Nat.one_pos).trans ?_
    rw [List.getD_cons_zero, setPadding, copy_of_le _ _ (by simp), if_pos (by omega)]
  · exact read16_write16 _ 2 number
  · rw [bytes address inside (by omega), clearMarker, copy_of_le _ _ (show 1 + 1 ≤ address by omega), setPadding,
      copy_of_le _ _ (show 0 + 1 ≤ address by omega), if_pos inside]
  · rw [renumbered _ (by omega), made]
    exact copy_inside _ _ (show 0 < [paddingSize].length from Nat.one_pos)

/-- **The removal drops a packet of padding.** -/
theorem read_paddingPacket {remover : RtpPaddingRemovalHandler} (enabled : remover.enabled = true)
    (template : Template ssrc packet) (positive : paddingSize ≠ 0) (number : UInt16) :
    remover.read (paddingPacket packet paddingSize number) =
      (remover.store ssrc ((remover.getTranslatorForSsrc ssrc).get number true).1, none) := by
  have made := paddingPacket_of template positive number
  generalize paddingPacket packet paddingSize number = padding at made
  have start := header_le packet.data
  have size : 0 < paddingSize.toNat := Nat.pos_of_ne_zero fun zero => positive (UInt8.toNat_inj.mp zero)
  obtain ⟨sources, extension, flagged⟩ := flags_of_padding (packet.data 0)
  have header : getHeaderLength padding.data = getHeaderLength packet.data :=
    getHeaderLength_of_bytes (by rw [getCc, made.flags, sources, getCc])
      (by rw [getExtension, made.flags, extension, getExtension]) made.header
  have stream : getSSRC padding.data = ssrc := by
    rw [← template.stream]
    exact read32_congr fun address above below => made.header address (by omega) (by omega)
  have video : isVideoRtp padding = true := by
    refine isVideoRtp_iff.mpr ⟨made.type.trans template.video, ?_⟩
    rw [RtcpHeader.isRtcp, RtcpHeader.getPacketType, Nat.zero_add, made.unmarked, Bool.and_eq_false_iff]
    exact Or.inl (decide_eq_false (unmarked_lt _))
  have all : getPaddingLength padding = paddingSize.toNat := by
    have flag : hasPadding padding.data = true := by
      rw [hasPadding, made.flags, flagged]
      rfl
    have place : (padding.length - 1).toNat = getHeaderLength packet.data + paddingSize.toNat - 1 := by
      rw [made.length]
      omega
    rw [getPaddingLength, flag, if_pos rfl, place, made.last]
  have full : ((getPaddingLength padding + getHeaderLength padding.data : ℕ) : ℤ) = padding.length := by
    rw [all, header, made.length, Nat.add_comm]
  rw [read_padding enabled video stream full, made.number]

end Padding

/-! ### Both ends -/

section Ends

variable {ssrc : UInt32} {generator after : SequenceNumberTranslator .standard} {remover : RtpPaddingRemovalHandler}
  {previous : Option UInt16} {pending : ℕ}

/-- **The two translators fit together.** What the generator gave out last was taken in last, and what was written last
was given out last. -/
def Joined (ssrc : UInt32) (generator : SequenceNumberTranslator .standard) (remover : RtpPaddingRemovalHandler)
    (previous : Option UInt16) (pending : ℕ) : Prop :=
  remover.enabled = true ∧ ∃ sent, generator.Follows previous pending sent ∧
    (remover.getTranslatorForSsrc ssrc).Follows sent 0 previous

/-- The number behind a number of sixteen bits. -/
theorem toNat_next {before number : UInt16} (next : number = before + 1) :
    number.toNat = (before.toNat + 1) % 2 ^ Config.standard.bits := by
  rw [next, UInt16.toNat_add]
  rfl

theorem eq_of_successor {before number other : UInt16} (next : number = before + 1)
    (successor : SequenceNumberTranslator.Successor .standard before other) : other = number :=
  UInt16.toNat_inj.mp (successor.trans (toNat_next next).symm)

/-- The first number that a new translator forwards is the number itself. -/
theorem get_init (number : UInt16) :
    ((SequenceNumberTranslator.init .standard).get number false).2 = ⟨number, number, .valid⟩ := by
  rw [SequenceNumberTranslator.get_first rfl]
  rfl

/-- A packet of padding leaves the two joined, and comes to nothing. -/
theorem Joined.padding (joined : Joined ssrc generator remover previous pending) {packet : DataPacket}
    (template : Template ssrc packet) {paddingSize : UInt8} (positive : paddingSize ≠ 0) :
    let read := remover.read (paddingPacket packet paddingSize generator.generate.2.output)
    read.2 = none ∧ Joined ssrc generator.generate.1 read.1 previous (pending + 1) := by
  obtain ⟨enabled, sent, made, took⟩ := joined
  obtain ⟨output, answer, successor, follows⟩ :=
    SequenceNumberTranslator.follows_generate Config.standard_serial made
  obtain ⟨_, skipped⟩ :=
    SequenceNumberTranslator.follows_skip Config.standard_serial (by decide) took successor
  rw [answer, read_paddingPacket enabled template positive]
  refine ⟨rfl, enabled, some output, follows, ?_⟩
  rwa [getTranslatorForSsrc_store]

/-- What was sent is padding: it comes to nothing, and leaves the two joined. -/
def Silent (ssrc : UInt32) (generator after : SequenceNumberTranslator .standard) (sent : List Sent) : Prop :=
  ∀ remover previous pending, Joined ssrc generator remover previous pending →
    heard remover sent = [] ∧ Joined ssrc after (taken remover sent) previous (pending + sent.length)

theorem silent_nil (generator : SequenceNumberTranslator .standard) : Silent ssrc generator generator [] :=
  fun _ _ _ joined => ⟨rfl, joined⟩

theorem heard_append (remover : RtpPaddingRemovalHandler) (first second : List Sent) :
    heard remover (first ++ second) = heard remover first ++ heard (taken remover first) second := by
  rw [heard, List.map_append, Machine.outputs_append, List.reduceOption_append]
  rfl

theorem taken_append (remover : RtpPaddingRemovalHandler) (first second : List Sent) :
    taken remover (first ++ second) = taken (taken remover first) second := by
  rw [taken, List.map_append, Machine.run_append]
  rfl

theorem Silent.append {first second : List Sent} {last : SequenceNumberTranslator .standard}
    (earlier : Silent ssrc generator after first) (later : Silent ssrc after last second) :
    Silent ssrc generator last (first ++ second) := by
  intro remover previous pending joined
  obtain ⟨nothing, onward⟩ := earlier remover previous pending joined
  obtain ⟨still, joined⟩ := later (taken remover first) previous _ onward
  rw [heard_append, nothing, still, taken_append, List.length_append, ← Nat.add_assoc]
  exact ⟨rfl, joined⟩

variable {handler : RtpPaddingGeneratorHandler} {packet : DataPacket}

theorem sendPaddingPacket_silent (handler : RtpPaddingGeneratorHandler) (template : Template ssrc packet)
    (paddingSize : UInt8) (consume : Bool) :
    Silent ssrc handler.translator (handler.sendPaddingPacket packet paddingSize consume).1.translator
      (handler.sendPaddingPacket packet paddingSize consume).2 := by
  unfold RtpPaddingGeneratorHandler.sendPaddingPacket
  split
  · exact silent_nil _
  · next positive =>
      split
      · exact silent_nil _
      · intro remover previous pending joined
        obtain ⟨nothing, onward⟩ := joined.padding template positive
        refine ⟨?_, onward⟩
        show [(remover.read (paddingPacket packet paddingSize handler.translator.generate.2.output)).2].reduceOption = []
        rw [nothing]
        rfl

theorem sendFullPaddingPackets_silent (template : Template ssrc packet) (consume : ℕ → Bool) (count : ℕ) :
    Silent ssrc handler.translator
      (RtpPaddingGeneratorHandler.sendFullPaddingPackets packet consume count handler).1.translator
      (RtpPaddingGeneratorHandler.sendFullPaddingPackets packet consume count handler).2 := by
  induction count with
  | zero => exact silent_nil _
  | succ count ih =>
      exact ih.append (sendPaddingPacket_silent _ template RtpPaddingGeneratorHandler.maxPaddingSize (consume count))

theorem onPacketWithMarkerSet_silent (handler : RtpPaddingGeneratorHandler) (template : Template ssrc packet)
    (consume : ℕ → Bool) :
    Silent ssrc handler.translator (handler.onPacketWithMarkerSet packet consume).1.translator
      (handler.onPacketWithMarkerSet packet consume).2 :=
  (sendFullPaddingPackets_silent template consume handler.numberOfFullPaddingPackets).append
    (sendPaddingPacket_silent _ template _ (consume handler.numberOfFullPaddingPackets))

theorem onVideoPacket_silent (handler : RtpPaddingGeneratorHandler) (template : Template ssrc packet)
    (surroundings : Surroundings) :
    Silent ssrc handler.translator (handler.onVideoPacket packet surroundings).1.translator
        (handler.onVideoPacket packet surroundings).2 ∧
      ∀ scheduled ∈ (handler.onVideoPacket packet surroundings).1.scheduledTask,
        scheduled = packet ∨ scheduled ∈ handler.scheduledTask := by
  have rate : (handler.recalculatePaddingRate surroundings.paddingRate).translator = handler.translator ∧
      (handler.recalculatePaddingRate surroundings.paddingRate).scheduledTask = handler.scheduledTask := by
    cases surroundings.paddingRate <;> exact ⟨rfl, rfl⟩
  unfold RtpPaddingGeneratorHandler.onVideoPacket
  split
  · exact ⟨silent_nil _, fun _ scheduled => Or.inr scheduled⟩
  · dsimp only
    split
    · rw [← rate.1]
      exact ⟨onPacketWithMarkerSet_silent _ template surroundings.consume,
        fun _ scheduled => Or.inl (Option.some.inj scheduled).symm⟩
    · rw [rate.1, rate.2]
      exact ⟨silent_nil _, fun _ scheduled => Or.inr scheduled⟩

end Ends

/-! ### Renumbered media -/

section Renumbered

/-- Whatever number a packet was given, with its own number it is what it was. -/
theorem setSeqNumber_getSeqNumber (data : Memory) (number : UInt16) :
    setSeqNumber (setSeqNumber data number) (getSeqNumber data) = data := by
  rw [setSeqNumber, setSeqNumber, write16_write16]
  exact write16_read16 data 2

variable {ssrc : UInt32} {packet : DataPacket} {passed : Memory → Memory}

/-- A packet with another number is media as well. -/
theorem Media.renumbered (media : Media ssrc packet passed) (number : UInt16) :
    Media ssrc { packet with data := setSeqNumber packet.data number } passed := by
  have same : ∀ address, address < 2 ∨ 4 ≤ address → setSeqNumber packet.data number address = packet.data address :=
    fun address apart => write16_of_disjoint _ _ (by omega)
  have header : getHeaderLength (setSeqNumber packet.data number) = getHeaderLength packet.data :=
    getHeaderLength_of_bytes (by rw [getCc, same 0 (by decide), getCc])
      (by rw [getExtension, same 0 (by decide), getExtension]) fun address _ after => same address (Or.inr after)
  refine ⟨?_, ?_, ?_, ?_, media.passedStream, media.passedHeader⟩
  · rw [← media.stream]
    exact read32_congr fun address above _ => same address (by omega)
  · rw [← media.plain, hasPadding, hasPadding, ← same 0 (by decide)]
  · rw [header]
    exact media.payload
  · rw [header]
    exact media.room

theorem isVideoRtp_renumbered (video : isVideoRtp packet = true) (number : UInt16) :
    isVideoRtp { packet with data := setSeqNumber packet.data number } = true := by
  obtain ⟨type, rtp⟩ := isVideoRtp_iff.mp video
  have same : setSeqNumber packet.data number 1 = packet.data 1 := write16_of_disjoint _ _ (Or.inl Nat.one_lt_two)
  refine isVideoRtp_iff.mpr ⟨type, ?_⟩
  rw [← rtp, RtcpHeader.isRtcp, RtcpHeader.isRtcp, RtcpHeader.getPacketType, RtcpHeader.getPacketType, Nat.zero_add,
    ← same]

/-- Media is a template for padding once it was passed on. -/
theorem Media.template (media : Media ssrc packet passed) (video : isVideoRtp packet = true) :
    Template ssrc { packet with data := passed packet.data } :=
  ⟨(isVideoRtp_iff.mp video).1, (media.passedStream _).trans media.stream,
    by rw [media.passedHeader]; exact media.room⟩

/-- A video packet is sent with the number the translator forwards it with, and behind it only padding. -/
theorem write_spec (handler : RtpPaddingGeneratorHandler) {surroundings : Surroundings} (video : isVideoRtp packet = true)
    (media : Media ssrc packet surroundings.passed) :
    let answer := handler.translator.get (getSeqNumber packet.data) false
    ∃ padding, (handler.write packet surroundings).2 =
        ⟨{ packet with data := setSeqNumber packet.data answer.2.output }, some answer.2⟩ :: padding ∧
      Silent ssrc answer.1 (handler.write packet surroundings).1.translator padding ∧
      ∀ scheduled ∈ (handler.write packet surroundings).1.scheduledTask, Template ssrc scheduled := by
  intro answer
  have template := (media.renumbered answer.2.output).template (isVideoRtp_renumbered video answer.2.output)
  unfold RtpPaddingGeneratorHandler.write
  rw [if_pos video]
  unfold RtpPaddingGeneratorHandler.isHigherSequenceNumber
  dsimp only
  split
  · exact ⟨[], rfl, silent_nil _, nofun⟩
  · obtain ⟨silent, scheduled⟩ := onVideoPacket_silent
      ⟨answer.1, getSeqNumber packet.data, handler.numberOfFullPaddingPackets, handler.lastPaddingPacketSize,
        handler.enabled, true, none⟩ template surroundings
    refine ⟨_, rfl, silent, fun task member => ?_⟩
    rcases scheduled task member with rfl | earlier
    · exact template
    · cases earlier

end Renumbered

/-! ### Runs -/

section Runs

variable {ssrc : UInt32} {line : PaddedLine}

/-- The two ends are joined; what padding is made after is media; and as long as nothing was written, both translators
are new and nothing is scheduled. -/
structure Sound (ssrc : UInt32) (line : PaddedLine) : Prop where
  joined : Joined ssrc line.generator.translator line.remover line.previous line.pending
  scheduled : ∀ packet ∈ line.generator.scheduledTask, Template ssrc packet
  fresh : line.previous = none → line.generator.translator = .init .standard ∧
    line.remover.getTranslatorForSsrc ssrc = .init .standard ∧ line.generator.scheduledTask = none

theorem create_sound (ssrc : UInt32) : create.Sound ssrc where
  joined := ⟨rfl, none, SequenceNumberTranslator.follows_init .standard, SequenceNumberTranslator.follows_init .standard⟩
  scheduled := nofun
  fresh := fun _ => ⟨rfl, rfl, rfl⟩

/-- A packet of the stream comes out as it was written. -/
theorem write_sound (sound : line.Sound ssrc) {packet : DataPacket} {surroundings : Surroundings}
    (video : isVideoRtp packet = true) (turn : InTurn ssrc line (.write packet surroundings)) :
    (line.step (.write packet surroundings)).1.Sound ssrc ∧
      (line.step (.write packet surroundings)).2 = [packet] := by
  obtain ⟨media, next, few⟩ := turn video
  obtain ⟨enabled, sent, made, took⟩ := sound.joined
  obtain ⟨output, answer, successor, follows⟩ := SequenceNumberTranslator.follows_forward Config.standard_serial
    (by decide) made (fun before member => toNat_next (next before member)) few
  obtain ⟨number, heardAs, continued, onward⟩ := SequenceNumberTranslator.follows_forward Config.standard_serial
    (by decide) took successor (Nat.two_pow_pos _)
  have own : number = getSeqNumber packet.data := by
    cases previous : line.previous with
    | some before => exact eq_of_successor (next before previous) (continued before previous)
    | none =>
        obtain ⟨first, second, _⟩ := sound.fresh previous
        rw [first, get_init, SequenceNumber.mk.injEq] at answer
        rw [second, get_init, SequenceNumber.mk.injEq] at heardAs
        exact heardAs.2.1.symm.trans answer.2.1.symm
  subst own
  obtain ⟨padding, written, silent, scheduled⟩ := write_spec line.generator video media
  rw [answer] at written
  have renumbered : getSeqNumber (setSeqNumber packet.data output) = output := read16_write16 _ 2 output
  have media' := media.renumbered output
  have passes := @read_media ssrc line.remover { packet with data := setSeqNumber packet.data output } enabled
    (isVideoRtp_renumbered video output) media'.stream media'.plain media'.payload (getSeqNumber packet.data)
    (by rw [renumbered]; exact heardAs)
  rw [renumbered, setSeqNumber_getSeqNumber] at passes
  have joined : Joined ssrc (line.generator.translator.get (getSeqNumber packet.data) false).1
      (line.remover.store ssrc ((line.remover.getTranslatorForSsrc ssrc).get output false).1)
      (some (getSeqNumber packet.data)) 0 := by
    refine ⟨enabled, some output, follows, ?_⟩
    rwa [getTranslatorForSsrc_store]
  obtain ⟨nothing, after⟩ := silent _ _ _ joined
  have stepped : line.step (.write packet surroundings) =
      (⟨(line.generator.write packet surroundings).1,
        taken (line.remover.store ssrc ((line.remover.getTranslatorForSsrc ssrc).get output false).1) padding,
        some (getSeqNumber packet.data), padding.length⟩, [packet]) := by
    have first : ∀ sent : Sent, sent.packet = { packet with data := setSeqNumber packet.data output } →
        taken line.remover (sent :: padding) = taken (line.remover.read sent.packet).1 padding ∧
          heard line.remover (sent :: padding) = packet :: heard (line.remover.read sent.packet).1 padding := by
      intro sent same
      refine ⟨rfl, ?_⟩
      rw [heard, List.map_cons, Machine.outputs, same, passes]
      rfl
    obtain ⟨state, out⟩ := first ⟨_, some ⟨getSeqNumber packet.data, output, .valid⟩⟩ rfl
    rw [passes] at state out
    unfold step
    rw [RtpPaddingGeneratorHandler.step]
    simp only [written, video, if_true, state, out, nothing, List.length_cons, Nat.add_sub_cancel]
  rw [stepped]
  refine ⟨⟨?_, scheduled, fun unwritten => absurd unwritten (Option.some_ne_none _)⟩, rfl⟩
  rwa [Nat.zero_add] at after

/-- Padding alone comes to nothing. -/
theorem expire_sound (sound : line.Sound ssrc) (surroundings : Surroundings) :
    (line.step (.expire surroundings)).1.Sound ssrc ∧ (line.step (.expire surroundings)).2 = [] := by
  unfold step RtpPaddingGeneratorHandler.step
  dsimp only
  cases task : line.generator.scheduledTask with
  | none => exact ⟨⟨sound.joined, sound.scheduled, sound.fresh⟩, rfl⟩
  | some packet =>
      have template := sound.scheduled packet task
      obtain ⟨nothing, joined⟩ :=
        onPacketWithMarkerSet_silent line.generator template surroundings.consume _ _ _ sound.joined
      refine ⟨⟨joined, fun scheduled member => ?_, fun unwritten => ?_⟩, nothing⟩
      · obtain rfl := Option.some.inj member
        exact template
      · exact absurd (task.symm.trans (sound.fresh unwritten).2.2) (Option.some_ne_none packet)

/-- The line stays sound, and what comes out is what was written. -/
theorem step_sound (sound : line.Sound ssrc) {event : Event} (turn : InTurn ssrc line event) :
    (line.step event).1.Sound ssrc ∧ (line.step event).2 = written event := by
  cases event with
  | write packet surroundings =>
      by_cases video : isVideoRtp packet = true
      · exact write_sound sound video turn
      · have stepped : line.step (.write packet surroundings) = (line, [packet]) := by
          have passes := @read_other line.remover packet video
          have wrote : line.generator.write packet surroundings = (line.generator, [⟨packet, none⟩]) := if_neg video
          unfold step RtpPaddingGeneratorHandler.step taken heard
          simp only [wrote, if_neg video, List.map_cons, List.map_nil, Machine.run, Machine.outputs, passes,
            List.reduceOption_cons_of_some, List.reduceOption_nil]
        rw [stepped]
        exact ⟨sound, rfl⟩
  | expire surroundings => exact expire_sound sound surroundings
  | notifyUpdate isPaddingEnabled =>
      have same : (line.generator.notifyUpdate isPaddingEnabled).translator = line.generator.translator ∧
          (line.generator.notifyUpdate isPaddingEnabled).scheduledTask = line.generator.scheduledTask := by
        unfold RtpPaddingGeneratorHandler.notifyUpdate
        split
        · exact ⟨rfl, rfl⟩
        · split <;> exact ⟨rfl, rfl⟩
      refine ⟨⟨?_, ?_, ?_⟩, rfl⟩
      · show Joined ssrc (line.generator.notifyUpdate isPaddingEnabled).translator line.remover line.previous line.pending
        rw [same.1]
        exact sound.joined
      · show ∀ packet ∈ (line.generator.notifyUpdate isPaddingEnabled).scheduledTask, Template ssrc packet
        rw [same.2]
        exact sound.scheduled
      · show line.previous = none → (line.generator.notifyUpdate isPaddingEnabled).translator = _ ∧ _ ∧
          (line.generator.notifyUpdate isPaddingEnabled).scheduledTask = none
        rw [same.1, same.2]
        exact sound.fresh

/-- **Padding is transparent.** Where the packets of the stream are written in order, what comes out of a line is what
was written, when it was written and with the numbers it was written with, and no padding. -/
theorem padding_transparent (ssrc : UInt32) (events : List Event)
    (turns : Machine.Guarded step (InTurn ssrc) create events) :
    Machine.outputs step create events = events.map written :=
  @Machine.Guarded.outputs_eq_map _ _ _ step (InTurn ssrc) (Sound ssrc) written
    (fun _ _ turn sound => (step_sound sound turn).1) (fun _ _ turn sound => (step_sound sound turn).2) _ events turns
    (create_sound ssrc)

/-- A packet of SSRC 7 with the marker. -/
def marked (number : UInt16) : DataPacket :=
  videoPacket ([0x80, 224] ++ encode16 number ++ encode32 0 ++ encode32 7 ++ [1])

/-- Padding is enabled, and two packets are written, each with the marker. Behind the first one there are two packets of
padding and then, since nothing more comes for a while, two more; the second one has number 4 on the way. -/
def padded : List Event :=
  [.notifyUpdate true, .write (marked 65535) ⟨some (1, 20), fun _ => true, id⟩, .expire ⟨none, fun _ => true, id⟩,
    .write (marked 0) ⟨none, fun _ => false, id⟩]

theorem padding_transparent_wrapped :
    (Machine.run step create padded).generator.translator.lastOutput = 4 ∧
      Machine.outputs step create padded = padded.map written := by
  have first : Media 7 (marked 65535) id :=
    ⟨by decide +kernel, by decide +kernel, by decide +kernel, by decide +kernel, fun _ => rfl, fun _ => rfl⟩
  have second : Media 7 (marked 0) id :=
    ⟨by decide +kernel, by decide +kernel, by decide +kernel, by decide +kernel, fun _ => rfl, fun _ => rfl⟩
  refine ⟨by decide +kernel, padding_transparent 7 padded ⟨trivial, fun _ => ⟨first, nofun, by decide⟩, trivial,
    fun _ => ⟨second, ?_, by decide +kernel⟩, trivial⟩⟩
  have previous : (Machine.run step create (padded.take 3)).previous = some 65535 := by decide +kernel
  intro before member
  obtain rfl := Option.some.inj (previous.symm.trans member)
  decide +kernel

end Runs

end PaddedLine

end Erizo
