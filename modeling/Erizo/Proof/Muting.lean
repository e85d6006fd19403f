/-
**What a mute does to the sequence numbers.**

A track remembers the number it has seen last and the number it has sent last, and as long as it is not muted the
two are apart by its offset (`Follows`). The end of a mute takes the offset from them, so that the next packet
follows the last one sent.

That is what happens to audio. The keyframes of a muted video track have been seen already when the offset is
taken, so they get the number that was sent last (`number_answer`). And a number sent last is not remembered when
it is kept as -1, which stands for none.

* `forwarded_consecutive`: a track numbers consecutively while nothing of this happens (`Quiet`).
-/

import Erizo.Model.RtpTrackMuteHandler

namespace Erizo

open Library Library.Bytes

/-! ### Words of integers -/

/-- The word of a word's value. -/
theorem ofInt_toNat (word : UInt16) : UInt16.ofInt (word.toNat : ℤ) = word := by
  have below := word.toNat_lt
  rw [UInt16.ofInt, Int.emod_eq_of_lt (Int.natCast_nonneg _) (by omega), Int.toNat_natCast, UInt16.ofNat_toNat]

/-- The word of a difference. -/
theorem ofInt_sub (first second : ℤ) : UInt16.ofInt (first - second) = UInt16.ofInt first - UInt16.ofInt second := by
  rw [sub_eq_add_neg, UInt16.ofInt_add, UInt16.ofInt_neg, ← sub_eq_add_neg]

namespace RtpTrackMuteHandler

/-- The sequence number of a packet. -/
def number (packet : DetectedPacket) : UInt16 := RtpHeader.getSeqNumber packet.data

/-! ### A track -/

section Track

variable {info : TrackMuteInfo} {packet : DetectedPacket}

/-- A black keyframe has the number of the packet it is made of. -/
theorem number_black (packet : DetectedPacket) : number (RtpUtils.makeVP8BlackKeyframePacket packet) = number packet := by
  have long : 12 ≤ RtpHeader.getHeaderLength packet.data := by
    rw [RtpHeader.getHeaderLength]
    omega
  refine read16_congr fun address above below => ?_
  show RtpHeader.setMarker _ address = _
  rw [RtpHeader.setMarker, copy_of_le _ _ (by rw [List.length_singleton]; omega), copy_of_lt _ _ (by omega)]
  have inside := @copy_inside (fun _ => 0) 0 ((List.range (RtpHeader.getHeaderLength packet.data)).map packet.data) address
    (by rw [List.length_map, List.length_range]; omega)
  rw [Nat.zero_add] at inside
  rw [inside, List.getD_eq_getElem?_getD, List.getElem?_map, List.getElem?_range (by omega)]
  rfl

/-- The number a packet is forwarded with. -/
theorem number_forward (own : UInt16.ofInt info.lastOriginalSeqNum = number packet)
    (media : RtcpHeader.isRtcp packet.data 0 = false) :
    number (info.forward packet).2 = UInt16.ofInt info.lastOriginalSeqNum - info.seqNumOffset := by
  simp only [TrackMuteInfo.forward]
  split
  · rw [TrackMuteInfo.setPacketSeqNumber, media, if_neg Bool.false_ne_true, ofInt_sub, ofInt_toNat]
    exact read16_write16 _ _ _
  · rename_i none
    have zero : info.seqNumOffset = 0 := UInt16.le_zero_iff.mp (UInt16.not_lt.mp none)
    rw [zero, sub_zero, own]

/-- What is kept of a packet that is forwarded. -/
theorem ofInt_lastSent_forward :
    UInt16.ofInt (info.forward packet).1.lastSentSeqNum = UInt16.ofInt info.lastOriginalSeqNum - info.seqNumOffset := by
  simp only [TrackMuteInfo.forward]
  rw [ofInt_sub, ofInt_toNat]

/-- What is kept of a packet that arrives. -/
theorem lastOriginal_remember : (info.remember packet).lastOriginalSeqNum = (number packet).toNat := by
  unfold TrackMuteInfo.remember
  simp only
  split <;> rfl

theorem remember_eq : info.remember packet =
    { info with
      lastOriginalSeqNum := (number packet).toNat
      lastSentSeqNum := if info.lastSentSeqNum = -1 then (number packet).toNat else info.lastSentSeqNum } := by
  unfold TrackMuteInfo.remember
  simp only
  split <;> rfl

/-- A keyframe that is forwarded though the track is muted. -/
def Answers (info : TrackMuteInfo) (packet : DetectedPacket) : Prop :=
  packet.isKeyframe = true ∧ (info.unmuteRequested = true ∨ packet.codec = "VP8")

/-- A keyframe that is forwarded as a black one. -/
def TurnsBlack (info : TrackMuteInfo) (packet : DetectedPacket) : Prop :=
  packet.isKeyframe = true ∧ info.unmuteRequested = false ∧ packet.codec = "VP8"

instance : Decidable (Answers info packet) := inferInstanceAs (Decidable (_ ∧ _))

instance : Decidable (TurnsBlack info packet) := inferInstanceAs (Decidable (_ ∧ _))

/-- **What becomes of a packet.** It is dropped, forwarded, or forwarded with the offset taken anew. -/
theorem handlePacket_cases (info : TrackMuteInfo) (packet : DetectedPacket) :
    (info.muteIsActive = true ∧ ¬ Answers info packet ∧ info.handlePacket packet = (info.remember packet, none)) ∨
      ∃ (before : TrackMuteInfo) (picture : DetectedPacket),
        info.handlePacket packet = ((before.forward picture).1, some (before.forward picture).2) ∧
          (info.muteIsActive = false ∧ before = info.remember packet ∧ picture = packet ∨
            info.muteIsActive = true ∧ Answers info packet ∧
              before.lastOriginalSeqNum = (info.remember packet).lastOriginalSeqNum ∧
              before.seqNumOffset = (info.remember packet).updateOffset.seqNumOffset ∧
              (picture = packet ∨ TurnsBlack info packet ∧ picture = RtpUtils.makeVP8BlackKeyframePacket packet)) := by
  have active : (info.remember packet).muteIsActive = info.muteIsActive := by rw [remember_eq]
  have requested : (info.remember packet).unmuteRequested = info.unmuteRequested := by rw [remember_eq]
  unfold TrackMuteInfo.handlePacket
  simp only [active, requested]
  split
  · rename_i muted
    split
    · rename_i keyframe
      split
      · rename_i ends
        exact Or.inr ⟨_, packet, rfl, Or.inr ⟨muted, ⟨keyframe, Or.inl ends⟩, rfl, rfl, Or.inl rfl⟩⟩
      · rename_i stays
        have stays := Bool.eq_false_iff.mpr stays
        split
        · rename_i black
          exact Or.inr
            ⟨_, _, rfl, Or.inr ⟨muted, ⟨keyframe, Or.inr black⟩, rfl, rfl, Or.inr ⟨⟨keyframe, stays, black⟩, rfl⟩⟩⟩
        · rename_i other
          refine Or.inl ⟨muted, fun answers => ?_, rfl⟩
          rcases answers.2 with ends | black
          · exact absurd (stays.symm.trans ends) Bool.false_ne_true
          · exact other black
    · rename_i delta
      exact Or.inl ⟨muted, fun answers => delta answers.1, rfl⟩
  · rename_i unmuted
    exact Or.inr ⟨_, packet, rfl, Or.inl ⟨Bool.eq_false_iff.mpr unmuted, rfl, rfl⟩⟩

end Track

/-! ### The handler, seen from a track -/

/-- The entry of a track. -/
def info (handler : RtpTrackMuteHandler) : Track → TrackMuteInfo
  | .audio => handler.audioInfo
  | .video => handler.videoInfo

/-- The track a packet is handled for. -/
def trackOf (packet : DetectedPacket) : Option Track :=
  if RtcpHeader.isRtcp packet.data 0 then none
  else
    match packet.type with
    | .audio => some .audio
    | .video => some .video
    | .other => none

/-- The number of the packet that a call brings to a track. -/
def arrival (track : Track) : Call → Option UInt16
  | .write packet => if trackOf packet = some track then some (number packet) else none
  | _ => none

/-- The number a track gives to a packet that is handed on. -/
def given (track : Track) (written : Option Written) : Option UInt16 :=
  written.bind fun written => if written.track = some track then some (number written.packet) else none

/-- The numbers that arrive on a track. -/
def arrived (track : Track) (calls : List Call) : List UInt16 := calls.filterMap (arrival track)

/-- The numbers that are forwarded for a track. -/
def forwarded (track : Track) (handler : RtpTrackMuteHandler) (calls : List Call) : List UInt16 :=
  ((Machine.outputs step handler calls).map (given track)).reduceOption

/-- Every number is the one after the number before it. -/
def Consecutive (numbers : List UInt16) : Prop := numbers.IsChain fun first second => second = first + 1

instance (numbers : List UInt16) : Decidable (Consecutive numbers) := inferInstanceAs (Decidable (List.IsChain _ _))

theorem trackOf_media {packet : DetectedPacket} {track : Track} (own : trackOf packet = some track) :
    RtcpHeader.isRtcp packet.data 0 = false := by
  unfold trackOf at own
  split at own
  · exact nomatch own
  · rename_i media
    exact Bool.eq_false_iff.mpr media

/-- `write`, by the track of the packet. -/
theorem write_eq (handler : RtpTrackMuteHandler) (packet : DetectedPacket) :
    handler.write packet =
      match trackOf packet with
      | some .audio =>
          ({ handler with audioInfo := (handler.audioInfo.handlePacket packet).1 },
            (handler.audioInfo.handlePacket packet).2.map fun forwarded => ⟨some .audio, forwarded⟩)
      | some .video =>
          ({ handler with videoInfo := (handler.videoInfo.handlePacket packet).1 },
            (handler.videoInfo.handlePacket packet).2.map fun forwarded => ⟨some .video, forwarded⟩)
      | none => (handler, some ⟨none, packet⟩) := by
  unfold write trackOf
  by_cases rtcp : RtcpHeader.isRtcp packet.data 0 = true
  · rw [if_pos rtcp, if_pos rtcp]
  · rw [if_neg rtcp, if_neg rtcp]
    cases packet.type <;> rfl

/-- A packet that is forwarded for a track is given its number there. -/
theorem given_map (track other : Track) (forwarded : Option DetectedPacket) :
    given track (forwarded.map fun packet => ⟨some other, packet⟩) =
      if other = track then forwarded.map number else none := by
  cases forwarded with
  | none => exact (ite_self none).symm
  | some packet =>
      by_cases same : other = track
      · rw [if_pos same]
        exact if_pos (congrArg some same)
      · rw [if_neg same]
        exact if_neg fun equal => same (Option.some_injective _ equal)

/-- **What a call does to a track.** It brings a packet, it mutes, or it has nothing to do with the track. -/
theorem step_cases (track : Track) (handler : RtpTrackMuteHandler) (call : Call) :
    (∃ packet, call = .write packet ∧ trackOf packet = some track ∧
      (step handler call).1.info track = ((handler.info track).handlePacket packet).1 ∧
      given track (step handler call).2 = ((handler.info track).handlePacket packet).2.map number) ∨
    (arrival track call = none ∧ given track (step handler call).2 = none ∧
      ((step handler call).1.info track = handler.info track ∨
        ∃ active, (step handler call).1.info track = ((handler.info track).muteTrack active).1)) := by
  cases call with
  | muteAudio active =>
      refine Or.inr ⟨rfl, rfl, ?_⟩
      cases track with
      | audio => exact Or.inr ⟨active, rfl⟩
      | video => exact Or.inl rfl
  | muteVideo active =>
      refine Or.inr ⟨rfl, rfl, ?_⟩
      cases track with
      | audio => exact Or.inl rfl
      | video => exact Or.inr ⟨active, rfl⟩
  | notifyUpdate isAudioMuted isVideoMuted =>
      refine Or.inr ⟨rfl, rfl, Or.inr ?_⟩
      cases track with
      | audio => exact ⟨isAudioMuted, rfl⟩
      | video => exact ⟨isVideoMuted, rfl⟩
  | write packet =>
      have written := write_eq handler packet
      by_cases own : trackOf packet = some track
      · refine Or.inl ⟨packet, rfl, own, ?_⟩
        rw [own] at written
        change (handler.write packet).1.info track = _ ∧ given track (handler.write packet).2 = _
        rw [written]
        cases track <;> exact ⟨rfl, given_map _ _ _⟩
      · refine Or.inr ⟨if_neg own, ?_⟩
        change given track (handler.write packet).2 = none ∧ ((handler.write packet).1.info track = _ ∨ _)
        rw [written]
        rcases elsewhere : trackOf packet with _ | _ | _
        · exact ⟨rfl, Or.inl rfl⟩
        · cases track with
          | audio => exact absurd elsewhere own
          | video => exact ⟨given_map _ _ _, Or.inl rfl⟩
        · cases track with
          | audio => exact ⟨given_map _ _ _, Or.inl rfl⟩
          | video => exact absurd elsewhere own

/-! ### Numbers sent last -/

section Follows

variable {info : TrackMuteInfo} {last : UInt16}

/-- A track is ready to go on from the number it has sent last. -/
structure Follows (info : TrackMuteInfo) (last : UInt16) : Prop where
  seen : info.lastOriginalSeqNum ≠ -1
  sent : UInt16.ofInt info.lastSentSeqNum = last
  apart : info.muteIsActive = false → UInt16.ofInt info.lastOriginalSeqNum - info.seqNumOffset = last

/-- The offset leads from the last number seen to the last one sent. -/
theorem sub_updateOffset (info : TrackMuteInfo) :
    UInt16.ofInt info.lastOriginalSeqNum - info.updateOffset.seqNumOffset = UInt16.ofInt info.lastSentSeqNum := by
  rw [TrackMuteInfo.updateOffset, ofInt_sub, sub_sub_cancel]

theorem Follows.muteTrack (follows : Follows info last) (active : Bool) : Follows (info.muteTrack active).1 last := by
  unfold TrackMuteInfo.muteTrack
  split
  · exact follows
  · split
    · split
      · exact ⟨follows.seen, follows.sent, follows.apart⟩
      · refine ⟨follows.seen, follows.sent, fun _ => ?_⟩
        exact (sub_updateOffset { info with muteIsActive := active }).trans follows.sent
    · rename_i stays
      refine ⟨follows.seen, follows.sent, fun unmuted => absurd ?_ stays⟩
      change active = false at unmuted
      rw [unmuted, Bool.not_false]

theorem lastOriginal_muteTrack (info : TrackMuteInfo) (active : Bool) :
    (info.muteTrack active).1.lastOriginalSeqNum = info.lastOriginalSeqNum := by
  unfold TrackMuteInfo.muteTrack
  split
  · rfl
  · split
    · split <;> rfl
    · rfl

variable {packet : DetectedPacket}

/-- What is sent last is what is forwarded. -/
theorem follows_forward (own : info.lastOriginalSeqNum = (number packet).toNat)
    (media : RtcpHeader.isRtcp packet.data 0 = false) :
    Follows (info.forward packet).1 (number (info.forward packet).2) := by
  have word : UInt16.ofInt info.lastOriginalSeqNum = number packet := by rw [own, ofInt_toNat]
  refine ⟨?_, ?_, fun _ => (number_forward word media).symm⟩
  · change info.lastOriginalSeqNum ≠ -1
    omega
  · rw [ofInt_lastSent_forward, number_forward word media]

/-- **What is forgotten.** A muted track that drops a packet still knows what it has sent last, unless that is kept
as -1: then it is taken to be the packet. -/
theorem Follows.remember_iff (follows : Follows info last) (muted : info.muteIsActive = true) :
    Follows (info.remember packet) last ↔ (info.lastSentSeqNum = -1 → number packet = 65535) := by
  have sent := follows.sent
  rw [remember_eq]
  refine ⟨fun remembers unknown => ?_, fun known => ⟨?_, ?_, fun unmuted => absurd (muted.symm.trans unmuted) nofun⟩⟩
  · have word := remembers.sent
    change UInt16.ofInt (if info.lastSentSeqNum = -1 then _ else _) = last at word
    rw [if_pos unknown, ofInt_toNat] at word
    rw [unknown] at sent
    exact word.trans sent.symm
  · show ((number packet).toNat : ℤ) ≠ -1
    omega
  · show UInt16.ofInt (if info.lastSentSeqNum = -1 then _ else _) = last
    split
    · rename_i unknown
      rw [ofInt_toNat, known unknown, ← sent, unknown]
      rfl
    · exact sent

/-- **What is repeated.** A keyframe that a muted track forwards has the number that was sent last. -/
theorem Follows.number_answer (follows : Follows info last) (muted : info.muteIsActive = true)
    (known : info.lastSentSeqNum ≠ -1) (answers : Answers info packet)
    (media : RtcpHeader.isRtcp packet.data 0 = false)
    (black : RtcpHeader.isRtcp (RtpUtils.makeVP8BlackKeyframePacket packet).data 0 = false) :
    (info.handlePacket packet).2.map number = some last := by
  rcases handlePacket_cases info packet with ⟨-, refused, -⟩ | ⟨before, picture, handled, kind⟩
  · exact absurd answers refused
  · rcases kind with ⟨unmuted, -⟩ | ⟨-, -, original, offset, shown⟩
    · exact absurd (muted.symm.trans unmuted) nofun
    · have own : before.lastOriginalSeqNum = (number packet).toNat := by rw [original, lastOriginal_remember]
      have sent : (info.remember packet).lastSentSeqNum = info.lastSentSeqNum := by
        rw [remember_eq]
        exact if_neg known
      have repeated : UInt16.ofInt before.lastOriginalSeqNum - before.seqNumOffset = last := by
        rw [original, offset, sub_updateOffset, sent, follows.sent]
      rw [handled, Option.map_some, ← repeated]
      refine congrArg some ?_
      rcases shown with rfl | ⟨-, rfl⟩
      · exact number_forward (by rw [own, ofInt_toNat]) media
      · exact number_forward (by rw [own, ofInt_toNat, number_black]) black

/-- A packet is the last one seen. -/
theorem lastOriginal_handlePacket (info : TrackMuteInfo) (packet : DetectedPacket) :
    (info.handlePacket packet).1.lastOriginalSeqNum = (number packet).toNat := by
  rcases handlePacket_cases info packet with ⟨-, -, dropped⟩ | ⟨before, picture, forwarded, kind⟩
  · rw [dropped, lastOriginal_remember]
  · rw [forwarded]
    change before.lastOriginalSeqNum = _
    rcases kind with ⟨-, rfl, -⟩ | ⟨-, -, same, -⟩
    · exact lastOriginal_remember
    · rw [same, lastOriginal_remember]

end Follows

/-! ### Runs -/

section Runs

variable (track : Track)

/-- The number a track has seen last. -/
def seen (info : TrackMuteInfo) : Option UInt16 :=
  if info.lastOriginalSeqNum = -1 then none else some (UInt16.ofInt info.lastOriginalSeqNum)

/-- **The mute goes unnoticed.** A packet that comes to a muted track on which something has been forwarded is
dropped, and when the number sent last is kept as -1, the packet has that number. As long as nothing has been
forwarded, no black keyframe is taken for RTCP. -/
def Quiet (state : RtpTrackMuteHandler × Option UInt16) : Call → Prop
  | .write packet =>
      trackOf packet = some track → (state.1.info track).muteIsActive = true →
        if state.2.isSome then
          ¬ Answers (state.1.info track) packet ∧
            ((state.1.info track).lastSentSeqNum = -1 → number packet = 65535)
        else
          TurnsBlack (state.1.info track) packet →
            RtcpHeader.isRtcp (RtpUtils.makeVP8BlackKeyframePacket packet).data 0 = false
  | _ => True

instance (state : RtpTrackMuteHandler × Option UInt16) (call : Call) : Decidable (Quiet track state call) := by
  unfold Quiet
  split <;> infer_instance

/-- Every call of a run leaves the mute unnoticed. -/
def AllQuiet (handler : RtpTrackMuteHandler) (calls : List Call) : Prop :=
  Machine.Guarded (Machine.remembering step (given track)) (Quiet track) (handler, none) calls

/-- What arrives is the number after the one seen last. -/
def Next (state : RtpTrackMuteHandler × Option UInt16) (call : Call) : Prop :=
  ∀ arriving ∈ arrival track call, ∀ last ∈ seen (state.1.info track), arriving = last + 1

/-- A run in order is one step after the other. -/
theorem guarded_next (calls : List Call) (state : RtpTrackMuteHandler × Option UInt16)
    (inOrder : Consecutive ((seen (state.1.info track)).toList ++ arrived track calls)) :
    Machine.Guarded (Machine.remembering step (given track)) (Next track) state calls := by
  induction calls generalizing state with
  | nil => trivial
  | cons call rest ih =>
      rcases step_cases track state.1 call with ⟨packet, rfl, own, after, -⟩ | ⟨silent, -, change⟩
      · have arrives : arrival track (.write packet) = some (number packet) := if_pos own
        have last : seen ((step state.1 (.write packet)).1.info track) = some (number packet) := by
          rw [after, seen, lastOriginal_handlePacket, if_neg (by omega), ofInt_toNat]
        rw [arrived, List.filterMap_cons_some arrives] at inOrder
        obtain ⟨-, onward, follows⟩ := List.isChain_append.mp inOrder
        refine ⟨fun arriving isArriving previous isPrevious => ?_, ih _ ?_⟩
        · rw [arrives, Option.mem_some_iff] at isArriving
          subst isArriving
          refine follows previous ?_ _ rfl
          rw [Option.mem_def.mp isPrevious]
          rfl
        · change Consecutive ((seen ((step state.1 (.write packet)).1.info track)).toList ++ _)
          rw [last]
          exact onward
      · have same : seen ((step state.1 call).1.info track) = seen (state.1.info track) := by
          rcases change with same | ⟨active, muted⟩
          · rw [same]
          · rw [muted, seen, lastOriginal_muteTrack, seen]
        refine ⟨fun arriving isArriving => ?_, ih _ ?_⟩
        · rw [silent] at isArriving
          exact nomatch isArriving
        · change Consecutive ((seen ((step state.1 call).1.info track)).toList ++ _)
          rw [same]
          rwa [arrived, List.filterMap_cons_none silent] at inOrder

/-- The track is ready to go on from the number forwarded last. -/
def Tracks (state : RtpTrackMuteHandler × Option UInt16) : Prop :=
  ∀ last ∈ state.2, Follows (state.1.info track) last

variable {track}

/-- What is forwarded is what the track goes on from. -/
theorem tracks_forwarded {state : RtpTrackMuteHandler × Option UInt16} {call : Call} {before : TrackMuteInfo}
    {picture : DetectedPacket} (after : (step state.1 call).1.info track = (before.forward picture).1)
    (out : given track (step state.1 call).2 = some (number (before.forward picture).2))
    (own : before.lastOriginalSeqNum = (number picture).toNat) (media : RtcpHeader.isRtcp picture.data 0 = false) :
    Tracks track (Machine.remembering step (given track) state call).1 := by
  intro last isLast
  change last ∈ (given track (step state.1 call).2).or state.2 at isLast
  rw [out, Option.some_or, Option.mem_some_iff] at isLast
  subst isLast
  show Follows ((step state.1 call).1.info track) _
  rw [after]
  exact follows_forward own media

/-- A call that forwards nothing for the track. -/
theorem tracks_silent {state : RtpTrackMuteHandler × Option UInt16} {call : Call}
    (out : given track (step state.1 call).2 = none)
    (keeps : ∀ last ∈ state.2, Follows ((step state.1 call).1.info track) last) :
    Tracks track (Machine.remembering step (given track) state call).1 := by
  intro last isLast
  change last ∈ (given track (step state.1 call).2).or state.2 at isLast
  rw [out, Option.none_or] at isLast
  exact keeps last isLast

/-- **A call goes on from the number forwarded last.** -/
theorem step_tracks {state : RtpTrackMuteHandler × Option UInt16} {call : Call} (next : Next track state call)
    (quiet : Quiet track state call) (tracks : Tracks track state) :
    Tracks track (Machine.remembering step (given track) state call).1 ∧
      ∀ value ∈ given track (step state.1 call).2, ∀ previous ∈ state.2, value = previous + 1 := by
  rcases step_cases track state.1 call with ⟨packet, rfl, own, after, out⟩ | ⟨-, out, change⟩
  · have media := trackOf_media own
    have arrives : arrival track (.write packet) = some (number packet) := if_pos own
    rcases handlePacket_cases (state.1.info track) packet with ⟨muted, refused, dropped⟩ | ⟨before, picture, handled, kind⟩
    · rw [dropped] at after out
      refine ⟨tracks_silent out fun last isLast => ?_, fun value given => ?_⟩
      · have calm := quiet own muted
        rw [if_pos (Option.isSome_of_mem isLast)] at calm
        rw [after]
        exact ((tracks last isLast).remember_iff muted).mpr calm.2
      · rw [out] at given
        exact nomatch given
    · rw [handled] at after out
      rcases kind with ⟨unmuted, rfl, rfl⟩ | ⟨muted, answers, original, -, shown⟩
      · have original := @lastOriginal_remember (state.1.info track) picture
        refine ⟨tracks_forwarded after out original media, fun value given previous isLast => ?_⟩
        have follows := tracks previous isLast
        have last : seen (state.1.info track) = some (UInt16.ofInt (state.1.info track).lastOriginalSeqNum) :=
          if_neg follows.seen
        have offset : ((state.1.info track).remember picture).seqNumOffset = (state.1.info track).seqNumOffset := by
          rw [remember_eq]
        rw [out, Option.map_some, Option.mem_some_iff, number_forward (by rw [original, ofInt_toNat]) media, original,
          ofInt_toNat, offset] at given
        rw [← given, next _ arrives _ last, ← follows.apart unmuted]
        abel
      · have calm := quiet own muted
        have first : state.2 = none := by
          by_contra sent
          rw [if_pos (Option.isSome_iff_ne_none.mpr sent)] at calm
          exact calm.1 answers
        rw [first, if_neg (show ¬ (none : Option UInt16).isSome = true from Bool.false_ne_true)] at calm
        rw [lastOriginal_remember] at original
        refine ⟨?_, fun value _ previous isLast => ?_⟩
        · rcases shown with rfl | ⟨black, rfl⟩
          · exact tracks_forwarded after out original media
          · exact tracks_forwarded after out (by rw [original, number_black]) (calm black)
        · rw [first] at isLast
          exact nomatch isLast
  · refine ⟨tracks_silent out fun last isLast => ?_, fun value given => ?_⟩
    · rcases change with same | ⟨active, muted⟩
      · rw [same]
        exact tracks last isLast
      · rw [muted]
        exact (tracks last isLast).muteTrack active
    · rw [out] at given
      exact nomatch given

/-- **A mute that goes unnoticed leaves no trace in the sequence numbers.** -/
theorem forwarded_consecutive (stream : MediaStream) (track : Track) (calls : List Call)
    (inOrder : Consecutive (arrived track calls)) (quiet : AllQuiet track (create stream) calls) :
    Consecutive (forwarded track (create stream) calls) := by
  have fresh : seen ((create stream).info track) = none := by cases track <;> rfl
  have ordered : Machine.Guarded (Machine.remembering step (given track)) (Next track) (create stream, none) calls := by
    refine guarded_next track calls _ ?_
    rw [fresh]
    exact inOrder
  refine @Machine.Guarded.isChain_gives _ _ _ _ _ _ _ _ (Tracks track) ?_ ?_ _ _ (ordered.and quiet) ?_
  · exact fun state call guard tracks => (step_tracks guard.1 guard.2 tracks).1
  · exact fun state call guard tracks => (step_tracks guard.1 guard.2 tracks).2
  · exact fun last absent => absurd absent (Option.not_mem_none last)

/-- A packet of VP8. -/
def framePacket (type : PacketType) (isKeyframe : Bool) (sequenceNumber : UInt16) : DetectedPacket :=
  { mediaPacket sequenceNumber with
    type := type
    isKeyframe := isKeyframe
    codec := "VP8" }

/-- A mute of both tracks, before the first keyframe and across the wrap. -/
def quietCalls : List Call :=
  [.write (framePacket .audio false 65534), .muteVideo true, .write (framePacket .video true 7), .muteAudio true,
    .write (framePacket .audio false 65535), .write (framePacket .audio false 0), .muteAudio false,
    .write (framePacket .audio false 1), .write (framePacket .video false 8)]

theorem forwarded_consecutive_acrossWrap :
    (arrived .audio quietCalls = [65534, 65535, 0, 1] ∧
        forwarded .audio (create ⟨0, 0, [0], 44444, 55543, 300, false, false, 0, 0⟩) quietCalls = [65534, 65535]) ∧
      Consecutive (forwarded .audio (create ⟨0, 0, [0], 44444, 55543, 300, false, false, 0, 0⟩) quietCalls) ∧
      Consecutive (forwarded .video (create ⟨0, 0, [0], 44444, 55543, 300, false, false, 0, 0⟩) quietCalls) :=
  ⟨by decide +kernel, forwarded_consecutive _ .audio quietCalls (by decide +kernel) (by unfold AllQuiet; decide +kernel),
    forwarded_consecutive _ .video quietCalls (by decide +kernel) (by unfold AllQuiet; decide +kernel)⟩

/-- The keyframe that ends the mute of a video track has the number of the packet before the mute. -/
theorem not_forwarded_consecutive :
    ¬ ∀ (stream : MediaStream) (track : Track) (calls : List Call), Consecutive (arrived track calls) →
      Consecutive (forwarded track (create stream) calls) := by
  intro unnoticed
  have consecutive := unnoticed ⟨0, 0, [0], 44444, 55543, 300, false, false, 0, 0⟩ .video
    [.write (framePacket .video true 1), .muteVideo true, .muteVideo false, .write (framePacket .video true 2)]
    (by decide +kernel)
  exact absurd consecutive (by decide +kernel)

end Runs

end RtpTrackMuteHandler

end Erizo
