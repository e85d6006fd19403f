/-
**The streams of a connection and what it says of them.**

As long as the identifiers of the streams are distinct and only streams that are there are removed, every step is defined,
no pointer to a stream is null, and every label in the local description is that of a stream that is there, with its SSRC
(`Sound.run`).

* `removed_iff`: the streams without those of an identifier are left exactly if there was one of them: with none the end
  is erased, and with more of them all but one of the unspecified pointers stay.
* `advertised`: in such runs the description that is asked for names the streams that send and no others.
-/

import Erizo.Library.Table
import Erizo.Model.ConnectionStreams

namespace Erizo

open Library StringUtil

namespace ConnectionStreams

variable {connection next : ConnectionStreams} {present : List LocalStream}

/-! ### Streams that are there -/

theorem streams_of_map (there : connection.mediaStreams = present.map some) : connection.streams = some present := by
  rw [streams, there, Table.mapM_eq_some_iff, List.forall₂_map_left_iff]
  exact List.forall₂_same.mpr fun _ _ => rfl

/-- **When the removal of a stream is right.** -/
theorem removed_iff (there : connection.mediaStreams = present.map some) (streamId : Text)
    (unspecified : ℕ → Option LocalStream) :
    (∃ next, connection.removeMediaStream streamId unspecified = some next ∧
        next.mediaStreams = (present.filter fun stream => ¬stream.id = streamId).map some) ↔
      (present.filter fun stream => stream.id = streamId).length = 1 := by
  unfold removeMediaStream
  rw [streams_of_map there]
  simp only [Option.bind_eq_bind, Option.bind_some]
  by_cases none : present.filter (fun stream => stream.id = streamId) = []
  · rw [if_pos none, none]
    exact iff_of_false (fun ⟨_, impossible, _⟩ => nomatch impossible) (by decide)
  · rw [if_neg none]
    have some : 0 < (present.filter fun stream => stream.id = streamId).length := List.length_pos_iff.mpr none
    constructor
    · rintro ⟨next, removed, left⟩
      rw [← Option.some.inj removed] at left
      have lengths := congrArg List.length left
      simp only [List.length_append, List.length_map, List.length_range] at lengths
      omega
    · intro one
      refine ⟨_, rfl, ?_⟩
      rw [one]
      exact List.append_nil _

/-- Two streams that came and one of them that left. -/
def alice : LocalStream := ⟨['a'], ['l', 'a'], false, true, 7, 8⟩

def bob : LocalStream := ⟨['b'], ['l', 'b'], false, true, 17, 18⟩

theorem removed_iff_bob :
    (∃ next, ((create.addMediaStream alice).addMediaStream bob).removeMediaStream ['b'] (fun _ => none) = some next ∧
        next.mediaStreams = ([alice, bob].filter fun stream => ¬stream.id = ['b']).map some) ↔
      ([alice, bob].filter fun stream => stream.id = ['b']).length = 1 :=
  removed_iff rfl ['b'] fun _ => none

/-! ### The description -/

section Description

variable {ν : Type} {value : LocalStream → ν} {table : Std.ExtTreeMap Text ν}

/-- Every label is that of a stream that is there and is not a publisher, with what it is to stand for. -/
def Only (value : LocalStream → ν) (present : List LocalStream) (table : Std.ExtTreeMap Text ν) : Prop :=
  ∀ (label : Text) (found : ν), table[label]? = some found →
    ∃ stream ∈ present, stream.label = label ∧ stream.isPublisher = false ∧ value stream = found

theorem Only.fill (only : Only value present table) {entries : List LocalStream}
    (each : ∀ stream ∈ entries, stream ∈ present ∧ stream.isPublisher = false) :
    Only value present (Table.fill LocalStream.label value table entries) := by
  intro label found read
  rcases Table.fill_cases LocalStream.label value table entries label with ⟨stream, member, named, here⟩ | ⟨-, kept⟩
  · obtain ⟨there, subscriber⟩ := each stream member
    exact ⟨stream, there, named, subscriber, Option.some.inj (here.symm.trans read)⟩
  · exact only label found (kept ▸ read)

theorem getElem?_foldl_erase (removed : List LocalStream) (table : Std.ExtTreeMap Text ν) (label : Text) :
    (removed.foldl (fun table stream => table.erase stream.label) table)[label]? =
      if ∃ stream ∈ removed, stream.label = label then none else table[label]? := by
  induction removed generalizing table with
  | nil => exact (if_neg fun ⟨_, absent, _⟩ => absurd absent List.not_mem_nil).symm
  | cons stream removed ih =>
      rw [List.foldl_cons, ih, Std.ExtTreeMap.getElem?_erase]
      by_cases later : ∃ stream ∈ removed, stream.label = label
      · obtain ⟨other, member, named⟩ := later
        rw [if_pos ⟨other, member, named⟩, if_pos ⟨other, List.mem_cons_of_mem _ member, named⟩]
      · rw [if_neg later]
        refine if_congr (Std.LawfulEqCmp.compare_eq_iff_eq.trans ⟨fun named => ?_, ?_⟩) rfl rfl
        · exact ⟨stream, List.mem_cons_self, named⟩
        · rintro ⟨other, member, named⟩
          rcases List.mem_cons.mp member with rfl | member
          · exact named
          · exact absurd ⟨other, member, named⟩ later

theorem Only.remove (only : Only value present table) (streamId : Text) :
    Only value (present.filter fun stream => ¬stream.id = streamId)
      ((present.filter fun stream => stream.id = streamId).foldl (fun table stream => table.erase stream.label) table) := by
  intro label found read
  rw [getElem?_foldl_erase] at read
  split at read
  · exact (nomatch read)
  · next kept =>
      obtain ⟨stream, there, named, subscriber, same⟩ := only label found read
      refine ⟨stream, List.mem_filter.mpr ⟨there, decide_eq_true fun gone => kept ⟨stream, ?_, named⟩⟩, named,
        subscriber, same⟩
      exact List.mem_filter.mpr ⟨there, decide_eq_true gone⟩

theorem Only.mono {more : List LocalStream} (only : Only value present table) (subset : present ⊆ more) :
    Only value more table := fun label found read =>
  (only label found read).imp fun _ all => ⟨subset all.1, all.2⟩

theorem Only.change {modify : LocalStream → LocalStream} (only : Only value present table)
    (keeps : ∀ stream, (modify stream).label = stream.label ∧ (modify stream).isPublisher = stream.isPublisher ∧
      value (modify stream) = value stream) : Only value (present.map modify) table := by
  intro label found read
  obtain ⟨stream, there, named, subscriber, same⟩ := only label found read
  obtain ⟨label, publisher, kept⟩ := keeps stream
  exact ⟨modify stream, List.mem_map_of_mem there, label.trans named, publisher.trans subscriber, kept.trans same⟩

end Description

/-- A stream that sends audio. -/
def sendsAudio (stream : LocalStream) : Bool :=
  stream.isReady && !stream.isPublisher && (stream.audioSinkSSRC ≠ kDefaultAudioSinkSSRC && stream.audioSinkSSRC ≠ 0)

/-- A stream that sends video. -/
def sendsVideo (stream : LocalStream) : Bool :=
  stream.isReady && !stream.isPublisher && (stream.videoSinkSSRC ≠ kDefaultVideoSinkSSRC && stream.videoSinkSSRC ≠ 0)

theorem foldl_writeAudio (streams : List LocalStream) (map : Std.ExtTreeMap Text UInt32) :
    streams.foldl writeAudio map =
      Table.fill LocalStream.label LocalStream.audioSinkSSRC map (streams.filter sendsAudio) := by
  rw [Table.fill, List.foldl_filter]
  refine congrArg (fun write => streams.foldl write map) (funext fun map => funext fun stream => ?_)
  unfold writeAudio sendsAudio
  cases stream.isReady <;> cases stream.isPublisher <;> simp

theorem foldl_writeVideo (streams : List LocalStream) (map : Std.ExtTreeMap Text (List UInt32)) :
    streams.foldl writeVideo map =
      Table.fill LocalStream.label (fun stream => [stream.videoSinkSSRC]) map (streams.filter sendsVideo) := by
  rw [Table.fill, List.foldl_filter]
  refine congrArg (fun write => streams.foldl write map) (funext fun map => funext fun stream => ?_)
  unfold writeVideo sendsVideo
  by_cases real : stream.videoSinkSSRC ≠ kDefaultVideoSinkSSRC ∧ stream.videoSinkSSRC ≠ 0
  · cases stream.isReady <;> cases stream.isPublisher <;> simp [real]
  · cases stream.isReady <;> cases stream.isPublisher <;> simp [real]

theorem subscriber_of_sends {sends : LocalStream → Bool} (sent : sends = sendsAudio ∨ sends = sendsVideo) :
    ∀ stream ∈ present.filter sends, stream ∈ present ∧ stream.isPublisher = false := by
  intro stream member
  obtain ⟨there, sending⟩ := List.mem_filter.mp member
  refine ⟨there, ?_⟩
  rcases sent with rfl | rfl
  · unfold sendsAudio at sending
    cases publisher : stream.isPublisher
    · rfl
    · simp [publisher] at sending
  · unfold sendsVideo at sending
    cases publisher : stream.isPublisher
    · rfl
    · simp [publisher] at sending

/-! ### Runs -/

/-- A stream comes with a new identifier, and only a stream that is there is removed. -/
def Proper (connection : ConnectionStreams) : Event → Prop
  | .addMediaStream mediaStream => ∀ stream, some stream ∈ connection.mediaStreams → stream.id ≠ mediaStream.id
  | .removeMediaStream streamId _ => ∃ stream, some stream ∈ connection.mediaStreams ∧ stream.id = streamId
  | _ => True

/-- All events come in this way. -/
def ProperRun (connection : ConnectionStreams) : List Event → Prop
  | [] => True
  | event :: rest => Proper connection event ∧ ∀ next, step connection event = some next → ProperRun next rest

/-- What holds of them. -/
structure Sound (present : List LocalStream) (connection : ConnectionStreams) : Prop where
  there : connection.mediaStreams = present.map some
  distinct : (present.map LocalStream.id).Nodup
  audio : Only LocalStream.audioSinkSSRC present connection.audioSsrcMap
  video : Only (fun stream => [stream.videoSinkSSRC]) present connection.videoSsrcMap

theorem sound_create : Sound [] create where
  there := rfl
  distinct := List.nodup_nil
  audio := fun _ _ read => by
    rw [create, Std.ExtTreeMap.getElem?_empty] at read
    exact (nomatch read)
  video := fun _ _ read => by
    rw [create, Std.ExtTreeMap.getElem?_empty] at read
    exact (nomatch read)

theorem Sound.add (sound : Sound present connection) {mediaStream : LocalStream}
    (new : ∀ stream ∈ present, stream.id ≠ mediaStream.id) :
    Sound (present ++ [mediaStream]) (connection.addMediaStream mediaStream) where
  there := by
    rw [addMediaStream, sound.there, List.map_append]
    rfl
  distinct := by
    rw [List.map_append, List.nodup_append]
    refine ⟨sound.distinct, List.nodup_singleton _, fun streamId member other same => ?_⟩
    obtain ⟨stream, there, rfl⟩ := List.mem_map.mp member
    rw [List.mem_singleton.mp same]
    exact new stream there
  audio := sound.audio.mono (List.subset_append_left _ _)
  video := sound.video.mono (List.subset_append_left _ _)

/-- With distinct identifiers there is one stream of an identifier at most. -/
theorem length_filter_id (distinct : (present.map LocalStream.id).Nodup) {stream : LocalStream} (there : stream ∈ present) :
    (present.filter fun other => other.id = stream.id).length = 1 := by
  have once := List.count_eq_one_of_mem distinct (List.mem_map_of_mem there)
  rw [List.count, List.countP_map] at once
  rw [← List.countP_eq_length_filter, ← once]
  refine List.countP_congr fun other _ => ?_
  rw [decide_eq_true_iff, Function.comp_apply, beq_iff_eq]

theorem Sound.remove (sound : Sound present connection) {stream : LocalStream} (there : stream ∈ present)
    (unspecified : ℕ → Option LocalStream) : ∃ next, connection.removeMediaStream stream.id unspecified = some next ∧
      Sound (present.filter fun other => ¬other.id = stream.id) next := by
  have one := length_filter_id sound.distinct there
  have nonempty : present.filter (fun other => other.id = stream.id) ≠ [] := fun none => by
    rw [none] at one
    exact absurd one (by decide)
  unfold removeMediaStream
  rw [streams_of_map sound.there]
  refine ⟨_, if_neg nonempty, ?_, ?_, sound.audio.remove stream.id, sound.video.remove stream.id⟩
  · rw [one]
    exact List.append_nil _
  · exact sound.distinct.sublist (List.filter_sublist.map _)

theorem Sound.setReady (sound : Sound present connection) (streamId : Text) (ready : Bool) :
    Sound (present.map fun stream => if stream.id = streamId then { stream with isReady := ready } else stream)
      (connection.setReady streamId ready) where
  there := by
    rw [ConnectionStreams.setReady, sound.there, List.map_map, List.map_map]
    rfl
  distinct := by
    rw [List.map_map]
    refine (congrArg List.Nodup (List.map_congr_left fun stream _ => ?_)).mpr sound.distinct
    rw [Function.comp_apply]
    split <;> rfl
  audio := sound.audio.change fun stream => by split <;> exact ⟨rfl, rfl, rfl⟩
  video := sound.video.change fun stream => by split <;> exact ⟨rfl, rfl, rfl⟩

theorem Sound.createOffer (sound : Sound present connection) (videoEnabled audioEnabled : Bool) :
    ∃ next, connection.createOfferSync videoEnabled audioEnabled = some next ∧ Sound present next := by
  unfold createOfferSync
  rw [streams_of_map sound.there]
  refine ⟨_, rfl, sound.there, sound.distinct, ?_, ?_⟩
  · cases audioEnabled with
    | false => exact sound.audio
    | true =>
        rw [if_pos rfl, foldl_writeAudio]
        exact sound.audio.fill (subscriber_of_sends (Or.inl rfl))
  · cases videoEnabled with
    | false => exact sound.video
    | true =>
        rw [if_pos rfl, foldl_writeVideo]
        exact sound.video.fill (subscriber_of_sends (Or.inr rfl))

/-- The description names every stream that sends. -/
def Complete {ν : Type} (sends : LocalStream → Bool) (present : List LocalStream) (table : Std.ExtTreeMap Text ν) : Prop :=
  ∀ stream ∈ present, sends stream = true → ∃ found, table[stream.label]? = some found

theorem complete_fill {ν : Type} (sends : LocalStream → Bool) (value : LocalStream → ν) (table : Std.ExtTreeMap Text ν) :
    Complete sends present (Table.fill LocalStream.label value table (present.filter sends)) := by
  intro stream there sending
  rcases Table.fill_cases LocalStream.label value table (present.filter sends) stream.label with
    ⟨other, -, -, here⟩ | ⟨absent, -⟩
  · exact ⟨_, here⟩
  · exact absurd rfl (absent stream (List.mem_filter.mpr ⟨there, sending⟩))

/-- A description that was asked for. -/
structure Advertises (present : List LocalStream) (receivingAudio receivingVideo : Bool)
    (connection : ConnectionStreams) : Prop extends Sound present connection where
  audios : Complete sendsAudio present connection.audioSsrcMap
  videos : Complete sendsVideo present connection.videoSsrcMap
  audioDirection : connection.audioDirection = direction (connection.audioSsrcMap.size > 0) receivingAudio
  videoDirection : connection.videoDirection = direction (connection.videoSsrcMap.size > 0) receivingVideo

theorem Sound.getLocalSdpInfo (sound : Sound present connection) (receivingAudio receivingVideo : Bool) :
    ∃ next, connection.getLocalSdpInfoSync receivingAudio receivingVideo = some next ∧
      Advertises present receivingAudio receivingVideo next := by
  unfold getLocalSdpInfoSync
  rw [streams_of_map sound.there]
  refine ⟨_, rfl, ⟨sound.there, sound.distinct, ?_, ?_⟩, ?_, ?_, rfl, rfl⟩
  · rw [foldl_writeAudio]
    exact sound.audio.fill (subscriber_of_sends (Or.inl rfl))
  · rw [foldl_writeVideo]
    exact sound.video.fill (subscriber_of_sends (Or.inr rfl))
  · rw [foldl_writeAudio]
    exact complete_fill sendsAudio _ _
  · rw [foldl_writeVideo]
    exact complete_fill sendsVideo _ _

/-- A proper step is defined and keeps all this. -/
theorem Sound.step (sound : Sound present connection) {event : Event} (proper : Proper connection event) :
    ∃ next, ConnectionStreams.step connection event = some next ∧ ∃ after, Sound after next := by
  cases event with
  | addMediaStream mediaStream =>
      refine ⟨_, rfl, _, sound.add fun stream there => proper stream ?_⟩
      rw [sound.there]
      exact List.mem_map_of_mem there
  | removeMediaStream streamId unspecified =>
      obtain ⟨stream, member, rfl⟩ := proper
      rw [sound.there] at member
      obtain ⟨stream, there, same⟩ := List.mem_map.mp member
      obtain rfl := Option.some.inj same
      obtain ⟨next, removed, after⟩ := sound.remove there unspecified
      exact ⟨next, removed, _, after⟩
  | createOffer videoEnabled audioEnabled =>
      obtain ⟨next, offered, after⟩ := sound.createOffer videoEnabled audioEnabled
      exact ⟨next, offered, _, after⟩
  | getLocalSdpInfo receivingAudio receivingVideo =>
      obtain ⟨next, asked, after⟩ := sound.getLocalSdpInfo receivingAudio receivingVideo
      exact ⟨next, asked, _, after.toSound⟩
  | setReady streamId ready => exact ⟨_, rfl, _, sound.setReady streamId ready⟩

/-- **A run of proper events is defined.** -/
theorem Sound.run {events : List Event} (sound : Sound present connection) (proper : ProperRun connection events) :
    ∃ last, events.foldlM ConnectionStreams.step connection = some last ∧ ∃ after, Sound after last := by
  induction events generalizing connection present with
  | nil => exact ⟨connection, rfl, present, sound⟩
  | cons event rest ih =>
      obtain ⟨next, taken, between, kept⟩ := sound.step proper.1
      obtain ⟨last, run, after⟩ := ih kept (proper.2 next taken)
      refine ⟨last, ?_, after⟩
      rw [List.foldlM_cons, taken]
      exact run

/-- **The description names the streams that send, and no others**, and every step on the way is defined. -/
theorem advertised (events : List Event) (proper : ProperRun create events) (receivingAudio receivingVideo : Bool) :
    ∃ connection present next, events.foldlM step create = some connection ∧
      connection.mediaStreams = present.map some ∧
      step connection (.getLocalSdpInfo receivingAudio receivingVideo) = some next ∧
      Advertises present receivingAudio receivingVideo next := by
  obtain ⟨connection, run, present, sound⟩ := sound_create.run proper
  obtain ⟨next, asked, advertises⟩ := sound.getLocalSdpInfo receivingAudio receivingVideo
  exact ⟨connection, present, next, run, sound.there, asked, advertises⟩

/-- Both come, an offer is made, and one of them leaves. -/
def comeAndGo : List Event :=
  [.addMediaStream alice, .addMediaStream bob, .createOffer true true, .removeMediaStream ['b'] fun _ => none]

theorem proper_comeAndGo : ProperRun create comeAndGo := by
  refine ⟨fun _ absent => absurd absent List.not_mem_nil, ?_⟩
  rintro _ ⟨⟩
  refine ⟨fun stream member => ?_, ?_⟩
  · obtain rfl := Option.some.inj (List.mem_singleton.mp member)
    decide
  rintro _ ⟨⟩
  refine ⟨trivial, ?_⟩
  rintro _ ⟨⟩
  exact ⟨⟨bob, List.mem_cons_of_mem _ List.mem_cons_self, rfl⟩, fun _ _ => trivial⟩

theorem advertised_comeAndGo : ∃ connection present next, comeAndGo.foldlM step create = some connection ∧
    connection.mediaStreams = present.map some ∧ step connection (.getLocalSdpInfo true false) = some next ∧
      Advertises present true false next :=
  advertised comeAndGo proper_comeAndGo true false

end ConnectionStreams

end Erizo
