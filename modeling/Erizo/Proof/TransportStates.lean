/-
**The states of a transport.**

`updateTransportState` accepts any state. That a transport does not fall back comes from what waits for the
worker: ICE lets only later states through, a packet is only received once ICE is ready, and the worker is
first in, first out, so no notice of gathered candidates waits behind a packet (`Waiting`). Hence none is left
when a handshake completes, and the session that made the transport ready or failed is configured only once
(`Sound`).

* `callback_later`, `close_later`: the ICE connection tells only states later than its own.
* `work_sound`, `timeout_sound`, `close_sound`: what each step keeps, and where it may lead.
* `transport_never_regresses`: the runs.
-/

import Erizo.Library.Machine
import Erizo.Model.DtlsTransport

namespace Erizo

open Library

/-! ### The ICE connection -/

namespace IceConnection

/-- What a step of an ICE connection tells is later than its state, which never goes back. -/
def Later (ice : IceConnection) (told : IceConnection × Option IceState) : Prop :=
  ice.iceState.value ≤ told.1.iceState.value ∧ ∀ state ∈ told.2, ice.iceState.value < state.value

theorem later_none {ice after : IceConnection} (same : after.iceState = ice.iceState) : ice.Later (after, none) :=
  ⟨Nat.le_of_eq (congrArg IceState.value same.symm), fun _ absent => absurd absent (Option.not_mem_none _)⟩

theorem updateIceState_later (ice : IceConnection) (state : IceState) : ice.Later (ice.updateIceState state) := by
  unfold updateIceState
  split
  · exact later_none rfl
  · rename_i later
    have after : ice.iceState.value < state.value := Nat.not_le.mp later
    split
    · exact ⟨Nat.le_of_lt after, fun _ absent => absurd absent (Option.not_mem_none _)⟩
    · refine ⟨Nat.le_of_lt after, fun told present => ?_⟩
      simp only at present
      split at present
      · cases present
        exact after
      · exact absurd present (Option.not_mem_none _)

theorem updateComponentState_later (ice : IceConnection) (componentId : ℕ) (state : IceState) :
    ice.Later (ice.updateComponentState componentId state) := by
  have told := updateIceState_later
    { ice with compStateList := Function.update ice.compStateList componentId state } state
  cases state <;> simp only [updateComponentState]
  · exact told
  · exact told
  · split
    · exact told
    · exact later_none rfl
  · exact told
  · split
    · split
      · exact told
      · exact later_none rfl
    · exact later_none rfl

/-- **A callback tells only a later state.** -/
theorem callback_later (ice : IceConnection) (reported : Callback) : ice.Later (ice.callback reported) := by
  cases reported with
  | gatheringDone => exact updateIceState_later ice _
  | newSelectedPair componentId =>
      unfold callback
      cases ice.useNicer
      · exact updateComponentState_later ice componentId _
      · exact later_none rfl
  | componentFailed componentId =>
      unfold callback
      cases ice.useNicer
      · exact updateComponentState_later ice componentId _
      · exact later_none rfl
  | iceConnected =>
      unfold callback
      cases ice.useNicer
      · exact later_none rfl
      · simp only [iceConnected]
        split
        · exact later_none rfl
        · exact updateIceState_later ice _
  | streamFailed =>
      unfold callback
      cases ice.useNicer
      · exact later_none rfl
      · exact updateIceState_later ice _

/-- So does closing. -/
theorem close_later (ice : IceConnection) : ice.Later ice.close := by
  unfold close
  split
  · exact later_none rfl
  split
  · exact later_none rfl
  · exact updateIceState_later ice _

end IceConnection

namespace DtlsTransport

/-! ### What is asked of a transport -/

/-- Where a transport may go from a state. -/
def Allowed : TransportState → TransportState → Prop
  | .ready, target => target = .failed ∨ target = .finished
  | .finished, target => target = .finished
  | .failed, target => target ≠ .started ∧ target ≠ .gathered ∧ target ≠ .ready
  | _, _ => True

/-- The SRTP sessions of all components were configured. -/
def Configured (transport : DtlsTransport) : Prop :=
  transport.srtp = some true ∧ (transport.rtcpMux = false → transport.srtcp = some true)

/-- What waits for the worker: nothing that ICE does not tell, and no notice of gathered candidates behind a
packet, nor after the session of a component has been tried. -/
structure Waiting (transport : DtlsTransport) : Prop where
  initial : Task.updateIceState .initial ∉ transport.tasks
  order : transport.tasks.Pairwise fun first second =>
    second = .updateIceState .candidatesReceived → ∀ component, first ≠ .onIceData component
  ready : ∀ component, Task.onIceData component ∈ transport.tasks → 2 ≤ transport.ice.iceState.value
  rtcp : Task.onIceData .rtcp ∈ transport.tasks → transport.rtcpMux = false
  tried : transport.srtp ≠ none ∨ transport.srtcp ≠ none →
    2 ≤ transport.ice.iceState.value ∧ Task.updateIceState .candidatesReceived ∉ transport.tasks

/-- How the flags of a transport go with its sessions and its state. -/
structure Sound (transport : DtlsTransport) : Prop where
  onceRtp : transport.srtp ≠ none → transport.dtlsRtp.mHandshakeCompleted = true
  onceRtcp : transport.srtcp ≠ none → transport.dtlsRtcp.mHandshakeCompleted = true ∧ transport.rtcpMux = false
  readyRtp : transport.readyRtp = true → transport.srtp = some true
  readyRtcp : transport.readyRtcp = true →
    transport.rtcpMux = true ∧ transport.srtp ≠ none ∨ transport.srtcp = some true
  ready : transport.state = .ready → transport.readyRtp = true ∧ transport.readyRtcp = true
  failed : transport.state = .failed →
    transport.running = false ∨ transport.srtp = some false ∨ transport.srtcp = some false
  finished : transport.state = .finished → transport.running = false ∧
    transport.rtpTimeoutChecker.scheduled = false ∧ transport.rtcpTimeoutChecker.scheduled = false

/-- A transport that is ready has all its sessions. -/
theorem Sound.configured {transport : DtlsTransport} (sound : transport.Sound) (ready : transport.state = .ready) :
    transport.Configured := by
  obtain ⟨rtp, rtcp⟩ := sound.ready ready
  refine ⟨sound.readyRtp rtp, fun unmuxed => ?_⟩
  rcases sound.readyRtcp rtcp with ⟨muxed, -⟩ | configured
  · rw [unmuxed] at muxed
    cases muxed
  · exact configured

/-- A step leads only where it may. -/
def AllowedPassage (passage : Passage) : Prop :=
  ∀ step ∈ passage, Allowed step.1 step.2

theorem allowed_nil : AllowedPassage [] := fun _ absent => absurd absent List.not_mem_nil

/-! ### Taking a state -/

@[simp] theorem updateTransportState_fst (transport : DtlsTransport) (state : TransportState) :
    (transport.updateTransportState state).1 = { transport with state := state } := by
  unfold updateTransportState
  split
  · rename_i same
    rw [same]
  · rfl

theorem updateTransportState_allowed {transport : DtlsTransport} {state : TransportState}
    (allowed : state ≠ transport.state → Allowed transport.state state) :
    AllowedPassage (transport.updateTransportState state).2 := by
  intro step member
  unfold updateTransportState at member
  split at member
  · exact absurd member List.not_mem_nil
  · rename_i other
    cases List.mem_singleton.mp member
    exact allowed other

/-- A running transport is not closed. -/
theorem Sound.unfinished {transport : DtlsTransport} (sound : transport.Sound) (running : transport.running = true) :
    transport.state ≠ .finished := by
  intro finished
  have stopped := (sound.finished finished).1
  rw [running] at stopped
  cases stopped

/-- Before any session has been tried, a running transport may still be gathering. -/
theorem Sound.gathers {transport : DtlsTransport} (sound : transport.Sound) (running : transport.running = true)
    (untried : transport.srtp = none ∧ transport.srtcp = none) : Allowed transport.state .gathered := by
  cases state : transport.state with
  | ready =>
      have tried := sound.readyRtp (sound.ready state).1
      rw [untried.1] at tried
      cases tried
  | finished =>
      have stopped := (sound.finished state).1
      rw [running] at stopped
      cases stopped
  | failed =>
      rcases sound.failed state with stopped | tried | tried
      · rw [running] at stopped
        cases stopped
      · rw [untried.1] at tried
        cases tried
      · rw [untried.2] at tried
        cases tried
  | initial | started | gathered => trivial

/-- A transport that is not closed may fail. -/
theorem fails_of_unfinished {state : TransportState} (unfinished : state ≠ .finished) : Allowed state .failed := by
  cases state with
  | finished => exact absurd rfl unfinished
  | ready => exact Or.inl rfl
  | failed => exact ⟨nofun, nofun, nofun⟩
  | initial | started | gathered => trivial

/-! ### The worker -/

theorem startDtls_sound {transport : DtlsTransport} (sound : transport.Sound)
    (unfinished : transport.state ≠ .finished) : transport.startDtls.Sound := by
  unfold startDtls
  simp only
  split <;> split <;> exact { sound with finished := fun finished => absurd finished unfinished }

/-- **What ICE tells leads only where it may.** -/
theorem updateIceStateSync_sound {transport : DtlsTransport} (sound : transport.Sound) {state : IceState}
    (told : state ≠ .initial)
    (gathering : state = .candidatesReceived → transport.srtp = none ∧ transport.srtcp = none) :
    (transport.updateIceStateSync state).1.Sound ∧ AllowedPassage (transport.updateIceStateSync state).2 := by
  unfold updateIceStateSync
  cases running : transport.running with
  | false => exact ⟨sound, allowed_nil⟩
  | true =>
      cases state with
      | initial => exact absurd rfl told
      | candidatesReceived =>
          refine ⟨?_, updateTransportState_allowed fun _ => sound.gathers running (gathering rfl)⟩
          simp only [Bool.not_true, Bool.false_eq_true, if_false, updateTransportState_fst]
          exact { sound with ready := nofun, failed := nofun, finished := nofun }
      | failed =>
          refine ⟨?_, updateTransportState_allowed fun _ => fails_of_unfinished (sound.unfinished running)⟩
          simp only [Bool.not_true, Bool.false_eq_true, if_false, updateTransportState_fst]
          exact { sound with ready := nofun, failed := fun _ => Or.inl rfl, finished := nofun }
      | ready =>
          refine ⟨?_, allowed_nil⟩
          exact startDtls_sound sound (sound.unfinished running)
      | finished => exact ⟨sound, allowed_nil⟩

/-- Cancelling the checks changes nothing else. -/
theorem Sound.cancelled {transport : DtlsTransport} (sound : transport.Sound) :
    ({ transport with
        rtpTimeoutChecker := transport.rtpTimeoutChecker.cancel
        rtcpTimeoutChecker := transport.rtcpTimeoutChecker.cancel } : DtlsTransport).Sound :=
  { sound with finished := fun finished => ⟨(sound.finished finished).1, rfl, rfl⟩ }

theorem Sound.complete {transport : DtlsTransport} (sound : transport.Sound) (component : Component) :
    (transport.complete component).Sound := by
  cases component with
  | rtp => exact { sound with onceRtp := fun _ => rfl }
  | rtcp => exact { sound with onceRtcp := fun tried => ⟨rfl, (sound.onceRtcp tried).2⟩ }

/-- The session of a component has not been tried. -/
def Untried (transport : DtlsTransport) : Component → Prop
  | .rtp => transport.srtp = none
  | .rtcp => transport.srtcp = none ∧ transport.rtcpMux = false

/-- With RTCP multiplexing the session of RTP is the only one. -/
theorem Sound.multiplexed {transport : DtlsTransport} (sound : transport.Sound) (tried : transport.srtp ≠ none)
    (unready : transport.state ≠ .ready) :
    (if transport.rtcpMux then { transport with readyRtcp := true } else transport).Sound ∧
      (if transport.rtcpMux then { transport with readyRtcp := true } else transport).running =
        transport.running := by
  split
  · rename_i muxed
    refine ⟨?_, rfl⟩
    exact { sound with
      readyRtcp := fun _ => Or.inl ⟨muxed, tried⟩
      ready := fun ready => absurd ready unready }
  · exact ⟨sound, rfl⟩

/-- While the transport runs, what failed is a session. -/
theorem Sound.failed_running {transport : DtlsTransport} (sound : transport.Sound) (running : transport.running = true)
    (failed : transport.state = .failed) : transport.srtp = some false ∨ transport.srtcp = some false :=
  (sound.failed failed).resolve_left fun stopped => absurd (running.symm.trans stopped) nofun

/-- The session of RTP is tried. A failure of the other one stays. -/
theorem configure_rtp_sound {transport : DtlsTransport} (sound : transport.Sound) (running : transport.running = true)
    (complete : (transport.context .rtp).mHandshakeCompleted = true) (untried : transport.srtp = none)
    (configured : Bool) :
    (transport.configure .rtp configured).1.Sound ∧ (transport.configure .rtp configured).1.running = true ∧
      AllowedPassage (transport.configure .rtp configured).2 := by
  have unready : transport.readyRtp ≠ true := fun ready => by
    have tried := sound.readyRtp ready
    rw [untried] at tried
    cases tried
  have other : transport.readyRtcp = true → transport.srtcp = some true := fun ready =>
    (sound.readyRtcp ready).resolve_left fun muxed => muxed.2 untried
  have failure : transport.state = .failed → transport.srtcp = some false := fun failed =>
    (sound.failed_running running failed).resolve_left fun tried => absurd (untried.symm.trans tried) nofun
  have after : ({ transport with srtp := some configured, readyRtp := configured } : DtlsTransport).Sound :=
    { sound with
      onceRtp := fun _ => complete
      readyRtp := fun ready => congrArg some ready
      readyRtcp := fun ready => Or.inr (other ready)
      ready := fun ready => absurd (sound.ready ready).1 unready
      failed := fun failed => Or.inr (Or.inr (failure failed)) }
  cases configured with
  | true =>
      obtain ⟨muxed, runs⟩ := after.multiplexed nofun fun ready => unready (sound.ready ready).1
      exact ⟨muxed, runs.trans running, allowed_nil⟩
  | false =>
      have failed : ({ transport with srtp := some false, state := .failed } : DtlsTransport).Sound :=
        { after with
          readyRtp := fun ready => absurd ready unready
          ready := nofun
          failed := fun _ => Or.inr (Or.inl rfl)
          finished := nofun }
      obtain ⟨muxed, runs⟩ := failed.multiplexed nofun nofun
      simp only [configure, Bool.false_eq_true, if_false, updateTransportState_fst]
      exact ⟨muxed, runs.trans running,
        updateTransportState_allowed fun _ => fails_of_unfinished (sound.unfinished running)⟩

/-- The session of RTCP is tried. A failure of the other one stays. -/
theorem configure_rtcp_sound {transport : DtlsTransport} (sound : transport.Sound) (running : transport.running = true)
    (complete : (transport.context .rtcp).mHandshakeCompleted = true) (untried : transport.srtcp = none)
    (unmuxed : transport.rtcpMux = false) (configured : Bool) :
    (transport.configure .rtcp configured).1.Sound ∧ (transport.configure .rtcp configured).1.running = true ∧
      AllowedPassage (transport.configure .rtcp configured).2 := by
  have unready : transport.readyRtcp ≠ true := fun ready => by
    rcases sound.readyRtcp ready with ⟨muxed, -⟩ | tried
    · rw [unmuxed] at muxed
      cases muxed
    · rw [untried] at tried
      cases tried
  have failure : transport.state = .failed → transport.srtp = some false := fun failed =>
    (sound.failed_running running failed).resolve_right fun tried => absurd (untried.symm.trans tried) nofun
  cases configured with
  | true =>
      refine ⟨?_, running, allowed_nil⟩
      exact { sound with
        onceRtcp := fun _ => ⟨complete, unmuxed⟩
        readyRtcp := fun _ => Or.inr rfl
        ready := fun ready => absurd (sound.ready ready).2 unready
        failed := fun failed => Or.inr (Or.inl (failure failed)) }
  | false =>
      simp only [configure, Bool.false_eq_true, if_false, updateTransportState_fst]
      refine ⟨?_, running, updateTransportState_allowed fun _ => fails_of_unfinished (sound.unfinished running)⟩
      exact { sound with
        onceRtcp := fun _ => ⟨complete, unmuxed⟩
        readyRtcp := fun ready => absurd ready unready
        ready := nofun
        failed := fun _ => Or.inr (Or.inr rfl)
        finished := nofun }

/-- The session of a component is tried once its handshake is complete. -/
theorem configure_sound {transport : DtlsTransport} (sound : transport.Sound) (running : transport.running = true)
    {component : Component} (complete : (transport.context component).mHandshakeCompleted = true)
    (untried : transport.Untried component) (configured : Bool) :
    (transport.configure component configured).1.Sound ∧
      (transport.configure component configured).1.running = true ∧
      AllowedPassage (transport.configure component configured).2 := by
  cases component with
  | rtp => exact configure_rtp_sound sound running complete untried configured
  | rtcp => exact configure_rtcp_sound sound running complete untried.1 untried.2 configured

/-- With both flags set the transport becomes ready. -/
theorem becomesReady_sound {transport : DtlsTransport} (sound : transport.Sound) (running : transport.running = true)
    (rtp : transport.readyRtp = true) (rtcp : transport.readyRtcp = true) :
    (transport.updateTransportState .ready).1.Sound ∧
      AllowedPassage (transport.updateTransportState .ready).2 := by
  refine ⟨?_, updateTransportState_allowed fun other => ?_⟩
  · rw [updateTransportState_fst]
    exact { sound with ready := fun _ => ⟨rtp, rtcp⟩, failed := nofun, finished := nofun }
  · cases state : transport.state with
    | finished => exact absurd state (sound.unfinished running)
    | ready => exact absurd state.symm other
    | failed =>
        have configured := sound.readyRtp rtp
        rcases sound.failed state with stopped | failed | failed
        · rw [running] at stopped
          cases stopped
        · rw [configured] at failed
          cases failed
        · have unmuxed := (sound.onceRtcp (by rw [failed]; nofun)).2
          rcases sound.readyRtcp rtcp with ⟨muxed, -⟩ | configured
          · rw [unmuxed] at muxed
            cases muxed
          · rw [configured] at failed
            cases failed
    | initial | started | gathered => trivial

/-- **A completed handshake leads only where it may.** -/
theorem onHandshakeCompleted_sound {transport : DtlsTransport} (sound : transport.Sound)
    (running : transport.running = true) {component : Component}
    (complete : (transport.context component).mHandshakeCompleted = true) (untried : transport.Untried component)
    (configured : Bool) :
    (transport.onHandshakeCompleted component configured).1.Sound ∧
      AllowedPassage (transport.onHandshakeCompleted component configured).2 := by
  obtain ⟨tried, runs, first⟩ := @configure_sound _ sound.cancelled running component
    (by cases component <;> exact complete) (by cases component <;> exact untried) configured
  unfold onHandshakeCompleted
  simp only
  split
  · rename_i both
    obtain ⟨rtp, rtcp⟩ := (Bool.and_eq_true _ _).mp both
    obtain ⟨ready, second⟩ := becomesReady_sound tried runs rtp rtcp
    exact ⟨ready, List.forall_mem_append.mpr ⟨first, second⟩⟩
  · exact ⟨tried, first⟩

/-- A failed handshake stops the transport. -/
theorem onHandshakeFailed_sound {transport : DtlsTransport} (sound : transport.Sound)
    (unfinished : transport.state ≠ .finished) :
    transport.onHandshakeFailed.1.Sound ∧ AllowedPassage transport.onHandshakeFailed.2 := by
  refine ⟨?_, updateTransportState_allowed fun _ => fails_of_unfinished unfinished⟩
  rw [onHandshakeFailed, updateTransportState_fst]
  exact { sound with ready := nofun, failed := fun _ => Or.inl rfl, finished := nofun }

/-- **A packet leads only where it may.** -/
theorem onIceData_sound {transport : DtlsTransport} (sound : transport.Sound) {component : Component}
    (attached : component = .rtcp → transport.rtcpMux = false) (outcome : Outcome) :
    (transport.onIceData component outcome).1.Sound ∧ AllowedPassage (transport.onIceData component outcome).2 := by
  unfold onIceData
  split
  · exact ⟨sound, allowed_nil⟩
  rename_i runs
  have running : transport.running = true := by simpa using runs
  unfold doHandshakeIteration
  split
  · exact ⟨sound, allowed_nil⟩
  rename_i first
  have untried : transport.Untried component := by
    cases component with
    | rtp => exact by_contra fun tried => first (sound.onceRtp tried)
    | rtcp => exact ⟨by_contra fun tried => first (sound.onceRtcp tried).1, attached rfl⟩
  have completed := sound.complete component
  cases outcome with
  | wantRead => exact ⟨sound, allowed_nil⟩
  | unauthenticated => exact ⟨completed, allowed_nil⟩
  | completed configured =>
      refine @onHandshakeCompleted_sound _ completed ?_ component ?_ ?_ configured
      · cases component <;> exact running
      · cases component <;> rfl
      · cases component <;> exact untried
  | failed => exact onHandshakeFailed_sound sound (sound.unfinished running)

/-! ### What waits -/

/-- What waits for the worker and the ICE connection are as they were. -/
def SameQueue (before after : DtlsTransport) : Prop :=
  after.tasks = before.tasks ∧ after.ice = before.ice ∧ after.rtcpMux = before.rtcpMux

theorem configure_sameQueue (transport : DtlsTransport) (component : Component) (configured : Bool) :
    SameQueue transport (transport.configure component configured).1 := by
  cases component with
  | rtp =>
      cases configured <;> simp only [configure, if_true, Bool.false_eq_true, if_false, updateTransportState_fst] <;>
        split <;> exact ⟨rfl, rfl, rfl⟩
  | rtcp =>
      cases configured <;> simp only [configure, if_true, Bool.false_eq_true, if_false, updateTransportState_fst] <;>
        exact ⟨rfl, rfl, rfl⟩

/-- So do ICE's news, which leave the sessions as they are, too. -/
theorem updateIceStateSync_same (transport : DtlsTransport) (state : IceState) :
    SameQueue transport (transport.updateIceStateSync state).1 ∧
      (transport.updateIceStateSync state).1.srtp = transport.srtp ∧
      (transport.updateIceStateSync state).1.srtcp = transport.srtcp := by
  unfold updateIceStateSync
  split
  · exact ⟨⟨rfl, rfl, rfl⟩, rfl, rfl⟩
  cases state with
  | initial | candidatesReceived | failed =>
      simp only [updateTransportState_fst, SameQueue, and_self]
  | ready =>
      simp only [startDtls]
      split <;> split <;> exact ⟨⟨rfl, rfl, rfl⟩, rfl, rfl⟩
  | finished => exact ⟨⟨rfl, rfl, rfl⟩, rfl, rfl⟩

/-- A timeout check leaves it as it is, with the sessions. -/
theorem timeout_same (transport : DtlsTransport) (component : Component) :
    SameQueue transport (transport.timeout component).1 ∧ (transport.timeout component).1.srtp = transport.srtp ∧
      (transport.timeout component).1.srtcp = transport.srtcp := by
  have set : ∀ checker, SameQueue transport (transport.setChecker component checker) ∧
      (transport.setChecker component checker).srtp = transport.srtp ∧
      (transport.setChecker component checker).srtcp = transport.srtcp := by
    intro checker
    cases component <;> exact ⟨⟨rfl, rfl, rfl⟩, rfl, rfl⟩
  unfold timeout
  simp only
  split
  · exact ⟨⟨rfl, rfl, rfl⟩, rfl, rfl⟩
  split
  · exact set _
  split
  · exact set _
  · rw [onHandshakeFailed, updateTransportState_fst]
    exact set _

/-- A packet leaves what waits as it is. -/
theorem onIceData_sameQueue (transport : DtlsTransport) (component : Component) (outcome : Outcome) :
    SameQueue transport (transport.onIceData component outcome).1 := by
  unfold onIceData doHandshakeIteration
  split
  · exact ⟨rfl, rfl, rfl⟩
  split
  · exact ⟨rfl, rfl, rfl⟩
  cases outcome with
  | wantRead => exact ⟨rfl, rfl, rfl⟩
  | unauthenticated => cases component <;> exact ⟨rfl, rfl, rfl⟩
  | completed configured =>
      have same : SameQueue transport ((transport.complete component).onHandshakeCompleted component configured).1 := by
        unfold onHandshakeCompleted
        simp only
        split
        · rw [updateTransportState_fst]
          cases component <;> exact configure_sameQueue _ _ configured
        · cases component <;> exact configure_sameQueue _ _ configured
      exact same
  | failed =>
      simp only [onHandshakeFailed, updateTransportState_fst]
      exact ⟨rfl, rfl, rfl⟩

/-- ICE's news are of what has not been told yet. -/
theorem updateIceState_waiting {transport : DtlsTransport} (waiting : transport.Waiting)
    {told : IceConnection × Option IceState} (later : transport.ice.Later told) :
    (transport.updateIceState told).Waiting := by
  obtain ⟨grows, news⟩ := later
  obtain ⟨ice, told⟩ := told
  cases told with
  | none =>
      have same : (transport.updateIceState (ice, none)).tasks = transport.tasks := List.append_nil _
      refine ⟨same ▸ waiting.initial, same ▸ waiting.order, fun component packet => ?_, fun packet => ?_, fun tried => ?_⟩
      · exact Nat.le_trans (waiting.ready component (same ▸ packet)) grows
      · exact waiting.rtcp (same ▸ packet)
      · exact ⟨Nat.le_trans (waiting.tried tried).1 grows, same ▸ (waiting.tried tried).2⟩
  | some state =>
      have later := news state rfl
      have early : state = .candidatesReceived → transport.ice.iceState.value < 2 := by
        rintro rfl
        exact Nat.lt_trans later (by decide)
      have tasks : (transport.updateIceState (ice, some state)).tasks = transport.tasks ++ [.updateIceState state] := rfl
      have packets : ∀ component, .onIceData component ∈ (transport.updateIceState (ice, some state)).tasks →
          .onIceData component ∈ transport.tasks := by
        intro component packet
        rw [tasks, List.mem_append, List.mem_singleton] at packet
        exact packet.resolve_right nofun
      refine ⟨?_, ?_, fun component packet => ?_, fun packet => ?_, fun tried => ?_⟩
      · rw [tasks, List.mem_append, List.mem_singleton]
        rintro (old | new)
        · exact waiting.initial old
        · cases new
          exact absurd later (Nat.not_lt_zero _)
      · rw [tasks, List.pairwise_append]
        refine ⟨waiting.order, List.pairwise_singleton _ _, fun first earlier second last gathered component packet => ?_⟩
        cases List.mem_singleton.mp last
        cases gathered
        exact absurd (waiting.ready component (packet ▸ earlier)) (Nat.not_le.mpr (early rfl))
      · exact Nat.le_trans (waiting.ready component (packets component packet)) grows
      · exact waiting.rtcp (packets .rtcp packet)
      · obtain ⟨ready, absent⟩ := waiting.tried tried
        refine ⟨Nat.le_trans ready grows, ?_⟩
        rw [tasks, List.mem_append, List.mem_singleton]
        rintro (old | new)
        · exact absent old
        · cases new
          exact absurd ready (Nat.not_le.mpr (early rfl))

/-- Data waits only when ICE is ready. -/
theorem onData_waiting {transport : DtlsTransport} (waiting : transport.Waiting) (component : Component) :
    (transport.onData component).Waiting := by
  unfold onData
  split
  · exact waiting
  rename_i attached
  split
  · rename_i receives
    have ready : 2 ≤ transport.ice.iceState.value := by rw [receives.1]; decide
    refine ⟨?_, ?_, fun _ _ => ready, fun packet => ?_, fun tried => ⟨ready, ?_⟩⟩
    · rw [List.mem_append, List.mem_singleton]
      exact fun member => member.elim waiting.initial nofun
    · refine List.pairwise_append.mpr ⟨waiting.order, List.pairwise_singleton _ _, ?_⟩
      intro first _ second last gathered
      rw [List.mem_singleton.mp last] at gathered
      cases gathered
    · rcases List.mem_append.mp packet with old | new
      · exact waiting.rtcp old
      · cases List.mem_singleton.mp new
        exact Bool.eq_false_iff.mpr fun muxed => attached ⟨rfl, muxed⟩
    · rw [List.mem_append, List.mem_singleton]
      exact fun member => member.elim (waiting.tried tried).2 nofun
  · exact waiting

/-- Once the worker has taken a task, the rest waits. -/
theorem Waiting.rest {transport : DtlsTransport} (waiting : transport.Waiting) {task : Task} {rest : List Task}
    (tasks : transport.tasks = task :: rest) : ({ transport with tasks := rest } : DtlsTransport).Waiting := by
  have fewer : rest ⊆ transport.tasks := tasks ▸ List.subset_cons_self _ _
  refine ⟨fun initial => waiting.initial (fewer initial), ?_, fun component packet =>
    waiting.ready component (fewer packet),
    fun packet => waiting.rtcp (fewer packet), fun tried => ?_⟩
  · exact (List.pairwise_cons.mp (tasks ▸ waiting.order)).2
  · exact ⟨(waiting.tried tried).1, fun gathered => (waiting.tried tried).2 (fewer gathered)⟩

/-- Nothing changes about what waits where the queue, the ICE connection and the sessions are as before. -/
theorem Waiting.of_same {before after : DtlsTransport} (waiting : before.Waiting) (same : SameQueue before after)
    (tried : after.srtp ≠ none ∨ after.srtcp ≠ none →
      2 ≤ before.ice.iceState.value ∧ Task.updateIceState .candidatesReceived ∉ before.tasks) : after.Waiting := by
  obtain ⟨tasks, ice, mux⟩ := same
  refine ⟨tasks ▸ waiting.initial, tasks ▸ waiting.order, fun component packet => ?_, fun packet => ?_, fun ended => ?_⟩
  · rw [ice]
    exact waiting.ready component (tasks ▸ packet)
  · rw [mux]
    exact waiting.rtcp (tasks ▸ packet)
  · rw [ice, tasks]
    exact tried ended

/-! ### The steps -/

/-- **A task of the worker leads only where it may.** -/
theorem work_sound {transport : DtlsTransport} (waiting : transport.Waiting) (sound : transport.Sound)
    (outcome : Outcome) : (transport.work outcome).1.Sound ∧ AllowedPassage (transport.work outcome).2 := by
  unfold work
  split
  · exact ⟨sound, allowed_nil⟩
  · rename_i task rest tasks
    have popped : ({ transport with tasks := rest } : DtlsTransport).Sound := { sound with }
    have first : task ∈ transport.tasks := tasks ▸ List.mem_cons_self
    cases task with
    | updateIceState state =>
        refine updateIceStateSync_sound popped (fun initial => waiting.initial (initial ▸ first)) fun gathered => ?_
        by_contra tried
        exact (waiting.tried (by tauto)).2 (gathered ▸ first)
    | onIceData component =>
        exact onIceData_sound popped (fun rtcp => waiting.rtcp (rtcp ▸ first)) outcome

theorem work_waiting {transport : DtlsTransport} (waiting : transport.Waiting) (outcome : Outcome) :
    (transport.work outcome).1.Waiting := by
  unfold work
  split
  · exact waiting
  · rename_i task rest tasks
    have popped := waiting.rest tasks
    cases task with
    | updateIceState state =>
        obtain ⟨same, rtp, rtcp⟩ := updateIceStateSync_same { transport with tasks := rest } state
        refine popped.of_same same fun tried => popped.tried ?_
        rwa [rtp, rtcp] at tried
    | onIceData component =>
        refine popped.of_same (onIceData_sameQueue _ component outcome) fun _ => ⟨?_, fun gathered => ?_⟩
        · exact waiting.ready component (tasks ▸ List.mem_cons_self)
        · have order := waiting.order
          rw [tasks] at order
          exact (List.pairwise_cons.mp order).1 _ gathered rfl component rfl

theorem timeout_waiting {transport : DtlsTransport} (waiting : transport.Waiting) (component : Component) :
    (transport.timeout component).1.Waiting := by
  obtain ⟨same, rtp, rtcp⟩ := timeout_same transport component
  refine waiting.of_same same fun tried => waiting.tried ?_
  rwa [rtp, rtcp] at tried

/-- A timeout check leads only where it may. -/
theorem timeout_sound {transport : DtlsTransport} (sound : transport.Sound) (component : Component) :
    (transport.timeout component).1.Sound ∧ AllowedPassage (transport.timeout component).2 := by
  unfold timeout
  simp only
  split
  · exact ⟨sound, allowed_nil⟩
  rename_i scheduled
  have unfinished : transport.state ≠ .finished := fun finished => by
    obtain ⟨-, rtp, rtcp⟩ := sound.finished finished
    cases component with
    | rtp => exact scheduled (by rw [checker, rtp]; rfl)
    | rtcp => exact scheduled (by rw [checker, rtcp]; rfl)
  have set : ∀ checker, (transport.setChecker component checker).Sound ∧
      (transport.setChecker component checker).state = transport.state := by
    intro checker
    cases component <;> exact ⟨{ sound with finished := fun finished => absurd finished unfinished }, rfl⟩
  split
  · exact ⟨(set _).1, allowed_nil⟩
  split
  · exact ⟨(set _).1, allowed_nil⟩
  · exact onHandshakeFailed_sound (set _).1 ((set _).2 ▸ unfinished)

/-- So does closing. -/
theorem close_sound {transport : DtlsTransport} (sound : transport.Sound) :
    transport.close.1.Sound ∧ AllowedPassage transport.close.2 := by
  refine ⟨?_, fun step member => ?_⟩
  · exact { sound with ready := nofun, failed := nofun, finished := fun _ => ⟨rfl, rfl, rfl⟩ }
  · cases List.mem_singleton.mp member
    show Allowed transport.state .finished
    cases transport.state with
    | ready => exact Or.inr rfl
    | finished => rfl
    | failed => exact ⟨nofun, nofun, nofun⟩
    | initial | started | gathered => trivial

/-- **Every step keeps what waits and what is set, and leads only where it may.** -/
theorem step_sound (transport : DtlsTransport) (event : Event) (waiting : transport.Waiting)
    (sound : transport.Sound) :
    (step transport event).1.Waiting ∧ (step transport event).1.Sound ∧ AllowedPassage (step transport event).2 := by
  cases event with
  | start => exact ⟨{ waiting with }, { sound with }, allowed_nil⟩
  | callback reported =>
      exact ⟨updateIceState_waiting waiting (transport.ice.callback_later reported), { sound with }, allowed_nil⟩
  | setReceivedLastCandidate hasReceived => exact ⟨{ waiting with }, { sound with }, allowed_nil⟩
  | onData component =>
      refine ⟨onData_waiting waiting component, ?_, allowed_nil⟩
      simp only [step, onData]
      split
      · exact sound
      · split
        · exact { sound with }
        · exact sound
  | work outcome => exact ⟨work_waiting waiting outcome, work_sound waiting sound outcome⟩
  | timeout component => exact ⟨timeout_waiting waiting component, timeout_sound sound component⟩
  | close =>
      have closed := updateIceState_waiting waiting transport.ice.close_later
      exact ⟨{ closed with }, close_sound sound⟩
  | closeSync => exact ⟨{ waiting with }, { sound with }, allowed_nil⟩

theorem create_waiting (isServer rtcpMux useNicer : Bool) : (create isServer rtcpMux useNicer).Waiting where
  initial := List.not_mem_nil
  order := List.Pairwise.nil
  ready := fun _ absent => absurd absent List.not_mem_nil
  rtcp := fun absent => absurd absent List.not_mem_nil
  tried := fun tried => tried.elim (absurd rfl) (absurd rfl)

theorem create_sound (isServer rtcpMux useNicer : Bool) : (create isServer rtcpMux useNicer).Sound where
  onceRtp := fun tried => absurd rfl tried
  onceRtcp := fun tried => absurd rfl tried
  readyRtp := nofun
  readyRtcp := nofun
  ready := nofun
  failed := nofun
  finished := nofun

/-- **A transport never falls back.** In every run it goes only where it may, and it is ready only with the SRTP
sessions of all its components. -/
theorem transport_never_regresses (isServer rtcpMux useNicer : Bool) (events : List Event) :
    (∀ passage ∈ Machine.outputs step (create isServer rtcpMux useNicer) events,
      ∀ entry ∈ passage, Allowed entry.1 entry.2) ∧
    ((Machine.run step (create isServer rtcpMux useNicer) events).state = .ready →
      (Machine.run step (create isServer rtcpMux useNicer) events).Configured) := by
  have keeps : ∀ transport event, True → transport.Waiting ∧ transport.Sound →
      (step transport event).1.Waiting ∧ (step transport event).1.Sound := by
    intro transport event _ kept
    obtain ⟨waiting, sound, -⟩ := step_sound transport event kept.1 kept.2
    exact ⟨waiting, sound⟩
  have start := And.intro (create_waiting isServer rtcpMux useNicer) (create_sound isServer rtcpMux useNicer)
  have every := Machine.guarded_of_invariant (fun transport event => keeps transport event trivial)
    (fun _ _ _ => trivial) start events
  constructor
  · exact Machine.Guarded.forall_outputs keeps
      (fun transport event _ kept => (step_sound transport event kept.1 kept.2).2.2) every start
  · exact fun ready => (every.run_invariant keeps start).2.configured ready

end DtlsTransport

end Erizo
