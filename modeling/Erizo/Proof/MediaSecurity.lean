/-
**No media in the clear.**

A transport writes on ICE only when it is ready, and it becomes ready with the sessions of all its components
(`DtlsTransport.Sound`). So the channel that `write` looks for is there, and what it leaves for ICE has been protected,
unless ICE was no longer ready when it looked; then ICE never is again, and nothing is sent (`Secure`).

* `Descends`: the sessions that come of a key; `Sealed`, `Opened`: the bytes that come of such a session.
* `work_secure`, `step_secure`: what each step keeps.
* `sent_sealed`, `heard_opened`: the runs.
-/

import Erizo.Model.SecureTransport
import Erizo.Proof.KeyText
import Erizo.Proof.TransportStates

namespace Erizo

open Library

variable {ς : Type} {srtp : Srtp ς}

/-! ### Sessions and their keys -/

/-- The key of a side with its salt, as the key material has them. -/
def SrtpSessionKeys.sideKey (server : Bool) (material : List UInt8) : List UInt8 :=
  let keys := getSrtpSessionKeys material
  if server then keys.serverMasterKey ++ keys.serverMasterSalt else keys.clientMasterKey ++ keys.clientMasterSalt

open SrtpSessionKeys (sideKey)

namespace Srtp

variable (srtp)

/-- A session for one direction that was made with a key, after any calls in that direction. -/
inductive Descends : TransmissionType → List UInt8 → ς → Prop
  | create {type : TransmissionType} {key : List UInt8} {session : ς} (created : srtp.create type key = some session) :
      Descends type key session
  | protect {key : List UInt8} {session : ς} (plain : List UInt8) (before : Descends .sending key session) :
      Descends .sending key (srtp.protect session plain).1
  | protectRtcp {key : List UInt8} {session : ς} (plain : List UInt8) (before : Descends .sending key session) :
      Descends .sending key (srtp.protectRtcp session plain).1
  | unprotect {key : List UInt8} {session : ς} (cipher : List UInt8) (before : Descends .receiving key session) :
      Descends .receiving key (srtp.unprotect session cipher).1
  | unprotectRtcp {key : List UInt8} {session : ς} (cipher : List UInt8) (before : Descends .receiving key session) :
      Descends .receiving key (srtp.unprotectRtcp session cipher).1

/-- What a session with the key has made of a packet, RTP or RTCP, to protect it. -/
def Sealed (key plain data : List UInt8) : Prop :=
  ∃ session, srtp.Descends .sending key session ∧
    (if RtcpHeader.isRtcp (memoryOf plain) 0 then srtp.protectRtcp session plain else srtp.protect session plain).2 =
      some data

/-- What a session with the key has found in a packet, RTP or RTCP. -/
def Opened (key cipher data : List UInt8) : Prop :=
  ∃ session, srtp.Descends .receiving key session ∧
    (if RtcpHeader.isRtcp (memoryOf cipher) 0 then srtp.unprotectRtcp session cipher
      else srtp.unprotect session cipher).2 = some data

end Srtp

namespace SrtpChannel

/-- The sessions of a channel come of the keys of its own side and of the other one. -/
def KeyedBy (srtp : Srtp ς) (server : Bool) (material : List UInt8) (channel : SrtpChannel ς) : Prop :=
  (∀ session ∈ channel.sendSession, srtp.Descends .sending (sideKey server material) session) ∧
    ∀ session ∈ channel.receiveSession, srtp.Descends .receiving (sideKey (!server) material) session

/-- The channel of a handshake has the keys of its material, and is active if it could be configured. -/
theorem channelOf_keyedBy (srtp : Srtp ς) (server : Bool) (material : List UInt8) :
    KeyedBy srtp server material (SecureTransport.channelOf srtp server material).1 ∧
      (SecureTransport.channelOf srtp server material).1.active =
        (SecureTransport.channelOf srtp server material).2 := by
  have params : ∀ sendingKey receivingKey : List UInt8,
      let made := (create : SrtpChannel ς).setRtpParams srtp (Base64.encode sendingKey) (Base64.encode receivingKey)
      ((∀ session ∈ made.1.sendSession, srtp.Descends .sending sendingKey session) ∧
        ∀ session ∈ made.1.receiveSession, srtp.Descends .receiving receivingKey session) ∧ made.1.active = made.2 := by
    intro sendingKey receivingKey
    simp only [setRtpParams, configureSrtpSession, Base64.decode_encode]
    split
    · split
      · exact ⟨⟨fun _ made => .create made, fun _ made => .create made⟩, rfl⟩
      · exact ⟨⟨fun _ made => .create made, fun _ made => .create made⟩, rfl⟩
    · exact ⟨⟨fun _ made => .create made, nofun⟩, rfl⟩
  cases server with
  | false => exact params _ _
  | true => exact params _ _

/-- What a channel has protected is sealed with its key. -/
theorem KeyedBy.protected {server : Bool} {material : List UInt8} {channel : SrtpChannel ς}
    (keyed : KeyedBy srtp server material channel) (data : List UInt8) :
    KeyedBy srtp server material (SecureTransport.protect srtp data channel).1 ∧
      (SecureTransport.protect srtp data channel).1.active = channel.active ∧
      ∀ result ∈ (SecureTransport.protect srtp data channel).2, srtp.Sealed (sideKey server material) data result := by
  unfold SecureTransport.protect Srtp.Sealed protectRtcp protectRtp send
  cases RtcpHeader.isRtcp (memoryOf data) 0 <;> simp only [Bool.false_eq_true, if_false, if_true] <;> split <;>
    try exact ⟨keyed, rfl, nofun⟩
  all_goals
    split
    · exact ⟨keyed, rfl, nofun⟩
    · rename_i session present
      have descends := keyed.1 session present
      refine ⟨⟨fun later made => ?_, keyed.2⟩, rfl, fun result made => ⟨session, descends, made⟩⟩
      cases made
      first | exact descends.protectRtcp data | exact descends.protect data

/-- What a channel has found in a packet was opened with the key of the other side. -/
theorem KeyedBy.unprotected {server : Bool} {material : List UInt8} {channel : SrtpChannel ς}
    (keyed : KeyedBy srtp server material channel) (data : List UInt8) :
    let heard :=
      if RtcpHeader.isRtcp (memoryOf data) 0 then channel.unprotectRtcp srtp data else channel.unprotectRtp srtp data
    KeyedBy srtp server material heard.1 ∧ heard.1.active = channel.active ∧
      ∀ result ∈ heard.2, srtp.Opened (sideKey (!server) material) data result := by
  unfold Srtp.Opened unprotectRtcp unprotectRtp receive
  cases RtcpHeader.isRtcp (memoryOf data) 0 <;> simp only [Bool.false_eq_true, if_false, if_true] <;> split <;>
    try exact ⟨keyed, rfl, nofun⟩
  all_goals
    split
    · exact ⟨keyed, rfl, nofun⟩
    · rename_i session present
      have descends := keyed.2 session present
      refine ⟨⟨keyed.1, fun later made => ?_⟩, rfl, fun result made => ⟨session, descends, made⟩⟩
      cases made
      first | exact descends.unprotectRtcp data | exact descends.unprotect data

end SrtpChannel

/-! ### What the steps of a transport do to its sessions -/

namespace DtlsTransport

theorem configure_sessions (transport : DtlsTransport) (component : Component) (configured : Bool) :
    (transport.configure component configured).1.srtp =
        (if component = .rtp then some configured else transport.srtp) ∧
      (transport.configure component configured).1.srtcp =
        (if component = .rtcp then some configured else transport.srtcp) ∧
      (transport.configure component configured).1.isServer = transport.isServer := by
  cases component with
  | rtp =>
      cases configured <;> simp only [configure, if_true, Bool.false_eq_true, if_false, updateTransportState_fst] <;>
        split <;> exact ⟨rfl, rfl, rfl⟩
  | rtcp => cases configured <;> simp [configure]

theorem onHandshakeCompleted_sessions (transport : DtlsTransport) (component : Component) (configured : Bool) :
    (transport.onHandshakeCompleted component configured).1.srtp =
        (if component = .rtp then some configured else transport.srtp) ∧
      (transport.onHandshakeCompleted component configured).1.srtcp =
        (if component = .rtcp then some configured else transport.srtcp) ∧
      (transport.onHandshakeCompleted component configured).1.isServer = transport.isServer := by
  unfold onHandshakeCompleted
  simp only
  split
  · rw [updateTransportState_fst]
    exact configure_sessions _ component configured
  · exact configure_sessions _ component configured

/-- The sessions of two transports are the same, and so is their role; ICE has not gone back. -/
structure Keeps (before after : DtlsTransport) : Prop where
  srtp : after.srtp = before.srtp
  srtcp : after.srtcp = before.srtcp
  isServer : after.isServer = before.isServer
  ice : before.ice.iceState.value ≤ after.ice.iceState.value

/-- Where the queue and the sessions are the same, they are kept. -/
theorem keeps_of_same {before after : DtlsTransport} (same : SameQueue before after)
    (sessions : after.srtp = before.srtp ∧ after.srtcp = before.srtcp) (role : after.isServer = before.isServer) :
    Keeps before after :=
  ⟨sessions.1, sessions.2, role, Nat.le_of_eq (congrArg (fun ice => ice.iceState.value) same.2.1.symm)⟩

/-- ICE's news keep the sessions. -/
theorem updateIceStateSync_keeps (transport : DtlsTransport) (state : IceState) :
    Keeps transport (transport.updateIceStateSync state).1 := by
  obtain ⟨same, sessions⟩ := updateIceStateSync_same transport state
  refine keeps_of_same same sessions ?_
  unfold updateIceStateSync
  split
  · rfl
  cases state with
  | initial | candidatesReceived | failed => rw [updateTransportState_fst]
  | ready =>
      simp only [startDtls]
      split <;> split <;> rfl
  | finished => rfl

/-- A timeout check keeps them. -/
theorem timeout_keeps (transport : DtlsTransport) (component : Component) :
    Keeps transport (transport.timeout component).1 := by
  obtain ⟨same, sessions⟩ := timeout_same transport component
  refine keeps_of_same same sessions ?_
  have set : ∀ checker, (transport.setChecker component checker).isServer = transport.isServer := by
    intro checker
    cases component <;> rfl
  unfold timeout
  simp only
  split
  · rfl
  split
  · exact set _
  split
  · exact set _
  · rw [onHandshakeFailed, updateTransportState_fst]
    exact set _

/-- **Only the worker changes the sessions.** -/
theorem step_keeps (transport : DtlsTransport) {event : Event} (other : ∀ outcome, event ≠ .work outcome) :
    Keeps transport (step transport event).1 := by
  cases event with
  | start => exact ⟨rfl, rfl, rfl, Nat.le_refl _⟩
  | callback reported => exact ⟨rfl, rfl, rfl, (transport.ice.callback_later reported).1⟩
  | setReceivedLastCandidate hasReceived => exact ⟨rfl, rfl, rfl, Nat.le_refl _⟩
  | onData component =>
      simp only [step, onData]
      split
      · exact ⟨rfl, rfl, rfl, Nat.le_refl _⟩
      split <;> exact ⟨rfl, rfl, rfl, Nat.le_refl _⟩
  | work outcome => exact absurd rfl (other outcome)
  | timeout component => exact timeout_keeps transport component
  | close => exact ⟨rfl, rfl, rfl, transport.ice.close_later.1⟩
  | closeSync => exact ⟨rfl, rfl, rfl, Nat.le_refl _⟩

/-- A packet that does not complete a handshake keeps the sessions. -/
theorem onIceData_keeps (transport : DtlsTransport) (component : Component) (outcome : Outcome)
    (quiet : transport.running = true → (transport.context component).mHandshakeCompleted = false →
      ∀ configured, outcome ≠ .completed configured) :
    Keeps transport (transport.onIceData component outcome).1 := by
  have same := onIceData_sameQueue transport component outcome
  unfold onIceData doHandshakeIteration at same ⊢
  split at same
  · rename_i stopped
    rw [if_pos stopped]
    exact ⟨rfl, rfl, rfl, Nat.le_refl _⟩
  rename_i runs
  rw [if_neg runs]
  split at same
  · rename_i complete
    rw [if_pos complete]
    exact ⟨rfl, rfl, rfl, Nat.le_refl _⟩
  rename_i first
  rw [if_neg first]
  cases outcome with
  | wantRead => exact ⟨rfl, rfl, rfl, Nat.le_refl _⟩
  | unauthenticated => cases component <;> exact ⟨rfl, rfl, rfl, Nat.le_refl _⟩
  | completed configured =>
      exact absurd rfl (quiet (by simpa using runs) (Bool.eq_false_iff.mpr first) configured)
  | failed =>
      refine keeps_of_same same ?_ ?_ <;> simp only [onHandshakeFailed, updateTransportState_fst, and_self]

/-- A packet that completes a handshake leaves the session of its component. -/
theorem onIceData_completed (transport : DtlsTransport) (component : Component) (running : transport.running = true)
    (first : (transport.context component).mHandshakeCompleted = false) (configured : Bool) :
    (transport.onIceData component (.completed configured)).1.srtp =
        (if component = .rtp then some configured else transport.srtp) ∧
      (transport.onIceData component (.completed configured)).1.srtcp =
        (if component = .rtcp then some configured else transport.srtcp) ∧
      (transport.onIceData component (.completed configured)).1.isServer = transport.isServer := by
  have iterates : transport.onIceData component (.completed configured) =
      (transport.complete component).onHandshakeCompleted component configured := by
    rw [onIceData, running, doHandshakeIteration, first]
    rfl
  rw [iterates]
  obtain ⟨rtp, rtcp, role⟩ := onHandshakeCompleted_sessions (transport.complete component) component configured
  rw [rtp, rtcp, role]
  cases component <;> exact ⟨rfl, rfl, rfl⟩

end DtlsTransport

namespace SecureTransport

variable {isServer : Bool}

/-! ### The worker -/

/-- A task that does not complete a handshake keeps the sessions. -/
theorem work_keeps (transport : SecureTransport ς) {outcome : Outcome}
    (quiet : ∀ component, transport.handshaking = some component → ∀ configured, outcome ≠ .completed configured) :
    DtlsTransport.Keeps transport.base (transport.base.work outcome).1 := by
  unfold handshaking at quiet
  unfold DtlsTransport.work
  split
  · exact ⟨rfl, rfl, rfl, Nat.le_refl _⟩
  · rename_i task rest tasks
    rw [tasks] at quiet
    cases task with
    | updateIceState state =>
        have kept := DtlsTransport.updateIceStateSync_keeps { transport.base with tasks := rest } state
        exact ⟨kept.srtp, kept.srtcp, kept.isServer, kept.ice⟩
    | onIceData component =>
        have kept := DtlsTransport.onIceData_keeps { transport.base with tasks := rest } component outcome
          fun running first => quiet component (by
            have runs : transport.base.running = true := running
            have incomplete : (transport.base.context component).mHandshakeCompleted = false := by
              cases component <;> exact first
            simp only [runs, incomplete, Bool.not_false, Bool.and_self, if_true])
        exact ⟨kept.srtp, kept.srtcp, kept.isServer, kept.ice⟩

/-- A task that completes a handshake leaves the session of its component. -/
theorem work_completed {transport : SecureTransport ς} {component : Component}
    (handshaking : transport.handshaking = some component) (configured : Bool) :
    (transport.base.work (.completed configured)).1.srtp =
        (if component = .rtp then some configured else transport.base.srtp) ∧
      (transport.base.work (.completed configured)).1.srtcp =
        (if component = .rtcp then some configured else transport.base.srtcp) ∧
      (transport.base.work (.completed configured)).1.isServer = transport.base.isServer ∧
      (transport.base.work (.completed configured)).1.ice = transport.base.ice := by
  unfold SecureTransport.handshaking at handshaking
  split at handshaking
  · rename_i found rest tasks
    split at handshaking
    · rename_i iterates
      cases handshaking
      obtain ⟨running, first⟩ := (Bool.and_eq_true _ _).mp iterates
      have incomplete : (transport.base.context component).mHandshakeCompleted = false := by simpa using first
      have same := DtlsTransport.onIceData_sameQueue { transport.base with tasks := rest } component
        (.completed configured)
      obtain ⟨rtp, rtcp, role⟩ := DtlsTransport.onIceData_completed
        { transport.base with tasks := rest } component running
        (by cases component <;> exact incomplete) configured
      unfold DtlsTransport.work
      rw [tasks]
      exact ⟨rtp, rtcp, role, same.2.1⟩
    · cases handshaking
  · cases handshaking

/-! ### The invariant -/

/-- Whether the session of a component was configured, as `DtlsTransport` has it. -/
def sessionOf (base : DtlsTransport) : Component → Option Bool
  | .rtp => base.srtp
  | .rtcp => base.srtcp

/-- What has been written, received and exported so far. -/
structure History where
  written : List UInt8 → Prop
  received : List UInt8 → Prop
  exported : List UInt8 → Prop

/-- The channels have the keys of a handshake, and what waits to be sent is sealed, or ICE will not take it. -/
structure Secure (srtp : Srtp ς) (isServer : Bool) (history : History) (transport : SecureTransport ς) : Prop where
  waiting : transport.base.Waiting
  sound : transport.base.Sound
  role : transport.base.isServer = isServer
  sessions : ∀ component, sessionOf transport.base component = (transport.channel component).map SrtpChannel.active
  keyed : ∀ component, ∀ channel ∈ transport.channel component,
    ∃ material, history.exported material ∧ channel.KeyedBy srtp isServer material
  pending : ∀ datagram ∈ transport.protectBuf, 2 < transport.base.ice.iceState.value ∨
    ∃ material plain, history.exported material ∧ history.written plain ∧
      srtp.Sealed (sideKey isServer material) plain datagram.2

variable {history : History}

theorem create_secure (srtp : Srtp ς) (isServer rtcpMux useNicer : Bool) (history : History) :
    Secure srtp isServer history (create isServer rtcpMux useNicer) where
  waiting := DtlsTransport.create_waiting isServer rtcpMux useNicer
  sound := DtlsTransport.create_sound isServer rtcpMux useNicer
  role := rfl
  sessions := fun component => by cases component <;> rfl
  keyed := fun component => by cases component <;> exact nofun
  pending := nofun

/-- A step that keeps the sessions leaves a transport secure. -/
theorem Secure.keeps {transport : SecureTransport ς} (secure : Secure srtp isServer history transport)
    {base : DtlsTransport} (waiting : base.Waiting) (sound : base.Sound) (keeps : DtlsTransport.Keeps transport.base base) :
    Secure srtp isServer history { transport with base := base } where
  waiting := waiting
  sound := sound
  role := keeps.isServer.trans secure.role
  sessions := fun component => by
    have same := secure.sessions component
    cases component with
    | rtp => exact keeps.srtp.trans same
    | rtcp => exact keeps.srtcp.trans same
  keyed := fun component => by
    have keyed := secure.keyed component
    cases component <;> exact keyed
  pending := fun datagram waits => (secure.pending datagram waits).imp_left fun later => Nat.lt_of_lt_of_le later keeps.ice

theorem channel_setChannel (transport : SecureTransport ς) (channel : SrtpChannel ς) (set component : Component) :
    (transport.setChannel channel set).channel component =
      if component = set then some channel else transport.channel component := by
  cases set <;> cases component <;> rfl

theorem base_setChannel (transport : SecureTransport ς) (channel : SrtpChannel ς) (set : Component) :
    (transport.setChannel channel set).base = transport.base := by
  cases set <;> rfl

theorem protectBuf_setChannel (transport : SecureTransport ς) (channel : SrtpChannel ς) (set : Component) :
    (transport.setChannel channel set).protectBuf = transport.protectBuf := by
  cases set <;> rfl

/-- A channel that has come further takes the place of the one it was. -/
theorem Secure.setChannel {transport : SecureTransport ς} (secure : Secure srtp isServer history transport)
    {component : Component} {channel after : SrtpChannel ς} (present : transport.channel component = some channel)
    (active : after.active = channel.active) {material : List UInt8} (exported : history.exported material)
    (keyed : after.KeyedBy srtp isServer material) :
    Secure srtp isServer history (transport.setChannel after component) where
  waiting := by rw [base_setChannel]; exact secure.waiting
  sound := by rw [base_setChannel]; exact secure.sound
  role := by rw [base_setChannel]; exact secure.role
  sessions := fun other => by
    rw [base_setChannel, channel_setChannel, secure.sessions other]
    split
    · rename_i same
      rw [same, present, Option.map_some, Option.map_some, active]
    · rfl
  keyed := fun other found member => by
    rw [channel_setChannel] at member
    split at member
    · cases member
      exact ⟨material, exported, keyed⟩
    · exact secure.keyed other found member
  pending := by rw [base_setChannel, protectBuf_setChannel]; exact secure.pending

/-! ### The steps -/

/-- **A completed handshake brings the keys of its material.** -/
theorem work_secure {transport : SecureTransport ς} (secure : Secure srtp isServer history transport)
    {handshake : Handshake} (exported : ∀ material, handshake = .completed material → history.exported material) :
    Secure srtp isServer history (transport.work srtp handshake) := by
  obtain ⟨waiting, sound, -⟩ := DtlsTransport.step_sound transport.base
    (.work (outcomeOf srtp transport.base.isServer handshake)) secure.waiting secure.sound
  have quiet : (∀ component, transport.handshaking = some component →
      ∀ configured, outcomeOf srtp transport.base.isServer handshake ≠ .completed configured) →
      Secure srtp isServer history
        { transport with base := (transport.base.work (outcomeOf srtp transport.base.isServer handshake)).1 } :=
    fun other => secure.keeps waiting sound (work_keeps transport other)
  unfold work
  cases handshake with
  | wantRead | unauthenticated | failed => exact quiet fun _ _ => nofun
  | completed material =>
      cases handshakes : transport.handshaking with
      | none => exact quiet fun component present => absurd (handshakes.symm.trans present) nofun
      | some component =>
          obtain ⟨keyed, active⟩ := SrtpChannel.channelOf_keyedBy srtp transport.base.isServer material
          obtain ⟨rtp, rtcp, role, ice⟩ := work_completed handshakes (channelOf srtp transport.base.isServer material).2
          have session : ∀ other,
              sessionOf (transport.base.work (outcomeOf srtp transport.base.isServer (.completed material))).1 other =
                if other = component then some (channelOf srtp transport.base.isServer material).2
                else sessionOf transport.base other := by
            intro other
            cases other with
            | rtp => exact rtp.trans (by simp only [eq_comm, sessionOf])
            | rtcp => exact rtcp.trans (by simp only [eq_comm, sessionOf])
          have channels : ∀ other, (SecureTransport.mk
              (transport.base.work (outcomeOf srtp transport.base.isServer (.completed material))).1
              (transport.setChannel (channelOf srtp transport.base.isServer material).1 component).srtp
              (transport.setChannel (channelOf srtp transport.base.isServer material).1 component).srtcp
              (transport.setChannel (channelOf srtp transport.base.isServer material).1 component).protectBuf).channel
                other =
                if other = component then some (channelOf srtp transport.base.isServer material).1
                else transport.channel other := by
            intro other
            rw [← channel_setChannel]
            cases other <;> rfl
          refine ⟨waiting, sound, role.trans secure.role, fun other => ?_, fun other channel member => ?_,
            fun datagram waits => ?_⟩
          · rw [session, channels]
            split
            · rw [Option.map_some, active]
            · exact secure.sessions other
          · rw [channels] at member
            split at member
            · cases member
              exact ⟨material, exported material rfl, secure.role ▸ keyed⟩
            · exact secure.keyed other channel member
          · have unsent : datagram ∈ transport.protectBuf := by cases component <;> exact waits
            exact (secure.pending datagram unsent).imp_left fun later => ice ▸ later

/-- A transport that is ready has the channel that a packet is to be written on. -/
theorem Secure.present {transport : SecureTransport ς} (secure : Secure srtp isServer history transport)
    (ready : transport.base.state = .ready) {component : Component}
    (attached : component = .rtcp → transport.base.rtcpMux = false) :
    ∃ channel, transport.channel component = some channel := by
  obtain ⟨rtp, rtcp⟩ := secure.sound.configured ready
  have session := secure.sessions component
  have configured : sessionOf transport.base component = some true := by
    cases component with
    | rtp => exact rtp
    | rtcp => exact rtcp (attached rfl)
  obtain ⟨channel, present, -⟩ := Option.map_eq_some_iff.mp (session.symm.trans configured)
  exact ⟨channel, present⟩

/-- **What waits after a packet has been protected is sealed, or ICE is past being ready.** -/
theorem beginWrite_secure {transport : SecureTransport ς} (secure : Secure srtp isServer history transport)
    {data : List UInt8} (written : history.written data) :
    Secure srtp isServer history (transport.beginWrite srtp data) := by
  unfold beginWrite
  split
  · rename_i writes
    have ready : transport.base.state = .ready := of_decide_eq_true ((Bool.and_eq_true _ _).mp writes).2
    obtain ⟨channel, present⟩ := @Secure.present _ _ _ _ _ secure ready (transport.writeComponent data) fun rtcp => by
      unfold writeComponent at rtcp
      split at rtcp
      · rename_i unmuxed
        simpa using ((Bool.and_eq_true _ _).mp unmuxed).2
      · cases rtcp
    simp only [present]
    split
    · obtain ⟨material, exported, keyed⟩ := secure.keyed _ channel present
      obtain ⟨after, active, sealing⟩ := keyed.protected data
      have kept := secure.setChannel present active exported after
      refine { kept with
        keyed := fun component => ?_
        sessions := fun component => ?_
        pending := fun datagram waits => ?_ }
      · have same := kept.sessions component
        cases component <;> exact same
      · have same := kept.keyed component
        cases component <;> exact same
      · obtain ⟨bytes, made, rfl⟩ := Option.map_eq_some_iff.mp waits
        exact Or.inr ⟨material, data, exported, written, sealing bytes made⟩
    · rename_i unready
      -- the sessions have been tried, so ICE has been ready, and it never goes back
      have tried : transport.base.srtp ≠ none := fun untried =>
        absurd ((secure.sound.configured ready).1.symm.trans untried) nofun
      have reached := (secure.waiting.tried (Or.inl tried)).1
      refine { secure with
        keyed := fun component => ?_
        sessions := fun component => ?_
        pending := fun datagram waits => Or.inl ?_ }
      · have same := secure.sessions component
        cases component <;> exact same
      · have same := secure.keyed component
        cases component <;> exact same
      · show 2 < transport.base.ice.iceState.value
        revert unready reached
        cases transport.base.ice.iceState <;> decide
  · exact secure

/-- What ICE is given is sealed. -/
theorem endWrite_secure {transport : SecureTransport ς} (secure : Secure srtp isServer history transport) :
    Secure srtp isServer history transport.endWrite.1 ∧ ∀ datagram ∈ transport.endWrite.2,
      ∃ material plain, history.exported material ∧ history.written plain ∧
        srtp.Sealed (sideKey isServer material) plain datagram.2 := by
  unfold endWrite
  cases waits : transport.protectBuf with
  | none => exact ⟨secure, nofun⟩
  | some datagram =>
      refine ⟨?_, fun sent gives => ?_⟩
      · refine { secure with
          keyed := fun component => ?_
          sessions := fun component => ?_
          pending := nofun }
        · have same := secure.sessions component
          cases component <;> exact same
        · have same := secure.keyed component
          cases component <;> exact same
      · simp only [Option.mem_def] at gives
        split at gives
        · cases gives
        split at gives
        · rename_i takes
          cases gives
          have ready : transport.base.ice.iceState = .ready := of_decide_eq_true ((Bool.and_eq_true _ _).mp takes).1
          refine (secure.pending _ waits).resolve_left fun later => ?_
          rw [ready] at later
          exact absurd later (by decide)
        · cases gives

/-- What the listener is given was opened. -/
theorem onIceData_secure {transport : SecureTransport ς} (secure : Secure srtp isServer history transport)
    (component : Component) (data : List UInt8) :
    Secure srtp isServer history (transport.onIceData srtp component data).1 ∧
      ∀ heard ∈ (transport.onIceData srtp component data).2,
        ∃ material, history.exported material ∧ srtp.Opened (sideKey (!isServer) material) data heard := by
  unfold onIceData
  split
  · exact ⟨secure, nofun⟩
  simp only
  generalize (if transport.base.rtcpMux = true then Component.rtp else component) = on
  split
  · exact ⟨secure, nofun⟩
  · rename_i channel present
    obtain ⟨material, exported, keyed⟩ := secure.keyed _ channel present
    obtain ⟨after, active, opening⟩ := keyed.unprotected data
    generalize (if RtcpHeader.isRtcp (memoryOf data) 0 then channel.unprotectRtcp srtp data
      else channel.unprotectRtp srtp data) = opened at after active opening ⊢
    refine ⟨secure.setChannel present active exported after, fun heard gives => ?_⟩
    simp only [Option.mem_def] at gives
    split at gives
    · cases gives
    · exact ⟨material, exported, opening heard gives⟩

/-- What an effect may be: a packet that was written, sealed, or one that was received, opened. -/
def Protected (srtp : Srtp ς) (isServer : Bool) (history : History) : Effect → Prop
  | .sendData _ data => ∃ material plain, history.exported material ∧ history.written plain ∧
      srtp.Sealed (sideKey isServer material) plain data
  | .onTransportData data => ∃ material cipher, history.exported material ∧ history.received cipher ∧
      srtp.Opened (sideKey (!isServer) material) cipher data

/-- What an event adds to the history is there. -/
def History.Has (history : History) : Event → Prop
  | .work (.completed material) => history.exported material
  | .beginWrite data => history.written data
  | .onIceData _ data => history.received data
  | _ => True

/-- **Every step leaves a transport secure and gives out only what is protected.** -/
theorem step_secure {transport : SecureTransport ς} {event : Event} (has : history.Has event)
    (secure : Secure srtp isServer history transport) :
    Secure srtp isServer history (step srtp transport event).1 ∧
      ∀ effect ∈ (step srtp transport event).2, Protected srtp isServer history effect := by
  cases event with
  | other event =>
      refine ⟨?_, by cases event <;> exact nofun⟩
      have kept : (∀ outcome, event ≠ .work outcome) →
          Secure srtp isServer history { transport with base := (transport.base.step event).1 } := by
        intro other
        obtain ⟨waiting, sound, -⟩ := DtlsTransport.step_sound transport.base event secure.waiting secure.sound
        exact secure.keeps waiting sound (transport.base.step_keeps other)
      cases event with
      | work outcome => exact secure
      | _ => exact kept nofun
  | work handshake =>
      refine ⟨work_secure secure fun material completed => ?_, nofun⟩
      rw [completed] at has
      exact has
  | beginWrite data => exact ⟨beginWrite_secure secure has, nofun⟩
  | endWrite =>
      obtain ⟨kept, sends⟩ := endWrite_secure secure
      refine ⟨kept, fun effect gives => ?_⟩
      obtain ⟨datagram, sent, rfl⟩ := Option.map_eq_some_iff.mp gives
      exact sends datagram sent
  | onIceData component data =>
      obtain ⟨kept, hears⟩ := onIceData_secure secure component data
      refine ⟨kept, fun effect gives => ?_⟩
      obtain ⟨heard, found, rfl⟩ := Option.map_eq_some_iff.mp gives
      obtain ⟨material, exported, opened⟩ := hears heard found
      exact ⟨material, data, exported, has, opened⟩

/-! ### The runs -/

/-- A library that puts a tag of the key behind a packet with a header. -/
def taggingSrtp : Srtp (List UInt8) where
  create _ key := if key.length = 30 then some key else none
  protect key plain := (key, if plain.length < 8 then none else some (plain ++ key.take 10))
  protectRtcp key plain := (key, if plain.length < 8 then none else some (plain ++ key.take 10))
  unprotect key cipher := (key, untagged key cipher)
  unprotectRtcp key cipher := (key, untagged key cipher)
where
  untagged (key cipher : List UInt8) : Option (List UInt8) :=
    if cipher.drop (cipher.length - 10) = key.take 10 then some (cipher.take (cipher.length - 10)) else none

/-- The bytes 0 to 59. -/
def sixtyBytes : List UInt8 := (List.range 60).map UInt8.ofNat

/-- ICE is connected and the handshake of RTP is completed. -/
def connecting : List Event :=
  [.other .start, .other (.callback (.newSelectedPair 1)), .work .wantRead, .other (.onData .rtp),
    .work (.completed sixtyBytes)]

/-- An RTP packet of 13 bytes. -/
def thirteenBytes : List UInt8 := 128 :: List.replicate 12 7

/-- The history of a run. -/
def historyOf (events : List Event) : History where
  written data := .beginWrite data ∈ events
  received data := ∃ component, .onIceData component data ∈ events
  exported material := .work (.completed material) ∈ events

theorem historyOf_has {events : List Event} {event : Event} (member : event ∈ events) : (historyOf events).Has event := by
  cases event with
  | other | endWrite => trivial
  | work handshake =>
      cases handshake with
      | completed material => exact member
      | _ => trivial
  | beginWrite data => exact member
  | onIceData component data => exact ⟨component, member⟩

/-- **Everything that a run gives out is protected.** -/
theorem outputs_protected (srtp : Srtp ς) (isServer rtcpMux useNicer : Bool) (events : List Event) :
    ∀ output ∈ Machine.outputs (step srtp) (create isServer rtcpMux useNicer) events,
      ∀ effect ∈ output, Protected srtp isServer (historyOf events) effect := by
  have has := @Machine.guarded_of_forall _ _ _ (step srtp) (historyOf events).Has events (fun _ => historyOf_has)
    (create isServer rtcpMux useNicer)
  have steps : ∀ transport event, (historyOf events).Has event → Secure srtp isServer (historyOf events) transport →
      Secure srtp isServer (historyOf events) (step srtp transport event).1 ∧
        ∀ effect ∈ (step srtp transport event).2, Protected srtp isServer (historyOf events) effect :=
    fun _ _ => step_secure
  exact has.forall_outputs (fun transport event had secure => (steps transport event had secure).1)
    (fun transport event had secure => (steps transport event had secure).2)
    (create_secure srtp isServer rtcpMux useNicer (historyOf events))

/-- **Nothing goes out in the clear.** Whatever happens to a transport, and whatever comes between the two looks at
ICE of a write, what ICE is given is a packet that was written, protected under this side's key of a handshake that
was completed. -/
theorem sent_sealed (srtp : Srtp ς) (isServer rtcpMux useNicer : Bool) (events : List Event) (component : Component)
    (data : List UInt8)
    (sent : some (.sendData component data) ∈
      Machine.outputs (step srtp) (create isServer rtcpMux useNicer) events) :
    ∃ material plain, .work (.completed material) ∈ events ∧ .beginWrite plain ∈ events ∧
      srtp.Sealed (sideKey isServer material) plain data :=
  outputs_protected srtp isServer rtcpMux useNicer events _ sent _ rfl

/-- With the library that tags, the client sends a packet with the first bytes of its key behind it. -/
theorem sent_sealed_tagged :
    ∃ material plain, .work (.completed material) ∈ connecting ++ [.beginWrite thirteenBytes, .endWrite] ∧
      .beginWrite plain ∈ connecting ++ [.beginWrite thirteenBytes, .endWrite] ∧
      taggingSrtp.Sealed (sideKey false material) plain (thirteenBytes ++ [0, 1, 2, 3, 4, 5, 6, 7, 8, 9]) :=
  sent_sealed taggingSrtp false true false (connecting ++ [.beginWrite thirteenBytes, .endWrite]) .rtp _
    (by decide +kernel)

/-- **Nothing comes in that was not opened.** What the listener is told is what a packet that was received had in it
under the other side's key of such a handshake. -/
theorem heard_opened (srtp : Srtp ς) (isServer rtcpMux useNicer : Bool) (events : List Event) (data : List UInt8)
    (heard : some (.onTransportData data) ∈ Machine.outputs (step srtp) (create isServer rtcpMux useNicer) events) :
    ∃ material component cipher, .work (.completed material) ∈ events ∧ .onIceData component cipher ∈ events ∧
      srtp.Opened (sideKey (!isServer) material) cipher data := by
  obtain ⟨material, cipher, exported, ⟨component, received⟩, opened⟩ :=
    outputs_protected srtp isServer rtcpMux useNicer events _ heard _ rfl
  exact ⟨material, component, cipher, exported, received, opened⟩

/-- The client hears a packet that has the first bytes of the server's key behind it. -/
theorem heard_opened_tagged :
    ∃ material component cipher,
      .work (.completed material) ∈
        connecting ++ [.onIceData .rtp (thirteenBytes ++ [16, 17, 18, 19, 20, 21, 22, 23, 24, 25])] ∧
      .onIceData component cipher ∈
        connecting ++ [.onIceData .rtp (thirteenBytes ++ [16, 17, 18, 19, 20, 21, 22, 23, 24, 25])] ∧
      taggingSrtp.Opened (sideKey (!false) material) cipher thirteenBytes :=
  heard_opened taggingSrtp false true false
    (connecting ++ [.onIceData .rtp (thirteenBytes ++ [16, 17, 18, 19, 20, 21, 22, 23, 24, 25])]) thirteenBytes
    (by decide +kernel)

end SecureTransport

end Erizo
