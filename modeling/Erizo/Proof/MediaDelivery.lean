/-
**What one end writes is what the other hears.**

Both ends of a handshake export the same material. Each cuts the keys of both sides out of it, and the server swaps
them: so the session that one end protects with has the key of the session that the other one opens with, and both
tell RTCP from RTP by the same byte, which SRTP leaves as it is.

* `Lawful`: what is relied on in libsrtp: a session for sending and one for receiving with its key stay in step. The one
  for receiving may refuse what is sent again, which the one for sending protects all the same (`allow_repeat_tx`).
* `Linked`: the ends are ready and their sessions are in step; `exchange_linked`.
* `written_is_heard`: the runs, with packets both ways in any order.
-/

import Erizo.Proof.MediaSecurity

namespace Erizo

open Library

variable {ς : Type} {srtp : Srtp ς}

namespace Srtp

/-- A call to protect and the call that takes the protection off keep two sessions in step: what was protected is
found again, or it is refused and was not new to the session that protected it. Its first bytes are in the clear, and a
tag of ten bytes is behind it. -/
def InStep (paired : ς → ς → Prop) (new : ς → List UInt8 → Prop) (close opens : ς → List UInt8 → ς × Option (List UInt8)) :
    Prop :=
  ∀ sender receiver plain, paired sender receiver →
    ((close sender plain).2 = none ∧ paired (close sender plain).1 receiver) ∨
      ∃ cipher, (close sender plain).2 = some cipher ∧ cipher.take 2 = plain.take 2 ∧
        plain.length + 10 ≤ cipher.length ∧
        ((opens receiver cipher).2 = some plain ∨ (opens receiver cipher).2 = none ∧ ¬new sender plain) ∧
        paired (close sender plain).1 (opens receiver cipher).1

/-- What is relied on in libsrtp. RTCP has an index of its own in every packet, and is always new. -/
structure Lawful (srtp : Srtp ς) (paired : ς → ς → Prop) (new : ς → List UInt8 → Prop) : Prop where
  create : ∀ {key sender receiver}, srtp.create .sending key = some sender →
    srtp.create .receiving key = some receiver → paired sender receiver
  rtp : InStep paired new srtp.protect srtp.unprotect
  rtcp : InStep paired (fun _ _ => True) srtp.protectRtcp srtp.unprotectRtcp

/-- The call that protects a packet. -/
def close (srtp : Srtp ς) (packet : List UInt8) : ς → List UInt8 → ς × Option (List UInt8) :=
  if RtcpHeader.isRtcp (memoryOf packet) 0 then srtp.protectRtcp else srtp.protect

/-- The call that takes the protection off a packet. -/
def opens (srtp : Srtp ς) (packet : List UInt8) : ς → List UInt8 → ς × Option (List UInt8) :=
  if RtcpHeader.isRtcp (memoryOf packet) 0 then srtp.unprotectRtcp else srtp.unprotect

/-- Packets with the same first bytes are told apart in the same way. -/
theorem opens_congr (srtp : Srtp ς) {cipher plain : List UInt8} (first : cipher.take 2 = plain.take 2) :
    srtp.opens cipher = srtp.opens plain ∧
      SecureTransport.isDtlsPacket cipher = SecureTransport.isDtlsPacket plain := by
  have bytes : ∀ index < 2, cipher.getD index 0 = plain.getD index 0 := by
    intro index below
    rw [List.getD_eq_getElem?_getD, List.getD_eq_getElem?_getD, ← List.getElem?_take_of_lt below, first,
      List.getElem?_take_of_lt below]
  have head : cipher.headD 0 = plain.headD 0 := by
    have zero := bytes 0 (by decide)
    rwa [List.getD_eq_getElem?_getD, List.getD_eq_getElem?_getD, ← List.head?_eq_getElem?, ← List.head?_eq_getElem?,
      ← List.headD_eq_head?_getD, ← List.headD_eq_head?_getD] at zero
  have type : RtcpHeader.isRtcp (memoryOf cipher) 0 = RtcpHeader.isRtcp (memoryOf plain) 0 := by
    have one : memoryOf cipher (0 + 1) = memoryOf plain (0 + 1) := bytes 1 (by decide)
    unfold RtcpHeader.isRtcp RtcpHeader.getPacketType
    rw [one]
  constructor
  · unfold opens
    rw [type]
  · unfold SecureTransport.isDtlsPacket DtlsSocketContext.demuxPacket
    rw [head]

theorem InStep.mono {paired : ς → ς → Prop} {new other : ς → List UInt8 → Prop}
    {close opens : ς → List UInt8 → ς × Option (List UInt8)} (inStep : InStep paired new close opens)
    (less : ∀ session plain, other session plain → new session plain) : InStep paired other close opens := by
  intro sender receiver plain both
  refine (inStep sender receiver plain both).imp_right fun ⟨cipher, closed, first, tag, opened, kept⟩ => ?_
  exact ⟨cipher, closed, first, tag, opened.imp_right (And.imp_right (mt (less sender plain))), kept⟩

/-- A packet is new to a session: RTCP always is. -/
def NewTo (new : ς → List UInt8 → Prop) (packet : List UInt8) (session : ς) : Prop :=
  RtcpHeader.isRtcp (memoryOf packet) 0 = false → new session packet

theorem Lawful.inStep {paired : ς → ς → Prop} {new : ς → List UInt8 → Prop} (lawful : srtp.Lawful paired new)
    (packet : List UInt8) : InStep paired
      (fun session plain => RtcpHeader.isRtcp (memoryOf packet) 0 = false → new session plain)
      (srtp.close packet) (srtp.opens packet) := by
  unfold close opens
  cases RtcpHeader.isRtcp (memoryOf packet) 0 with
  | true => exact lawful.rtcp.mono fun _ _ _ => trivial
  | false => exact lawful.rtp.mono fun _ _ fresh => fresh rfl

end Srtp

namespace SecureTransport

/-! ### One end -/

/-- A transport that sends and receives media, with nothing half written. -/
structure Up (transport : SecureTransport ς) : Prop where
  running : transport.base.running = true
  ready : transport.base.state = .ready
  ice : transport.base.ice.iceState = .ready
  idle : transport.protectBuf = none

theorem Up.setChannel {transport : SecureTransport ς} (up : transport.Up) (channel : SrtpChannel ς)
    (component : Component) : (transport.setChannel channel component).Up := by
  cases component <;> exact ⟨up.running, up.ready, up.ice, up.idle⟩

/-- `write`, when nothing comes in between. -/
def write (srtp : Srtp ς) (transport : SecureTransport ς) (data : List UInt8) :
    SecureTransport ς × Option (Component × List UInt8) :=
  (transport.beginWrite srtp data).endWrite

/-- What a write leaves and gives to ICE, on a channel with a session. -/
theorem Up.write (srtp : Srtp ς) {transport : SecureTransport ς} (up : transport.Up) (data : List UInt8)
    {channel : SrtpChannel ς}
    {session : ς} (present : transport.channel (transport.writeComponent data) = some channel)
    (active : channel.active = true) (sends : channel.sendSession = some session) :
    let after := transport.setChannel { channel with sendSession := some (srtp.close data session data).1 }
      (transport.writeComponent data)
    transport.write srtp data = (after, ((srtp.close data session data).2.filter fun cipher => 10 < cipher.length).map
      (transport.writeComponent data, ·)) := by
  have protects : protect srtp data channel =
      ({ channel with sendSession := some (srtp.close data session data).1 }, (srtp.close data session data).2) := by
    unfold protect SrtpChannel.protectRtcp SrtpChannel.protectRtp SrtpChannel.send Srtp.close
    rw [active, sends]
    split <;> rfl
  have begins : transport.beginWrite srtp data =
      { transport.setChannel { channel with sendSession := some (srtp.close data session data).1 }
          (transport.writeComponent data) with
        protectBuf := (srtp.close data session data).2.map (transport.writeComponent data, ·) } := by
    simp only [beginWrite, up.running, up.ready, present, up.ice, protects, decide_true, Bool.and_self, if_true]
  intro after
  have kept : after.Up := up.setChannel _ _
  unfold SecureTransport.write
  rw [begins]
  have restored : ({ after with protectBuf := none } : SecureTransport ς) = after := by rw [← kept.idle]
  unfold endWrite
  cases closed : (srtp.close data session data).2 with
  | none =>
      show ({ after with protectBuf := none }, none) = _
      rw [restored]
      rfl
  | some cipher =>
      have base : after.base.ice.iceState = .ready ∧ after.base.running = true := ⟨kept.ice, kept.running⟩
      show ({ after with protectBuf := none }, if cipher.length ≤ 10 then none
        else if after.base.ice.iceState = .ready && after.base.running then
          some (transport.writeComponent data, cipher) else none) = _
      rw [restored, base.1, base.2]
      by_cases short : cipher.length ≤ 10
      · rw [if_pos short, Option.filter_some, if_neg (by rw [decide_eq_true_eq]; omega)]
        rfl
      · have sent : (some cipher).filter (fun cipher => decide (10 < cipher.length)) = some cipher := by
          rw [Option.filter_some, if_pos (decide_eq_true (by omega))]
        rw [if_neg short, sent]
        rfl

/-- What a packet leaves and tells the listener, on a channel with a session. -/
theorem Up.onIceData (srtp : Srtp ς) {transport : SecureTransport ς} (up : transport.Up)
    {component : Component} {data : List UInt8}
    (media : isDtlsPacket data = false) (long : 10 < data.length)
    (attached : component = .rtcp → transport.base.rtcpMux = false) {channel : SrtpChannel ς} {session : ς}
    (present : transport.channel component = some channel) (active : channel.active = true)
    (receives : channel.receiveSession = some session) :
    transport.onIceData srtp component data =
      (transport.setChannel { channel with receiveSession := some (srtp.opens data session data).1 } component,
        (srtp.opens data session data).2) := by
  have on : (if transport.base.rtcpMux then Component.rtp else component) = component := by
    cases component with
    | rtp => exact ite_self _
    | rtcp => rw [attached rfl]; rfl
  have unprotects : (if RtcpHeader.isRtcp (memoryOf data) 0 then channel.unprotectRtcp srtp data
      else channel.unprotectRtp srtp data) =
      ({ channel with receiveSession := some (srtp.opens data session data).1 }, (srtp.opens data session data).2) := by
    unfold SrtpChannel.unprotectRtcp SrtpChannel.unprotectRtp SrtpChannel.receive Srtp.opens
    rw [active, receives]
    split <;> rfl
  have nonempty : data.length ≠ 0 := by omega
  simp only [SecureTransport.onIceData, up.running, up.ready, media, on, present, unprotects, nonempty, Bool.not_true,
    Bool.or_self, ne_eq, not_true_eq_false, decide_false, Bool.false_eq_true, if_false]

/-! ### Both ends -/

/-- The ends of a connection: the server's and the client's. -/
abbrev Ends (ς : Type) := Bool → SecureTransport ς

/-- One end writes a packet, and what it gives to ICE comes out at the other. The output has the packet, and what the
other end's listener was told if anything was sent. -/
def exchange (srtp : Srtp ς) (ends : Ends ς) (packet : Bool × List UInt8) :
    Ends ς × (List UInt8 × Option (Option (List UInt8))) :=
  let (writer, sent) := (ends packet.1).write srtp packet.2
  match sent with
  | none => (Function.update ends packet.1 writer, packet.2, none)
  | some (component, cipher) =>
      let (reader, heard) := (ends !packet.1).onIceData srtp component cipher
      (Function.update (Function.update ends packet.1 writer) (!packet.1) reader, packet.2, some heard)

/-- Two channels whose sessions are in step one way. -/
def Paired (paired : ς → ς → Prop) (writer reader : SrtpChannel ς) : Prop :=
  writer.active = true ∧ reader.active = true ∧ ∃ sender receiver, writer.sendSession = some sender ∧
    reader.receiveSession = some receiver ∧ paired sender receiver

/-- Both ends are up, and so are the channels of every component they have, both ways. -/
structure Linked (paired : ς → ς → Prop) (ends : Ends ς) : Prop where
  up : ∀ side, (ends side).Up
  mux : ∀ side, (ends side).base.rtcpMux = (ends true).base.rtcpMux
  paired : ∀ side component, (component = .rtcp → (ends true).base.rtcpMux = false) →
    ∃ writer reader, (ends side).channel component = some writer ∧ (ends !side).channel component = some reader ∧
      Paired paired writer reader

/-- Two ends that have each completed the handshakes of their components, with the same material on both sides, and
have not sent anything yet. -/
structure Established (srtp : Srtp ς) (material : Component → List UInt8) (ends : Ends ς) : Prop where
  up : ∀ side, (ends side).Up
  mux : ∀ side, (ends side).base.rtcpMux = (ends true).base.rtcpMux
  channels : ∀ side component, (component = .rtcp → (ends true).base.rtcpMux = false) →
    (ends side).channel component = some (channelOf srtp side (material component)).1 ∧
      (channelOf srtp side (material component)).2 = true

/-- A channel that could be configured has sessions for both directions with the keys of both sides. -/
theorem channelOf_sessions {side : Bool} {material : List UInt8} (configured : (channelOf srtp side material).2 = true) :
    ∃ sender receiver, (channelOf srtp side material).1 = ⟨true, some sender, some receiver⟩ ∧
      srtp.create .sending (SrtpSessionKeys.sideKey side material) = some sender ∧
      srtp.create .receiving (SrtpSessionKeys.sideKey (!side) material) = some receiver := by
  have params : ∀ sendingKey receivingKey : List UInt8,
      let made := (SrtpChannel.create : SrtpChannel ς).setRtpParams srtp (Base64.encode sendingKey)
        (Base64.encode receivingKey)
      made.2 = true → ∃ sender receiver, made.1 = ⟨true, some sender, some receiver⟩ ∧
        srtp.create .sending sendingKey = some sender ∧ srtp.create .receiving receivingKey = some receiver := by
    intro sendingKey receivingKey
    simp only [SrtpChannel.setRtpParams, SrtpChannel.configureSrtpSession, Base64.decode_encode]
    cases sends : srtp.create .sending sendingKey with
    | none => exact fun inactive => absurd inactive Bool.false_ne_true
    | some sender =>
        cases receives : srtp.create .receiving receivingKey with
        | none => exact fun inactive => absurd inactive Bool.false_ne_true
        | some receiver => exact fun _ => ⟨sender, receiver, rfl, rfl, rfl⟩
  cases side with
  | false => exact params _ _ configured
  | true => exact params _ _ configured

/-- **The ends agree on their keys.** -/
theorem Established.linked {paired : ς → ς → Prop} {new : ς → List UInt8 → Prop} (lawful : srtp.Lawful paired new)
    {material : Component → List UInt8} {ends : Ends ς} (established : Established srtp material ends) :
      Linked paired ends := by
  refine ⟨established.up, established.mux, fun side component attached => ?_⟩
  obtain ⟨writes, configured⟩ := established.channels side component attached
  obtain ⟨reads, other⟩ := established.channels (!side) component attached
  obtain ⟨sender, _, sending, sent, _⟩ := channelOf_sessions configured
  obtain ⟨_, receiver, receiving, _, received⟩ := channelOf_sessions other
  rw [Bool.not_not] at received
  refine ⟨_, _, writes, reads, ?_⟩
  rw [sending, receiving]
  exact ⟨rfl, rfl, sender, receiver, rfl, rfl, lawful.create sent received⟩

/-- The channels of two ends after one of them has moved on. -/
theorem Linked.moved {paired : ς → ς → Prop} {ends after : Ends ς} (linked : Linked paired ends) (side : Bool)
    (component : Component) (writer reader : SrtpChannel ς) (writes : after side = (ends side).setChannel writer component)
    (reads : after (!side) = (ends !side).setChannel reader component)
    (forth : Paired paired writer reader) (back : Paired paired reader writer) : Linked paired after := by
  have either : ∀ other, other = side ∨ other = !side := by
    intro other
    cases other <;> cases side <;> decide
  have base : ∀ other, (after other).base = (ends other).base := by
    intro other
    rcases either other with rfl | rfl
    · rw [writes, base_setChannel]
    · rw [reads, base_setChannel]
  refine ⟨fun other => ?_, fun other => ?_, fun other on attached => ?_⟩
  · rcases either other with rfl | rfl
    · exact writes ▸ (linked.up other).setChannel writer component
    · exact reads ▸ (linked.up (!side)).setChannel reader component
  · rw [base, base]
    exact linked.mux other
  · rw [base] at attached
    by_cases same : on = component
    · rcases either other with rfl | rfl
      · refine ⟨writer, reader, ?_, ?_, forth⟩
        · rw [writes, channel_setChannel, if_pos same]
        · rw [reads, channel_setChannel, if_pos same]
      · refine ⟨reader, writer, ?_, ?_, back⟩
        · rw [reads, channel_setChannel, if_pos same]
        · rw [Bool.not_not, writes, channel_setChannel, if_pos same]
    · have unmoved : ∀ end', (after end').channel on = (ends end').channel on := by
        intro end'
        rcases either end' with rfl | rfl
        · rw [writes, channel_setChannel, if_neg same]
        · rw [reads, channel_setChannel, if_neg same]
      rw [unmoved, unmoved]
      exact linked.paired other on attached

/-- The packet is new to the session that it is written on. -/
def New (new : ς → List UInt8 → Prop) (ends : Ends ς) (packet : Bool × List UInt8) : Prop :=
  ∀ channel ∈ (ends packet.1).channel ((ends packet.1).writeComponent packet.2), ∀ session ∈ channel.sendSession,
    Srtp.NewTo new packet.2 session

/-- A packet that is sent comes out as it was written, or not at all, and then it was not new. -/
def Heard (new : ς → List UInt8 → Prop) (ends : Ends ς) (packet : Bool × List UInt8) (heard : Option (List UInt8)) : Prop :=
  (heard = none ∨ heard = some packet.2) ∧ (New new ends packet → heard = some packet.2)

/-- **A packet that is sent is heard as it was written, and the ends stay in step.** -/
theorem exchange_linked {paired : ς → ς → Prop} {new : ς → List UInt8 → Prop} (lawful : srtp.Lawful paired new)
    {ends : Ends ς} (linked : Linked paired ends) {packet : Bool × List UInt8} (media : isDtlsPacket packet.2 = false)
    (nonempty : packet.2 ≠ []) :
    Linked paired (exchange srtp ends packet).1 ∧
      ∀ heard ∈ (exchange srtp ends packet).2.2, Heard new ends packet heard := by
  obtain ⟨side, data⟩ := packet
  have attached : (ends side).writeComponent data = .rtcp → (ends true).base.rtcpMux = false := by
    intro rtcp
    unfold writeComponent at rtcp
    split at rtcp
    · rename_i unmuxed
      rw [← linked.mux side]
      simpa using ((Bool.and_eq_true _ _).mp unmuxed).2
    · cases rtcp
  obtain ⟨writer, reader, writes, reads, writing, reading, sender, receiver, sends, receives, inStep⟩ :=
    linked.paired side _ attached
  -- the other way the sessions are those of the same two channels
  obtain ⟨reader', writer', reads', writes', -, -, sender', receiver', sends', receives', inStep'⟩ :=
    linked.paired (!side) _ attached
  rw [Bool.not_not] at writes'
  obtain rfl : reader = reader' := Option.some.inj (reads.symm.trans reads')
  obtain rfl : writer = writer' := Option.some.inj (writes.symm.trans writes')
  have written := (linked.up side).write srtp data writes writing sends
  simp only at written
  have apart : (!side) ≠ side := by cases side <;> decide
  unfold exchange
  rw [written]
  rcases lawful.inStep data sender receiver data inStep with ⟨refused, kept⟩ | ⟨cipher, closed, first, tag, opened, kept⟩
  · rw [refused]
    refine ⟨?_, nofun⟩
    refine linked.moved side ((ends side).writeComponent data) _ reader (Function.update_self _ _ _) ?_
      ⟨writing, reading, _, receiver, rfl, receives, kept⟩
      ⟨reading, writing, sender', receiver', sends', receives', inStep'⟩
    have same : ∀ (transport : SecureTransport ς) on channel, transport.channel on = some channel →
        transport.setChannel channel on = transport := by
      intro transport on channel present
      cases on <;> simp only [setChannel] <;> rw [← present] <;> rfl
    rw [same _ _ _ reads]
    exact Function.update_of_ne apart _ _
  · have long : 10 < cipher.length := by
      have positive := List.length_pos_iff.mpr nonempty
      simp only at tag positive
      omega
    obtain ⟨told, demuxed⟩ := srtp.opens_congr first
    have received := (linked.up (!side)).onIceData srtp (demuxed.trans media) long
      (fun rtcp => (linked.mux (!side)).trans (attached rtcp)) reads reading receives
    rw [closed, Option.filter_some, if_pos (decide_eq_true long), Option.map_some]
    simp only [received, told]
    refine ⟨?_, fun heard hears => ?_⟩
    · refine linked.moved side ((ends side).writeComponent data)
        { writer with sendSession := some (srtp.close data sender data).1 }
        { reader with receiveSession := some (srtp.opens data receiver cipher).1 } ?_ (Function.update_self _ _ _)
        ⟨writing, reading, _, _, rfl, rfl, kept⟩ ⟨reading, writing, sender', receiver', sends', receives', inStep'⟩
      rw [Function.update_of_ne apart.symm, Function.update_self]
    · rw [← Option.some.inj hears]
      rcases opened with found | ⟨refused, repeated⟩
      · exact ⟨Or.inr found, fun _ => found⟩
      · exact ⟨Or.inl refused, fun fresh => absurd (fresh writer writes sender sends) repeated⟩

/-- **What is written is heard.** Between two ends that completed their handshakes with the same material, whichever
of them has written what packets in whatever order: a packet that is sent then comes out at the other end as it was
written or not at all, and it does come out if it is new to the session that protects it. -/
theorem written_is_heard {paired : ς → ς → Prop} {new : ς → List UInt8 → Prop} (lawful : srtp.Lawful paired new)
    {material : Component → List UInt8} {ends : Ends ς} (established : Established srtp material ends)
    {before : List (Bool × List UInt8)} {packet : Bool × List UInt8}
    (media : ∀ other ∈ before ++ [packet], isDtlsPacket other.2 = false ∧ other.2 ≠ []) :
    ∀ heard ∈ (exchange srtp (Machine.run (exchange srtp) ends before) packet).2.2,
      Heard new (Machine.run (exchange srtp) ends before) packet heard := by
  obtain ⟨earlier, last⟩ := List.forall_mem_append.mp media
  obtain ⟨now, nonempty⟩ := last packet (List.mem_singleton_self packet)
  have linked : Linked paired (Machine.run (exchange srtp) ends before) :=
    @Machine.run_invariant _ _ _ (exchange srtp) (Linked paired) (fun other => isDtlsPacket other.2 = false ∧ other.2 ≠ [])
      (fun _ _ allowed linked => (exchange_linked lawful linked allowed.1 allowed.2).1) _
        (established.linked lawful) _ earlier
  exact (exchange_linked lawful linked now nonempty).2

/-! ### A library that refuses repetitions -/

/-- A library that puts a tag of the key behind a packet, and refuses an RTP packet when it has had its header before. It
protects such a packet again. -/
def refusingSrtp : Srtp (List UInt8 × List (List UInt8)) where
  create _ key := if key.length = 30 then some (key, []) else none
  protect session plain :=
    if plain.length < 12 then (session, none)
    else ((session.1, plain.take 12 :: session.2), some (plain ++ session.1.take 10))
  protectRtcp session plain := (session, if plain.length < 8 then none else some (plain ++ session.1.take 10))
  unprotect session cipher :=
    match taggingSrtp.untagged session.1 cipher with
    | none => (session, none)
    | some plain =>
        if session.2.elem (plain.take 12) then (session, none) else ((session.1, plain.take 12 :: session.2), some plain)
  unprotectRtcp session cipher := (session, taggingSrtp.untagged session.1 cipher)

/-- Sessions with the same key that have had the same headers. -/
def SameHeaders (sender receiver : List UInt8 × List (List UInt8)) : Prop :=
  10 ≤ sender.1.length ∧ receiver.1 = sender.1 ∧ ∀ header, header ∈ receiver.2 ↔ header ∈ sender.2

/-- What was tagged is found again. -/
theorem untagged_append {key plain : List UInt8} (long : 10 ≤ key.length) :
    taggingSrtp.untagged key (plain ++ key.take 10) = some plain := by
  have tag : (key.take 10).length = 10 := by rw [List.length_take, Nat.min_eq_left long]
  have behind : (plain ++ key.take 10).length - 10 = plain.length := by
    rw [List.length_append, tag, Nat.add_sub_cancel]
  rw [taggingSrtp.untagged, behind, List.drop_left, if_pos rfl, List.take_left]

/-- What a tag leaves as it is. -/
theorem tagged_append {key plain : List UInt8} (long : 10 ≤ key.length) (header : ¬plain.length < 8) :
    (plain ++ key.take 10).take 2 = plain.take 2 ∧ plain.length + 10 ≤ (plain ++ key.take 10).length := by
  constructor
  · exact List.take_append_of_le_length (by omega)
  · rw [List.length_append, List.length_take, Nat.min_eq_left long]

/-- The library that refuses repetitions keeps sessions of the same key in step. -/
theorem refusingSrtp_lawful :
    refusingSrtp.Lawful SameHeaders fun session plain => plain.take 12 ∉ session.2 where
  create := by
    intro key sender receiver sent received
    simp only [refusingSrtp, Option.ite_none_right_eq_some, Option.some.injEq] at sent received
    obtain ⟨⟨long, rfl⟩, -, rfl⟩ := And.intro sent received
    exact ⟨by simp only; omega, rfl, fun _ => Iff.rfl⟩
  rtp := by
    rintro sender receiver plain ⟨long, key, headers⟩
    by_cases short : plain.length < 12
    · refine Or.inl ?_
      simp only [refusingSrtp, if_pos short]
      exact ⟨trivial, long, key, headers⟩
    obtain ⟨first, tag⟩ := tagged_append long (by omega : ¬plain.length < 8)
    refine Or.inr ⟨plain ++ sender.1.take 10, ?_, first, tag, ?_⟩
    · simp only [refusingSrtp, if_neg short]
    simp only [refusingSrtp, if_neg short, key, untagged_append long, List.elem_eq_mem, decide_eq_true_eq]
    by_cases repeated : plain.take 12 ∈ receiver.2
    · rw [if_pos repeated]
      refine ⟨Or.inr ⟨rfl, not_not.mpr ((headers _).mp repeated)⟩, long, key, fun header => ?_⟩
      rw [List.mem_cons, headers]
      exact ⟨Or.inr, fun either => either.elim (fun same => same ▸ (headers _).mp repeated) id⟩
    · rw [if_neg repeated]
      refine ⟨Or.inl rfl, long, rfl, fun header => ?_⟩
      rw [List.mem_cons, List.mem_cons, headers]
  rtcp := by
    rintro sender receiver plain ⟨long, key, headers⟩
    by_cases short : plain.length < 8
    · exact Or.inl ⟨if_pos short, long, key, headers⟩
    obtain ⟨first, tag⟩ := tagged_append long short
    refine Or.inr ⟨plain ++ sender.1.take 10, if_neg short, first, tag, Or.inl ?_, long, key, headers⟩
    simp only [refusingSrtp, key, untagged_append long]

/-- The client of the run that connects, and a server that does the same. -/
def connected : Ends (List UInt8 × List (List UInt8)) :=
  fun side => Machine.run (step refusingSrtp) (create side true false) connecting

theorem connected_established : Established refusingSrtp (fun _ => sixtyBytes) connected := by
  refine ⟨fun side => ⟨?_, ?_, ?_, ?_⟩, fun side => ?_, fun side component attached => ?_⟩
  · cases side <;> decide +kernel
  · cases side <;> decide +kernel
  · cases side <;> decide +kernel
  · cases side <;> decide +kernel
  · cases side <;> decide +kernel
  · cases component with
    | rtp => cases side <;> decide +kernel
    | rtcp => exact absurd (attached rfl) (by decide +kernel)

/-- The client sends an RTP packet and the server answers with a receiver report. -/
def conversation : List (Bool × List UInt8) := [(false, thirteenBytes), (true, [128, 201, 0, 1, 0, 0, 0, 7])]

/-- The client sends an RTP packet and the server answers with a receiver report. The packet is sent again, and the
server's library refuses it. -/
theorem written_is_heard_repeated :
    let answered := Machine.run (exchange refusingSrtp) connected conversation
    (exchange refusingSrtp answered (false, thirteenBytes)).2.2 = some none ∧
      ∀ heard ∈ (exchange refusingSrtp answered (false, thirteenBytes)).2.2,
        Heard (fun session plain => plain.take 12 ∉ session.2) answered (false, thirteenBytes) heard := by
  have media : ∀ other ∈ conversation ++ [(false, thirteenBytes)], isDtlsPacket other.2 = false ∧ other.2 ≠ [] := by
    decide +kernel
  refine ⟨?_, written_is_heard refusingSrtp_lawful connected_established media⟩
  decide +kernel

end SecureTransport

end Erizo
