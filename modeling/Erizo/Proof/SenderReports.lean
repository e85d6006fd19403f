/-
**A sender report says what was sent.**

While the handler is on it counts the RTP packets that it writes, those of each SSRC on their own (`info_run`).

* `reports_sent`: in every run, a sender report that is written while the handler is on has the packets and the octets of
  those that were counted for its SSRC, both modulo the word; if there were none, then it is written as it is.
-/

import Erizo.Model.SRPacketHandler

namespace Erizo

open Library Library.Bytes

namespace SRPacketHandler

/-! ### What was counted -/

/-- The state of the switch. -/
structure Switch where
  enabled : Bool
  initialized : Bool

/-- What an event does to the switch. -/
def Switch.next (switch : Switch) : Event → Switch
  | .enable => { switch with enabled := true }
  | .disable => { switch with enabled := false }
  | .notifyUpdate stream => { switch with initialized := switch.initialized || stream }
  | _ => switch

/-- Whether the handler is on. -/
def Switch.on (switch : Switch) : Bool := switch.initialized && switch.enabled

/-- The RTP packets of an SSRC that are written while the handler is on. -/
def counted (ssrc : UInt32) : Switch → List Event → List DataPacket
  | _, [] => []
  | switch, event :: rest =>
      match event with
      | .write packet =>
          if switch.on ∧ RtcpHeader.isRtcp packet.data 0 = false ∧ RtpHeader.getSSRC packet.data = ssrc then
            packet :: counted ssrc switch rest
          else counted ssrc switch rest
      | event => counted ssrc (switch.next event) rest

/-- The bytes behind the header of a packet. -/
def payloadOctets (packet : DataPacket) : ℤ := packet.length - RtpHeader.getHeaderLength packet.data

/-- What is kept of an SSRC, with another packet. -/
def add (info : Option SRInfo) (packet : DataPacket) : Option SRInfo :=
  some ⟨(info.getD ⟨0, 0⟩).sentOctets + UInt32.ofInt (payloadOctets packet), (info.getD ⟨0, 0⟩).sentPackets + 1⟩

theorem foldl_add (info : Option SRInfo) {packets : List DataPacket} (nonempty : packets ≠ []) :
    packets.foldl add info =
      some ⟨(info.getD ⟨0, 0⟩).sentOctets + UInt32.ofInt (packets.map payloadOctets).sum,
        (info.getD ⟨0, 0⟩).sentPackets + UInt32.ofNat packets.length⟩ := by
  obtain ⟨first, rest, rfl⟩ := List.exists_cons_of_ne_nil nonempty
  clear nonempty
  induction rest generalizing info first with
  | nil =>
      rw [List.map_singleton, List.sum_singleton]
      rfl
  | cons second rest ih =>
      rw [List.foldl_cons, ih]
      simp only [add, Option.getD_some, List.map_cons, List.sum_cons, List.length_cons, UInt32.ofInt_add,
        UInt32.ofNat_add, Option.some.injEq, SRInfo.mk.injEq]
      refine ⟨UInt32.add_assoc _ _ _, ?_⟩
      rw [UInt32.add_assoc, UInt32.add_comm 1]
      rfl

theorem foldl_add_none {packets : List DataPacket} (nonempty : packets ≠ []) :
    packets.foldl add none =
      some ⟨UInt32.ofInt (packets.map payloadOctets).sum, UInt32.ofNat packets.length⟩ := by
  rw [foldl_add none nonempty, Option.getD_none, UInt32.zero_add, UInt32.zero_add]

/-- The switch of a handler. -/
def switchOf (handler : SRPacketHandler) : Switch := ⟨handler.enabled, handler.initialized⟩

theorem switchOf_step (handler : SRPacketHandler) (event : Event) :
    switchOf (step handler event).1 = (switchOf handler).next event := by
  cases event with
  | notifyUpdate stream =>
      obtain ⟨enabled, initialized, infos⟩ := handler
      cases initialized <;> cases stream <;> rfl
  | write packet =>
      show switchOf (handler.write packet).1 = _
      unfold write
      split
      · split
        · rfl
        · split <;> rfl
      · rfl
  | _ => rfl

/-- **A packet that is counted.** Any other packet leaves all counts. -/
theorem info_write (handler : SRPacketHandler) (packet : DataPacket) (ssrc : UInt32) :
    (handler.write packet).1.srInfoMap[ssrc]? =
      if (switchOf handler).on ∧ RtcpHeader.isRtcp packet.data 0 = false ∧ RtpHeader.getSSRC packet.data = ssrc then
        add handler.srInfoMap[ssrc]? packet
      else handler.srInfoMap[ssrc]? := by
  unfold write Switch.on switchOf
  cases on : handler.initialized && handler.enabled with
  | false => rw [if_neg Bool.false_ne_true, if_neg fun all => Bool.false_ne_true all.1]
  | true =>
      rw [if_pos rfl]
      have enabled := (Bool.and_eq_true_iff.mp on).2
      rw [enabled]
      cases rtcp : RtcpHeader.isRtcp packet.data 0 with
      | true =>
          refine Eq.trans ?_ (if_neg fun all => Bool.noConfusion all.2.1).symm
          rw [if_neg (by decide)]
          split <;> rfl
      | false =>
          rw [if_pos (by decide)]
          show (handler.srInfoMap.insert _ _)[ssrc]? = _
          rw [Std.ExtTreeMap.getElem?_insert]
          by_cases same : RtpHeader.getSSRC packet.data = ssrc
          · rw [if_pos (Std.LawfulEqCmp.compare_eq_iff_eq.mpr same), if_pos ⟨rfl, rfl, same⟩, same]
            rfl
          · rw [if_neg fun equal => same (Std.LawfulEqCmp.compare_eq_iff_eq.mp equal), if_neg fun all => same all.2.2]

/-- **The counts of a run.** -/
theorem info_run (ssrc : UInt32) (events : List Event) (handler : SRPacketHandler) :
    (Machine.run step handler events).srInfoMap[ssrc]? =
      (counted ssrc (switchOf handler) events).foldl add handler.srInfoMap[ssrc]? := by
  induction events generalizing handler with
  | nil => rfl
  | cons event rest ih =>
      rw [Machine.run_cons, ih, switchOf_step]
      cases event with
      | write packet =>
          show _ = List.foldl add _ (if _ then _ else _)
          show (counted ssrc (switchOf handler) rest).foldl add ((handler.write packet).1.srInfoMap[ssrc]?) = _
          rw [info_write]
          split <;> rfl
      | notifyUpdate stream =>
          have kept : (handler.notifyUpdate stream).srInfoMap = handler.srInfoMap := by
            unfold notifyUpdate
            split
            · rfl
            · split <;> rfl
          show List.foldl add ((handler.notifyUpdate stream).srInfoMap[ssrc]?) _ = _
          rw [kept]
          rfl
      | _ => rfl

/-! ### The reports -/

/-- A sender report with other counts, and nothing else changed. -/
structure Reports (packets octets : UInt32) (before after : Memory) : Prop where
  packets : RtcpHeader.getPacketsSent after 0 = packets
  octets : RtcpHeader.getOctetsSent after 0 = octets
  rest : ∀ address, address < 20 ∨ 28 ≤ address → after address = before address

theorem reports_set (data : Memory) (packets octets : UInt32) :
    Reports packets octets data (RtcpHeader.setPacketsSent (RtcpHeader.setOctetsSent data 0 octets) 0 packets) where
  packets := read32_write32 _ _ _
  octets := (read32_write32_of_disjoint _ _ (Or.inr (Nat.le_refl 24))).trans (read32_write32 _ _ _)
  rest := fun address away =>
    (write32_of_disjoint _ _ (by omega)).trans (write32_of_disjoint _ _ (by omega))

/-- **A sender report says what was sent.** -/
theorem reports_sent (events : List Event) {packet : DataPacket}
    (report : RtcpHeader.getPacketType packet.data 0 = RtcpHeader.senderPt)
    (on : (switchOf (Machine.run step create events)).on = true) :
    ∃ after, (step (Machine.run step create events) (.write packet)).2 = some { packet with data := after } ∧
      (counted (RtcpHeader.getSSRC packet.data 0) (switchOf create) events = [] → after = packet.data) ∧
      (counted (RtcpHeader.getSSRC packet.data 0) (switchOf create) events ≠ [] →
        Reports (UInt32.ofNat (counted (RtcpHeader.getSSRC packet.data 0) (switchOf create) events).length)
          (UInt32.ofInt ((counted (RtcpHeader.getSSRC packet.data 0) (switchOf create) events).map payloadOctets).sum)
          packet.data after) := by
  have written : (step (Machine.run step create events) (.write packet)).2 =
      some ((Machine.run step create events).handleSR packet) := by
    have rtcp : RtcpHeader.isRtcp packet.data 0 = true := by
      unfold RtcpHeader.isRtcp
      rw [report]
      decide
    have enabled := (Bool.and_eq_true_iff.mp on).2
    show some ((Machine.run step create events).write packet).2 = _
    unfold write
    have both : ((Machine.run step create events).initialized && (Machine.run step create events).enabled) = true := on
    rw [if_pos both, rtcp, report, show (Machine.run step create events).enabled = true from enabled]
    rfl
  have empty : create.srInfoMap[RtcpHeader.getSSRC packet.data 0]? = none := Std.ExtTreeMap.getElem?_empty
  have info := info_run (RtcpHeader.getSSRC packet.data 0) events create
  rw [empty] at info
  rw [written]
  unfold handleSR
  rw [info]
  by_cases none : counted (RtcpHeader.getSSRC packet.data 0) (switchOf create) events = []
  · rw [none]
    exact ⟨packet.data, rfl, fun _ => rfl, fun nonempty => absurd rfl nonempty⟩
  · rw [foldl_add_none none]
    exact ⟨_, rfl, fun empty => absurd empty none, fun _ => reports_set packet.data _ _⟩

/-- A packet of the SSRC 7 with three bytes of payload, and a report of it. -/
def spoken : DataPacket := videoPacket ([0x80, 96, 0, 5, 0, 0, 0, 9] ++ encode32 7 ++ [1, 2, 3])

def spokenReport : DataPacket := videoPacket ([0x80, 200, 0, 6] ++ encode32 7 ++ List.replicate 20 0)

theorem reports_sent_twice :
    ∃ after, (step (Machine.run step create [.notifyUpdate true, .write spoken, .write spoken]) (.write spokenReport)).2 =
        some { spokenReport with data := after } ∧
      (counted 7 (switchOf create) [.notifyUpdate true, .write spoken, .write spoken] = [] →
        after = spokenReport.data) ∧
      (counted 7 (switchOf create) [.notifyUpdate true, .write spoken, .write spoken] ≠ [] →
        Reports (UInt32.ofNat (counted 7 (switchOf create) [.notifyUpdate true, .write spoken, .write spoken]).length)
          (UInt32.ofInt
            ((counted 7 (switchOf create) [.notifyUpdate true, .write spoken, .write spoken]).map payloadOctets).sum)
          spokenReport.data after) :=
  reports_sent [.notifyUpdate true, .write spoken, .write spoken] (by decide) rfl

end SRPacketHandler

end Erizo
