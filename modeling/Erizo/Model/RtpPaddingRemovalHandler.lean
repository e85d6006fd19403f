/-
**The padding removal handler** (`rtp/RtpPaddingRemovalHandler.cpp`).

Incoming video packets lose their padding, and packets that are nothing else are dropped; a
translator per SSRC renumbers what is left. Outgoing NACK items name numbers of the renumbered
stream and are rewritten in place to numbers of the incoming one.

`1 << distance` is undefined from a distance of 32 on: `shiftOne` has no value there, and neither
has a `write` that reaches it.
-/

import Erizo.Model.SequenceNumberTranslator

namespace Erizo

open Library Library.Bytes

/-- The state of a `RtpPaddingRemovalHandler`. -/
structure RtpPaddingRemovalHandler where
  enabled : Bool
  translatorMap : UInt32 → Option (SequenceNumberTranslator .standard)

namespace RtpPaddingRemovalHandler

/-- The constructor. -/
def init : RtpPaddingRemovalHandler where
  enabled := true
  translatorMap := fun _ => none

/-! ### Incoming packets -/

/-- `removePaddingBytes`. There is no packet when it is dropped. -/
def removePaddingBytes (packet : DataPacket) (translator : SequenceNumberTranslator .standard) :
    Option DataPacket × SequenceNumberTranslator .standard :=
  let headerLength := RtpHeader.getHeaderLength packet.data
  let paddingLength := RtpUtils.getPaddingLength packet
  if ((paddingLength + headerLength : ℕ) : ℤ) = packet.length then
    (none, (translator.get (RtpHeader.getSeqNumber packet.data) true).1)
  else
    (some { packet with
      length := packet.length - paddingLength
      data := RtpHeader.clearPadding packet.data }, translator)

/-- The map with the translator of an SSRC replaced. -/
def store (handler : RtpPaddingRemovalHandler) (ssrc : UInt32) (translator : SequenceNumberTranslator .standard) :
    RtpPaddingRemovalHandler :=
  { handler with
    translatorMap := fun other => if other = ssrc then some translator else handler.translatorMap other }

/-- `getTranslatorForSsrc(ssrc, true)`. -/
def getTranslatorForSsrc (handler : RtpPaddingRemovalHandler) (ssrc : UInt32) :
    SequenceNumberTranslator .standard :=
  (handler.translatorMap ssrc).getD (SequenceNumberTranslator.init .standard)

/-- `read`, with the packet that is passed on. -/
def read (handler : RtpPaddingRemovalHandler) (packet : DataPacket) :
    RtpPaddingRemovalHandler × Option DataPacket :=
  if !RtcpHeader.isRtcp packet.data 0 && handler.enabled && packet.type = .video then
    let ssrc := RtpHeader.getSSRC packet.data
    match removePaddingBytes packet (handler.getTranslatorForSsrc ssrc) with
    | (none, translator) => (handler.store ssrc translator, none)
    | (some packet, translator) =>
        let (translator, sequenceNumberInfo) := translator.get (RtpHeader.getSeqNumber packet.data) false
        if sequenceNumberInfo.type ≠ .valid then (handler.store ssrc translator, none)
        else
          (handler.store ssrc translator,
            some { packet with data := RtpHeader.setSeqNumber packet.data sequenceNumberInfo.output })
  else (handler, some packet)

/-! ### Outgoing NACKs -/

/-- The inputs of the numbers of a list whose reverse lookup is valid. -/
def translate (translator : SequenceNumberTranslator .standard) (numbers : List UInt16) : List UInt16 :=
  numbers.filterMap fun seqNum =>
    if (translator.reverse seqNum).type = .valid then some (translator.reverse seqNum).input else none

/-- The numbers the `for` loop of `write` looks up: those a NACK item can request. -/
def lookups (initialSeqNum : UInt16) : List UInt16 :=
  (List.range 17).map fun index => initialSeqNum + UInt16.ofNat index

/-- `1 << distance`, as a `uint16_t`. -/
def shiftOne (distance : UInt16) : Option UInt16 :=
  if distance.toNat < 32 then some (UInt16.ofNat (2 ^ distance.toNat)) else none

/-- The second `for` loop of `write`. -/
def packBlp (pid : UInt16) (seqNums : List UInt16) : Option UInt16 :=
  seqNums.foldlM (fun blp seqNum => (shiftOne (seqNum - pid - 1)).map (blp ||| ·)) 0

/-- What `write` does with a NACK item. It does not read the item's BLP. -/
def rewriteNack (translator : SequenceNumberTranslator .standard) (newSeqNum _newPlb : UInt16)
    (nackHeader : ℕ) (data : Memory) : Option Memory :=
  match translate translator (lookups newSeqNum) with
  | [] => some data
  | pid :: seqNums => do
      let blp ← packBlp pid seqNums
      some (RtcpHeader.setNackBlp (RtcpHeader.setNackPid data nackHeader pid) nackHeader blp)

/-- What `write` does with a block. -/
def rewriteBlock (translator : SequenceNumberTranslator .standard) (chead : ℕ) (data : Memory) : Option Memory :=
  if RtcpHeader.getPacketType data chead = RtcpHeader.rtpFeedbackPt then
    RtpUtils.forEachNack id chead (rewriteNack translator) data
  else some data

/-- `write`, with the packet that is passed on. -/
def write (handler : RtpPaddingRemovalHandler) (packet : DataPacket) : Option DataPacket :=
  if !handler.enabled || packet.type ≠ .video || !RtcpHeader.isFeedback packet.data 0 then some packet
  else
    match handler.translatorMap (RtcpHeader.getSourceSSRC packet.data 0) with
    | none => some packet
    | some translator => do
        let data ← RtpUtils.forEachRtcpBlock id packet.length (rewriteBlock translator) packet.data
        some { packet with data := data }

/-- The state after a list of incoming packets. -/
def after (packets : List DataPacket) : RtpPaddingRemovalHandler :=
  Machine.run read init packets

end RtpPaddingRemovalHandler

end Erizo
