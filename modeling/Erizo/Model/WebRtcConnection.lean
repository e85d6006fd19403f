/-
**Received RTCP in a connection** (`WebRtcConnection.cpp`).

`onRtcpFromTransport` walks a compound packet and hands every block on: a REMB to the bandwidth
distributor, any other block, copied into a packet of its own, to the streams of its SSRC.

The walk keeps a record of the bytes that are read from a block or copied out of it, with the bytes
counted from the start of the block, beside what is handed on.
-/

import Erizo.Model.BandwidthDistribution
import Erizo.Model.RtpUtils

namespace Erizo

open Library Library.Bytes RtcpHeader

namespace WebRtcConnection

/-- Bytes of a block that are read, or copied into the data of a `DataPacket`. -/
inductive Access
  | read (chead offset size : ℕ)
  | copy (chead size : ℕ)
  deriving DecidableEq, Repr

/-- What a block leads to. -/
inductive Effect
  | distribute (bitRate : Option UInt64) (ssrc : UInt32) (streams : List MediaStream)
  | onTransportData (stream : MediaStream) (rtcp : DataPacket)

/-- The packet under way, with what was read from it and handed on so far. -/
structure Walk where
  data : Memory
  accesses : List Access
  effects : List Effect

namespace Walk

def read (walk : Walk) (chead offset size : ℕ) : Walk :=
  { walk with accesses := walk.accesses ++ [.read chead offset size] }

def copy (walk : Walk) (chead size : ℕ) : Walk :=
  { walk with accesses := walk.accesses ++ [.copy chead size] }

def emit (walk : Walk) (effect : Effect) : Walk :=
  { walk with effects := walk.effects ++ [effect] }

end Walk

/-- A round of the loop of `onREMBFromTransport`: the streams the SSRC is a sink of are added. -/
def addFeed (streams : List MediaStream) (chead : ℕ) (found : Walk × List MediaStream) (index : ℕ) :
    Walk × List MediaStream :=
  let walk := found.1.read chead (20 + 4 * index) 4
  let ssrcFeed := getREMBFeedSSRC walk.data chead index
  (walk, found.2 ++ streams.filter fun mediaStream => mediaStream.isSinkSSRC ssrcFeed)

/-- `onREMBFromTransport`. -/
def onREMBFromTransport (streams : List MediaStream) (chead : ℕ) (walk : Walk) : Walk :=
  let walk := walk.read chead 16 1
  let (walk, found) :=
    (List.range (getREMBNumSSRC walk.data chead).toNat).foldl (addFeed streams chead) (walk, [])
  let walk := (walk.read chead 17 3).read chead 4 4
  walk.emit (.distribute (getREMBBitRate walk.data chead) (getSSRC walk.data chead) found)

/-- The packet a block is copied into: a copy of the received one with the block at its start. -/
def blockPacket (packet : DataPacket) (data : Memory) (chead : ℕ) : DataPacket :=
  { packet with
    length := blockLength data chead
    data := Bytes.copy packet.data 0 ((List.range (blockLength data chead)).map fun index => data (chead + index)) }

/-- The callback of `onRtcpFromTransport`. -/
def onBlock (streams : List MediaStream) (packet : DataPacket) (chead : ℕ) (walk : Walk) : Option Walk :=
  let walk := walk.read chead 1 1
  let walk := walk.read chead (if isFeedback walk.data chead then 8 else 4) 4
  let ssrc := if isFeedback walk.data chead then getSourceSSRC walk.data chead else getSSRC walk.data chead
  let walk := walk.read chead 0 2
  if isREMB walk.data chead then some (onREMBFromTransport streams chead walk)
  else
    let walk := walk.read chead 2 2
    let rtcp := blockPacket packet walk.data chead
    let walk := walk.copy chead (blockLength walk.data chead)
    some ((streams.filter fun mediaStream => mediaStream.isSourceSSRC ssrc || mediaStream.isSinkSSRC ssrc).foldl
      (fun walk mediaStream => walk.emit (.onTransportData mediaStream rtcp)) walk)

/-- `onRtcpFromTransport`. -/
def onRtcpFromTransport (streams : List MediaStream) (packet : DataPacket) : Option Walk :=
  RtpUtils.forEachRtcpBlock Walk.data packet.length (onBlock streams packet) ⟨packet.data, [], []⟩

end WebRtcConnection

end Erizo
