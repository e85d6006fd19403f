/-
**The sequence number translator** (`rtp/SequenceNumberTranslator.cpp`).

A translator renumbers a stream of packets from which some are dropped and into which others are
generated. It keeps two ring buffers of `SequenceNumber` entries, one addressed by input and one
by output number, a window `[firstInput, lastInput]` of inputs it still answers for, the last
output it gave to a forwarded input and the number of packets generated since (`offset`).

`Config` holds the three constructor arguments. `Config.standard` is the default constructor and
`Config.pictureId` the translator `QualityFilterHandler` builds for VP8 picture ids.

The cells of the two vectors start default constructed. They are `Option`s here: `none` is the
`SequenceNumber{}` of a cell that nothing was stored in since construction or the last reset, and
reads as that value.
-/

import Erizo.Library.Machine
import Erizo.Library.RingBuffer
import Erizo.Model.RtpUtils

namespace Erizo

open Library RtpUtils

/-- `SequenceNumberType`. -/
inductive SequenceNumberType
  | valid
  | skip
  | discard
  | generated
  deriving DecidableEq, Repr

/-- `SequenceNumber`. -/
structure SequenceNumber where
  input : UInt16
  output : UInt16
  type : SequenceNumberType
  deriving DecidableEq, Repr

/-- `SequenceNumber()`. -/
instance : Inhabited SequenceNumber := ⟨0, 0, .valid⟩

/-- The arguments of the translator's constructor. -/
structure Config where
  maxNumberInBuffer : ℕ
  maxDistance : UInt16
  bits : ℕ
  positive : 0 < maxNumberInBuffer

namespace Config

/-- The default constructor: `kMaxSequenceNumberInBuffer`, `kMaxDistance` and
`kBitsInSequenceNumber`. -/
def standard : Config := ⟨1024, 500, 16, by norm_num⟩

/-- The picture id translator of `QualityFilterHandler`. -/
def pictureId : Config := ⟨511, 250, 15, by norm_num⟩

instance (config : Config) : NeZero config.maxNumberInBuffer :=
  ⟨Nat.pos_iff_ne_zero.mp config.positive⟩

/-- `mask_`: `2 ^ bits`, cast to sixteen bits. -/
def mask (config : Config) : ℕ := 2 ^ config.bits % 65536

/-- `boundedSequenceNumber`. -/
def boundedSequenceNumber (config : Config) (input : UInt16) : UInt16 :=
  if config.bits ≠ 16 then UInt16.ofNat (input.toNat % config.mask) else input

end Config

/-- One of the two vectors of entries. -/
abbrev Entries (config : Config) := RingBuffer (Option SequenceNumber) config.maxNumberInBuffer

/-- The state of a `SequenceNumberTranslator`. -/
structure SequenceNumberTranslator (config : Config) where
  inOutBuffer : Entries config
  outInBuffer : Entries config
  firstInput : UInt16
  lastInput : UInt16
  lastOutput : UInt16
  offset : UInt16
  initialized : Bool
  wasReset : Bool

namespace SequenceNumberTranslator

variable {config : Config}

/-- The constructors. -/
def init (config : Config) : SequenceNumberTranslator config where
  inOutBuffer := .fill _ none
  outInBuffer := .fill _ none
  firstInput := 0
  lastInput := 0
  lastOutput := 0
  offset := 0
  initialized := false
  wasReset := false

/-- `add`. -/
def add (translator : SequenceNumberTranslator config) (sequenceNumber : SequenceNumber) :
    SequenceNumberTranslator config :=
  { translator with
    inOutBuffer := translator.inOutBuffer.set sequenceNumber.input.toNat (some sequenceNumber)
    outInBuffer := translator.outInBuffer.set sequenceNumber.output.toNat (some sequenceNumber) }

/-- The `for` loop of `fill`. The loop variable is a `uint16_t` that runs up to `last`, so it is
left after fewer than `2 ^ 16` rounds (`fillLoop_eq`). -/
def fillLoop (last : UInt16) : ℕ → SequenceNumberTranslator config → UInt16 → UInt16 →
    SequenceNumberTranslator config × UInt16
  | 0, translator, _, outputSequenceNumber => (translator, outputSequenceNumber)
  | rounds + 1, translator, sequenceNumber, outputSequenceNumber =>
      if numberLessThan sequenceNumber last config.bits then
        fillLoop last rounds
          (translator.add ⟨config.boundedSequenceNumber sequenceNumber,
            config.boundedSequenceNumber outputSequenceNumber, .valid⟩)
          (sequenceNumber + 1) (outputSequenceNumber + 1)
      else (translator, outputSequenceNumber)

/-- `fill`, to a depth of recursion. The recursive calls are made with `first ≤ last` and do not
recurse again, so a depth of two is enough (`fillTo_add_two`). -/
def fillTo : ℕ → SequenceNumberTranslator config → UInt16 → UInt16 →
    SequenceNumberTranslator config × UInt16
  | 0, translator, _, _ => (translator, 0)
  | depth + 1, translator, firstInput, lastInput =>
      let first := config.boundedSequenceNumber firstInput
      let last := config.boundedSequenceNumber lastInput
      let translator :=
        if last < first then (fillTo depth (fillTo depth translator first 65535).1 0 last).1
        else translator
      let outputSequenceNumber :=
        config.boundedSequenceNumber (translator.lastOutput + translator.offset + 1)
      fillLoop last 65536 translator first outputSequenceNumber

/-- `fill`. -/
def fill (translator : SequenceNumberTranslator config) (firstInput lastInput : UInt16) :
    SequenceNumberTranslator config × UInt16 :=
  fillTo 2 translator firstInput lastInput

/-- `internalGet`. -/
def internalGet (translator : SequenceNumberTranslator config) (input : UInt16) : SequenceNumber :=
  (translator.inOutBuffer.get input.toNat).getD default

/-- `internalReverse`. -/
def internalReverse (translator : SequenceNumberTranslator config) (output : UInt16) :
    SequenceNumber :=
  (translator.outInBuffer.get output.toNat).getD default

/-- `get(input_sequence_number) const`. -/
def getConst (translator : SequenceNumberTranslator config) (input : UInt16) : SequenceNumber :=
  let result := translator.internalGet input
  if result.input = input then result else ⟨0, 0, .skip⟩

/-- `generate`. -/
def generate (translator : SequenceNumberTranslator config) :
    SequenceNumberTranslator config × SequenceNumber :=
  let offset := translator.offset + 1
  let output := config.boundedSequenceNumber (offset + translator.lastOutput)
  let sequenceNumber : SequenceNumber := ⟨0, output, .generated⟩
  ({ translator with
      offset := offset
      outInBuffer := translator.outInBuffer.set output.toNat (some sequenceNumber) }, sequenceNumber)

/-- `updateLastOutputSequenceNumber`. -/
def updateLastOutputSequenceNumber (translator : SequenceNumberTranslator config) (skip : Bool)
    (output : UInt16) : SequenceNumberTranslator config :=
  let firstPacket := !translator.initialized && !(translator.wasReset || decide (translator.offset > 0))
  if !skip && (numberLessThan translator.lastOutput output config.bits || firstPacket) then
    { translator with lastOutput := output }
  else translator

/-- `get(input_sequence_number, skip)` before the translator is initialised. -/
def getFirst (translator : SequenceNumberTranslator config) (input : UInt16) (skip : Bool) :
    SequenceNumberTranslator config × SequenceNumber :=
  let type : SequenceNumberType := if skip then .skip else .valid
  let output :=
    if translator.wasReset || decide (translator.offset > 0) then
      translator.lastOutput + translator.offset + 1
    else input
  let output := config.boundedSequenceNumber output
  let translator := translator.add ⟨input, output, type⟩
  let translator := translator.updateLastOutputSequenceNumber skip output
  let translator :=
    if !skip then
      { translator with
        lastInput := input
        firstInput := input
        initialized := true
        wasReset := false
        offset := 0 }
    else translator
  (translator, translator.getConst input)

/-- `get(input_sequence_number, skip)` for an input after `lastInput`. -/
def getNew (translator : SequenceNumberTranslator config) (input : UInt16) (skip : Bool) :
    SequenceNumberTranslator config × SequenceNumber :=
  let (translator, output) := translator.fill (translator.lastInput + 1) input
  let type : SequenceNumberType := if skip then .skip else .valid
  let translator := translator.updateLastOutputSequenceNumber skip output
  let translator := translator.add ⟨input, output, type⟩
  let translator := { translator with lastInput := input }
  let translator :=
    if numberLessThan translator.firstInput (translator.lastInput - config.maxDistance)
        config.bits then
      { translator with firstInput := translator.lastInput - config.maxDistance }
    else translator
  let info := translator.getConst input
  (if !skip then { translator with offset := 0 } else translator, info)

/-- `get(input_sequence_number, skip)` for an input of the window. -/
def getLate (translator : SequenceNumberTranslator config) (input : UInt16) (skip : Bool) :
    SequenceNumberTranslator config × SequenceNumber :=
  let result := translator.internalGet input
  if result.type = .valid then
    let type : SequenceNumberType := if skip then .discard else .valid
    let reversed := translator.internalReverse result.output
    let translator :=
      { translator with
        outInBuffer := translator.outInBuffer.set result.output.toNat (some { reversed with type := type })
        inOutBuffer := translator.inOutBuffer.set input.toNat (some { result with type := type }) }
    (translator.updateLastOutputSequenceNumber skip result.output, { result with type := type })
  else (translator.updateLastOutputSequenceNumber skip result.output, result)

/-- `get(input_sequence_number, skip)`. -/
def get (translator : SequenceNumberTranslator config) (input : UInt16) (skip : Bool) :
    SequenceNumberTranslator config × SequenceNumber :=
  if !translator.initialized then translator.getFirst input skip
  else if numberLessThan input translator.firstInput config.bits then
    (translator, ⟨input, 0, .skip⟩)
  else if numberLessThan translator.lastInput input config.bits then translator.getNew input skip
  else translator.getLate input skip

/-- `reverse`. -/
def reverse (translator : SequenceNumberTranslator config) (output : UInt16) : SequenceNumber :=
  let result := translator.internalReverse output
  if result.output ≠ output ∨ numberLessThan result.input translator.firstInput config.bits = true ∨
      numberLessThan translator.lastInput result.input config.bits = true then
    ⟨0, output, .discard⟩
  else result

/-- `reset`. -/
def reset (translator : SequenceNumberTranslator config) : SequenceNumberTranslator config :=
  if !translator.initialized then translator
  else
    { translator with
      initialized := false
      wasReset := true
      firstInput := 0
      lastInput := 0
      inOutBuffer := .fill _ none
      outInBuffer := .fill _ none }

/-! ### Runs -/

/-- The calls a translator's owner makes. -/
inductive Call
  | get (input : UInt16) (skip : Bool)
  | generate
  | reset
  deriving DecidableEq, Repr

/-- One call. `reset` returns nothing. -/
def step (translator : SequenceNumberTranslator config) :
    Call → SequenceNumberTranslator config × Option SequenceNumber
  | .get input skip => ((translator.get input skip).1, some (translator.get input skip).2)
  | .generate => (translator.generate.1, some translator.generate.2)
  | .reset => (translator.reset, none)

/-- The number a call gives to an outgoing packet: the output of a valid or generated result. -/
def issued : Option SequenceNumber → Option UInt16
  | some ⟨_, output, .valid⟩ => some output
  | some ⟨_, output, .generated⟩ => some output
  | _ => none

/-- The state after a list of calls on a newly constructed translator. -/
def after (config : Config) (calls : List Call) : SequenceNumberTranslator config :=
  Machine.run step (init config) calls

end SequenceNumberTranslator

end Erizo
