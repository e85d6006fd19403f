/-
**VP9 payload descriptors, and what the parser makes of them.**

* `safe_iff_walkedLength`: nothing is read behind a payload, and the rest is not longer than the payload, exactly when
  the fields that the parser looks for (`walkedLength`) end inside of it.
* `decodes_iff`: a descriptor comes back from its bytes when it has no picture id of 15 bits (other than 0), and in
  flexible mode has layer indices if and only if it is predicted from other pictures; otherwise it does not.
-/

import Erizo.Model.RtpVP9Parser
import Erizo.Proof.Vp8Descriptor

namespace Erizo

namespace RtpVP9Parser

open RtpVP8Parser (bit toNat_ofInt)

/-! ### How far the parser goes -/

/-- The bytes of the picture id. -/
def pictureIDLength (flags : UInt8) (rest : List UInt8) : ℕ :=
  if bit flags 0x80 then if bit (rest.headD 0) 0x80 then 2 else 1 else 0

/-- The bytes of the references: all bytes with the low bit, and one more. -/
def referencesLength : List UInt8 → ℕ
  | [] => 1
  | byte :: rest => if bit byte 0x01 then referencesLength rest + 1 else 1

/-- The bytes of the layer indices, and of the references or `TL0PICIDX` with them. -/
def layerIndicesLength (flags : UInt8) (rest : List UInt8) : ℕ :=
  if bit flags 0x20 then if bit flags 0x10 then 1 + referencesLength (rest.drop 1) else 2 else 0

/-- The bytes of some frames of a group. -/
def gofLength : ℕ → List UInt8 → ℕ
  | 0, _ => 0
  | count + 1, rest =>
      let frame := 1 + (rest.headD 0 &&& 0x0C).toNat / 4
      frame + gofLength count (rest.drop frame)

/-- The bytes of the resolutions, of so many layers and one more. -/
def resolutionsLength (byte : UInt8) : ℕ := 4 * if bit byte 0x10 then (byte &&& 0xE0).toNat / 32 + 1 else 0

/-- The bytes of a group of frames. -/
def groupLength (byte : UInt8) (rest : List UInt8) : ℕ :=
  if bit byte 0x08 then 1 + gofLength (rest.headD 0).toNat (rest.drop 1) else 0

/-- The bytes of the scalability structure. -/
def structureLength (flags : UInt8) (rest : List UInt8) : ℕ :=
  if bit flags 0x02 then
    let resolutions := 1 + resolutionsLength (rest.headD 0)
    resolutions + groupLength (rest.headD 0) (rest.drop resolutions)
  else 0

/-- The bytes of the fields that the parser looks for. -/
def walkedLength (bytes : List UInt8) : ℕ :=
  let flags := bytes.headD 0
  let id := 1 + pictureIDLength flags (bytes.drop 1)
  let layers := id + layerIndicesLength flags (bytes.drop id)
  layers + structureLength flags (bytes.drop layers)

open Library.Cursor (Goes goes_some)

/-- The flags that later parts of the parser look at, and the picture id, which they keep. -/
structure SameFlags (flags : UInt8) (number : ℤ) (vp9 : RTPPayloadVP9) : Prop where
  hasLayerIndices : vp9.hasLayerIndices = bit flags 0x20
  flexibleMode : vp9.flexibleMode = bit flags 0x10
  hasScalabilityStructure : vp9.hasScalabilityStructure = bit flags 0x02
  pictureID : vp9.pictureID = number

section Walk

variable {flags : UInt8} {number : ℤ} {vp9 : RTPPayloadVP9} {cursor : Cursor}

theorem goes_pictureID (present : vp9.hasPictureID = bit flags 0x80) (same : SameFlags flags number vp9) :
    Goes (parsePictureID vp9 cursor) cursor (fun parsed => ∃ number, SameFlags flags number parsed)
      (pictureIDLength flags cursor.rest) := by
  obtain ⟨layers, flexible, structured, _⟩ := same
  unfold parsePictureID pictureIDLength
  by_cases id : bit flags 0x80 = true
  · rw [if_pos (present.trans id), if_pos id]
    refine Goes.read (by split_ifs <;> decide) 0 ?_
    by_cases large : bit (cursor.rest.headD 0) 0x80 = true
    · simp only [large, if_true]
      show Goes _ cursor _ (1 + (1 + 0))
      exact Goes.skip (Goes.read Nat.one_pos 0 (Goes.skip (goes_some ⟨_, layers, flexible, structured, rfl⟩)))
    · simp only [large, if_false, Bool.false_eq_true]
      show Goes _ cursor _ (1 + 0)
      exact Goes.skip (goes_some ⟨_, layers, flexible, structured, rfl⟩)
  · rw [if_neg (fun has => id (present.symm.trans has)), if_neg id]
    exact goes_some ⟨_, layers, flexible, structured, rfl⟩

theorem goes_references (rest : List UInt8) (position : ℕ) :
    ∀ {vp9 : RTPPayloadVP9}, SameFlags flags number vp9 →
      Goes (parseReferences vp9 rest position >>= fun parsed => some (parsed.1, parsed.2.skip 1)) ⟨rest, position⟩
        (SameFlags flags number) (referencesLength rest) := by
  induction rest generalizing position with
  | nil => exact fun _ => Or.inr ⟨rfl, Nat.one_pos⟩
  | cons byte rest more =>
      intro vp9 same
      obtain ⟨layers, flexible, structured, id⟩ := same
      unfold parseReferences referencesLength
      dsimp only
      by_cases again : bit byte 0x01 = true
      · rw [if_pos again, if_pos again, Nat.add_comm (referencesLength rest)]
        exact @Goes.skip _ _ ⟨byte :: rest, position⟩ _ _ _ 1 (more (position + 1) ⟨layers, flexible, structured, id⟩)
      · rw [if_neg again, if_neg again]
        show Goes _ _ _ (1 + 0)
        exact Goes.skip (goes_some ⟨layers, flexible, structured, id⟩)

theorem goes_layerIndices (same : SameFlags flags number vp9) :
    Goes (parseLayerIndices vp9 cursor) cursor (SameFlags flags number) (layerIndicesLength flags cursor.rest) := by
  obtain ⟨layers, flexible, structured, id⟩ := same
  unfold parseLayerIndices layerIndicesLength
  dsimp only
  by_cases present : bit flags 0x20 = true
  · rw [if_pos (layers.trans present), if_pos present]
    refine Goes.read (by split_ifs <;> omega) 0 ?_
    by_cases flex : bit flags 0x10 = true
    · rw [if_pos (flexible.trans flex), if_pos flex]
      exact Goes.skip (goes_references _ _ ⟨layers, flexible, structured, id⟩)
    · rw [if_neg fun on => flex (flexible.symm.trans on), if_neg flex]
      show Goes _ cursor _ (1 + (1 + 0))
      exact Goes.skip (Goes.read Nat.one_pos 0 (Goes.skip (goes_some ⟨layers, flexible, structured, id⟩)))
  · rw [if_neg fun on => present (layers.symm.trans on), if_neg present]
    exact goes_some ⟨layers, flexible, structured, id⟩

theorem goes_resolutions (count : ℕ) : ∀ (vp9 : RTPPayloadVP9) (cursor : Cursor),
    Goes (parseResolutions count vp9 cursor) cursor
      (fun parsed => ∃ resolutions, parsed = { vp9 with resolutions := resolutions }) (4 * count) := by
  induction count with
  | zero => exact fun vp9 cursor => goes_some ⟨vp9.resolutions, rfl⟩
  | succ count more =>
      intro vp9 cursor
      unfold parseResolutions
      rw [show 4 * (count + 1) = 1 + (1 + (1 + (1 + 4 * count))) by omega]
      refine Goes.read (by omega) 0 (Goes.skip (Goes.read (by omega) 0 (Goes.skip ?_)))
      refine Goes.read (by omega) 0 (Goes.skip (Goes.read (by omega) 0 (Goes.skip ?_)))
      exact (more _ _).imp fun _ ⟨resolutions, same⟩ => ⟨resolutions, same⟩

theorem goes_gof (count : ℕ) : ∀ (cursor : Cursor) (vp9 : RTPPayloadVP9),
    Goes (parseGof count cursor >>= fun cursor => some (vp9, cursor)) cursor (fun parsed => parsed = vp9)
      (gofLength count cursor.rest) := by
  induction count with
  | zero => exact fun cursor vp9 => goes_some rfl
  | succ count more =>
      intro cursor vp9
      unfold parseGof gofLength
      rw [Option.bind_eq_bind, Option.bind_eq_bind, Option.bind_assoc]
      dsimp only
      refine Goes.read (by omega) 0 ?_
      rw [Library.Cursor.skip_skip]
      exact Goes.skip (more _ vp9)

theorem goes_group {byte : UInt8} (group : vp9.hasGof = bit byte 0x08) :
    Goes (parseGroup vp9 cursor) cursor (fun parsed => parsed.pictureID = vp9.pictureID)
      (groupLength byte cursor.rest) := by
  unfold parseGroup groupLength
  by_cases present : bit byte 0x08 = true
  · rw [if_pos (group.trans present), if_pos present]
    exact Goes.read (by omega) 0 (Goes.skip ((goes_gof _ _ _).imp fun _ same => by rw [same]))
  · rw [if_neg fun on => present (group.symm.trans on), if_neg present]
    exact goes_some rfl

theorem goes_scalabilityStructure (same : SameFlags flags number vp9) :
    Goes (parseScalabilityStructure vp9 cursor) cursor (fun parsed => parsed.pictureID = number)
      (structureLength flags cursor.rest) := by
  obtain ⟨_, _, structured, id⟩ := same
  unfold parseScalabilityStructure structureLength
  by_cases present : bit flags 0x02 = true
  · rw [if_pos (structured.trans present), if_pos present]
    dsimp only
    refine Goes.read (by omega) 0 ?_
    rw [Nat.add_assoc]
    refine Goes.skip (Goes.bind (fun parsed : RTPPayloadVP9 =>
      parsed.hasGof = bit (cursor.rest.headD 0) 0x08 ∧ parsed.pictureID = number) ?_ ?_)
    · exact (goes_resolutions _ _ _).imp fun _ ⟨_, changed⟩ => by rw [changed]; exact ⟨rfl, id⟩
    · intro parsed ⟨group, kept⟩
      rw [Library.Cursor.skip_skip]
      exact (goes_group group).imp fun _ same => same.trans kept
  · rw [if_neg fun on => present (structured.symm.trans on), if_neg present]
    exact goes_some id

/-- What the parser does behind the picture id. -/
def parseRest (vp9 : RTPPayloadVP9) (cursor : Cursor) : Option (RTPPayloadVP9 × Cursor) :=
  parseLayerIndices vp9 cursor >>= fun parsed => parseScalabilityStructure parsed.1 parsed.2

theorem goes_rest (same : SameFlags flags number vp9) :
    Goes (parseRest vp9 cursor) cursor (fun parsed => parsed.pictureID = number)
      (layerIndicesLength flags cursor.rest +
        structureLength flags (cursor.rest.drop (layerIndicesLength flags cursor.rest))) :=
  Goes.bind (SameFlags flags number) (goes_layerIndices same) fun _ kept => goes_scalabilityStructure kept

theorem parseVP9_eq (bytes : List UInt8) (dataLength : ℤ) :
    parseVP9 bytes dataLength =
      (Library.Cursor.read (⟨bytes, 0⟩ : Cursor) >>= fun byte =>
        parsePictureID (parseFlags byte) (Library.Cursor.skip ⟨bytes, 0⟩ 1) >>= fun parsed =>
          parseRest parsed.1 parsed.2) >>= fun parsed => some { parsed.1 with
            data := parsed.2.position
            dataLength := UInt32.ofInt (dataLength - parsed.2.position) } := by
  unfold parseVP9 parseRest
  simp only [Option.bind_eq_bind, Option.bind_assoc]

/-- **The parser goes over the fields it looks for**, if they can be read. -/
theorem parseVP9_goes (bytes : List UInt8) (dataLength : ℤ) :
    (∃ vp9, parseVP9 bytes dataLength = some vp9 ∧ vp9.data = walkedLength bytes ∧
        vp9.dataLength = UInt32.ofInt (dataLength - walkedLength bytes)) ∨
      (parseVP9 bytes dataLength = none ∧ bytes.length < walkedLength bytes) := by
  have walked : Goes (Library.Cursor.read (⟨bytes, 0⟩ : Cursor) >>= fun byte =>
      parsePictureID (parseFlags byte) (Library.Cursor.skip ⟨bytes, 0⟩ 1) >>= fun parsed =>
        parseRest parsed.1 parsed.2) ⟨bytes, 0⟩ (fun _ => True) (walkedLength bytes) := by
    have length : walkedLength bytes = 1 + (pictureIDLength (bytes.headD 0) (bytes.drop 1) +
        (layerIndicesLength (bytes.headD 0) (bytes.drop (1 + pictureIDLength (bytes.headD 0) (bytes.drop 1))) +
          structureLength (bytes.headD 0) ((bytes.drop (1 + pictureIDLength (bytes.headD 0) (bytes.drop 1))).drop
            (layerIndicesLength (bytes.headD 0)
              (bytes.drop (1 + pictureIDLength (bytes.headD 0) (bytes.drop 1))))))) := by
      rw [List.drop_drop, ← Nat.add_assoc, ← Nat.add_assoc]
      rfl
    rw [length]
    refine Goes.read (by omega) 0 (Goes.skip (Goes.bind (fun parsed => ∃ number, SameFlags (bytes.headD 0) number parsed)
      (goes_pictureID rfl ⟨rfl, rfl, rfl, rfl⟩) ?_))
    rintro vp9 ⟨number, same⟩
    rw [Library.Cursor.skip_skip]
    exact (goes_rest same).imp fun _ _ => trivial
  rw [parseVP9_eq]
  rcases walked with ⟨vp9, same, _⟩ | ⟨none, short⟩
  · rw [same]
    refine Or.inl ⟨_, rfl, Nat.zero_add _, ?_⟩
    show UInt32.ofInt (dataLength - ((0 + walkedLength bytes : ℕ) : ℤ)) = _
    rw [Nat.zero_add]
  · rw [none]
    exact Or.inr ⟨rfl, short⟩

end Walk

/-- Nothing is read behind a payload, and what is behind the descriptor has a length. -/
def Safe (bytes : List UInt8) : Prop := ∃ vp9, parseVP9 bytes bytes.length = some vp9 ∧ vp9.data ≤ bytes.length

/-- **The parser stays inside of a payload** exactly when the fields it looks for end there. -/
theorem safe_iff_walkedLength (bytes : List UInt8) : Safe bytes ↔ walkedLength bytes ≤ bytes.length := by
  rcases parseVP9_goes bytes bytes.length with ⟨vp9, same, data, _⟩ | ⟨none, short⟩
  · constructor
    · rintro ⟨other, parsed, inside⟩
      rw [same] at parsed
      rw [← data, Option.some.inj parsed]
      exact inside
    · exact fun inside => ⟨vp9, same, data.trans_le inside⟩
  · constructor
    · rintro ⟨other, parsed, _⟩
      rw [none] at parsed
      exact absurd parsed (by simp)
    · exact fun inside => absurd inside (Nat.not_le.mpr short)

/-! ### Descriptors -/

/-- A picture id of 7 or 15 bits. -/
inductive PictureID
  | short (number : Fin (2 ^ 7))
  | long (number : Fin (2 ^ 15))

/-- The layer indices. -/
structure LayerIndices where
  temporalID : Fin 8
  isSwitchingUp : Bool
  spatialID : Fin 8
  isInterLayeredDepUsed : Bool

/-- A frame of a group, with the differences to the pictures it refers to. -/
structure GofFrame where
  temporalID : Fin 8
  isSwitchingUp : Bool
  references : List UInt8
  few : references.length < 4

/-- A scalability structure: `spatialLayers` is one less than their number. -/
structure ScalabilityStructure where
  spatialLayers : Fin 8
  resolutions : Option (List (UInt16 × UInt16))
  gof : Option (List GofFrame)
  sized : ∀ list ∈ resolutions, list.length = spatialLayers.val + 1
  few : ∀ list ∈ gof, list.length < 256

/-- A payload descriptor. `tl0PicIdx` comes with the layer indices, if the mode is not flexible, and the references of a
picture that is predicted from others if it is. -/
structure Descriptor where
  interPicturePrediction : Bool
  flexibleMode : Bool
  beginningOfLayerFrame : Bool
  endingOfLayerFrame : Bool
  pictureID : Option PictureID
  layerIndices : Option LayerIndices
  tl0PicIdx : UInt8
  references : List (Fin (2 ^ 7))
  scalabilityStructure : Option ScalabilityStructure
  some_references : 0 < references.length
  few_references : references.length ≤ 3

/-! ### Their bytes -/

/-- The flags in a byte. -/
def flagByte (i p l f b e v : Bool) : UInt8 :=
  UInt8.ofNat (i.toNat * 128 + p.toNat * 64 + l.toNat * 32 + f.toNat * 16 + b.toNat * 8 + e.toNat * 4 + v.toNat * 2)

def PictureID.bytes : PictureID → List UInt8
  | .short number => [UInt8.ofNat number]
  | .long number => [UInt8.ofNat (128 + number / 256), UInt8.ofNat (number % 256)]

def LayerIndices.byte (indices : LayerIndices) : UInt8 :=
  UInt8.ofNat (indices.temporalID * 32 + indices.isSwitchingUp.toNat * 16 + indices.spatialID * 2 +
    indices.isInterLayeredDepUsed.toNat)

/-- Each reference says whether there is another one. -/
def referenceBytes : List (Fin (2 ^ 7)) → List UInt8
  | [] => []
  | reference :: rest => UInt8.ofNat (reference * 2 + (!rest.isEmpty).toNat) :: referenceBytes rest

def resolutionBytes (resolution : UInt16 × UInt16) : List UInt8 :=
  Library.Bytes.encode16 resolution.1 ++ Library.Bytes.encode16 resolution.2

def GofFrame.bytes (frame : GofFrame) : List UInt8 :=
  UInt8.ofNat (frame.temporalID * 32 + frame.isSwitchingUp.toNat * 16 + frame.references.length * 4) :: frame.references

/-- A group of frames, if there is one. -/
def groupBytes : Option (List GofFrame) → List UInt8
  | none => []
  | some frames => UInt8.ofNat frames.length :: frames.flatMap GofFrame.bytes

def ScalabilityStructure.bytes (scalability : ScalabilityStructure) : List UInt8 :=
  UInt8.ofNat (scalability.spatialLayers * 32 + scalability.resolutions.isSome.toNat * 16 +
      scalability.gof.isSome.toNat * 8) ::
    ((scalability.resolutions.getD []).flatMap resolutionBytes ++ groupBytes scalability.gof)

namespace Descriptor

variable (descriptor : Descriptor)

/-- The layer indices, and `TL0PICIDX` with them. -/
def layerBytes : List UInt8 :=
  match descriptor.layerIndices with
  | none => []
  | some indices => indices.byte :: if descriptor.flexibleMode then [] else [descriptor.tl0PicIdx]

/-- The references. -/
def differenceBytes : List UInt8 :=
  if descriptor.interPicturePrediction && descriptor.flexibleMode then referenceBytes descriptor.references else []

/-- The bytes of a descriptor. -/
def bytes : List UInt8 :=
  flagByte descriptor.pictureID.isSome descriptor.interPicturePrediction descriptor.layerIndices.isSome
      descriptor.flexibleMode descriptor.beginningOfLayerFrame descriptor.endingOfLayerFrame
      descriptor.scalabilityStructure.isSome ::
    (descriptor.pictureID.elim [] PictureID.bytes ++ (descriptor.layerBytes ++ (descriptor.differenceBytes ++
      descriptor.scalabilityStructure.elim [] ScalabilityStructure.bytes)))

end Descriptor

/-! ### Bits of the bytes -/

theorem parseFlags_flagByte (i p l f b e v : Bool) :
    parseFlags (flagByte i p l f b e v) =
      { hasPictureID := i
        interPicturePrediction := p
        frameType := if p then .pFrame else .iFrame
        hasLayerIndices := l
        flexibleMode := f
        beginningOfLayerFrame := b
        endingOfLayerFrame := e
        hasScalabilityStructure := v } := by
  revert i p l f b e v
  decide +kernel

theorem bits_short (number : Fin (2 ^ 7)) :
    bit (UInt8.ofNat number) 0x80 = false ∧ (UInt8.ofNat number &&& 0x7F).toNat = number := by
  revert number
  decide +kernel

theorem bits_long (high : Fin (2 ^ 7)) :
    bit (UInt8.ofNat (128 + high)) 0x80 = true ∧ (UInt8.ofNat (128 + high) &&& 0x7F).toNat = high := by
  revert high
  decide +kernel

theorem bits_layers (t : Fin 8) (u : Bool) (s : Fin 8) (d : Bool) :
    (LayerIndices.byte ⟨t, u, s, d⟩ &&& 0xE0).toNat / 32 = t ∧ bit (LayerIndices.byte ⟨t, u, s, d⟩) 0x10 = u ∧
      (LayerIndices.byte ⟨t, u, s, d⟩ &&& 0x0E).toNat / 2 = s ∧ bit (LayerIndices.byte ⟨t, u, s, d⟩) 0x01 = d := by
  revert t u s d
  decide +kernel

theorem bits_reference (reference : Fin (2 ^ 7)) (more : Bool) :
    (UInt8.ofNat (reference * 2 + more.toNat) &&& 0xFE).toNat / 2 = reference ∧
      bit (UInt8.ofNat (reference * 2 + more.toNat)) 0x01 = more := by
  revert reference more
  decide +kernel

theorem bits_structure (layers : Fin 8) (y g : Bool) :
    (UInt8.ofNat (layers * 32 + y.toNat * 16 + g.toNat * 8) &&& 0xE0).toNat / 32 = layers ∧
      bit (UInt8.ofNat (layers * 32 + y.toNat * 16 + g.toNat * 8)) 0x10 = y ∧
      bit (UInt8.ofNat (layers * 32 + y.toNat * 16 + g.toNat * 8)) 0x08 = g := by
  revert layers y g
  decide +kernel

theorem bits_frame (t : Fin 8) (u : Bool) (r : Fin 4) :
    (UInt8.ofNat (t * 32 + u.toNat * 16 + r * 4) &&& 0x0C).toNat / 4 = r := by
  revert t u r
  decide +kernel

/-! ### What is parsed from each part -/

section Parts

variable (descriptor : Descriptor) (rest : List UInt8) (position : ℕ)

/-- The picture id that the parser reports. -/
def reportedID : Option PictureID → ℤ
  | none => -1
  | some (.short number) => number.val
  | some (.long number) => number.val % 256 * 256

/-- Whether a picture id has 15 bits. -/
def isLong : Option PictureID → Bool
  | some (.long _) => true
  | _ => false

theorem ntohs_byte (high : ℤ) (low : UInt8) :
    ((ntohs (UInt16.ofInt (high * 2 ^ 16 + low.toNat))).toNat : ℤ) = low.toNat * 256 := by
  have below := low.toNat_lt
  have value := toNat_ofInt (high * 2 ^ 16 + low.toNat)
  have same : (UInt16.ofInt (high * 2 ^ 16 + low.toNat)).toNat = low.toNat := by omega
  rw [ntohs, same, UInt16.toNat_ofNat', Nat.mod_eq_of_lt below, Nat.div_eq_of_lt below, Nat.add_zero,
    Nat.mod_eq_of_lt (by omega), Nat.cast_mul]
  rfl

theorem parse_pictureID (id : Option PictureID) {vp9 : RTPPayloadVP9} (present : vp9.hasPictureID = id.isSome)
    (unset : vp9.pictureID = -1) (small : vp9.largePictureID = false) :
    parsePictureID vp9 ⟨id.elim [] PictureID.bytes ++ rest, position⟩ =
      some ({ vp9 with largePictureID := isLong id, pictureID := reportedID id },
        ⟨rest, position + (id.elim [] PictureID.bytes).length⟩) := by
  unfold parsePictureID
  cases id with
  | none =>
      rw [if_neg (by rw [present]; decide)]
      show some (vp9, _) = some ({ vp9 with largePictureID := false, pictureID := -1 }, _)
      rw [← small, ← unset]
      rfl
  | some id =>
      rw [if_pos (show vp9.hasPictureID = true from present)]
      cases id with
      | short number =>
          obtain ⟨short, value⟩ := bits_short number
          simp only [Option.elim_some, PictureID.bytes, List.cons_append, List.nil_append, Library.Cursor.read,
            List.head?_cons, Option.bind_eq_bind, Option.bind_some, short, value, Bool.false_eq_true, if_false]
          rfl
      | long number =>
          obtain ⟨long, _⟩ := bits_long ⟨number / 256, by omega⟩
          have low : (UInt8.ofNat (number % 256)).toNat = number.val % 256 := by
            rw [UInt8.toNat_ofNat']
            omega
          simp only [Option.elim_some, PictureID.bytes, List.cons_append, List.nil_append, Library.Cursor.read,
            List.head?_cons, Option.bind_eq_bind, Option.bind_some, long, if_true, Library.Cursor.skip,
            List.drop_succ_cons, List.drop_zero, ntohs_byte, low]
          rfl

theorem parse_references (references : List (Fin (2 ^ 7))) :
    ∀ (some_references : references ≠ []) (vp9 : RTPPayloadVP9) (position : ℕ),
      (parseReferences vp9 (referenceBytes references ++ rest) position >>= fun parsed =>
          some (parsed.1, parsed.2.skip 1)) =
        some ({ vp9 with referenceIdx := (references.getLast some_references).val, additionalReferenceIdx := false },
          ⟨rest, position + (referenceBytes references).length⟩) := by
  induction references with
  | nil => exact fun none => absurd rfl none
  | cons reference more ih =>
      intro _ vp9 position
      obtain ⟨value, single⟩ := bits_reference reference (!more.isEmpty)
      have number : ((UInt8.ofNat (reference * 2 + (!more.isEmpty).toNat) &&& 0xFE).toNat : ℤ) / 2 = reference.val :=
        congrArg Nat.cast value
      rw [referenceBytes, List.cons_append, parseReferences]
      simp only [single, number]
      cases more with
      | nil => rfl
      | cons next more =>
          have tail := ih (List.cons_ne_nil _ _) { vp9 with
            referenceIdx := reference.val
            additionalReferenceIdx := true } (position + 1)
          rw [List.getLast_cons (List.cons_ne_nil _ _), List.length_cons,
            show position + ((referenceBytes (next :: more)).length + 1) =
              position + 1 + (referenceBytes (next :: more)).length by omega]
          exact tail

/-- What the layer indices are parsed to. -/
def layered (vp9 : RTPPayloadVP9) : RTPPayloadVP9 :=
  match descriptor.layerIndices with
  | none => { vp9 with temporalID := 0, spatialID := 0 }
  | some indices =>
      let vp9 :=
        { vp9 with
          temporalID := indices.temporalID.val
          isSwitchingUp := indices.isSwitchingUp
          spatialID := indices.spatialID.val
          isInterLayeredDepUsed := indices.isInterLayeredDepUsed }
      if descriptor.flexibleMode then
        { vp9 with
          referenceIdx := (descriptor.references.getLast (List.ne_nil_of_length_pos descriptor.some_references)).val
          additionalReferenceIdx := false }
      else { vp9 with tl0PicIdx := descriptor.tl0PicIdx.toNat }

theorem parse_layerIndices (matched : descriptor.flexibleMode = true →
      descriptor.interPicturePrediction = descriptor.layerIndices.isSome)
    {vp9 : RTPPayloadVP9} (present : vp9.hasLayerIndices = descriptor.layerIndices.isSome)
    (flexible : vp9.flexibleMode = descriptor.flexibleMode) :
    parseLayerIndices vp9 ⟨descriptor.layerBytes ++ (descriptor.differenceBytes ++ rest), position⟩ =
      some (layered descriptor vp9,
        ⟨rest, position + (descriptor.layerBytes ++ descriptor.differenceBytes).length⟩) := by
  unfold parseLayerIndices layered Descriptor.layerBytes Descriptor.differenceBytes
  dsimp only
  cases layers : descriptor.layerIndices with
  | none =>
      have absent : vp9.hasLayerIndices = false := by rw [present, layers]; rfl
      have unreferenced : (descriptor.interPicturePrediction && descriptor.flexibleMode) = false := by
        cases flexes : descriptor.flexibleMode with
        | false => exact Bool.and_false _
        | true =>
            rw [matched flexes, layers]
            rfl
      rw [if_neg (by rw [absent]; decide), unreferenced]
      rfl
  | some indices =>
      obtain ⟨temporal, switching, spatial, dependent⟩ := bits_layers indices.temporalID indices.isSwitchingUp
        indices.spatialID indices.isInterLayeredDepUsed
      have temporalID : ((indices.byte &&& 0xE0).toNat : ℤ) / 32 = indices.temporalID.val := congrArg Nat.cast temporal
      have spatialID : ((indices.byte &&& 0x0E).toNat : ℤ) / 2 = indices.spatialID.val := congrArg Nat.cast spatial
      have isSwitchingUp : bit indices.byte 0x10 = indices.isSwitchingUp := switching
      have dependent : bit indices.byte 0x01 = indices.isInterLayeredDepUsed := dependent
      rw [if_pos (by rw [present, layers]; rfl)]
      simp only [List.cons_append, Library.Cursor.read, List.head?_cons, Option.bind_eq_bind, Option.bind_some, flexible,
        Library.Cursor.skip, List.drop_succ_cons, List.drop_zero, temporalID, spatialID, isSwitchingUp, dependent]
      cases flexes : descriptor.flexibleMode with
      | false =>
          rw [Bool.and_false]
          rfl
      | true =>
          have predicted : descriptor.interPicturePrediction = true := by rw [matched flexes, layers]; rfl
          rw [predicted]
          have referenced := parse_references rest descriptor.references
            (List.ne_nil_of_length_pos descriptor.some_references)
            { vp9 with
              flexibleMode := true
              temporalID := indices.temporalID.val
              isSwitchingUp := indices.isSwitchingUp
              spatialID := indices.spatialID.val
              isInterLayeredDepUsed := indices.isInterLayeredDepUsed } (position + 1)
          rw [show position + 1 + (referenceBytes descriptor.references).length =
            position + ([indices.byte] ++ referenceBytes descriptor.references).length by
              rw [List.length_append, List.length_singleton, Nat.add_assoc]] at referenced
          exact referenced

/-- The resolutions as the parser reports them. -/
def reportedResolution (resolution : UInt16 × UInt16) : VP9ResolutionLayer :=
  ⟨resolution.1.toNat, resolution.2.toNat⟩

theorem parse_resolutions (resolutions : List (UInt16 × UInt16)) : ∀ (vp9 : RTPPayloadVP9) (position : ℕ),
    parseResolutions resolutions.length vp9 ⟨resolutions.flatMap resolutionBytes ++ rest, position⟩ =
      some ({ vp9 with resolutions := vp9.resolutions ++ resolutions.map reportedResolution },
        ⟨rest, position + (resolutions.flatMap resolutionBytes).length⟩) := by
  induction resolutions with
  | nil =>
      intro vp9 position
      rw [List.map_nil, List.append_nil]
      rfl
  | cons resolution more ih =>
      intro vp9 position
      obtain ⟨width, height⟩ := resolution
      have bytes (word : UInt16) : (UInt8.ofNat (word.toNat / 256)).toNat * 256 +
          ((UInt8.ofNat (word.toNat % 256)).toNat : ℤ) = word.toNat := by
        have below := word.toNat_lt
        rw [UInt8.toNat_ofNat', UInt8.toNat_ofNat']
        omega
      have tail := ih { vp9 with resolutions := vp9.resolutions ++ [reportedResolution (width, height)] } (position + 4)
      simp only [List.append_assoc, List.singleton_append] at tail
      simp only [List.length_cons, List.flatMap_cons, resolutionBytes, Library.Bytes.encode16, List.cons_append,
        List.nil_append, parseResolutions, Library.Cursor.read, List.head?_cons, Option.bind_eq_bind, Option.bind_some,
        Library.Cursor.skip, List.drop_succ_cons, List.drop_zero, bytes, List.map_cons]
      refine tail.trans (congrArg (fun place => some (_, (⟨rest, place⟩ : Cursor))) ?_)
      omega

theorem parse_gof (frames : List GofFrame) : ∀ position : ℕ,
    parseGof frames.length ⟨frames.flatMap GofFrame.bytes ++ rest, position⟩ =
      some ⟨rest, position + (frames.flatMap GofFrame.bytes).length⟩ := by
  induction frames with
  | nil => exact fun _ => rfl
  | cons frame more ih =>
      intro position
      have references := bits_frame frame.temporalID frame.isSwitchingUp ⟨frame.references.length, frame.few⟩
      simp only [List.flatMap_cons, List.length_cons, GofFrame.bytes, List.cons_append, List.append_assoc, parseGof,
        Library.Cursor.read, List.head?_cons, Option.bind_eq_bind, Option.bind_some, Library.Cursor.skip,
        List.drop_succ_cons, List.drop_zero, references, List.drop_left]
      refine (ih _).trans (congrArg (fun place => some (⟨rest, place⟩ : Cursor)) ?_)
      simp only [List.length_append]
      omega

/-- What a scalability structure is parsed to. -/
def structured (scalability : Option ScalabilityStructure) (vp9 : RTPPayloadVP9) : RTPPayloadVP9 :=
  match scalability with
  | none => vp9
  | some scalability =>
      { vp9 with
        spatialLayers := scalability.spatialLayers.val
        hasResolution := scalability.resolutions.isSome
        hasGof := scalability.gof.isSome
        numberOfFramesInGof := scalability.gof.elim vp9.numberOfFramesInGof fun frames => frames.length
        resolutions := vp9.resolutions ++ (scalability.resolutions.getD []).map reportedResolution }

theorem parse_group (gof : Option (List GofFrame)) (few : ∀ frames ∈ gof, frames.length < 256) {vp9 : RTPPayloadVP9}
    (present : vp9.hasGof = gof.isSome) :
    parseGroup vp9 ⟨groupBytes gof ++ rest, position⟩ =
      some ({ vp9 with numberOfFramesInGof := gof.elim vp9.numberOfFramesInGof fun frames => frames.length },
        ⟨rest, position + (groupBytes gof).length⟩) := by
  unfold parseGroup
  cases gof with
  | none =>
      rw [if_neg (by rw [present]; decide)]
      rfl
  | some frames =>
      have count : (UInt8.ofNat frames.length).toNat = frames.length := by
        rw [UInt8.toNat_ofNat']
        exact Nat.mod_eq_of_lt (few frames rfl)
      rw [if_pos (show vp9.hasGof = true from present)]
      simp only [groupBytes, List.cons_append, Library.Cursor.read, List.head?_cons, Option.bind_eq_bind,
        Option.bind_some, Library.Cursor.skip, List.drop_succ_cons, List.drop_zero, count, parse_gof, Option.elim_some,
        List.length_cons]
      refine congrArg (fun place => some (_, (⟨rest, place⟩ : Cursor))) ?_
      omega

theorem parse_structure (scalability : Option ScalabilityStructure) {vp9 : RTPPayloadVP9}
    (present : vp9.hasScalabilityStructure = scalability.isSome) :
    parseScalabilityStructure vp9 ⟨scalability.elim [] ScalabilityStructure.bytes ++ rest, position⟩ =
      some (structured scalability vp9, ⟨rest, position + (scalability.elim [] ScalabilityStructure.bytes).length⟩) := by
  unfold parseScalabilityStructure
  cases scalability with
  | none =>
      rw [if_neg (by rw [present]; decide)]
      rfl
  | some scalability =>
      obtain ⟨layers, sized, grouped⟩ := bits_structure scalability.spatialLayers scalability.resolutions.isSome
        scalability.gof.isSome
      have count : (if scalability.resolutions.isSome then scalability.spatialLayers.val + 1 else 0) =
          (scalability.resolutions.getD []).length := by
        cases resolutions : scalability.resolutions with
        | none => rfl
        | some list => exact (scalability.sized list resolutions).symm
      rw [if_pos (show vp9.hasScalabilityStructure = true from present)]
      simp only [Option.elim_some, ScalabilityStructure.bytes, List.cons_append, Library.Cursor.read, List.head?_cons,
        Option.bind_eq_bind, Option.bind_some, Library.Cursor.skip, List.drop_succ_cons, List.drop_zero, layers, sized,
        grouped, count, List.append_assoc, parse_resolutions]
      refine (parse_group rest _ scalability.gof scalability.few rfl).trans
        (congrArg (fun place => some (_, (⟨rest, place⟩ : Cursor))) ?_)
      simp only [List.length_cons, List.length_append]
      omega

end Parts

/-! ### What comes back -/

theorem ofInt_natCast (value : ℕ) : UInt32.ofInt value = UInt32.ofNat value := by
  refine UInt32.toNat_inj.mp ?_
  rw [UInt32.ofInt, UInt32.toNat_ofNat', UInt32.toNat_ofNat']
  omega

namespace Descriptor

variable (descriptor : Descriptor)

/-- The number of a picture id. -/
def number : ℤ :=
  match descriptor.pictureID with
  | none => -1
  | some (.short number) => number.val
  | some (.long number) => number.val

/-- **What is to come back** from a descriptor in front of a payload. -/
structure Tells (payload : List UInt8) (vp9 : RTPPayloadVP9) : Prop where
  hasPictureID : vp9.hasPictureID = descriptor.pictureID.isSome
  interPicturePrediction : vp9.interPicturePrediction = descriptor.interPicturePrediction
  hasLayerIndices : vp9.hasLayerIndices = descriptor.layerIndices.isSome
  flexibleMode : vp9.flexibleMode = descriptor.flexibleMode
  beginningOfLayerFrame : vp9.beginningOfLayerFrame = descriptor.beginningOfLayerFrame
  endingOfLayerFrame : vp9.endingOfLayerFrame = descriptor.endingOfLayerFrame
  hasScalabilityStructure : vp9.hasScalabilityStructure = descriptor.scalabilityStructure.isSome
  pictureID : vp9.pictureID = descriptor.number
  temporalID : vp9.temporalID = descriptor.layerIndices.elim 0 fun indices => (indices.temporalID.val : ℤ)
  spatialID : vp9.spatialID = descriptor.layerIndices.elim 0 fun indices => (indices.spatialID.val : ℤ)
  tl0PicIdx : vp9.tl0PicIdx =
    if descriptor.layerIndices.isSome && !descriptor.flexibleMode then (descriptor.tl0PicIdx.toNat : ℤ) else -1
  resolutions : vp9.resolutions =
    ((descriptor.scalabilityStructure.bind ScalabilityStructure.resolutions).getD []).map reportedResolution
  data : vp9.data = descriptor.bytes.length
  dataLength : vp9.dataLength = UInt32.ofNat payload.length

/-- A descriptor comes back, whatever the payload is. -/
def Decodes : Prop :=
  ∀ payload : List UInt8, ∃ vp9,
    parseVP9 (descriptor.bytes ++ payload) (descriptor.bytes ++ payload).length = some vp9 ∧
      descriptor.Tells payload vp9

/-- There is no picture id of 15 bits, other than 0. -/
def SmallID : Prop := ∀ number, descriptor.pictureID = some (.long number) → number.val = 0

/-- In flexible mode, the pictures that are predicted from others are those with layer indices. -/
def Matched : Prop :=
  descriptor.flexibleMode = true → descriptor.interPicturePrediction = descriptor.layerIndices.isSome

theorem reportedID_eq_iff : reportedID descriptor.pictureID = descriptor.number ↔ descriptor.SmallID := by
  unfold number SmallID reportedID
  match descriptor.pictureID with
  | none => exact ⟨fun _ _ same => absurd same (by simp), fun _ => rfl⟩
  | some (.short _) => exact ⟨fun _ _ same => absurd same (by simp), fun _ => rfl⟩
  | some (.long value) =>
      constructor
      · intro same other here
        obtain rfl : value = other := by simpa using here
        simp only at same
        omega
      · intro small
        have zero := small value rfl
        simp only
        omega

theorem flags_bytes : parseFlags (descriptor.bytes.headD 0) =
    { hasPictureID := descriptor.pictureID.isSome
      interPicturePrediction := descriptor.interPicturePrediction
      frameType := if descriptor.interPicturePrediction then .pFrame else .iFrame
      hasLayerIndices := descriptor.layerIndices.isSome
      flexibleMode := descriptor.flexibleMode
      beginningOfLayerFrame := descriptor.beginningOfLayerFrame
      endingOfLayerFrame := descriptor.endingOfLayerFrame
      hasScalabilityStructure := descriptor.scalabilityStructure.isSome } := parseFlags_flagByte _ _ _ _ _ _ _

/-- What is parsed before the layer indices. -/
def identified : RTPPayloadVP9 :=
  { parseFlags (descriptor.bytes.headD 0) with
    largePictureID := isLong descriptor.pictureID
    pictureID := reportedID descriptor.pictureID }

/-- The bytes up to the layer indices. -/
def idLength : ℕ := 1 + (descriptor.pictureID.elim [] PictureID.bytes).length

/-- **The parser reads the picture id**, and goes on behind it. -/
theorem parseVP9_bytes (payload : List UInt8) (dataLength : ℤ) :
    parseVP9 (descriptor.bytes ++ payload) dataLength =
      parseRest descriptor.identified ⟨descriptor.layerBytes ++ (descriptor.differenceBytes ++
          (descriptor.scalabilityStructure.elim [] ScalabilityStructure.bytes ++ payload)), descriptor.idLength⟩ >>=
        fun parsed => some { parsed.1 with
          data := parsed.2.position
          dataLength := UInt32.ofInt (dataLength - parsed.2.position) } := by
  have id := parse_pictureID (descriptor.layerBytes ++ (descriptor.differenceBytes ++
    (descriptor.scalabilityStructure.elim [] ScalabilityStructure.bytes ++ payload))) 1 descriptor.pictureID
    (congrArg RTPPayloadVP9.hasPictureID descriptor.flags_bytes) rfl rfl
  rw [parseVP9_eq]
  refine congrArg (fun result => result >>= _) ?_
  have split : descriptor.bytes ++ payload = descriptor.bytes.headD 0 :: (descriptor.pictureID.elim [] PictureID.bytes ++
      (descriptor.layerBytes ++ (descriptor.differenceBytes ++
        (descriptor.scalabilityStructure.elim [] ScalabilityStructure.bytes ++ payload)))) := by
    simp only [bytes, List.cons_append, List.append_assoc, List.headD_cons]
  rw [split]
  exact congrArg (fun result => result >>= fun parsed => parseRest parsed.1 parsed.2) id

/-- What is parsed in the end. -/
def parsed (descriptor : Descriptor) : RTPPayloadVP9 :=
  structured descriptor.scalabilityStructure (layered descriptor descriptor.identified)

theorem parseVP9_matched (matched : descriptor.Matched) (payload : List UInt8) (dataLength : ℤ) :
    parseVP9 (descriptor.bytes ++ payload) dataLength =
      some { descriptor.parsed with
        data := descriptor.bytes.length
        dataLength := UInt32.ofInt (dataLength - descriptor.bytes.length) } := by
  have layers := @parse_layerIndices descriptor
    (descriptor.scalabilityStructure.elim [] ScalabilityStructure.bytes ++ payload) descriptor.idLength matched
    descriptor.identified (congrArg RTPPayloadVP9.hasLayerIndices descriptor.flags_bytes)
    (congrArg RTPPayloadVP9.flexibleMode descriptor.flags_bytes)
  have present : (layered descriptor descriptor.identified).hasScalabilityStructure =
      descriptor.scalabilityStructure.isSome := by
    unfold layered
    split
    · exact congrArg RTPPayloadVP9.hasScalabilityStructure descriptor.flags_bytes
    · split_ifs <;> exact congrArg RTPPayloadVP9.hasScalabilityStructure descriptor.flags_bytes
  have structure_ := parse_structure payload
    (descriptor.idLength + (descriptor.layerBytes ++ descriptor.differenceBytes).length)
    descriptor.scalabilityStructure present
  have length : descriptor.idLength + (descriptor.layerBytes ++ descriptor.differenceBytes).length +
      (descriptor.scalabilityStructure.elim [] ScalabilityStructure.bytes).length = descriptor.bytes.length := by
    simp only [idLength, bytes, List.length_cons, List.length_append]
    omega
  rw [parseVP9_bytes, parseRest, layers, Option.bind_eq_bind, Option.bind_eq_bind, Option.bind_some, structure_, length]
  rfl

theorem tells_parsed (small : descriptor.SmallID) (payload : List UInt8) :
    descriptor.Tells payload { descriptor.parsed with
      data := descriptor.bytes.length
      dataLength := UInt32.ofNat payload.length } := by
  have id := descriptor.reportedID_eq_iff.mpr small
  unfold parsed structured layered identified
  rw [flags_bytes]
  cases layers : descriptor.layerIndices <;> cases flexible : descriptor.flexibleMode <;>
    cases scalability : descriptor.scalabilityStructure <;> constructor <;>
    simp [layers, flexible, scalability, id]

/-- **A descriptor comes back** if its picture id is small and it is matched. -/
theorem decodes (small : descriptor.SmallID) (matched : descriptor.Matched) : descriptor.Decodes := by
  intro payload
  have rest : ((descriptor.bytes ++ payload).length : ℤ) - descriptor.bytes.length = (payload.length : ℕ) := by
    rw [List.length_append]
    omega
  refine ⟨_, descriptor.parseVP9_matched matched payload _, ?_⟩
  rw [rest, ofInt_natCast]
  exact descriptor.tells_parsed small payload

/-- The picture id that comes back is the one that is reported. -/
theorem Decodes.smallID (decodes : descriptor.Decodes) : descriptor.SmallID := by
  obtain ⟨vp9, parsed, tells⟩ := decodes []
  have goes := @goes_rest (descriptor.bytes.headD 0) (reportedID descriptor.pictureID) descriptor.identified
    ⟨descriptor.layerBytes ++ (descriptor.differenceBytes ++
      (descriptor.scalabilityStructure.elim [] ScalabilityStructure.bytes ++ [])), descriptor.idLength⟩ ⟨rfl, rfl, rfl, rfl⟩
  rw [parseVP9_bytes] at parsed
  rw [← descriptor.reportedID_eq_iff, ← tells.pictureID]
  rcases goes with ⟨value, same, kept⟩ | ⟨none, _⟩
  · rw [same] at parsed
    rw [← Option.some.inj parsed]
    exact kept.symm
  · rw [none] at parsed
    exact absurd parsed (by simp)

theorem pictureIDLength_bytes (rest : List UInt8) :
    pictureIDLength (descriptor.bytes.headD 0) (descriptor.pictureID.elim [] PictureID.bytes ++ rest) =
      (descriptor.pictureID.elim [] PictureID.bytes).length := by
  have present : bit (descriptor.bytes.headD 0) 0x80 = descriptor.pictureID.isSome :=
    congrArg RTPPayloadVP9.hasPictureID descriptor.flags_bytes
  unfold pictureIDLength
  rw [present]
  match descriptor.pictureID with
  | none => rfl
  | some (.short number) =>
      show (if bit (UInt8.ofNat number) 0x80 = true then 2 else 1) = 1
      rw [(bits_short number).1]
      rfl
  | some (.long number) => exact if_pos (bits_long ⟨number / 256, by omega⟩).1

/-- How far the parser goes over a descriptor without a scalability structure. -/
theorem walkedLength_bytes (plain : descriptor.scalabilityStructure = none) :
    walkedLength descriptor.bytes = descriptor.idLength +
      layerIndicesLength (descriptor.bytes.headD 0) (descriptor.layerBytes ++ descriptor.differenceBytes) := by
  have unstructured : bit (descriptor.bytes.headD 0) 0x02 = false := by
    rw [show bit (descriptor.bytes.headD 0) 0x02 = descriptor.scalabilityStructure.isSome from
      congrArg RTPPayloadVP9.hasScalabilityStructure descriptor.flags_bytes, plain]
    rfl
  have id := descriptor.pictureIDLength_bytes (descriptor.layerBytes ++ descriptor.differenceBytes)
  have split : descriptor.bytes = descriptor.bytes.headD 0 :: (descriptor.pictureID.elim [] PictureID.bytes ++
      (descriptor.layerBytes ++ descriptor.differenceBytes)) := by
    simp only [bytes, plain, Option.elim_none, List.append_nil, List.headD_cons]
  have length : walkedLength (descriptor.bytes.headD 0 :: (descriptor.pictureID.elim [] PictureID.bytes ++
      (descriptor.layerBytes ++ descriptor.differenceBytes))) =
        1 + pictureIDLength (descriptor.bytes.headD 0) (descriptor.pictureID.elim [] PictureID.bytes ++
            (descriptor.layerBytes ++ descriptor.differenceBytes)) +
          layerIndicesLength (descriptor.bytes.headD 0) ((descriptor.bytes.headD 0 ::
            (descriptor.pictureID.elim [] PictureID.bytes ++ (descriptor.layerBytes ++ descriptor.differenceBytes))).drop
              (1 + pictureIDLength (descriptor.bytes.headD 0) (descriptor.pictureID.elim [] PictureID.bytes ++
                (descriptor.layerBytes ++ descriptor.differenceBytes)))) + 0 :=
    congrArg _ (if_neg (by rw [List.headD_cons, unstructured]; decide))
  rw [split, length, id, Nat.add_comm 1, List.drop_succ_cons, List.drop_left, Nat.add_zero, ← split, Nat.add_comm _ 1]
  rfl

theorem length_referenceBytes (references : List (Fin (2 ^ 7))) :
    (referenceBytes references).length = references.length := by
  induction references with
  | nil => rfl
  | cons reference more ih => rw [referenceBytes, List.length_cons, List.length_cons, ih]

/-- Without a scalability structure, only what is matched comes back. -/
theorem Decodes.matched (decodes : descriptor.Decodes) (plain : descriptor.scalabilityStructure = none) :
    descriptor.Matched := by
  obtain ⟨vp9, parsed, tells⟩ := decodes []
  rw [List.append_nil] at parsed
  have walked : walkedLength descriptor.bytes = descriptor.bytes.length := by
    rcases parseVP9_goes descriptor.bytes descriptor.bytes.length with ⟨other, same, data, _⟩ | ⟨none, _⟩
    · rw [same] at parsed
      rw [← data, Option.some.inj parsed, tells.data]
    · rw [none] at parsed
      exact absurd parsed (by simp)
  have length : descriptor.bytes.length =
      descriptor.idLength + (descriptor.layerBytes ++ descriptor.differenceBytes).length := by
    simp only [idLength, bytes, plain, Option.elim_none, List.length_cons, List.length_append, List.length_nil]
    omega
  have same := (descriptor.walkedLength_bytes plain).symm.trans (walked.trans length)
  have flexes : bit (descriptor.bytes.headD 0) 0x10 = descriptor.flexibleMode :=
    congrArg RTPPayloadVP9.flexibleMode descriptor.flags_bytes
  have present : bit (descriptor.bytes.headD 0) 0x20 = descriptor.layerIndices.isSome :=
    congrArg RTPPayloadVP9.hasLayerIndices descriptor.flags_bytes
  intro flexible
  have referenced := length_referenceBytes descriptor.references
  have positive := descriptor.some_references
  rw [layerIndicesLength, flexes, present, flexible] at same
  cases layers : descriptor.layerIndices with
  | none =>
      cases predicted : descriptor.interPicturePrediction with
      | false => rfl
      | true =>
          have empty : descriptor.layerBytes ++ descriptor.differenceBytes = referenceBytes descriptor.references := by
            unfold layerBytes differenceBytes
            rw [layers, predicted, flexible]
            rfl
          rw [layers, empty, referenced] at same
          simp only [Option.isSome_none, Bool.false_eq_true, if_false] at same
          omega
  | some indices =>
      cases predicted : descriptor.interPicturePrediction with
      | true => rfl
      | false =>
          have single : descriptor.layerBytes ++ descriptor.differenceBytes = [indices.byte] := by
            unfold layerBytes differenceBytes
            rw [layers, predicted, flexible]
            rfl
          rw [layers, single] at same
          exact absurd (show 2 = 1 from Nat.add_left_cancel same) (by decide)

end Descriptor

/-- **Where the parser gives back what was sent**: a descriptor comes back if it has no picture id of 15 bits other than
0 and is matched, and otherwise not (of those with a scalability structure, an unmatched one may by the accident of its
bytes); and it stays inside of a payload exactly when the fields it looks for end there. -/
theorem decodes_iff (descriptor : Descriptor) (bytes : List UInt8) :
    (descriptor.SmallID ∧ descriptor.Matched → descriptor.Decodes) ∧
      (descriptor.Decodes → descriptor.SmallID ∧ (descriptor.scalabilityStructure = none → descriptor.Matched)) ∧
      (Safe bytes ↔ walkedLength bytes ≤ bytes.length) :=
  ⟨fun sound => descriptor.decodes sound.1 sound.2,
    fun decodes => ⟨Descriptor.Decodes.smallID descriptor decodes, Descriptor.Decodes.matched descriptor decodes⟩,
    safe_iff_walkedLength bytes⟩

/-- A descriptor with the picture id 1 in 15 bits. -/
def longID : Descriptor where
  interPicturePrediction := false
  flexibleMode := false
  beginningOfLayerFrame := true
  endingOfLayerFrame := true
  pictureID := some (.long 1)
  layerIndices := none
  tl0PicIdx := 0
  references := [0]
  scalabilityStructure := none
  some_references := by decide
  few_references := by decide

/-- It comes back as 256. And behind a first byte that announces a picture id, the parser reads on. -/
theorem not_decodes_longID : ¬longID.Decodes ∧ ¬Safe [0x80] := by
  constructor
  · intro decodes
    obtain ⟨vp9, parsed, tells⟩ := decodes []
    have id : (parseVP9 (longID.bytes ++ []) (longID.bytes ++ []).length).map RTPPayloadVP9.pictureID = some 256 := by
      decide
    rw [parsed, Option.map_some, tells.pictureID] at id
    exact absurd id (by decide)
  · rintro ⟨vp9, parsed, _⟩
    have none : parseVP9 [0x80] [(0x80 : UInt8)].length = none := by decide
    rw [none] at parsed
    exact absurd parsed (by simp)

end RtpVP9Parser

end Erizo
